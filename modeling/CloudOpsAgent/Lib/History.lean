/-
  Histories of a program: what it has asked so far, with the answers it got.

  `Path p l q` says that `p`, given the answers in `l`, has asked exactly the requests in `l` and
  is `q` now.  Nothing is assumed of the answers, so a statement about every path of a program is
  one about every environment.
-/
import CloudOpsAgent.Lib.Prog

namespace ClientProg

variable {Req : Type} {Ans : Req → Type} {ε α β : Type}

/-- A request with its answer. -/
abbrev Exchange (Req : Type) (Ans : Req → Type) := (r : Req) × Ans r

inductive Path : Prog Req Ans ε α → List (Exchange Req Ans) → Prog Req Ans ε α → Prop
  | nil (p : Prog Req Ans ε α) : Path p [] p
  | call {r : Req} {k : Ans r → Prog Req Ans ε α} {x : Ans r} {l : List (Exchange Req Ans)}
    {q : Prog Req Ans ε α} (h : Path (k x) l q) : Path (.call r k) (⟨r, x⟩ :: l) q

namespace Path

variable {p q : Prog Req Ans ε α} {l : List (Exchange Req Ans)}

theorem nil_iff : Path p [] q ↔ q = p := by
  constructor
  · intro h
    cases h
    rfl
  · rintro rfl
    exact .nil _

theorem ret_iff {a : α} : Path (.ret a : Prog Req Ans ε α) l q ↔ l = [] ∧ q = .ret a := by
  constructor
  · intro h
    cases h
    exact ⟨rfl, rfl⟩
  · rintro ⟨rfl, rfl⟩
    exact .nil _

theorem raise_iff {e : ε} : Path (.raise e : Prog Req Ans ε α) l q ↔ l = [] ∧ q = .raise e := by
  constructor
  · intro h
    cases h
    exact ⟨rfl, rfl⟩
  · rintro ⟨rfl, rfl⟩
    exact .nil _

theorem call_iff {r : Req} {k : Ans r → Prog Req Ans ε α} : Path (.call r k) l q ↔
    (l = [] ∧ q = .call r k) ∨ ∃ x l', l = ⟨r, x⟩ :: l' ∧ Path (k x) l' q := by
  constructor
  · intro h
    cases h with
    | nil => exact .inl ⟨rfl, rfl⟩
    | call h => exact .inr ⟨_, _, rfl, h⟩
  · rintro (⟨rfl, rfl⟩ | ⟨x, l', rfl, h⟩)
    · exact .nil _
    · exact .call h

theorem ofExcept_iff {o : Except ε α} :
    Path (.ofExcept o : Prog Req Ans ε α) l q ↔ l = [] ∧ q = .ofExcept o := by
  cases o with
  | error e => exact raise_iff
  | ok a => exact ret_iff

/-- A check of an answer: the program ends there, or goes on. -/
theorem ofExcept_bind_iff {o : Except ε β} {f : β → Prog Req Ans ε α} :
    Path (.ofExcept o >>= f) l q ↔
      (∃ e, o = .error e ∧ l = [] ∧ q = .raise e) ∨ ∃ b, o = .ok b ∧ Path (f b) l q := by
  cases o with
  | error e =>
    constructor
    · intro h
      exact .inl ⟨e, rfl, raise_iff.1 h⟩
    · rintro (⟨e', he, h⟩ | ⟨b, hb, -⟩)
      · obtain rfl : e = e' := Except.error.inj he
        exact raise_iff.2 h
      · simp at hb
  | ok b =>
    constructor
    · intro h
      exact .inr ⟨b, rfl, h⟩
    · rintro (⟨e', he, -⟩ | ⟨b', hb, h⟩)
      · simp at he
      · obtain rfl : b = b' := Except.ok.inj hb
        exact h

/-- A path through an exchange: the program was about to make that request. -/
theorem split {l₁ l₂ : List (Exchange Req Ans)} {e : Exchange Req Ans}
    (h : Path p (l₁ ++ e :: l₂) q) : ∃ k, Path p l₁ (.call e.1 k) ∧ Path (k e.2) l₂ q := by
  induction l₁ generalizing p with
  | nil =>
    cases h with
    | call h => exact ⟨_, .nil _, h⟩
  | cons e' l₁ ih =>
    cases h with
    | call h =>
      obtain ⟨k, h₁, h₂⟩ := ih h
      exact ⟨k, .call h₁, h₂⟩

/-- What a program returns is among what it can return. -/
theorem returns {R : α → Prop} {a : α} (hp : p.Returns R) (h : Path p l (.ret a)) : R a := by
  generalize hq : (Prog.ret a : Prog Req Ans ε α) = q at h
  induction h with
  | nil p =>
    subst hq
    exact hp
  | call _ ih => exact ih (hp _) hq

end Path

end ClientProg
