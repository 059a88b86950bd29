/-
  Client programs over one shared state, and a rely/guarantee logic for their interleavings.

  A client is an INTERACTION TREE (`Prog`): it returns, raises, or makes one request and goes on
  with the answer.  Nothing is said about what a request does — that is the business of an `answers`
  relation between the state before, the request, its answer and the state after, one per client.
  Requests are the atoms of interleaving; a crash is a client that is never scheduled again.

  1. **Programs** — the free monad with exceptions, `attempt` (a `try` whose handler is the rest
     of the program), a deterministic interpreter `run`, `Issues P` ("every request this program
     can make satisfies `P`") and `Returns R` ("every value it can return satisfies `R`").

  2. **Interleavings** — `Config` is the state plus one program per client, `Step` lets any one
     client make its next request.

  3. **The logic** — a `Discipline` bundles a state invariant, what each client may RELY on the
     others for, which requests are `allowed` when, and the one proof obligation: an allowed
     request keeps the invariant and honours everyone else's rely.  `Safe` is the resulting
     weakest precondition of one client against arbitrary interference, and `reachable_safe`
     the rule that puts the clients together.  `Safe.bind`, `Safe.attempt`, `Safe.frame` and
     `Safe.of_issues` are the rules a client's proof is assembled from.
-/
import Mathlib.Logic.Relation
import Mathlib.Logic.Function.Basic

namespace ClientProg

/-- A client program: return, raise, or make one request and continue with its answer. -/
inductive Prog (Req : Type) (Ans : Req → Type) (ε α : Type) : Type where
  | ret (a : α)
  | raise (e : ε)
  | call (r : Req) (k : Ans r → Prog Req Ans ε α)

variable {Req : Type} {Ans : Req → Type} {ε α β γ : Type}

namespace Prog

/-! ## The monad of programs -/

protected def bind : Prog Req Ans ε α → (α → Prog Req Ans ε β) → Prog Req Ans ε β
  | ret a, f => f a
  | raise e, _ => raise e
  | call r k, f => call r fun x => (k x).bind f

instance : Monad (Prog Req Ans ε) where
  pure := ret
  bind := Prog.bind

@[simp] theorem pure_eq (a : α) : (pure a : Prog Req Ans ε α) = ret a := rfl

@[simp] theorem ret_bind (a : α) (f : α → Prog Req Ans ε β) : ret a >>= f = f a := rfl

@[simp] theorem raise_bind (e : ε) (f : α → Prog Req Ans ε β) :
    (raise e : Prog Req Ans ε α) >>= f = raise e := rfl

@[simp] theorem call_bind (r : Req) (k : Ans r → Prog Req Ans ε α) (f : α → Prog Req Ans ε β) :
    call r k >>= f = call r fun x => k x >>= f := rfl

theorem bind_assoc (p : Prog Req Ans ε α) (f : α → Prog Req Ans ε β) (g : β → Prog Req Ans ε γ) :
    (p >>= f) >>= g = p >>= fun a => f a >>= g := by
  induction p with
  | ret a => rfl
  | raise e => rfl
  | call r k ih =>
    simp only [call_bind]
    congr 1; funext x; exact ih x

@[simp] theorem bind_ret (p : Prog Req Ans ε α) : p >>= ret = p := by
  induction p with
  | ret a => rfl
  | raise e => rfl
  | call r k ih =>
    rw [call_bind]
    congr 1; funext x; exact ih x

/-- Make one request and return its answer. -/
def request (r : Req) : Prog Req Ans ε (Ans r) := call r ret

/-- Turn a result back into the program that produces it. -/
def ofExcept : Except ε α → Prog Req Ans ε α
  | .ok a => ret a
  | .error e => raise e

/-- Run `p` to its end and hand its outcome, returned or raised, to the continuation. -/
def attempt : Prog Req Ans ε α → Prog Req Ans ε (Except ε α)
  | ret a => ret (.ok a)
  | raise e => ret (.error e)
  | call r k => call r fun x => (k x).attempt

@[simp] theorem ofExcept_ok (a : α) : (ofExcept (.ok a) : Prog Req Ans ε α) = ret a := rfl
@[simp] theorem ofExcept_error (e : ε) : (ofExcept (.error e) : Prog Req Ans ε α) = raise e := rfl

/-! ## Deterministic execution -/

variable {σ : Type}

/-- Run a program alone, answering each request by `h`. -/
def run (h : σ → (r : Req) → Ans r × σ) : Prog Req Ans ε α → σ → Except ε α × σ
  | ret a, w => (.ok a, w)
  | raise e, w => (.error e, w)
  | call r k, w => (k (h w r).1).run h (h w r).2

variable (h : σ → (r : Req) → Ans r × σ)

@[simp] theorem run_ret (a : α) (w : σ) : (ret a : Prog Req Ans ε α).run h w = (.ok a, w) := rfl
@[simp] theorem run_raise (e : ε) (w : σ) :
    (raise e : Prog Req Ans ε α).run h w = (.error e, w) := rfl
@[simp] theorem run_call (r : Req) (k : Ans r → Prog Req Ans ε α) (w : σ) :
    (call r k).run h w = (k (h w r).1).run h (h w r).2 := rfl
@[simp] theorem run_request (r : Req) (w : σ) :
    (request r : Prog Req Ans ε (Ans r)).run h w = (.ok (h w r).1, (h w r).2) := rfl
@[simp] theorem run_ofExcept (x : Except ε α) (w : σ) :
    (ofExcept x : Prog Req Ans ε α).run h w = (x, w) := by cases x <;> rfl

theorem run_bind (p : Prog Req Ans ε α) (f : α → Prog Req Ans ε β) (w : σ) :
    (p >>= f).run h w = (ofExcept (p.run h w).1 >>= f).run h (p.run h w).2 := by
  induction p generalizing w with
  | ret a => rfl
  | raise e => rfl
  | call r k ih => exact ih _ _

theorem run_bind_ok {p : Prog Req Ans ε α} {f : α → Prog Req Ans ε β} {w w' : σ} {a : α}
    (hp : p.run h w = (.ok a, w')) : (p >>= f).run h w = (f a).run h w' := by
  rw [run_bind, hp]; rfl

theorem run_bind_error {p : Prog Req Ans ε α} {f : α → Prog Req Ans ε β} {w w' : σ} {e : ε}
    (hp : p.run h w = (.error e, w')) : (p >>= f).run h w = (.error e, w') := by
  rw [run_bind, hp]; rfl

@[simp] theorem run_attempt (p : Prog Req Ans ε α) (w : σ) :
    p.attempt.run h w = (.ok (p.run h w).1, (p.run h w).2) := by
  induction p generalizing w with
  | ret a => rfl
  | raise e => rfl
  | call r k ih => exact ih _ _

/-! ## Where a deterministic run ends -/

/-- The run of the program from `w` ends in `Q`. -/
def Ends (p : Prog Req Ans ε α) (Q : Except ε α → σ → Prop) (w : σ) : Prop :=
  Q (p.run h w).1 (p.run h w).2

section Ends

variable {h} {w : σ}

theorem Ends.mono {p : Prog Req Ans ε α} {Q Q' : Except ε α → σ → Prop}
    (hQ : ∀ o w', Q o w' → Q' o w') (hp : Ends h p Q w) : Ends h p Q' w := hQ _ _ hp

theorem Ends.and {p : Prog Req Ans ε α} {Q Q' : Except ε α → σ → Prop} (hp : Ends h p Q w)
    (hp' : Ends h p Q' w) : Ends h p (fun o w' => Q o w' ∧ Q' o w') w := ⟨hp, hp'⟩

theorem ends_iff {p : Prog Req Ans ε α} {Q R : Except ε α → σ → Prop} {P : Prop}
    (hp : Ends h p R w) (hQ : ∀ o w', R o w' → (Q o w' ↔ P)) : Ends h p Q w ↔ P := hQ _ _ hp

theorem ends_ofExcept {x : Except ε α} {Q : Except ε α → σ → Prop} (hQ : Q x w) :
    Ends h (ofExcept x) Q w := by
  cases x <;> exact hQ

theorem Ends.bind {p : Prog Req Ans ε α} {f : α → Prog Req Ans ε β} {R : Except ε α → σ → Prop}
    {Q : Except ε β → σ → Prop} (hp : Ends h p R w)
    (hok : ∀ a w', R (.ok a) w' → Ends h (f a) Q w')
    (herr : ∀ e w', R (.error e) w' → Q (.error e) w') : Ends h (p >>= f) Q w := by
  unfold Ends at *
  rcases hr : p.run h w with ⟨e | a, w'⟩
  · rw [hr] at hp
    rw [run_bind_error h hr]
    exact herr e w' hp
  · rw [hr] at hp
    rw [run_bind_ok h hr]
    exact hok a w' hp

theorem Ends.attempt {p : Prog Req Ans ε α} {Q : Except ε (Except ε α) → σ → Prop}
    (hp : Ends h p (fun o w' => Q (.ok o) w') w) : Ends h p.attempt Q w := by
  unfold Ends
  rw [run_attempt]
  exact hp

/-- The states a run goes through: where a crash may leave the world. -/
inductive Visits (h : σ → (r : Req) → Ans r × σ) : Prog Req Ans ε α → σ → σ → Prop
  | here (p : Prog Req Ans ε α) (w : σ) : Visits h p w w
  | call {r : Req} {k : Ans r → Prog Req Ans ε α} {w w' : σ}
      (hk : Visits h (k (h w r).1) (h w r).2 w') : Visits h (.call r k) w w'

theorem Visits.bind_left {p : Prog Req Ans ε α} {f : α → Prog Req Ans ε β} {w w' : σ}
    (hp : Visits h p w w') : Visits h (p >>= f) w w' := by
  induction hp with
  | here p w => exact .here _ _
  | call _ ih => exact .call ih

theorem Visits.bind {p : Prog Req Ans ε α} {f : α → Prog Req Ans ε β} {w w' : σ}
    (hp : Ends h p (fun o w₁ => ∃ a, o = .ok a ∧ Visits h (f a) w₁ w') w) :
    Visits h (p >>= f) w w' := by
  induction p generalizing w with
  | ret a =>
    obtain ⟨b, hb, hv⟩ := hp
    cases hb
    exact hv
  | raise e =>
    obtain ⟨b, hb, -⟩ := hp
    cases hb
  | call r k ih => exact .call (ih _ hp)

theorem Visits.attempt {p : Prog Req Ans ε α} {w w' : σ} (hp : Visits h p w w') :
    Visits h p.attempt w w' := by
  induction hp with
  | here p w => exact .here _ _
  | call _ ih => exact .call ih

/-- The run goes through a state where `P` holds. -/
def Passes (h : σ → (r : Req) → Ans r × σ) (p : Prog Req Ans ε α) (P : σ → Prop) (w : σ) : Prop := ∃ w', Visits h p w w' ∧ P w'

theorem Passes.bind {p : Prog Req Ans ε α} {f : α → Prog Req Ans ε β} {P : σ → Prop} {w : σ}
    (hp : Ends h p (fun o w₁ => ∃ a, o = .ok a ∧ Passes h (f a) P w₁) w) :
    Passes h (p >>= f) P w := by
  obtain ⟨a, ha, w', hv, hP⟩ := hp
  refine ⟨w', .bind ?_, hP⟩
  exact ⟨a, ha, hv⟩

theorem Passes.here {p : Prog Req Ans ε α} {P : σ → Prop} {w : σ} (hP : P w) : Passes h p P w :=
  ⟨w, .here p w, hP⟩

theorem Passes.call {r : Req} {k : Ans r → Prog Req Ans ε α} {P : σ → Prop} {w : σ}
    (hk : Passes h (k (h w r).1) P (h w r).2) : Passes h (.call r k) P w := by
  obtain ⟨w', hv, hP⟩ := hk
  exact ⟨w', .call hv, hP⟩

theorem Passes.bind_left {p : Prog Req Ans ε α} {f : α → Prog Req Ans ε β} {P : σ → Prop} {w : σ}
    (hp : Passes h p P w) : Passes h (p >>= f) P w := by
  obtain ⟨w', hv, hP⟩ := hp
  exact ⟨w', hv.bind_left, hP⟩

theorem Passes.attempt {p : Prog Req Ans ε α} {P : σ → Prop} {w : σ} (hp : Passes h p P w) :
    Passes h p.attempt P w := by
  obtain ⟨w', hv, hP⟩ := hp
  exact ⟨w', hv.attempt, hP⟩

end Ends

/-! ## Observation -/

/-- Run a program against answers that no request changes; `none` if it asks for something that is
    not answered. -/
def observe (h : (r : Req) → Option (Ans r)) : Prog Req Ans ε α → Option (Except ε α)
  | ret a => some (.ok a)
  | raise e => some (.error e)
  | call r k => (h r).bind fun x => (k x).observe h

section Observe

variable {h : (r : Req) → Option (Ans r)}

@[simp] theorem observe_ret (a : α) : (ret a : Prog Req Ans ε α).observe h = some (.ok a) := rfl
@[simp] theorem observe_raise (e : ε) :
    (raise e : Prog Req Ans ε α).observe h = some (.error e) := rfl
@[simp] theorem observe_ofExcept (x : Except ε α) :
    (ofExcept x : Prog Req Ans ε α).observe h = some x := by
  cases x <;> rfl

theorem observe_call {r : Req} {k : Ans r → Prog Req Ans ε α} {x : Ans r} (hx : h r = some x) :
    (call r k).observe h = (k x).observe h := by
  rw [observe, hx]
  rfl

theorem observe_bind (p : Prog Req Ans ε α) (f : α → Prog Req Ans ε β) :
    (p >>= f).observe h = (p.observe h).bind fun
      | .ok a => (f a).observe h
      | .error e => some (.error e) := by
  induction p with
  | ret a => rfl
  | raise e => rfl
  | call r k ih =>
    rw [call_bind, observe, observe, Option.bind_assoc]
    exact congrArg _ (funext fun x => ih x)

theorem observe_attempt (p : Prog Req Ans ε α) :
    p.attempt.observe h = (p.observe h).map .ok := by
  induction p with
  | ret a => rfl
  | raise e => rfl
  | call r k ih =>
    rw [attempt, observe, observe, Option.map_bind]
    exact congrArg _ (funext fun x => ih x)

end Observe

/-! ## What requests a program can make -/

/-- Every request of the program, on every branch, satisfies `P`. -/
def Issues (P : Req → Prop) : Prog Req Ans ε α → Prop
  | ret _ => True
  | raise _ => True
  | call r k => P r ∧ ∀ x, (k x).Issues P

variable {P : Req → Prop}

@[simp] theorem issues_ret (a : α) : (ret a : Prog Req Ans ε α).Issues P := trivial
@[simp] theorem issues_raise (e : ε) : (raise e : Prog Req Ans ε α).Issues P := trivial
@[simp] theorem issues_call {r : Req} {k : Ans r → Prog Req Ans ε α} :
    (call r k).Issues P ↔ P r ∧ ∀ x, (k x).Issues P := Iff.rfl
@[simp] theorem issues_request {r : Req} :
    (request r : Prog Req Ans ε (Ans r)).Issues P ↔ P r :=
  ⟨fun hp => hp.1, fun hp => ⟨hp, fun _ => trivial⟩⟩
@[simp] theorem issues_ofExcept (x : Except ε α) : (ofExcept x : Prog Req Ans ε α).Issues P := by
  cases x <;> trivial

theorem Issues.bind {p : Prog Req Ans ε α} {f : α → Prog Req Ans ε β} (hp : p.Issues P)
    (hf : ∀ a, (f a).Issues P) : (p >>= f).Issues P := by
  induction p with
  | ret a => exact hf a
  | raise e => trivial
  | call r k ih => exact ⟨hp.1, fun x => ih x (hp.2 x)⟩

@[simp] theorem issues_attempt {p : Prog Req Ans ε α} : p.attempt.Issues P ↔ p.Issues P := by
  induction p with
  | ret a => exact Iff.rfl
  | raise e => exact Iff.rfl
  | call r k ih => exact and_congr_right fun _ => forall_congr' ih

theorem Issues.mono {Q : Req → Prop} (hPQ : ∀ r, P r → Q r) {p : Prog Req Ans ε α}
    (hp : p.Issues P) : p.Issues Q := by
  induction p with
  | ret a => trivial
  | raise e => trivial
  | call r k ih => exact ⟨hPQ r hp.1, fun x => ih x (hp.2 x)⟩

theorem issues_true (p : Prog Req Ans ε α) : p.Issues fun _ => True := by
  induction p with
  | ret a => trivial
  | raise e => trivial
  | call r k ih => exact ⟨trivial, ih⟩

/-! ## What a program can return -/

/-- Every value the program can return, on any branch, satisfies `R`. -/
def Returns (R : α → Prop) : Prog Req Ans ε α → Prop
  | ret a => R a
  | raise _ => True
  | call _ k => ∀ x, (k x).Returns R

theorem returns_true (p : Prog Req Ans ε α) : p.Returns fun _ => True := by
  induction p with
  | ret a => trivial
  | raise e => trivial
  | call r k ih => exact ih

theorem Returns.bind {R : α → Prop} {S : β → Prop} {p : Prog Req Ans ε α}
    {f : α → Prog Req Ans ε β} (hp : p.Returns R) (hf : ∀ a, R a → (f a).Returns S) :
    (p >>= f).Returns S := by
  induction p with
  | ret a => exact hf a hp
  | raise e => trivial
  | call r k ih => exact fun x => ih x (hp x)

/-- Whatever came before, only the end of a sequence returns. -/
theorem returns_bind {S : β → Prop} (p : Prog Req Ans ε α) {f : α → Prog Req Ans ε β}
    (hf : ∀ a, (f a).Returns S) : (p >>= f).Returns S :=
  (returns_true p).bind fun a _ => hf a

theorem returns_ofExcept {R : α → Prop} {x : Except ε α} (h : ∀ a, x = .ok a → R a) :
    (ofExcept x : Prog Req Ans ε α).Returns R := by
  cases x with
  | ok a => exact h a rfl
  | error e => trivial

theorem Returns.mono {R S : α → Prop} {p : Prog Req Ans ε α} (hp : p.Returns R)
    (h : ∀ a, R a → S a) : p.Returns S := by
  induction p with
  | ret a => exact h a hp
  | raise e => trivial
  | call r k ih => exact fun x => ih x (hp x)

/-- A run returns one of the values the program can return. -/
theorem Returns.ends {R : α → Prop} {p : Prog Req Ans ε α} (hp : p.Returns R) (w : σ) :
    Ends h p (fun o _ => ∀ a, o = .ok a → R a) w := by
  induction p generalizing w with
  | ret a =>
    intro b hb
    cases hb
    exact hp
  | raise e =>
    intro b hb
    cases hb
  | call r k ih => exact ih _ (hp _) _

end Prog

open Prog Relation

/-! ## Interleavings -/

variable {ι σ : Type}

/-- The shared state, and what is left of each client's program. -/
structure Config (ι σ Req : Type) (Ans : Req → Type) (ε α : Type) where
  world : σ
  threads : ι → Prog Req Ans ε α

section Interleaving

variable [DecidableEq ι] (answers : ι → σ → (r : Req) → Ans r → σ → Prop)

/-- One client makes its next request. -/
inductive Step : Config ι σ Req Ans ε α → Config ι σ Req Ans ε α → Prop where
  | call {c : Config ι σ Req Ans ε α} (i : ι) {r : Req} {k : Ans r → Prog Req Ans ε α}
      {x : Ans r} {w : σ} (hi : c.threads i = .call r k) (hx : answers i c.world r x w) :
      Step c ⟨w, Function.update c.threads i (k x)⟩

/-- Any finite interleaving. -/
abbrev Steps : Config ι σ Req Ans ε α → Config ι σ Req Ans ε α → Prop :=
  ReflTransGen (Step answers)

/-- A solo run of client `i`, whose handler may keep more than the shared state (`π` forgets it) and
    answers each request as `answers i` permits, is an interleaving in which nobody else is
    scheduled. -/
theorem steps_run {τ : Type} (π : τ → σ) {h : τ → (r : Req) → Ans r × τ} {i : ι}
    (hh : ∀ w r, answers i (π w) r (h w r).1 (π (h w r).2)) (p : Prog Req Ans ε α) :
    ∀ (w : τ) (threads : ι → Prog Req Ans ε α), threads i = p →
      Steps answers ⟨π w, threads⟩
        ⟨π (p.run h w).2, Function.update threads i (ofExcept (p.run h w).1)⟩ := by
  induction p with
  | ret a =>
    intro w threads hi
    rw [show Function.update threads i (ofExcept ((ret a : Prog Req Ans ε α).run h w).1) = threads
      from Function.update_eq_self_iff.mpr hi.symm]
    exact .refl
  | raise e =>
    intro w threads hi
    rw [show Function.update threads i (ofExcept ((raise e : Prog Req Ans ε α).run h w).1) = threads
      from Function.update_eq_self_iff.mpr hi.symm]
    exact .refl
  | call r k ih =>
    intro w threads hi
    have h1 : Step answers ⟨π w, threads⟩
        ⟨π (h w r).2, Function.update threads i (k (h w r).1)⟩ := .call i hi (hh w r)
    have h2 := ih (h w r).1 (h w r).2 (Function.update threads i (k (h w r).1))
      (Function.update_self ..)
    rw [Function.update_idem] at h2
    exact .head h1 h2

/-- A solo run may be left in any state it goes through. -/
theorem steps_visits {τ : Type} (π : τ → σ) {h : τ → (r : Req) → Ans r × τ} {i : ι}
    (hh : ∀ w r, answers i (π w) r (h w r).1 (π (h w r).2)) {p : Prog Req Ans ε α} {w w' : τ}
    (hv : Visits h p w w') : ∀ threads : ι → Prog Req Ans ε α, threads i = p →
      ∃ q, Steps answers ⟨π w, threads⟩ ⟨π w', Function.update threads i q⟩ := by
  induction hv with
  | here p w =>
    intro threads hi
    refine ⟨p, ?_⟩
    rw [Function.update_eq_self_iff.mpr hi.symm]
  | call _ ih =>
    intro threads hi
    obtain ⟨q, hq⟩ := ih (Function.update threads i _) (Function.update_self ..)
    rw [Function.update_idem] at hq
    exact ⟨q, .head (.call i hi (hh _ _)) hq⟩

/-- What a world that answers less reaches, one that answers more reaches too. -/
theorem steps_mono {answers answers' : ι → σ → (r : Req) → Ans r → σ → Prop}
    (h : ∀ i w r x w', answers' i w r x w' → answers i w r x w')
    {c c' : Config ι σ Req Ans ε α} (hs : Steps answers' c c') : Steps answers c c' := by
  induction hs with
  | refl => exact .refl
  | tail _ hlast ih =>
    cases hlast with
    | call i hi hx => exact ih.tail (.call i hi (h _ _ _ _ _ hx))

/-- A state invariant that every answered request keeps holds of every reachable state. -/
theorem steps_inv {I : σ → Prop} (hstep : ∀ i w r x w', I w → answers i w r x w' → I w')
    {c c' : Config ι σ Req Ans ε α} (hc : I c.world) (hs : Steps answers c c') : I c'.world := by
  induction hs with
  | refl => exact hc
  | tail _ hlast ih =>
    cases hlast with
    | call i hi hx => exact hstep i _ _ _ _ ih hx

end Interleaving

/-! ## The rely/guarantee logic -/

/-- A proof discipline for clients `ι` of a state `σ`: an invariant, an order `evolve` every step
    moves along, what client `i` relies on the others for, and the requests it is allowed to make —
    with the one obligation `step`. -/
structure Discipline (answers : ι → σ → (r : Req) → Ans r → σ → Prop) where
  inv : σ → Prop
  evolve : σ → σ → Prop
  rely : ι → σ → σ → Prop
  allowed : ι → σ → Req → Prop
  evolve_trans : ∀ {w w' w''}, evolve w w' → evolve w' w'' → evolve w w''
  rely_refl : ∀ i w, rely i w w
  rely_trans : ∀ i {w w' w''}, rely i w w' → rely i w' w'' → rely i w w''
  evolve_of_rely : ∀ {i w w'}, rely i w w' → evolve w w'
  /-- An allowed request keeps the invariant, moves along the order, and honours what every other
      client relies on. -/
  step : ∀ {i w r x w'}, inv w → allowed i w r → answers i w r x w' →
    inv w' ∧ evolve w w' ∧ ∀ j, j ≠ i → rely j w w'

variable {answers : ι → σ → (r : Req) → Ans r → σ → Prop} (D : Discipline answers)

/-- `Safe D i p Q w`: from `w`, against any interference client `i` may rely on, `p` only makes
    allowed requests and its outcome satisfies `Q` at its end and ever after. -/
def Safe (i : ι) : Prog Req Ans ε α → (Except ε α → σ → Prop) → σ → Prop
  | .ret a, Q, w => ∀ w', D.rely i w w' → D.inv w' → Q (.ok a) w'
  | .raise e, Q, w => ∀ w', D.rely i w w' → D.inv w' → Q (.error e) w'
  | .call r k, Q, w => ∀ w', D.rely i w w' → D.inv w' →
      D.allowed i w' r ∧ ∀ x w'', answers i w' r x w'' → D.inv w'' → Safe i (k x) Q w''

variable {D} {i : ι}

/-- Interference does not harm a safe client. -/
theorem Safe.rely {p : Prog Req Ans ε α} {Q : Except ε α → σ → Prop} {w w' : σ}
    (hp : Safe D i p Q w) (hw : D.rely i w w') : Safe D i p Q w' := by
  cases p with
  | ret a => exact fun v hv hI => hp v (D.rely_trans i hw hv) hI
  | raise e => exact fun v hv hI => hp v (D.rely_trans i hw hv) hI
  | call r k => exact fun v hv hI => hp v (D.rely_trans i hw hv) hI

/-- Safety need only be shown in the states interference can leave, where the invariant holds. -/
theorem Safe.of_forall {p : Prog Req Ans ε α} {Q : Except ε α → σ → Prop} {w : σ}
    (hp : ∀ w', D.rely i w w' → D.inv w' → Safe D i p Q w') : Safe D i p Q w := by
  cases p with
  | ret a => exact fun v hv hI => hp v hv hI v (D.rely_refl i v) hI
  | raise e => exact fun v hv hI => hp v hv hI v (D.rely_refl i v) hI
  | call r k => exact fun v hv hI => hp v hv hI v (D.rely_refl i v) hI

theorem Safe.mono {p : Prog Req Ans ε α} {Q Q' : Except ε α → σ → Prop} {w : σ}
    (hQ : ∀ o w', D.inv w' → Q o w' → Q' o w') (hp : Safe D i p Q w) : Safe D i p Q' w := by
  induction p generalizing w with
  | ret a => exact fun v hv hI => hQ _ v hI (hp v hv hI)
  | raise e => exact fun v hv hI => hQ _ v hI (hp v hv hI)
  | call r k ih =>
    intro v hv hI
    exact ⟨(hp v hv hI).1, fun x v' hx hI' => ih x ((hp v hv hI).2 x v' hx hI')⟩

theorem Safe.attempt {p : Prog Req Ans ε α} {Q : Except ε (Except ε α) → σ → Prop} {w : σ}
    (hp : Safe D i p (fun o w' => Q (.ok o) w') w) : Safe D i p.attempt Q w := by
  induction p generalizing w with
  | ret a => exact hp
  | raise e => exact hp
  | call r k ih =>
    intro v hv hI
    exact ⟨(hp v hv hI).1, fun x v' hx hI' => ih x ((hp v hv hI).2 x v' hx hI')⟩

/-- What holds at the end may be stated relative to the beginning: the state has evolved. -/
theorem Safe.evolved {p : Prog Req Ans ε α} {Q : Except ε α → σ → Prop} {w : σ}
    (hp : Safe D i p Q w) : Safe D i p (fun o w' => D.evolve w w' ∧ Q o w') w := by
  suffices h : ∀ v w, (∀ w', D.rely i w w' → D.evolve v w') → Safe D i p Q w →
      Safe D i p (fun o w' => D.evolve v w' ∧ Q o w') w from
    h w w (fun w' hw => D.evolve_of_rely hw) hp
  clear hp w
  intro v w hv hp
  induction p generalizing w with
  | ret a => exact fun w' hw hI => ⟨hv w' hw, hp w' hw hI⟩
  | raise e => exact fun w' hw hI => ⟨hv w' hw, hp w' hw hI⟩
  | call r k ih =>
    intro w' hw hI
    obtain ⟨hallowed, hnext⟩ := hp w' hw hI
    refine ⟨hallowed, fun x w'' hx hI' => ih x w'' (fun u hu => ?_) (hnext x w'' hx hI')⟩
    exact D.evolve_trans (hv w' hw)
      (D.evolve_trans (D.step hI hallowed hx).2.1 (D.evolve_of_rely hu))

/-- **Framing**: what interference and the client's own requests of one kind leave alone is still
    there after a program that only makes requests of that kind. -/
theorem Safe.frame {P : Req → Prop} {F : σ → Prop} (hrely : ∀ w w', D.rely i w w' → F w → F w')
    (hown : ∀ w r x w', P r → answers i w r x w' → F w → F w') {p : Prog Req Ans ε α}
    (hP : p.Issues P) {Q : Except ε α → σ → Prop} {w : σ} (hF : F w) (hp : Safe D i p Q w) :
    Safe D i p (fun o w' => F w' ∧ Q o w') w := by
  induction p generalizing w with
  | ret a => exact fun w' hw hI => ⟨hrely w w' hw hF, hp w' hw hI⟩
  | raise e => exact fun w' hw hI => ⟨hrely w w' hw hF, hp w' hw hI⟩
  | call r k ih =>
    intro w' hw hI
    obtain ⟨hallowed, hnext⟩ := hp w' hw hI
    exact ⟨hallowed, fun x w'' hx hI' =>
      ih x (hP.2 x) (hown w' r x w'' hP.1 hx (hrely w w' hw hF)) (hnext x w'' hx hI')⟩

/-- **Sequencing**: what follows must be safe wherever `p` can return, and what `p` can raise must
    be acceptable; both may assume that the state has evolved since the beginning. -/
theorem Safe.bind {p : Prog Req Ans ε α} {f : α → Prog Req Ans ε β} {R : Except ε α → σ → Prop}
    {Q : Except ε β → σ → Prop} {w : σ} (hp : Safe D i p R w)
    (hok : ∀ a w', D.evolve w w' → D.inv w' → R (.ok a) w' → Safe D i (f a) Q w')
    (herr : ∀ e w', D.evolve w w' → D.inv w' → R (.error e) w' → Q (.error e) w') :
    Safe D i (p >>= f) Q w := by
  suffices h : ∀ {R' : Except ε α → σ → Prop} {v}, Safe D i p R' v →
      (∀ a w', D.inv w' → R' (.ok a) w' → Safe D i (f a) Q w') →
      (∀ e w', D.inv w' → R' (.error e) w' → Q (.error e) w') → Safe D i (p >>= f) Q v from
    h hp.evolved (fun a w' hI hR => hok a w' hR.1 hI hR.2)
      fun e w' hI hR => herr e w' hR.1 hI hR.2
  clear hp hok herr R w
  intro R' v hp hok herr
  induction p generalizing v with
  | ret a => exact Safe.of_forall fun w' hw hI => hok a w' hI (hp w' hw hI)
  | raise e => exact fun w' hw hI => herr e w' hI (hp w' hw hI)
  | call r k ih =>
    intro w' hw hI
    obtain ⟨hallowed, hnext⟩ := hp w' hw hI
    exact ⟨hallowed, fun x w'' hx hI' => ih x (hnext x w'' hx hI')⟩

/-- A program whose result is passed through a function. -/
theorem Safe.map {p : Prog Req Ans ε α} {f : α → β} {Q : Except ε β → σ → Prop} {w : σ}
    (hp : Safe D i p (fun o w' => Q (o.map f) w') w) : Safe D i (p >>= fun a => .ret (f a)) Q w := by
  induction p generalizing w with
  | ret a => exact hp
  | raise e => exact hp
  | call r k ih =>
    intro v hv hI
    exact ⟨(hp v hv hI).1, fun x v' hx hI' => ih x ((hp v hv hI).2 x v' hx hI')⟩

/-- One request, answered in a later state. -/
theorem Safe.call {r : Req} {k : Ans r → Prog Req Ans ε α} {Q : Except ε α → σ → Prop} {w : σ}
    (hallowed : ∀ w', D.evolve w w' → D.inv w' → D.rely i w w' → D.allowed i w' r)
    (hnext : ∀ x w' w'', D.evolve w w' → D.inv w' → D.evolve w' w'' → D.inv w'' →
      answers i w' r x w'' → Safe D i (k x) Q w'') : Safe D i (.call r k) Q w := by
  intro w' hw hI
  have ha := hallowed w' (D.evolve_of_rely hw) hI hw
  exact ⟨ha, fun x w'' hx hI' =>
    hnext x w' w'' (D.evolve_of_rely hw) hI (D.step hI ha hx).2.1 hI' hx⟩

/-- One request, made and answered where a fact holds that interference does not harm. -/
theorem Safe.call_stable {K : σ → Prop}
    (hK : ∀ w w', D.rely i w w' → D.inv w' → K w → K w') {r : Req} {k : Ans r → Prog Req Ans ε α}
    {Q : Except ε α → σ → Prop} {w : σ} (hw : K w)
    (h : ∀ w', D.inv w' → K w' → D.allowed i w' r ∧ ∀ x w'', answers i w' r x w'' → D.inv w'' →
      D.evolve w' w'' → Safe D i (k x) Q w'') : Safe D i (.call r k) Q w := by
  intro w' hrely hI
  obtain ⟨ha, hnext⟩ := h w' hI (hK w w' hrely hI hw)
  exact ⟨ha, fun x w'' hx hI' => hnext x w'' hx hI' (D.step hI ha hx).2.1⟩

/-- What a program can return at all is known of what it returns. -/
theorem Safe.returns {R : α → Prop} {p : Prog Req Ans ε α} (hp : p.Returns R)
    {Q : Except ε α → σ → Prop} {w : σ} (h : Safe D i p Q w) :
    Safe D i p (fun o w' => (∀ a, o = .ok a → R a) ∧ Q o w') w := by
  induction p generalizing w with
  | ret a => exact fun w' hw hI => ⟨fun b hb => by cases hb; exact hp, h w' hw hI⟩
  | raise e => exact fun w' hw hI => ⟨fun b hb => (by cases hb), h w' hw hI⟩
  | call r k ih =>
    intro w' hw hI
    obtain ⟨hallowed, hnext⟩ := h w' hw hI
    exact ⟨hallowed, fun x w'' hx hI' => ih x (hp x) (hnext x w'' hx hI')⟩

/-- A program all of whose requests are always allowed is safe, with nothing known of its
    outcome. -/
theorem Safe.of_issues {P : Req → Prop} (hP : ∀ w r, P r → D.allowed i w r)
    {p : Prog Req Ans ε α} (hp : p.Issues P) (w : σ) : Safe D i p (fun _ _ => True) w := by
  induction p generalizing w with
  | ret a => exact fun _ _ _ => trivial
  | raise e => exact fun _ _ _ => trivial
  | call r k ih => exact fun v _ _ => ⟨hP v r hp.1, fun x v' _ _ => ih x (hp.2 x) v'⟩

section Restrict

variable {answers' : ι → σ → (r : Req) → Ans r → σ → Prop}
  (h : ∀ i w r x w', answers' i w r x w' → answers i w r x w')

/-- The same discipline in a world that answers less. -/
def Discipline.restrict (D : Discipline answers) : Discipline answers' where
  inv := D.inv
  evolve := D.evolve
  rely := D.rely
  allowed := D.allowed
  evolve_trans := D.evolve_trans
  rely_refl := D.rely_refl
  rely_trans := D.rely_trans
  evolve_of_rely := D.evolve_of_rely
  step hI ha hx := D.step hI ha (h _ _ _ _ _ hx)

theorem Safe.restrict {p : Prog Req Ans ε α} {Q : Except ε α → σ → Prop} {w : σ}
    (hp : Safe D i p Q w) : Safe (D.restrict h) i p Q w := by
  induction p generalizing w with
  | ret a => exact hp
  | raise e => exact hp
  | call r k ih =>
    intro w' hw hI
    obtain ⟨ha, hnext⟩ := hp w' hw hI
    exact ⟨ha, fun x w'' hx hI' => ih x (hnext x w'' (h _ _ _ _ _ hx) hI')⟩

end Restrict

variable [DecidableEq ι]

/-- One step of any client keeps the invariant and every client's safety. -/
theorem Step.safe {c c' : Config ι σ Req Ans ε α} {Q : ι → Except ε α → σ → Prop}
    (hI : D.inv c.world) (hS : ∀ j, Safe D j (c.threads j) (Q j) c.world)
    (hs : Step answers c c') :
    D.inv c'.world ∧ ∀ j, Safe D j (c'.threads j) (Q j) c'.world := by
  cases hs with
  | call i hi hx =>
    have hSi := hS i
    rw [hi] at hSi
    obtain ⟨hallowed, hnext⟩ := hSi _ (D.rely_refl i _) hI
    obtain ⟨hI', -, hrely⟩ := D.step hI hallowed hx
    refine ⟨hI', fun j => ?_⟩
    by_cases hj : j = i
    · subst hj
      dsimp only
      rw [Function.update_self]
      exact hnext _ _ hx hI'
    · dsimp only
      rw [Function.update_of_ne hj]
      exact (hS j).rely (hrely j hj)

/-- **The parallel rule**: clients that are safe one by one stay safe, and the invariant holds,
    in every configuration any interleaving reaches. -/
theorem reachable_safe {c c' : Config ι σ Req Ans ε α} {Q : ι → Except ε α → σ → Prop}
    (hI : D.inv c.world) (hS : ∀ j, Safe D j (c.threads j) (Q j) c.world)
    (hs : Steps answers c c') :
    D.inv c'.world ∧ ∀ j, Safe D j (c'.threads j) (Q j) c'.world := by
  induction hs with
  | refl => exact ⟨hI, hS⟩
  | tail _ hlast ih => exact hlast.safe ih.1 ih.2

/-- Safe clients only move the state along the order. -/
theorem reachable_evolves (hrefl : ∀ w, D.evolve w w) {c c' : Config ι σ Req Ans ε α}
    {Q : ι → Except ε α → σ → Prop} (hI : D.inv c.world)
    (hS : ∀ j, Safe D j (c.threads j) (Q j) c.world) (hs : Steps answers c c') :
    D.evolve c.world c'.world := by
  induction hs with
  | refl => exact hrefl _
  | tail hsteps hlast ih =>
    obtain ⟨hI', hS'⟩ := reachable_safe hI hS hsteps
    cases hlast with
    | call i hi hx =>
      have hSi := hS' i
      rw [hi] at hSi
      obtain ⟨hallowed, -⟩ := hSi _ (D.rely_refl i _) hI'
      exact D.evolve_trans ih (D.step hI' hallowed hx).2.1

/-- What a client has returned satisfies its postcondition, at that point and later. -/
theorem reachable_ret {c c' : Config ι σ Req Ans ε α} {Q : ι → Except ε α → σ → Prop}
    (hI : D.inv c.world) (hS : ∀ j, Safe D j (c.threads j) (Q j) c.world)
    (hs : Steps answers c c') {j : ι} {a : α} (hj : c'.threads j = .ret a) :
    Q j (.ok a) c'.world := by
  obtain ⟨hI', hS'⟩ := reachable_safe hI hS hs
  have := hS' j
  rw [hj] at this
  exact this _ (D.rely_refl j _) hI'

end ClientProg
