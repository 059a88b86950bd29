/-
  Private JSON files: what `atomic_write_private_json` writes, and `read_private_json` reads.

  A file is its text.  Which user owns it, its mode and its path are checked by the source, and have
  no part in what is written or read.

  1. **The writer** — sorted keys, two spaces of indentation, a line break at the end; a float that
     is not finite and an integer beyond 4300 digits are refused, and so is a file beyond 8 MiB.

  2. **The round trip** — the reader gives the value that was written (`read_write`).  The induction
     is on the value, with what follows it in the file left open (`Scans`).
-/
import CloudOpsAgent.Persistence.StrictJson

namespace CloudOpsAgent

namespace StrictJson

open Json

/-! ## The writer -/

mutual

/-- Whether `json.dumps` encodes a value under `allow_nan=False`. -/
def encodable : Json → Bool
  | int i => (Nat.toDigits 10 i.natAbs).length ≤ maxStrDigits
  | float repr => isFloatText repr
  | arr items => encodableItems items
  | obj fields => encodableFields fields
  | _ => true

def encodableItems : List Json → Bool
  | [] => true
  | j :: js => encodable j && encodableItems js

def encodableFields : List (String × Json) → Bool
  | [] => true
  | (_, j) :: fs => encodable j && encodableFields fs

end

mutual

/-- `sort_keys`. -/
def sortKeys : Json → Json
  | arr items => arr (sortItems items)
  | obj fields => obj ((sortFields fields).insertionSort fun a b => a.1 ≤ b.1)
  | j => j

def sortItems : List Json → List Json
  | [] => []
  | j :: js => sortKeys j :: sortItems js

def sortFields : List (String × Json) → List (String × Json)
  | [] => []
  | (k, j) :: fs => (k, sortKeys j) :: sortFields fs

end

/-- A line break, and the indentation of level `n`. -/
def newline (n : Nat) : List Char := '\n' :: List.replicate (2 * n) ' '

mutual

/-- `json.dumps(value, indent=2)`, at level `n`. -/
def pretty (n : Nat) : Json → List Char
  | .null => render .null
  | .bool b => render (.bool b)
  | .int i => render (.int i)
  | .float repr => render (.float repr)
  | .str s => render (.str s)
  | .arr [] => ['[', ']']
  | .arr (j :: js) =>
    '[' :: newline (n + 1) ++ pretty (n + 1) j ++ prettyItems (n + 1) js ++ newline n ++ [']']
  | .obj [] => ['\x7b', '\x7d']
  | .obj ((k, j) :: fs) =>
    '\x7b' :: newline (n + 1) ++ quoted k ++ ':' :: ' ' :: pretty (n + 1) j ++
      prettyFields (n + 1) fs ++ newline n ++ ['\x7d']

/-- The items after the first. -/
def prettyItems (n : Nat) : List Json → List Char
  | [] => []
  | j :: js => ',' :: newline n ++ pretty n j ++ prettyItems n js

def prettyFields (n : Nat) : List (String × Json) → List Char
  | [] => []
  | (k, j) :: fs => ',' :: newline n ++ quoted k ++ ':' :: ' ' :: pretty n j ++ prettyFields n fs

end

/-- `LOCAL_STATE_MAX_BYTES`. -/
def localStateMaxBytes : Nat := 8 * 1024 * 1024

/-- The text `atomic_write_private_json` writes, `none` where it raises. -/
def writePrivate (value : Json) : Option String :=
  if !encodable value then none
  else
    let rendered := String.ofList (pretty 0 (sortKeys value) ++ ['\n'])
    if localStateMaxBytes < rendered.utf8ByteSize then none else some rendered

/-- `read_private_json` on a file's text. -/
def readPrivate [FloatRepr] (maxBytes : Nat) (text : String) : Option Json :=
  if maxBytes < text.utf8ByteSize then none else (strictJson text).toOption

/-! ## The round trip -/

mutual

/-- What a finite float is written as is a literal, and is read as that float. -/
def FloatsRead [FloatRepr] : Json → Prop
  | float repr => FloatRepr.read repr = repr ∧
      ∃ l, scanNumber repr.toList = some (l, []) ∧ l.isFloat
  | arr items => ItemsRead items
  | obj fields => FieldsRead fields
  | _ => True

def ItemsRead [FloatRepr] : List Json → Prop
  | [] => True
  | j :: js => FloatsRead j ∧ ItemsRead js

def FieldsRead [FloatRepr] : List (String × Json) → Prop
  | [] => True
  | (_, j) :: fs => FloatsRead j ∧ FieldsRead fs

end

theorem encodableItems_iff {items : List Json} :
    encodableItems items ↔ ∀ j ∈ items, encodable j := by
  induction items with
  | nil => simp [encodableItems]
  | cons j js ih => simp [encodableItems, ih]

theorem encodableFields_iff {fields : List (String × Json)} :
    encodableFields fields ↔ ∀ f ∈ fields, encodable f.2 := by
  induction fields with
  | nil => simp [encodableFields]
  | cons f fs ih => simp [encodableFields, ih]

section

variable [FloatRepr]

theorem itemsRead_iff {items : List Json} : ItemsRead items ↔ ∀ j ∈ items, FloatsRead j := by
  induction items with
  | nil => simp [ItemsRead]
  | cons j js ih => simp [ItemsRead, ih]

theorem fieldsRead_iff {fields : List (String × Json)} :
    FieldsRead fields ↔ ∀ f ∈ fields, FloatsRead f.2 := by
  induction fields with
  | nil => simp [FieldsRead]
  | cons f fs ih => simp [FieldsRead, ih]

end

/-! ### White space and first characters -/

theorem skipWs_cons {c : Char} {t : List Char} (hc : isWs c = false) : skipWs (c :: t) = c :: t := by
  simp [skipWs, hc]

theorem skipWs_newline {n : Nat} {c : Char} {t : List Char} (hc : isWs c = false) :
    skipWs (newline n ++ c :: t) = c :: t := by
  have spaces : ∀ m : Nat, skipWs (List.replicate m ' ' ++ c :: t) = c :: t := by
    intro m
    induction m with
    | zero => exact skipWs_cons hc
    | succ m ih =>
      rw [List.replicate_succ, List.cons_append]
      exact ih
  exact spaces (2 * n)

theorem int_text_ne (i : Int) : (toString i).toList ≠ [] := by
  intro h
  have hscan := scanNumber_int i
  rw [h] at hscan
  cases hscan

theorem numeral_of_int_text {i : Int} {c : Char} (hc : c ∈ (toString i).toList) : numeral c := by
  rcases int_text hc with h | rfl
  · simp [numeral, h]
  · decide

theorem float_text {repr : String} (h : isFloatText repr) :
    repr.toList ≠ [] ∧ ∀ c ∈ repr.toList, numeral c := by
  simp only [isFloatText, Bool.and_eq_true, List.all_eq_true] at h
  refine ⟨?_, h.1⟩
  intro hempty
  rw [hempty] at h
  simp at h

/-- A value's text starts with no white space, and with no closing bracket. -/
theorem pretty_head (n : Nat) {j : Json} (hj : encodable j) : ∃ c t, pretty n j = c :: t ∧
    isWs c = false ∧ c ≠ ']' ∧ c ≠ '\x7d' := by
  have text : ∀ {l : List Char}, l ≠ [] → (∀ c ∈ l, numeral c) → ∃ c t, l = c :: t ∧
      isWs c = false ∧ c ≠ ']' ∧ c ≠ '\x7d' := by
    intro l hl hall
    cases l with
    | nil => exact absurd rfl hl
    | cons c t =>
      have hc := hall c (List.mem_cons_self ..)
      refine ⟨c, t, rfl, ?_, ?_, ?_⟩
      · by_contra hws
        simp only [isWs, Bool.not_eq_false, Bool.or_eq_true, decide_eq_true_eq] at hws
        rcases hws with ((rfl | rfl) | rfl) | rfl <;> exact absurd hc (by decide)
      · rintro rfl
        exact absurd hc (by decide)
      · rintro rfl
        exact absurd hc (by decide)
  cases j with
  | null => exact ⟨'n', _, rfl, by decide⟩
  | bool b => cases b <;> exact ⟨_, _, rfl, by decide⟩
  | int i => exact text (int_text_ne i) fun c hc => numeral_of_int_text hc
  | float repr => exact text (float_text hj).1 (float_text hj).2
  | str s => exact ⟨'"', _, rfl, by decide⟩
  | arr items => cases items <;> exact ⟨'[', _, rfl, by decide⟩
  | obj fields =>
    rcases fields with _ | ⟨⟨k, j⟩, fs⟩ <;> exact ⟨'\x7b', _, rfl, by decide⟩

theorem ends_newline (n : Nat) (r : List Char) : Ends (newline n ++ r) := by
  intro c hc
  obtain rfl : '\n' = c := by simpa [newline] using hc
  simp

theorem ends_items (n m : Nat) (js : List Json) (r : List Char) :
    Ends (prettyItems n js ++ (newline m ++ r)) := by
  cases js with
  | nil => exact ends_newline m r
  | cons j js =>
    intro c hc
    obtain rfl : ',' = c := by simpa [prettyItems] using hc
    simp

theorem ends_fields (n m : Nat) (fs : List (String × Json)) (r : List Char) :
    Ends (prettyFields n fs ++ (newline m ++ r)) := by
  rcases fs with _ | ⟨⟨k, j⟩, fs⟩
  · exact ends_newline m r
  · intro c hc
    obtain rfl : ',' = c := by simpa [prettyFields] using hc
    simp

/-- What stands before a pair's value. -/
theorem scanKey (k : String) {text : List Char} {c : Char} {t : List Char} (ht : text = c :: t)
    (hc : isWs c = false) : ∃ rest, scanString (quoted k ++ ':' :: ' ' :: text).length
      (quoted k ++ ':' :: ' ' :: text).tail = .ok (k.toList, rest) ∧
      (skipWs rest).head? = some ':' ∧ skipWs (skipWs rest).tail = text := by
  refine ⟨':' :: ' ' :: text, scanString_quoted k _, rfl, ?_⟩
  show skipWs text = text
  rw [ht]
  exact skipWs_cons hc

/-! ### Scalars -/

/-- No word is a number's text. -/
theorem find?_words_of_number {text : List Char} {x : Literal × List Char}
    (h : scanNumber text = some x) : (words.find? fun w => w.1.isPrefixOf text) = none := by
  have each : ∀ w ∈ words, ∀ t, scanNumber (w.1 ++ t) = none := by
    simp [words, scanNumber, intPart]
  refine List.find?_eq_none.2 fun w hw hp => ?_
  obtain ⟨t, rfl⟩ := List.isPrefixOf_iff_prefix.1 hp
  rw [each w hw t] at h
  cases h

section Scalars

variable [FloatRepr]

theorem scanScalar_number {text rest : List Char} {l : Literal} {j : Json}
    (h : scanNumber text = some (l, rest)) (hl : l.value = .ok j) :
    scanScalar text = .ok (j, rest) := by
  simp only [scanScalar, find?_words_of_number h, h, hl]
  rfl

theorem scanScalar_int {i : Int} {r : List Char} (hi : encodable (int i)) (hr : Ends r) :
    scanScalar ((toString i).toList ++ r) = .ok (int i, r) := by
  refine scanScalar_number (scanNumber_append hr (scanNumber_int i)) ?_
  have hdigits : ¬ maxStrDigits < (Nat.toDigits 10 i.natAbs).length := by
    simpa [encodable] using hi
  have hfloat : (⟨decide (i < 0), Nat.toDigits 10 i.natAbs, [], []⟩ : Literal).isFloat = false := rfl
  rw [Literal.value, hfloat]
  show (if maxStrDigits < (Nat.toDigits 10 i.natAbs).length then _ else _) = _
  rw [if_neg hdigits]
  show Except.ok (int (if decide (i < 0) then _ else _)) = _
  rw [Nat.ofDigitChars_ten_toDigits]
  congr 2
  by_cases hneg : i < 0
  · simp only [hneg, decide_true, if_true]
    omega
  · simp only [hneg, decide_false, Bool.false_eq_true, if_false]
    omega

theorem scanScalar_float {repr : String} {r : List Char} (h : FloatsRead (float repr)) (hr : Ends r) :
    scanScalar (repr.toList ++ r) = .ok (float repr, r) := by
  obtain ⟨hread, l, hl, hfloat⟩ := h
  refine scanScalar_number (scanNumber_append hr hl) ?_
  have htext : String.ofList l.text = repr := by
    rw [← List.append_nil l.text, ← scanNumber_text hl, String.ofList_toList]
  rw [Literal.value, if_pos hfloat, htext, hread]

/-! ### Values -/

/-- The text of `j` is scanned as `j`, at any level and before anything that can follow it. -/
def Scans (j : Json) : Prop := ∀ (n fuel : Nat) (r : List Char), Ends r →
  2 * (pretty n j ++ r).length + 1 ≤ fuel → scanValue plain fuel (pretty n j ++ r) = .ok (j, r)

theorem scanItems_last {fuel : Nat} {text rest r : List Char} {j : Json}
    (hv : scanValue plain fuel text = .ok (j, rest)) (h : skipWs rest = ']' :: r) :
    scanItems plain (fuel + 1) text = .ok ([j], r) := by
  simp only [scanItems, hv, bind, Except.bind, h]
  rfl

theorem scanItems_more {fuel : Nat} {text rest t r : List Char} {j : Json} {js : List Json}
    (hv : scanValue plain fuel text = .ok (j, rest)) (h : skipWs rest = ',' :: t)
    (hi : scanItems plain fuel (skipWs t) = .ok (js, r)) :
    scanItems plain (fuel + 1) text = .ok (j :: js, r) := by
  have hclose : (',' :: t).head? ≠ some ']' := by simp
  have hcomma : (',' :: t).head? = some ',' := rfl
  simp only [scanItems, hv, bind, Except.bind, h, if_neg hclose, if_pos hcomma, List.tail_cons, hi]
  rfl

theorem scanPairs_last {fuel : Nat} {k : String} {text rest r : List Char} {j : Json} {c : Char}
    {t : List Char} (ht : text = c :: t) (hc : isWs c = false)
    (hv : scanValue plain fuel text = .ok (j, rest)) (h : skipWs rest = '\x7d' :: r) :
    scanPairs plain (fuel + 1) (quoted k ++ ':' :: ' ' :: text) = .ok ([(k, j)], r) := by
  obtain ⟨rest', hs, hcolon, htext⟩ := scanKey k ht hc
  have hquote : (quoted k ++ ':' :: ' ' :: text).head? = some '"' := rfl
  simp only [scanPairs, if_pos hquote, hs, bind, Except.bind, if_pos hcolon, htext, hv, h,
    String.ofList_toList]
  rfl

theorem scanPairs_more {fuel : Nat} {k : String} {text rest u r : List Char} {j : Json}
    {fs : List (String × Json)} {c : Char} {t : List Char} (ht : text = c :: t)
    (hc : isWs c = false) (hv : scanValue plain fuel text = .ok (j, rest))
    (h : skipWs rest = ',' :: u) (hp : scanPairs plain fuel (skipWs u) = .ok (fs, r)) :
    scanPairs plain (fuel + 1) (quoted k ++ ':' :: ' ' :: text) = .ok ((k, j) :: fs, r) := by
  obtain ⟨rest', hs, hcolon, htext⟩ := scanKey k ht hc
  have hquote : (quoted k ++ ':' :: ' ' :: text).head? = some '"' := rfl
  have hclose : (',' :: u).head? ≠ some '\x7d' := by simp
  have hcomma : (',' :: u).head? = some ',' := rfl
  simp only [scanPairs, if_pos hquote, hs, bind, Except.bind, if_pos hcolon, htext, hv, h,
    if_neg hclose, if_pos hcomma, List.tail_cons, hp, String.ofList_toList]
  rfl

/-- The items of a list, by induction on those after the first. -/
theorem scanItems_pretty (n m : Nat) (r : List Char) {js : List Json} :
    ∀ {j : Json} {fuel : Nat}, (∀ x ∈ j :: js, Scans x ∧ encodable x) →
      2 * (pretty n j ++ (prettyItems n js ++ (newline m ++ ']' :: r))).length + 2 ≤ fuel →
      scanItems plain fuel (pretty n j ++ (prettyItems n js ++ (newline m ++ ']' :: r))) =
        .ok (j :: js, r) := by
  induction js with
  | nil =>
    intro j fuel hall hfuel
    obtain ⟨fuel, rfl⟩ : ∃ f, fuel = f + 1 := ⟨fuel - 1, by omega⟩
    have hj := (hall j (List.mem_cons_self ..)).1
    refine scanItems_last (hj n fuel _ (ends_items n m [] _) (by omega)) ?_
    exact skipWs_newline (by decide)
  | cons j' js ih =>
    intro j fuel hall hfuel
    obtain ⟨fuel, rfl⟩ : ∃ f, fuel = f + 1 := ⟨fuel - 1, by omega⟩
    have hj := (hall j (List.mem_cons_self ..)).1
    have hall' : ∀ x ∈ j' :: js, Scans x ∧ encodable x := fun x hx =>
      hall x (List.mem_cons_of_mem _ hx)
    obtain ⟨c, t, hhead, hws, -⟩ := pretty_head n (hall' j' (List.mem_cons_self ..)).2
    have hnext : skipWs (newline n ++ pretty n j' ++ prettyItems n js ++ (newline m ++ ']' :: r)) =
        pretty n j' ++ (prettyItems n js ++ (newline m ++ ']' :: r)) := by
      rw [hhead, List.append_assoc, List.append_assoc, List.cons_append]
      exact skipWs_newline hws
    refine scanItems_more (hj n fuel _ (ends_items n m _ _) (by omega)) (skipWs_cons (by decide)) ?_
    refine (congrArg _ hnext).trans (ih hall' ?_)
    simp only [prettyItems, List.length_append, List.length_cons] at hfuel ⊢
    omega

/-- The pairs of a dictionary, likewise. -/
theorem scanPairs_pretty (n m : Nat) (r : List Char) {fs : List (String × Json)} :
    ∀ {k : String} {j : Json} {fuel : Nat}, (∀ f ∈ (k, j) :: fs, Scans f.2 ∧ encodable f.2) →
      2 * (quoted k ++ ':' :: ' ' :: (pretty n j ++ (prettyFields n fs ++
        (newline m ++ '\x7d' :: r)))).length + 2 ≤ fuel →
      scanPairs plain fuel (quoted k ++ ':' :: ' ' :: (pretty n j ++ (prettyFields n fs ++
        (newline m ++ '\x7d' :: r)))) = .ok ((k, j) :: fs, r) := by
  induction fs with
  | nil =>
    intro k j fuel hall hfuel
    obtain ⟨fuel, rfl⟩ : ∃ f, fuel = f + 1 := ⟨fuel - 1, by omega⟩
    obtain ⟨hj, henc⟩ := hall (k, j) (List.mem_cons_self ..)
    obtain ⟨c, t, hhead, hws, -⟩ := pretty_head n henc
    simp only [List.length_append, List.length_cons] at hfuel
    refine scanPairs_last (t := t ++ _) (by rw [hhead]; rfl) hws
      (hj n fuel _ (ends_fields n m [] _) ?_) (skipWs_newline (by decide))
    simp only [List.length_append, List.length_cons]
    omega
  | cons f fs ih =>
    intro k j fuel hall hfuel
    obtain ⟨k', j'⟩ := f
    obtain ⟨fuel, rfl⟩ : ∃ f, fuel = f + 1 := ⟨fuel - 1, by omega⟩
    obtain ⟨hj, henc⟩ := hall (k, j) (List.mem_cons_self ..)
    obtain ⟨c, t, hhead, hws, -⟩ := pretty_head n henc
    have hall' : ∀ x ∈ (k', j') :: fs, Scans x.2 ∧ encodable x.2 := fun x hx =>
      hall x (List.mem_cons_of_mem _ hx)
    have hnext : skipWs (newline n ++ quoted k' ++ ':' :: ' ' :: pretty n j' ++ prettyFields n fs ++
        (newline m ++ '\x7d' :: r)) = quoted k' ++ ':' :: ' ' :: (pretty n j' ++
          (prettyFields n fs ++ (newline m ++ '\x7d' :: r))) := by
      simp only [List.append_assoc, List.cons_append]
      exact skipWs_newline (by decide)
    simp only [List.length_append, List.length_cons, prettyFields] at hfuel
    refine scanPairs_more (t := t ++ _) (by rw [hhead]; rfl) hws
      (hj n fuel _ (ends_fields n m _ _) ?_) (skipWs_cons (by decide)) ?_
    · simp only [List.length_append, List.length_cons, prettyFields]
      omega
    · refine (congrArg _ hnext).trans (ih hall' ?_)
      simp only [List.length_append, List.length_cons]
      omega

theorem scanValue_items {fuel : Nat} {text t r : List Char} {js : List Json}
    (h : skipWs text = t) (ht : t.head? ≠ some ']')
    (hi : scanItems plain fuel t = .ok (js, r)) :
    scanValue plain (fuel + 1) ('[' :: text) = .ok (arr js, r) := by
  subst h
  simp only [scanValue, List.head?_cons, List.tail_cons, if_neg ht, hi, bind, Except.bind]
  rfl

theorem scanValue_pairs {fuel : Nat} {text t r : List Char} {fs : List (String × Json)}
    (h : skipWs text = t) (ht : t.head? ≠ some '\x7d')
    (hp : scanPairs plain fuel t = .ok (fs, r)) :
    scanValue plain (fuel + 1) ('\x7b' :: text) = .ok (obj fs, r) := by
  subst h
  simp only [scanValue, List.head?_cons, List.tail_cons, if_neg ht, hp, bind, Except.bind]
  rfl

/-- A number is scanned as a scalar. -/
theorem scanValue_number {fuel : Nat} {t r : List Char} (ht : t ≠ []) (hall : ∀ c ∈ t, numeral c) :
    scanValue plain (fuel + 1) (t ++ r) = scanScalar (t ++ r) := by
  cases t with
  | nil => exact absurd rfl ht
  | cons c t =>
    have hc := hall c (List.mem_cons_self ..)
    rw [scanValue]
    split
    · next h =>
      obtain rfl : c = '"' := by simpa using h
      exact absurd hc (by decide)
    · next h =>
      obtain rfl : c = '[' := by simpa using h
      exact absurd hc (by decide)
    · next h =>
      obtain rfl : c = '\x7b' := by simpa using h
      exact absurd hc (by decide)
    · rfl

/-- **A value is scanned back** from its text. -/
theorem scans (j : Json) : encodable j → FloatsRead j → Scans j := by
  induction j using Json.induct with
  | null =>
    intro _ _ n fuel r hr hfuel
    obtain ⟨fuel, rfl⟩ : ∃ f, fuel = f + 1 := ⟨fuel - 1, by omega⟩
    rfl
  | bool b =>
    intro _ _ n fuel r hr hfuel
    obtain ⟨fuel, rfl⟩ : ∃ f, fuel = f + 1 := ⟨fuel - 1, by omega⟩
    cases b <;> rfl
  | int i =>
    intro henc _ n fuel r hr hfuel
    obtain ⟨fuel, rfl⟩ : ∃ f, fuel = f + 1 := ⟨fuel - 1, by omega⟩
    show scanValue plain (fuel + 1) ((toString i).toList ++ r) = _
    rw [scanValue_number (int_text_ne i) fun c hc => numeral_of_int_text hc]
    exact scanScalar_int henc hr
  | float repr =>
    intro henc hread n fuel r hr hfuel
    obtain ⟨fuel, rfl⟩ : ∃ f, fuel = f + 1 := ⟨fuel - 1, by omega⟩
    obtain ⟨hne, hall⟩ := float_text henc
    show scanValue plain (fuel + 1) (repr.toList ++ r) = _
    rw [scanValue_number hne hall]
    exact scanScalar_float hread hr
  | str s =>
    intro _ _ n fuel r hr hfuel
    obtain ⟨fuel, rfl⟩ : ∃ f, fuel = f + 1 := ⟨fuel - 1, by omega⟩
    show (scanString (quoted s ++ r).length (quoted s ++ r).tail >>= fun x =>
      Except.ok (Json.str (String.ofList x.1), x.2)) = _
    rw [scanString_quoted]
    show Except.ok (Json.str (String.ofList s.toList), r) = _
    rw [String.ofList_toList]
  | arr items ih =>
    intro henc hread n fuel r hr hfuel
    obtain ⟨fuel, rfl⟩ : ∃ f, fuel = f + 1 := ⟨fuel - 1, by omega⟩
    cases items with
    | nil => rfl
    | cons j js =>
      have hencs := encodableItems_iff.1 henc
      have hreads := itemsRead_iff.1 hread
      obtain ⟨c, t, hhead, hws, hclose, -⟩ := pretty_head (n + 1) (hencs j (List.mem_cons_self ..))
      have hrest : skipWs (newline (n + 1) ++ pretty (n + 1) j ++ prettyItems (n + 1) js ++
          newline n ++ [']'] ++ r) =
          pretty (n + 1) j ++ (prettyItems (n + 1) js ++ (newline n ++ ']' :: r)) := by
        simp only [List.append_assoc, List.cons_append, List.nil_append, hhead]
        exact skipWs_newline hws
      simp only [pretty, List.length_append, List.length_cons] at hfuel
      refine scanValue_items hrest ?_ (scanItems_pretty (n + 1) n r ?_ ?_)
      · rw [hhead]
        simpa using hclose
      · exact fun x hx => ⟨ih x hx (hencs x hx) (hreads x hx), hencs x hx⟩
      · simp only [List.length_append, List.length_cons]
        omega
  | obj fields ih =>
    intro henc hread n fuel r hr hfuel
    obtain ⟨fuel, rfl⟩ : ∃ f, fuel = f + 1 := ⟨fuel - 1, by omega⟩
    rcases fields with _ | ⟨⟨k, j⟩, fs⟩
    · rfl
    · have hencs := encodableFields_iff.1 henc
      have hreads := fieldsRead_iff.1 hread
      have hrest : skipWs (newline (n + 1) ++ quoted k ++ ':' :: ' ' :: pretty (n + 1) j ++
          prettyFields (n + 1) fs ++ newline n ++ ['\x7d'] ++ r) =
          quoted k ++ ':' :: ' ' :: (pretty (n + 1) j ++ (prettyFields (n + 1) fs ++
            (newline n ++ '\x7d' :: r))) := by
        simp only [List.append_assoc, List.cons_append, List.nil_append]
        exact skipWs_newline (by decide)
      simp only [pretty, List.length_append, List.length_cons] at hfuel
      refine scanValue_pairs hrest (by simp [quoted]) (scanPairs_pretty (n + 1) n r ?_ ?_)
      · exact fun x hx => ⟨ih x hx (hencs x hx) (hreads x hx), hencs x hx⟩
      · simp only [List.length_append, List.length_cons]
        omega

end Scalars

/-! ### Sorted keys -/

theorem sortItems_eq (items : List Json) : sortItems items = items.map sortKeys := by
  induction items with
  | nil => rfl
  | cons j js ih => rw [sortItems, ih, List.map_cons]

theorem sortFields_eq (fields : List (String × Json)) :
    sortFields fields = fields.map fun f => (f.1, sortKeys f.2) := by
  induction fields with
  | nil => rfl
  | cons f fs ih => rw [sortFields, ih, List.map_cons]

/-- The fields of a dictionary with sorted keys. -/
theorem mem_sorted {fields : List (String × Json)} {f : String × Json} :
    f ∈ (sortFields fields).insertionSort (fun a b => a.1 ≤ b.1) ↔
      ∃ j, (f.1, j) ∈ fields ∧ f.2 = sortKeys j := by
  rw [List.mem_insertionSort, sortFields_eq, List.mem_map]
  constructor
  · rintro ⟨g, hg, rfl⟩
    exact ⟨g.2, hg, rfl⟩
  · rintro ⟨j, hj, hf⟩
    exact ⟨(f.1, j), hj, Prod.ext rfl hf.symm⟩

/-- The same value: only the order of keys is another. -/
theorem same_sortKeys (j : Json) : Same (sortKeys j) j := by
  induction j using Json.induct with
  | null => trivial
  | bool b => rfl
  | int i => rfl
  | float repr => rfl
  | str s => rfl
  | arr items ih =>
    refine sameAll_iff.2 ?_
    rw [sortItems_eq, List.forall₂_map_left_iff]
    exact List.forall₂_same.2 ih
  | obj fields ih =>
    refine ⟨?_, sameFields_iff.2 fun f hf => ?_⟩
    · rw [List.length_insertionSort, sortFields_eq, List.length_map]
    · obtain ⟨j, hj, he⟩ := mem_sorted.1 hf
      exact ⟨j, hj, he ▸ ih _ hj⟩

theorem encodable_sortKeys {j : Json} (h : encodable j) : encodable (sortKeys j) := by
  induction j using Json.induct with
  | null | bool | int | float | str => exact h
  | arr items ih =>
    have hall := encodableItems_iff.1 h
    refine encodableItems_iff.2 fun x hx => ?_
    rw [sortItems_eq] at hx
    obtain ⟨j, hj, rfl⟩ := List.mem_map.1 hx
    exact ih j hj (hall j hj)
  | obj fields ih =>
    have hall := encodableFields_iff.1 h
    refine encodableFields_iff.2 fun f hf => ?_
    obtain ⟨j, hj, he⟩ := mem_sorted.1 hf
    rw [he]
    exact ih _ hj (hall _ hj)

theorem floatsRead_sortKeys [FloatRepr] {j : Json} (h : FloatsRead j) : FloatsRead (sortKeys j) := by
  induction j using Json.induct with
  | null | bool | int | float | str => exact h
  | arr items ih =>
    have hall := itemsRead_iff.1 h
    refine itemsRead_iff.2 fun x hx => ?_
    rw [sortItems_eq] at hx
    obtain ⟨j, hj, rfl⟩ := List.mem_map.1 hx
    exact ih j hj (hall j hj)
  | obj fields ih =>
    have hall := fieldsRead_iff.1 h
    refine fieldsRead_iff.2 fun f hf => ?_
    obtain ⟨j, hj, he⟩ := mem_sorted.1 hf
    rw [he]
    exact ih _ hj (hall _ hj)

theorem uniqueKeys_sortKeys {j : Json} (h : uniqueKeys j) : uniqueKeys (sortKeys j) := by
  induction j using Json.induct with
  | null | bool | int | float | str => rfl
  | arr items ih =>
    have hall := uniqueKeysAll_iff.1 h
    refine uniqueKeysAll_iff.2 fun x hx => ?_
    rw [sortItems_eq] at hx
    obtain ⟨j, hj, rfl⟩ := List.mem_map.1 hx
    exact ih j hj (hall j hj)
  | obj fields ih =>
    simp only [uniqueKeys, Bool.and_eq_true, decide_eq_true_eq] at h
    have hall := uniqueKeysFields_iff.1 h.2
    have hperm := List.perm_insertionSort (fun a b : String × Json => a.1 ≤ b.1) (sortFields fields)
    have hkeys : (sortFields fields).map Prod.fst = fields.map Prod.fst := by
      rw [sortFields_eq, List.map_map]
      rfl
    simp only [sortKeys, uniqueKeys, Bool.and_eq_true, decide_eq_true_eq]
    refine ⟨(hperm.map _).nodup_iff.2 (hkeys ▸ h.1), uniqueKeysFields_iff.2 fun f hf => ?_⟩
    obtain ⟨j, hj, he⟩ := mem_sorted.1 hf
    rw [he]
    exact ih _ hj (hall _ hj)

/-! ### Files -/

section Files

variable [FloatRepr] {j : Json}

/-- The whole text is scanned. -/
theorem load_pretty (h : encodable j) (hf : FloatsRead j) :
    load plain (pretty 0 j ++ ['\n']) = .ok j := by
  obtain ⟨c, t, hhead, hws, -⟩ := pretty_head 0 h
  have hends : Ends ['\n'] := by
    intro c hc
    obtain rfl : '\n' = c := by simpa using hc
    simp
  have hskip : skipWs (pretty 0 j ++ ['\n']) = pretty 0 j ++ ['\n'] := by
    rw [hhead]
    exact skipWs_cons hws
  have hscan := scans j h hf 0 _ ['\n'] hends (Nat.le_refl _)
  simp only [load, hskip, hscan, bind, Except.bind]
  rfl

/-- **What is written is read back**, with its keys sorted. -/
theorem read_write {text : String} (hj : uniqueKeys j) (hf : FloatsRead j)
    (h : writePrivate j = some text) :
    readPrivate localStateMaxBytes text = some (sortKeys j) := by
  unfold writePrivate at h
  split at h
  · cases h
  · next henc =>
    have henc : encodable j := by simpa using henc
    dsimp only at h
    split at h
    · cases h
    · next hsize =>
      obtain rfl := Option.some.inj h
      have hload : strictJson (String.ofList (pretty 0 (sortKeys j) ++ ['\n'])) =
          .ok (sortKeys j) := by
        rw [strictJson, String.toList_ofList]
        exact strict_iff.2 ⟨load_pretty (encodable_sortKeys henc) (floatsRead_sortKeys hf),
          uniqueKeys_sortKeys hj⟩
      rw [readPrivate, if_neg hsize, hload]
      rfl

end Files

end StrictJson

end CloudOpsAgent
