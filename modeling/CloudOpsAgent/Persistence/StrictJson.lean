/-
  Strict JSON for local state: what `atomic_write_private_json` writes and `_strict_json` reads.

  `json.loads` builds a dictionary from the pairs of an object in `object_pairs_hook`, so the reader
  here is one scanner with the hook as a parameter: `strict` refuses a duplicate key, `plain` keeps
  every pair.

  1. **Characters and numbers** — a string's characters with their escapes; a number's text.

  2. **The scanner** — values, items and pairs, with fuel for twice the length of the text, which is
     always enough (`fuel_enough`).  A lone surrogate has no place in a `String`, and is refused.

  3. **Duplicates** — the strict reader accepts what the plain one reads without a duplicate key at
     any depth, and nothing else (`strict_iff`).

  4. **The round trip** — what is written is read back (`load_write`): one lemma for characters, one
     for numbers, and an induction on the value.
-/
import CloudOpsAgent.Nz.Encoding

namespace CloudOpsAgent

/-- `repr(float(text))`. -/
class FloatRepr where
  read : String → String

namespace StrictJson

open Json

inductive LoadError where
  /-- `JSONDecodeError`. -/
  | malformed
  | duplicate
  | nonFinite
  /-- `ValueError` of `int`, beyond 4300 digits. -/
  | intTooLong
  | loneSurrogate
  | fuel
  deriving DecidableEq

/-! ## Characters and numbers -/

def hexDigit? (c : Char) : Option Nat :=
  if '0' ≤ c ∧ c ≤ '9' then some (c.toNat - 48)
  else if 'a' ≤ c ∧ c ≤ 'f' then some (c.toNat - 87)
  else if 'A' ≤ c ∧ c ≤ 'F' then some (c.toNat - 55)
  else none

/-- The four digits of a `\u` escape. -/
def hex4? : List Char → Option (Nat × List Char)
  | a :: b :: c :: d :: rest => do
    let a ← hexDigit? a
    let b ← hexDigit? b
    let c ← hexDigit? c
    let d ← hexDigit? d
    return (16 * (16 * (16 * a + b) + c) + d, rest)
  | _ => none

def isHigh (n : Nat) : Bool := 0xD800 ≤ n && n < 0xDC00
def isLow (n : Nat) : Bool := 0xDC00 ≤ n && n < 0xE000

/-- The low half that must follow the high half `n`. -/
def scanLow (n : Nat) : List Char → Except LoadError (Char × List Char)
  | '\\' :: 'u' :: rest => match hex4? rest with
    | none => .error .malformed
    | some (m, rest) =>
      if isLow m then .ok (Char.ofNat (0x10000 + (n - 0xD800) * 1024 + (m - 0xDC00)), rest)
      else .error .loneSurrogate
  | _ => .error .loneSurrogate

/-- A `\u` escape, after its `u`. -/
def scanUnicode (text : List Char) : Except LoadError (Char × List Char) :=
  match hex4? text with
  | none => .error .malformed
  | some (n, rest) =>
    if isHigh n then scanLow n rest
    else if isLow n then .error .loneSurrogate
    else .ok (Char.ofNat n, rest)

/-- One character of a string, inside its quotes. -/
def scanChar : List Char → Except LoadError (Char × List Char)
  | [] => .error .malformed
  | c :: rest =>
    if c = '\\' then match rest with
      | [] => .error .malformed
      | e :: rest =>
        if e = 'u' then scanUnicode rest
        else match (('/', '/') :: escapes).lookup e with
          | some c => .ok (c, rest)
          | none => .error .malformed
    else if c.toNat < 32 then .error .malformed
    else .ok (c, rest)

/-- A string, after its opening quote. -/
def scanString : Nat → List Char → Except LoadError (List Char × List Char)
  | 0, _ => .error .fuel
  | fuel + 1, text =>
    if text.head? = some '"' then .ok ([], text.tail)
    else do
      let (c, rest) ← scanChar text
      let (cs, rest) ← scanString fuel rest
      return (c :: cs, rest)

/-- `0`, or digits that start with another one. -/
def intPart : List Char → Option (List Char × List Char)
  | [] => none
  | c :: rest =>
    if c = '0' then some (['0'], rest)
    else if c.isDigit then some (c :: rest.takeWhile Char.isDigit, rest.dropWhile Char.isDigit)
    else none

/-- `(\.\d+)?`. -/
def fracPart : List Char → List Char × List Char
  | [] => ([], [])
  | c :: rest =>
    if c = '.' ∧ rest.takeWhile Char.isDigit ≠ [] then
      (c :: rest.takeWhile Char.isDigit, rest.dropWhile Char.isDigit)
    else ([], c :: rest)

/-- `[-+]?`. -/
def signPart : List Char → List Char × List Char
  | [] => ([], [])
  | c :: rest => if c = '-' ∨ c = '+' then ([c], rest) else ([], c :: rest)

/-- `([eE][-+]?\d+)?`. -/
def expPart : List Char → List Char × List Char
  | [] => ([], [])
  | c :: rest =>
    let (sign, digits) := signPart rest
    if (c = 'e' ∨ c = 'E') ∧ digits.takeWhile Char.isDigit ≠ [] then
      (c :: sign ++ digits.takeWhile Char.isDigit, digits.dropWhile Char.isDigit)
    else ([], c :: rest)

/-- A number's text, and whether it is a float's. -/
structure Literal where
  negative : Bool
  digits : List Char
  fraction : List Char
  exponent : List Char

namespace Literal

def text (l : Literal) : List Char :=
  (if l.negative then ['-'] else []) ++ l.digits ++ l.fraction ++ l.exponent

def isFloat (l : Literal) : Bool := l.fraction ≠ [] || l.exponent ≠ []

end Literal

def scanNumber (text : List Char) : Option (Literal × List Char) :=
  let (negative, rest) := if text.head? = some '-' then (true, text.tail) else (false, text)
  match intPart rest with
  | none => none
  | some (digits, rest) =>
    let (fraction, rest) := fracPart rest
    let (exponent, rest) := expPart rest
    some (⟨negative, digits, fraction, exponent⟩, rest)

/-- `sys.int_info.default_max_str_digits`. -/
def maxStrDigits : Nat := 4300

/-- `parse_float`, or `parse_int`. -/
def Literal.value [FloatRepr] (l : Literal) : Except LoadError Json :=
  if l.isFloat then .ok (.float (FloatRepr.read (String.ofList l.text)))
  else if maxStrDigits < l.digits.length then .error .intTooLong
  else
    let n : Nat := Nat.ofDigitChars 10 l.digits 0
    .ok (.int (if l.negative then -n else n))

/-! ## The scanner -/

def isWs (c : Char) : Bool := c = ' ' || c = '\t' || c = '\n' || c = '\r'

def skipWs (text : List Char) : List Char := text.dropWhile isWs

/-- The words a value can be, and what they stand for. -/
def words : List (List Char × Except LoadError Json) :=
  [("null".toList, .ok .null), ("true".toList, .ok (.bool true)), ("false".toList, .ok (.bool false)),
    ("NaN".toList, .error .nonFinite), ("Infinity".toList, .error .nonFinite),
    ("-Infinity".toList, .error .nonFinite)]

/-- A word or a number. -/
def scanScalar [FloatRepr] (text : List Char) : Except LoadError (Json × List Char) :=
  match words.find? fun w => w.1.isPrefixOf text with
  | some (word, value) => value.map fun j => (j, text.drop word.length)
  | none => match scanNumber text with
    | none => .error .malformed
    | some (literal, rest) => literal.value.map fun j => (j, rest)

/-- `object_pairs_hook`. -/
abbrev Hook := List (String × Json) → Except LoadError Json

section Scanner

variable [FloatRepr] (hook : Hook)

mutual

def scanValue : Nat → List Char → Except LoadError (Json × List Char)
  | 0, _ => .error .fuel
  | fuel + 1, text =>
    match text.head? with
    | some '"' => do
      let (s, rest) ← scanString text.length text.tail
      return (.str (String.ofList s), rest)
    | some '[' =>
      let rest := skipWs text.tail
      if rest.head? = some ']' then .ok (.arr [], rest.tail)
      else do
        let (items, rest) ← scanItems fuel rest
        return (.arr items, rest)
    | some '\x7b' =>
      let rest := skipWs text.tail
      if rest.head? = some '\x7d' then do
        let j ← hook []
        return (j, rest.tail)
      else do
        let (fields, rest) ← scanPairs fuel rest
        let j ← hook fields
        return (j, rest)
    | _ => scanScalar text

def scanItems : Nat → List Char → Except LoadError (List Json × List Char)
  | 0, _ => .error .fuel
  | fuel + 1, text => do
    let (j, rest) ← scanValue fuel text
    let rest := skipWs rest
    if rest.head? = some ']' then return ([j], rest.tail)
    else if rest.head? = some ',' then do
      let (js, rest) ← scanItems fuel (skipWs rest.tail)
      return (j :: js, rest)
    else .error .malformed

def scanPairs : Nat → List Char → Except LoadError (List (String × Json) × List Char)
  | 0, _ => .error .fuel
  | fuel + 1, text =>
    if text.head? = some '"' then do
      let (s, rest) ← scanString text.length text.tail
      let rest := skipWs rest
      if rest.head? = some ':' then do
        let (j, rest) ← scanValue fuel (skipWs rest.tail)
        let rest := skipWs rest
        if rest.head? = some '\x7d' then return ([(String.ofList s, j)], rest.tail)
        else if rest.head? = some ',' then do
          let (fs, rest) ← scanPairs fuel (skipWs rest.tail)
          return ((String.ofList s, j) :: fs, rest)
        else .error .malformed
      else .error .malformed
    else .error .malformed

end

/-- `json.loads` with a hook. -/
def load (text : List Char) : Except LoadError Json := do
  let (j, rest) ← scanValue hook (2 * text.length + 1) (skipWs text)
  if skipWs rest = [] then return j else .error .malformed

end Scanner

/-- The hook of `_strict_json`. -/
def strict : Hook := fun fields =>
  if (fields.map Prod.fst).Nodup then .ok (.obj fields) else .error .duplicate

/-- All pairs, in their order. -/
def plain : Hook := fun fields => .ok (.obj fields)

/-- `_strict_json`. -/
def strictJson [FloatRepr] (raw : String) : Except LoadError Json := load strict raw.toList

/-! ### Enough fuel -/

/-- A scanner that had enough fuel, and took something off a text of length `n`. -/
def Took {α : Type} (n : Nat) (r : Except LoadError (α × List Char)) : Prop :=
  r ≠ .error .fuel ∧ ∀ a rest, r = .ok (a, rest) → rest.length < n

section Took

variable {α β : Type} {n m : Nat}

theorem took_ok {a : α} {rest : List Char} (h : rest.length < n) :
    Took n (.ok (a, rest) : Except LoadError (α × List Char)) := by
  refine ⟨by simp, ?_⟩
  rintro a' rest' he
  cases he
  exact h

theorem took_error {e : LoadError} (h : e ≠ .fuel) :
    Took n (.error e : Except LoadError (α × List Char)) :=
  ⟨by simpa using h, by simp⟩

theorem Took.bind {x : Except LoadError (α × List Char)}
    {f : α × List Char → Except LoadError (β × List Char)} (hx : Took m x)
    (hf : ∀ a rest, rest.length < m → Took n (f (a, rest))) : Took n (x >>= f) := by
  rcases x with e | ⟨a, rest⟩
  · exact took_error fun he => hx.1 (by rw [he])
  · exact hf a rest (hx.2 a rest rfl)

theorem Took.mono {x : Except LoadError (α × List Char)} (hx : Took m x) (h : m ≤ n) : Took n x :=
  ⟨hx.1, fun a rest he => Nat.lt_of_lt_of_le (hx.2 a rest he) h⟩

end Took

theorem length_dropWhile_le (p : Char → Bool) (text : List Char) :
    (text.dropWhile p).length ≤ text.length :=
  (List.dropWhile_sublist p).length_le

theorem length_skipWs (text : List Char) : (skipWs text).length ≤ text.length :=
  length_dropWhile_le isWs text

theorem length_tail_lt {text : List Char} {c : Char} (h : text.head? = some c) :
    text.tail.length < text.length := by
  cases text with
  | nil => simp at h
  | cons c text => exact Nat.lt_succ_self _

theorem length_hex4? {text rest : List Char} {n : Nat} (h : hex4? text = some (n, rest)) :
    rest.length < text.length := by
  unfold hex4? at h
  split at h
  · simp only [Option.bind_eq_bind, Option.bind_eq_some_iff, Option.pure_def, Option.some.injEq,
      Prod.mk.injEq] at h
    obtain ⟨_, _, _, _, _, _, _, _, _, rfl⟩ := h
    simp only [List.length_cons]
    omega
  · simp at h

theorem scanLow_took (n : Nat) (text : List Char) : Took text.length (scanLow n text) := by
  unfold scanLow
  split
  · next rest =>
    split
    · exact took_error (by simp)
    · next m rest' h =>
      have := length_hex4? h
      simp only [List.length_cons]
      split
      · exact took_ok (by omega)
      · exact took_error (by simp)
  · exact took_error (by simp)

theorem scanUnicode_took (text : List Char) : Took text.length (scanUnicode text) := by
  unfold scanUnicode
  split
  · exact took_error (by simp)
  · next n rest h =>
    have hrest := length_hex4? h
    split
    · exact (scanLow_took n rest).mono hrest.le
    · split
      · exact took_error (by simp)
      · exact took_ok hrest

theorem scanChar_took (text : List Char) : Took text.length (scanChar text) := by
  unfold scanChar
  split
  · exact took_error (by simp)
  · next c rest =>
    split
    · split
      · exact took_error (by simp)
      · next e rest =>
        simp only [List.length_cons]
        split
        · exact (scanUnicode_took rest).mono (by omega)
        · split
          · exact took_ok (by omega)
          · exact took_error (by simp)
    · split
      · exact took_error (by simp)
      · exact took_ok (by simp)

theorem scanString_took {fuel : Nat} {text : List Char} (h : text.length < fuel) :
    Took text.length (scanString fuel text) := by
  induction fuel generalizing text with
  | zero => omega
  | succ fuel ih =>
    rw [scanString]
    split
    · next hq => exact took_ok (length_tail_lt hq)
    · refine (scanChar_took text).bind fun c rest hrest => ?_
      refine (ih (by omega)).bind fun cs rest' hrest' => ?_
      exact took_ok (by omega)

theorem length_scanNumber {text rest : List Char} {l : Literal}
    (h : scanNumber text = some (l, rest)) : rest.length < text.length := by
  have int : ∀ {t ds r}, intPart t = some (ds, r) → r.length < t.length := by
    intro t ds r h
    unfold intPart at h
    split at h
    · simp at h
    · split at h
      · cases h
        simp
      · split at h
        · cases h
          have := length_dropWhile_le Char.isDigit ‹List Char›
          simp only [List.length_cons]
          omega
        · simp at h
  have frac : ∀ t, (fracPart t).2.length ≤ t.length := by
    intro t
    unfold fracPart
    split
    · simp
    · next c rest =>
      split
      · have := length_dropWhile_le Char.isDigit rest
        simp only [List.length_cons]
        omega
      · simp
  have sign : ∀ t, (signPart t).2.length ≤ t.length := by
    intro t
    unfold signPart
    split
    · simp
    · split <;> simp
  have exp : ∀ t, (expPart t).2.length ≤ t.length := by
    intro t
    unfold expPart
    split
    · simp
    · next c rest =>
      dsimp only
      split
      · have := sign rest
        have := length_dropWhile_le Char.isDigit (signPart rest).2
        simp only [List.length_cons]
        omega
      · simp
  unfold scanNumber at h
  dsimp only at h
  split at h
  · simp at h
  · next ds r hint =>
    simp only [Option.some.injEq, Prod.mk.injEq] at h
    obtain ⟨-, rfl⟩ := h
    have h1 := int hint
    have h2 := frac r
    have h3 := exp (fracPart r).2
    have h4 : (if text.head? = some '-' then (true, text.tail) else (false, text)).2.length ≤
        text.length := by
      split <;> simp
    omega

theorem scanScalar_took [FloatRepr] (text : List Char) : Took text.length (scanScalar text) := by
  unfold scanScalar
  split
  · next word value hfind =>
    have hmem := List.mem_of_find?_eq_some hfind
    have hpre : word.isPrefixOf text := by simpa using List.find?_some hfind
    have hle := (List.isPrefixOf_iff_prefix.1 hpre).length_le
    have each : ∀ w ∈ words, 0 < w.1.length ∧ w.2 ≠ .error .fuel := by simp [words]
    have hpos := each _ hmem
    cases value with
    | error e => exact took_error fun he => hpos.2 (by rw [he])
    | ok j =>
      refine took_ok ?_
      have := hpos.1
      dsimp only at this
      rw [List.length_drop]
      omega
  · split
    · exact took_error (by simp)
    · next l rest hn =>
      unfold Literal.value
      split
      · exact took_ok (length_scanNumber hn)
      · split
        · exact took_error (by simp)
        · exact took_ok (length_scanNumber hn)

section Fuel

variable [FloatRepr] {hook : Hook}

/-- The scanners, with twice the length of the text for fuel: the induction is on the fuel. -/
theorem scan_took (hhook : ∀ fields, hook fields ≠ .error .fuel) (fuel : Nat) :
    (∀ text : List Char, 2 * text.length + 1 ≤ fuel → Took text.length (scanValue hook fuel text)) ∧
    (∀ text : List Char, 2 * text.length + 2 ≤ fuel → Took text.length (scanItems hook fuel text)) ∧
    (∀ text : List Char, 2 * text.length + 2 ≤ fuel →
      Took text.length (scanPairs hook fuel text)) := by
  have hooked : ∀ {n : Nat} {fields : List (String × Json)} {rest : List Char}, rest.length < n →
      Took n (do let j ← hook fields; return (j, rest)) := by
    intro n fields rest h
    cases hf : hook fields with
    | error e => exact took_error fun he => hhook fields (by rw [hf, he])
    | ok j => exact took_ok h
  induction fuel with
  | zero => exact ⟨fun _ h => by omega, fun _ h => by omega, fun _ h => by omega⟩
  | succ fuel ih =>
    obtain ⟨ihv, ihi, ihp⟩ := ih
    refine ⟨?_, ?_, ?_⟩
    · intro text hfuel
      rw [scanValue]
      split
      · next hq =>
        have ht := length_tail_lt hq
        exact ((scanString_took ht).mono ht.le).bind fun s rest hrest => took_ok hrest
      · next hq =>
        have ht := length_tail_lt hq
        have hs := length_skipWs text.tail
        dsimp only
        split
        · next hc =>
          have := length_tail_lt hc
          exact took_ok (by omega)
        · refine (ihi (skipWs text.tail) (by omega)).bind fun items rest hrest => ?_
          exact took_ok (show rest.length < _ by omega)
      · next hq =>
        have ht := length_tail_lt hq
        have hs := length_skipWs text.tail
        dsimp only
        split
        · next hc =>
          have := length_tail_lt hc
          exact hooked (by omega)
        · refine (ihp (skipWs text.tail) (by omega)).bind fun fields rest hrest => ?_
          exact hooked (show rest.length < _ by omega)
      · exact scanScalar_took text
    · intro text hfuel
      rw [scanItems]
      refine (ihv text (by omega)).bind fun j rest hrest => ?_
      have hs := length_skipWs rest
      dsimp only
      split
      · next hc =>
        have := length_tail_lt hc
        exact took_ok (by omega)
      · split
        · next hc =>
          have := length_tail_lt hc
          have hs' := length_skipWs (skipWs rest).tail
          refine (ihi (skipWs (skipWs rest).tail) (by omega)).bind fun js rest' hrest' => ?_
          exact took_ok (show rest'.length < _ by omega)
        · exact took_error (by simp)
    · intro text hfuel
      rw [scanPairs]
      split
      · next hq =>
        have ht := length_tail_lt hq
        refine (scanString_took ht).bind fun s rest hrest => ?_
        have hs := length_skipWs rest
        dsimp only
        split
        · next hc =>
          have h1 := length_tail_lt hc
          have h2 := length_skipWs (skipWs rest).tail
          refine (ihv (skipWs (skipWs rest).tail) (by omega)).bind fun j rest' hrest' => ?_
          have h3 := length_skipWs rest'
          dsimp only
          split
          · next hc' =>
            have := length_tail_lt hc'
            exact took_ok (by omega)
          · split
            · next hc' =>
              have h4 := length_tail_lt hc'
              have h5 := length_skipWs (skipWs rest').tail
              refine (ihp (skipWs (skipWs rest').tail) (by omega)).bind fun fs rest'' hrest'' => ?_
              exact took_ok (show rest''.length < _ by omega)
            · exact took_error (by simp)
        · exact took_error (by simp)
      · exact took_error (by simp)

/-- **The fuel of `load` is enough.** -/
theorem fuel_enough (hhook : ∀ fields, hook fields ≠ .error .fuel) (text : List Char) :
    load hook text ≠ .error .fuel := by
  have hs := length_skipWs text
  have h := (scan_took hhook (2 * text.length + 1)).1 (skipWs text) (by omega)
  unfold load
  cases hv : scanValue hook (2 * text.length + 1) (skipWs text) with
  | error e =>
    intro he
    cases he
    exact h.1 hv
  | ok r =>
    show (if skipWs r.2 = [] then (.ok r.1 : Except LoadError Json) else .error .malformed) ≠ _
    split <;> simp

end Fuel

/-! ## Duplicates -/

mutual

/-- No dictionary in the value has two entries for a key. -/
def uniqueKeys : Json → Bool
  | .arr items => uniqueKeysAll items
  | .obj fields => (fields.map Prod.fst).Nodup && uniqueKeysFields fields
  | _ => true

def uniqueKeysAll : List Json → Bool
  | [] => true
  | j :: js => uniqueKeys j && uniqueKeysAll js

def uniqueKeysFields : List (String × Json) → Bool
  | [] => true
  | (_, j) :: fs => uniqueKeys j && uniqueKeysFields fs

end

theorem uniqueKeysAll_iff {items : List Json} :
    uniqueKeysAll items ↔ ∀ j ∈ items, uniqueKeys j := by
  induction items with
  | nil => simp [uniqueKeysAll]
  | cons j js ih => simp [uniqueKeysAll, ih]

theorem uniqueKeysFields_iff {fields : List (String × Json)} :
    uniqueKeysFields fields ↔ ∀ f ∈ fields, uniqueKeys f.2 := by
  induction fields with
  | nil => simp [uniqueKeysFields]
  | cons f fs ih => simp [uniqueKeysFields, ih]

/-- `x` gives what `y` gives, where that satisfies `P`, and nothing else. -/
def Kept {α : Type} (P : α → Prop) (x y : Except LoadError (α × List Char)) : Prop :=
  ∀ a rest, x = .ok (a, rest) ↔ y = .ok (a, rest) ∧ P a

section Kept

variable {α β : Type} {P : α → Prop} {Q : β → Prop}

theorem kept_of_true {x : Except LoadError (α × List Char)} (h : ∀ a rest, x = .ok (a, rest) → P a) :
    Kept P x x := fun a rest => ⟨fun hx => ⟨hx, h a rest hx⟩, And.left⟩

theorem kept_error {e : LoadError} : Kept P (.error e) (.error e) := kept_of_true (by simp)

theorem ok_bind {z : Except LoadError (α × List Char)}
    {k : α × List Char → Except LoadError (β × List Char)} {b : β × List Char} :
    z >>= k = .ok b ↔ ∃ a rest, z = .ok (a, rest) ∧ k (a, rest) = .ok b := by
  rcases z with e | ⟨a, rest⟩
  · constructor
    · intro hz
      cases hz
    · rintro ⟨a, rest, hz, -⟩
      cases hz
  · constructor
    · intro hk
      exact ⟨a, rest, rfl, hk⟩
    · rintro ⟨a', rest', hz, hk⟩
      cases hz
      exact hk

theorem Kept.bind {x y : Except LoadError (α × List Char)}
    {f g : α × List Char → Except LoadError (β × List Char)} (h : Kept P x y)
    (hfg : ∀ a rest, P a → Kept Q (f (a, rest)) (g (a, rest)))
    (hback : ∀ a rest b rest', g (a, rest) = .ok (b, rest') → Q b → P a) :
    Kept Q (x >>= f) (y >>= g) := by
  intro b rest'
  rw [ok_bind, ok_bind]
  constructor
  · rintro ⟨a, rest, hx, hf⟩
    obtain ⟨hy, hP⟩ := (h a rest).1 hx
    obtain ⟨hg, hQ⟩ := (hfg a rest hP b rest').1 hf
    exact ⟨⟨a, rest, hy, hg⟩, hQ⟩
  · rintro ⟨⟨a, rest, hy, hg⟩, hQ⟩
    have hP := hback a rest b rest' hg hQ
    exact ⟨a, rest, (h a rest).2 ⟨hy, hP⟩, (hfg a rest hP b rest').2 ⟨hg, hQ⟩⟩

/-- A first step the two have in common. -/
theorem Kept.after (x : Except LoadError (α × List Char))
    {f g : α × List Char → Except LoadError (β × List Char)}
    (hfg : ∀ a rest, Kept Q (f (a, rest)) (g (a, rest))) : Kept Q (x >>= f) (x >>= g) :=
  Kept.bind (P := fun _ => True) (kept_of_true fun _ _ _ => trivial) (fun a rest _ => hfg a rest)
    fun _ _ _ _ _ _ => trivial

end Kept

theorem uniqueKeys_scalar [FloatRepr] {text rest : List Char} {j : Json}
    (h : scanScalar text = .ok (j, rest)) : uniqueKeys j := by
  have word : ∀ w ∈ words, ∀ j, w.2 = .ok j → uniqueKeys j := by
    simp [words, uniqueKeys]
  unfold scanScalar at h
  split at h
  · next w value hfind =>
    cases value with
    | error e => cases h
    | ok j' =>
      cases h
      exact word _ (List.mem_of_find?_eq_some hfind) _ rfl
  · split at h
    · cases h
    · next l r hn =>
      unfold Literal.value at h
      split at h
      · cases h
        rfl
      · split at h
        · cases h
        · cases h
          rfl

theorem kept_hook {fields : List (String × Json)} {rest : List Char}
    (h : uniqueKeysFields fields) :
    Kept (fun j => uniqueKeys j) (do let j ← strict fields; return (j, rest))
      (do let j ← plain fields; return (j, rest)) := by
  intro j r
  by_cases hn : (fields.map Prod.fst).Nodup
  · have hs : strict fields = .ok (.obj fields) := if_pos hn
    rw [hs]
    constructor
    · intro he
      cases he
      exact ⟨rfl, by simp [uniqueKeys, hn, h]⟩
    · rintro ⟨he, -⟩
      exact he
  · have hs : strict fields = .error .duplicate := if_neg hn
    rw [hs]
    constructor
    · intro he
      cases he
    · rintro ⟨he, hu⟩
      cases he
      simp [uniqueKeys, hn] at hu

/-- The two scanners, by induction on the fuel. -/
theorem scan_kept [FloatRepr] (fuel : Nat) :
    (∀ text, Kept (fun j => uniqueKeys j) (scanValue strict fuel text)
      (scanValue plain fuel text)) ∧
    (∀ text, Kept (fun js => uniqueKeysAll js) (scanItems strict fuel text)
      (scanItems plain fuel text)) ∧
    (∀ text, Kept (fun fs => uniqueKeysFields fs) (scanPairs strict fuel text)
      (scanPairs plain fuel text)) := by
  induction fuel with
  | zero => exact ⟨fun _ => kept_error, fun _ => kept_error, fun _ => kept_error⟩
  | succ fuel ih =>
    obtain ⟨ihv, ihi, ihp⟩ := ih
    refine ⟨?_, ?_, ?_⟩
    · intro text
      rw [scanValue, scanValue]
      split
      · exact Kept.after _ fun s rest => kept_of_true fun a r h => by cases h; rfl
      · dsimp only
        split
        · exact kept_of_true fun a r h => by cases h; rfl
        · refine (ihi _).bind (fun items rest hu => ?_) fun items rest j r h hu => ?_
          · exact kept_of_true fun a r h => by cases h; exact hu
          · cases h
            exact hu
      · dsimp only
        split
        · exact kept_hook rfl
        · refine (ihp _).bind (fun fields rest hu => kept_hook hu) fun fields rest j r h hu => ?_
          cases h
          simp only [uniqueKeys, Bool.and_eq_true] at hu
          exact hu.2
      · exact kept_of_true fun a r h => uniqueKeys_scalar h
    · intro text
      rw [scanItems, scanItems]
      refine (ihv text).bind (fun j rest hj => ?_) fun j rest js r h hu => ?_
      · dsimp only
        split
        · exact kept_of_true fun a r h => by cases h; simp [uniqueKeysAll, hj]
        · split
          · refine (ihi _).bind (fun js rest' hjs => ?_) fun js rest' a r h hu => ?_
            · exact kept_of_true fun a r h => by cases h; simp [uniqueKeysAll, hj, hjs]
            · cases h
              simp only [uniqueKeysAll, Bool.and_eq_true] at hu
              exact hu.2
          · exact kept_error
      · dsimp only at h
        split at h
        · cases h
          simpa [uniqueKeysAll] using hu
        · split at h
          · obtain ⟨js', rest', -, h⟩ := ok_bind.1 h
            cases h
            simp only [uniqueKeysAll, Bool.and_eq_true] at hu
            exact hu.1
          · cases h
    · intro text
      rw [scanPairs, scanPairs]
      split
      · refine Kept.after _ fun s rest => ?_
        dsimp only
        split
        · refine (ihv _).bind (fun j rest hj => ?_) fun j rest fs r h hu => ?_
          · dsimp only
            split
            · exact kept_of_true fun a r h => by cases h; simp [uniqueKeysFields, hj]
            · split
              · refine (ihp _).bind (fun fs rest' hfs => ?_) fun fs rest' a r h hu => ?_
                · exact kept_of_true fun a r h => by cases h; simp [uniqueKeysFields, hj, hfs]
                · cases h
                  simp only [uniqueKeysFields, Bool.and_eq_true] at hu
                  exact hu.2
              · exact kept_error
          · dsimp only at h
            split at h
            · cases h
              simpa [uniqueKeysFields] using hu
            · split at h
              · obtain ⟨fs', rest', -, h⟩ := ok_bind.1 h
                cases h
                simp only [uniqueKeysFields, Bool.and_eq_true] at hu
                exact hu.1
              · cases h
        · exact kept_error
      · exact kept_error

/-- **The strict reader** gives what the text says, where that has no duplicate key at any depth,
    and nothing else. -/
theorem strict_iff [FloatRepr] {text : List Char} {j : Json} :
    load strict text = .ok j ↔ load plain text = .ok j ∧ uniqueKeys j := by
  have rest : ∀ {x : Except LoadError (Json × List Char)},
      (do let (j, rest) ← x; if skipWs rest = [] then return j else .error .malformed) = .ok j ↔
        ∃ rest, x = .ok (j, rest) ∧ skipWs rest = [] := by
    intro x
    rcases x with e | ⟨j', rest⟩
    · constructor
      · intro h
        cases h
      · rintro ⟨rest, h, -⟩
        cases h
    · show (if skipWs rest = [] then (.ok j' : Except LoadError Json) else .error .malformed) = _ ↔ _
      by_cases hr : skipWs rest = []
      · rw [if_pos hr]
        constructor
        · intro h
          cases h
          exact ⟨rest, rfl, hr⟩
        · rintro ⟨rest', h, -⟩
          cases h
          rfl
      · rw [if_neg hr]
        constructor
        · intro h
          cases h
        · rintro ⟨rest', h, hr'⟩
          cases h
          exact absurd hr' hr
  unfold load
  rw [rest, rest]
  constructor
  · rintro ⟨r, hv, hr⟩
    obtain ⟨hp, hu⟩ := ((scan_kept _).1 _ j r).1 hv
    exact ⟨⟨r, hp, hr⟩, hu⟩
  · rintro ⟨⟨r, hp, hr⟩, hu⟩
    exact ⟨r, ((scan_kept _).1 _ j r).2 ⟨hp, hu⟩, hr⟩

/-! ## The round trip -/

/-! ### Characters -/

theorem hexDigit?_digitChar : ∀ d < 16, hexDigit? (Nat.digitChar d) = some d := by decide

theorem hex4?_hexDigits {n : Nat} (hn : n < 65536) (rest : List Char) :
    hex4? (UUID.hexDigits n 4 ++ rest) = some (n, rest) := by
  have digit : ∀ m, hexDigit? (Nat.digitChar (m % 16)) = some (m % 16) := fun m =>
    hexDigit?_digitChar _ (Nat.mod_lt _ (by decide))
  show hex4? (Nat.digitChar (n / 16 ^ 3 % 16) :: Nat.digitChar (n / 16 ^ 2 % 16) ::
    Nat.digitChar (n / 16 ^ 1 % 16) :: Nat.digitChar (n / 16 ^ 0 % 16) :: rest) = _
  simp only [hex4?, digit, Option.bind_eq_bind, Option.bind_some, Option.pure_def,
    Option.some.injEq, Prod.mk.injEq, and_true]
  omega

/-- **A character is scanned back** from its escape. -/
theorem scanChar_escapeChar (c : Char) (rest : List Char) :
    scanChar (escapeChar c ++ rest) = .ok (c, rest) := by
  have control {n : Nat} (hc : c.toNat = n) : c = Char.ofNat n := by rw [← hc, Char.ofNat_toNat]
  have hvalid : c.toNat < 55296 ∨ 57343 < c.toNat ∧ c.toNat < 1114112 := c.valid
  have unit : ∀ {n : Nat} (rest : List Char), n < 65536 →
      scanChar (escapeUnit n ++ rest) = scanUnicode (UUID.hexDigits n 4 ++ rest) :=
    fun rest hn => rfl
  unfold escapeChar
  split
  · subst c; rfl
  split
  · subst c; rfl
  split
  · subst c; rfl
  split
  · subst c; rfl
  split
  · subst c; rfl
  split
  · rename_i hc
    rw [control hc]
    rfl
  split
  · rename_i hc
    rw [control hc]
    rfl
  split
  · -- the character itself
    rename_i hquote hslash _ _ _ _ _ hplain
    have hcontrol : ¬ c.toNat < 32 := by omega
    show scanChar (c :: rest) = _
    simp only [scanChar, if_neg hslash, if_neg hcontrol]
  split
  · -- a character of the basic plane is no half of a pair
    rename_i hlt
    rw [unit rest hlt, scanUnicode, hex4?_hexDigits hlt]
    have hhigh : isHigh c.toNat = false := by simp [isHigh]; omega
    have hlow : isLow c.toNat = false := by simp [isLow]; omega
    simp [hhigh, hlow]
  · rename_i hge
    have hhigh : 55296 + (c.toNat - 65536) / 1024 < 65536 := by omega
    have hlow : 56320 + (c.toNat - 65536) % 1024 < 65536 := by omega
    have high : isHigh (55296 + (c.toNat - 65536) / 1024) = true := by simp [isHigh]; omega
    have low : isLow (56320 + (c.toNat - 65536) % 1024) = true := by simp [isLow]; omega
    have hvalue : 0x10000 + (55296 + (c.toNat - 65536) / 1024 - 0xD800) * 1024 +
        (56320 + (c.toNat - 65536) % 1024 - 0xDC00) = c.toNat := by omega
    rw [List.append_assoc, unit _ hhigh, scanUnicode, hex4?_hexDigits hhigh]
    show (if isHigh _ then scanLow _ (escapeUnit _ ++ rest) else _) = _
    rw [if_pos high, escapeUnit, List.cons_append, List.cons_append, scanLow, hex4?_hexDigits hlow]
    simp only [low, if_true, hvalue, Char.ofNat_toNat]

theorem escapeChar_head (c : Char) (rest : List Char) :
    (escapeChar c ++ rest).head? ≠ some '"' := by
  unfold escapeChar
  split
  · simp
  split
  · simp
  split
  · simp
  split
  · simp
  split
  · simp
  split
  · simp
  split
  · simp
  split
  · rename_i h _ _ _ _ _ _ _
    simpa using h
  split
  · simp [escapeUnit]
  · simp [escapeUnit]

theorem length_escapeChar (c : Char) : 1 ≤ (escapeChar c).length := by
  have h := escapeChar_head c []
  cases he : escapeChar c with
  | nil =>
    have := scanChar_escapeChar c []
    rw [he] at this
    cases this
  | cons d l => simp

theorem scanString_escaped {l r : List Char} {fuel : Nat}
    (h : (l.flatMap escapeChar ++ '"' :: r).length ≤ fuel) :
    scanString fuel (l.flatMap escapeChar ++ '"' :: r) = .ok (l, r) := by
  induction l generalizing fuel with
  | nil =>
    obtain ⟨fuel, rfl⟩ : ∃ n, fuel = n + 1 := ⟨fuel - 1, by simp at h; omega⟩
    rfl
  | cons c l ih =>
    rw [List.flatMap_cons, List.append_assoc] at h ⊢
    have hc := length_escapeChar c
    rw [List.length_append] at h
    obtain ⟨fuel, rfl⟩ : ∃ n, fuel = n + 1 := ⟨fuel - 1, by omega⟩
    rw [scanString, if_neg (escapeChar_head c _), scanChar_escapeChar]
    show (do let (cs, rest) ← scanString fuel _; return (c :: cs, rest)) = _
    rw [ih (by omega)]
    rfl

/-- **A string is scanned back**, after its opening quote. -/
theorem scanString_quoted (s : String) (r : List Char) :
    scanString (quoted s ++ r).length (quoted s ++ r).tail = .ok (s.toList, r) := by
  have htail : (quoted s ++ r).tail = s.toList.flatMap escapeChar ++ '"' :: r := by
    simp [quoted]
  rw [htail]
  refine scanString_escaped ?_
  rw [← htail, List.length_tail]
  omega

/-! ### Numbers -/

/-- What stands after a value in a file. -/
def Ends (r : List Char) : Prop := ∀ c ∈ r.head?, c = ',' ∨ c = ']' ∨ c = '\x7d' ∨ c = '\n'

section Numbers

variable {r : List Char}

theorem Ends.not_digit (h : Ends r) : r.takeWhile Char.isDigit = [] ∧ r.dropWhile Char.isDigit = r := by
  cases r with
  | nil => exact ⟨rfl, rfl⟩
  | cons c r =>
    have hc : c.isDigit = false := by
      rcases h c rfl with rfl | rfl | rfl | rfl <;> decide
    simp [hc]

theorem digits_append (h : Ends r) (t : List Char) :
    (t ++ r).takeWhile Char.isDigit = t.takeWhile Char.isDigit ∧
    (t ++ r).dropWhile Char.isDigit = t.dropWhile Char.isDigit ++ r := by
  induction t with
  | nil => simpa using h.not_digit
  | cons c t ih =>
    by_cases hc : c.isDigit
    · simp [hc, ih.1, ih.2]
    · simp [hc]

theorem intPart_append (h : Ends r) {t ds m : List Char} (ht : intPart t = some (ds, m)) :
    intPart (t ++ r) = some (ds, m ++ r) := by
  cases t with
  | nil => simp [intPart] at ht
  | cons c t =>
    obtain ⟨h1, h2⟩ := digits_append h t
    simp only [intPart, List.cons_append] at ht ⊢
    by_cases hzero : c = '0'
    · rw [if_pos hzero] at ht ⊢
      cases ht
      rfl
    · rw [if_neg hzero] at ht ⊢
      by_cases hdigit : c.isDigit
      · rw [if_pos hdigit] at ht ⊢
        cases ht
        rw [h1, h2]
      · rw [if_neg hdigit] at ht
        cases ht

theorem fracPart_append (h : Ends r) (t : List Char) :
    fracPart (t ++ r) = ((fracPart t).1, (fracPart t).2 ++ r) := by
  cases t with
  | nil =>
    cases r with
    | nil => rfl
    | cons c r =>
      have hc : c ≠ '.' := by rcases h c rfl with rfl | rfl | rfl | rfl <;> decide
      simp [fracPart, hc]
  | cons c t =>
    obtain ⟨h1, h2⟩ := digits_append h t
    simp only [fracPart, List.cons_append, h1, h2]
    split <;> rfl

theorem signPart_append (h : Ends r) (t : List Char) :
    signPart (t ++ r) = ((signPart t).1, (signPart t).2 ++ r) := by
  cases t with
  | nil =>
    cases r with
    | nil => rfl
    | cons c r =>
      have hc : ¬ (c = '-' ∨ c = '+') := by rcases h c rfl with rfl | rfl | rfl | rfl <;> decide
      simp [signPart, hc]
  | cons c t =>
    simp only [signPart, List.cons_append]
    split <;> rfl

theorem expPart_append (h : Ends r) (t : List Char) :
    expPart (t ++ r) = ((expPart t).1, (expPart t).2 ++ r) := by
  cases t with
  | nil =>
    cases r with
    | nil => rfl
    | cons c r =>
      have hc : ¬ (c = 'e' ∨ c = 'E') := by rcases h c rfl with rfl | rfl | rfl | rfl <;> decide
      simp [expPart, hc]
  | cons c t =>
    obtain ⟨h1, h2⟩ := digits_append h (signPart t).2
    simp only [expPart, List.cons_append, signPart_append h, h1, h2]
    split <;> rfl

/-- A number ends where a value ends. -/
theorem scanNumber_append (h : Ends r) {t m : List Char} {l : Literal}
    (ht : scanNumber t = some (l, m)) : scanNumber (t ++ r) = some (l, m ++ r) := by
  cases t with
  | nil => simp [scanNumber, intPart] at ht
  | cons c t =>
    unfold scanNumber at ht ⊢
    have front : (if ((c :: t) ++ r).head? = some '-' then (true, ((c :: t) ++ r).tail)
        else (false, (c :: t) ++ r)) =
      ((if (c :: t).head? = some '-' then (true, (c :: t).tail) else (false, c :: t)).1,
        (if (c :: t).head? = some '-' then (true, (c :: t).tail) else (false, c :: t)).2 ++ r) := by
      by_cases hc : c = '-' <;> simp [hc]
    rw [front]
    dsimp only at ht ⊢
    split at ht
    · cases ht
    · next ds m' hint =>
      rw [intPart_append h hint]
      simp only [Option.some.injEq, Prod.mk.injEq] at ht ⊢
      rw [fracPart_append h, expPart_append h]
      exact ⟨ht.1, by rw [← ht.2]⟩

/-- The scanned text is the literal's. -/
theorem scanNumber_text {t m : List Char} {l : Literal} (ht : scanNumber t = some (l, m)) :
    t = l.text ++ m := by
  have int : ∀ {t ds m}, intPart t = some (ds, m) → t = ds ++ m := by
    intro t ds m h
    unfold intPart at h
    split at h
    · cases h
    · next c rest =>
      split at h
      · next hc =>
        cases h
        rw [hc]
        rfl
      · split at h
        · cases h
          simp
        · cases h
  have frac : ∀ t, t = (fracPart t).1 ++ (fracPart t).2 := by
    intro t
    unfold fracPart
    split
    · rfl
    · split
      · simp
      · rfl
  have sign : ∀ t, t = (signPart t).1 ++ (signPart t).2 := by
    intro t
    unfold signPart
    split
    · rfl
    · split <;> rfl
  have exp : ∀ t, t = (expPart t).1 ++ (expPart t).2 := by
    intro t
    unfold expPart
    split
    · rfl
    · next c rest =>
      dsimp only
      split
      · have hs := sign rest
        simp only [List.cons_append, List.append_assoc, List.takeWhile_append_dropWhile]
        rw [← hs]
      · rfl
  unfold scanNumber at ht
  dsimp only at ht
  split at ht
  · cases ht
  · next ds m' hint =>
    simp only [Option.some.injEq, Prod.mk.injEq] at ht
    obtain ⟨rfl, rfl⟩ := ht
    have hrest := int hint
    rw [frac m', exp (fracPart m').2] at hrest
    simp only [Literal.text, List.append_assoc]
    rw [← hrest]
    cases t with
    | nil => rfl
    | cons c t =>
      by_cases hc : c = '-'
      · simp [hc]
      · simp [hc]

theorem toDigits_head {n : Nat} (hn : 0 < n) :
    ∃ c t, Nat.toDigits 10 n = c :: t ∧ c ≠ '0' := by
  induction n using Nat.strong_induction_on with
  | _ n ih =>
    by_cases hlt : n < 10
    · refine ⟨Nat.digitChar n, [], Nat.toDigits_of_lt_base hlt, ?_⟩
      have digit : ∀ n < 10, 0 < n → Nat.digitChar n ≠ '0' := by decide
      exact digit n hlt hn
    · obtain ⟨c, t, he, hc⟩ := ih (n / 10) (by omega) (by omega)
      refine ⟨c, t ++ [Nat.digitChar (n % 10)], ?_, hc⟩
      rw [Nat.toDigits_of_base_le (by decide) (by omega), he]
      rfl

theorem intPart_toDigits (n : Nat) :
    intPart (Nat.toDigits 10 n) = some (Nat.toDigits 10 n, []) := by
  have digits : ∀ c ∈ Nat.toDigits 10 n, c.isDigit := fun c hc =>
    Nat.isDigit_of_mem_toDigits (by decide) (by decide) hc
  rcases Nat.eq_zero_or_pos n with rfl | hn
  · decide
  · obtain ⟨c, t, he, hc⟩ := toDigits_head hn
    rw [he] at digits ⊢
    have ht : ∀ d ∈ t, d.isDigit := fun d hd => digits d (List.mem_cons_of_mem _ hd)
    have htake : (t ++ []).takeWhile Char.isDigit = t ++ [].takeWhile Char.isDigit :=
      List.takeWhile_append_of_pos ht
    have hdrop : (t ++ []).dropWhile Char.isDigit = [].dropWhile Char.isDigit :=
      List.dropWhile_append_of_pos ht
    simp only [List.append_nil, List.takeWhile_nil, List.dropWhile_nil] at htake hdrop
    rw [intPart, if_neg hc, if_pos (digits c (List.mem_cons_self ..)), htake, hdrop]

/-- An integer's text is scanned as one. -/
theorem scanNumber_int (i : Int) : scanNumber (toString i).toList =
    some (⟨decide (i < 0), Nat.toDigits 10 i.natAbs, [], []⟩, []) := by
  have hint := intPart_toDigits i.natAbs
  rw [toList_toString_int]
  by_cases hi : i < 0
  · rw [if_pos hi]
    simp [scanNumber, hint, fracPart, expPart, hi]
  · have hhead : (Nat.toDigits 10 i.natAbs).head? ≠ some '-' := by
      intro h
      have := Nat.isDigit_of_mem_toDigits (b := 10) (n := i.natAbs) (by decide) (by decide)
        (List.mem_of_mem_head? h)
      exact absurd this (by decide)
    rw [if_neg hi]
    simp [scanNumber, hint, fracPart, expPart, hi, hhead]

end Numbers

end StrictJson

end CloudOpsAgent
