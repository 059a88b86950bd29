/-
  Python strings: sequences of code points, lone surrogates included.

  A `String` has no surrogates, and a text that came in from outside may: an encoder raises on them.

  `int?` is `int(text, base)` as the reference implementation reads it: every decimal digit of
  Unicode counts as its ASCII digit and every space as a blank, one underscore may stand between two
  digits, and in base 16 a `0x` in front is skipped.
-/
import Mathlib.Data.List.Basic

namespace PyText

/-- A code point: a character, or one of the 2048 surrogates, by its place among them. -/
inductive CodePoint where
  | char (c : Char)
  | surrogate (index : Fin 2048)
  deriving DecidableEq

def CodePoint.toNat : CodePoint → Nat
  | char c => c.toNat
  | surrogate index => 0xD800 + index.val

abbrev Text := List CodePoint

/-- A text without surrogates. -/
def ofString (s : String) : Text := s.toList.map .char

def CodePoint.char? : CodePoint → Option Char
  | char c => some c
  | surrogate _ => none

/-- `text.encode("utf-8")`, `none` where it raises `UnicodeEncodeError`. -/
def encode (t : Text) : Option ByteArray := (t.mapM CodePoint.char?).map fun l => (String.ofList l).toUTF8

theorem mapM_char?_eq_some {t : Text} {l : List Char} :
    t.mapM CodePoint.char? = some l ↔ t = l.map .char := by
  induction t generalizing l with
  | nil =>
    cases l with
    | nil => simp
    | cons c l => simp
  | cons p t ih =>
    cases p with
    | surrogate index =>
      cases l with
      | nil => simp [CodePoint.char?]
      | cons c l => simp [CodePoint.char?]
    | char c =>
      constructor
      · intro h
        obtain ⟨l', hl', rfl⟩ : ∃ l', t.mapM CodePoint.char? = some l' ∧ c :: l' = l := by
          simpa [CodePoint.char?, Option.bind_eq_some_iff] using h
        rw [ih.1 hl']
        rfl
      · intro h
        cases l with
        | nil => simp at h
        | cons c' l =>
          simp only [List.map_cons, List.cons.injEq, CodePoint.char.injEq] at h
          obtain ⟨rfl, ht⟩ := h
          simp [CodePoint.char?, ih.2 ht]

/-- The encoding determines the text. -/
theorem encode_inj {t u : Text} {b : ByteArray} (ht : encode t = some b) (hu : encode u = some b) :
    t = u := by
  simp only [encode, Option.map_eq_some_iff] at ht hu
  obtain ⟨l, hl, rfl⟩ := ht
  obtain ⟨l', hl', he⟩ := hu
  have same : String.ofList l' = String.ofList l := String.toByteArray_inj.1 he
  obtain rfl : l' = l := String.ofList_injective same
  rw [mapM_char?_eq_some.1 hl, mapM_char?_eq_some.1 hl']

/-- `ch.isspace()`, of a code point by its number. -/
def isSpace (n : Nat) : Bool :=
  (9 ≤ n && n ≤ 13) || (28 ≤ n && n ≤ 32) || n == 133 || n == 160 || n == 5760 ||
    (8192 ≤ n && n ≤ 8202) || n == 8232 || n == 8233 || n == 8239 || n == 8287 || n == 12288

/-- `text == text.strip()`. -/
def isStripped (t : Text) : Bool :=
  !t.head?.any (isSpace ·.toNat) && !t.getLast?.any (isSpace ·.toNat)

/-- `text.removeprefix(p)` of a text that starts with it, else `none`. -/
def afterPrefix (p t : Text) : Option Text := if p <+: t then some (t.drop p.length) else none

theorem afterPrefix_eq_some {p t u : Text} : afterPrefix p t = some u ↔ t = p ++ u := by
  unfold afterPrefix
  split
  · next h =>
    obtain ⟨v, rfl⟩ := h
    simp
  · next h =>
    constructor
    · intro hu
      simp at hu
    · rintro rfl
      exact absurd (List.prefix_append ..) h

theorem ofString_inj {s s' : String} (h : ofString s = ofString s') : s = s' := by
  have chars : s.toList = s'.toList :=
    List.map_injective_iff.2 (fun c c' hc => by injection hc) h
  exact String.toList_inj.1 chars

/-! ## Removing and reading -/

/-- `text.replace(p, "")`, where the next `skip` code points belong to an occurrence already seen. -/
def removeFrom (p : Text) : Nat → Text → Text
  | _, [] => []
  | skip + 1, _ :: t => removeFrom p skip t
  | 0, c :: t => if p <+: c :: t then removeFrom p (p.length - 1) t else c :: removeFrom p 0 t

/-- `text.replace(p, "")`. -/
def remove (p t : Text) : Text := removeFrom p 0 t

/-- `text.strip(chars)`. -/
def strip (chars t : Text) : Text :=
  ((t.dropWhile (· ∈ chars)).reverse.dropWhile (· ∈ chars)).reverse

/-- The zeros of the runs of decimal digits of Unicode 15. -/
def decimalZeros : List Nat :=
  [0x30, 0x660, 0x6f0, 0x7c0, 0x966, 0x9e6, 0xa66, 0xae6, 0xb66, 0xbe6, 0xc66, 0xce6, 0xd66, 0xde6,
    0xe50, 0xed0, 0xf20, 0x1040, 0x1090, 0x17e0, 0x1810, 0x1946, 0x19d0, 0x1a80, 0x1a90, 0x1b50,
    0x1bb0, 0x1c40, 0x1c50, 0xa620, 0xa8d0, 0xa900, 0xa9d0, 0xa9f0, 0xaa50, 0xabf0, 0xff10, 0x104a0,
    0x10d30, 0x11066, 0x110f0, 0x11136, 0x111d0, 0x112f0, 0x11450, 0x114d0, 0x11650, 0x116c0,
    0x11730, 0x118e0, 0x11950, 0x11c50, 0x11d50, 0x11da0, 0x11f50, 0x16a60, 0x16ac0, 0x16b50,
    0x1d7ce, 0x1d7d8, 0x1d7e2, 0x1d7ec, 0x1d7f6, 0x1e140, 0x1e2f0, 0x1e4f0, 0x1e950, 0x1fbf0]

/-- `unicodedata.decimal(ch)`, of a code point by its number. -/
def decimal? (n : Nat) : Option Nat :=
  decimalZeros.findSome? fun z => if z ≤ n ∧ n < z + 10 then some (n - z) else none

/-- The character a numeral is read with: ASCII stays, spaces and digits become theirs. -/
def numeralChar? (p : CodePoint) : Option Char :=
  let n := p.toNat
  if n < 127 then some (.ofNat n)
  else if isSpace n then some ' '
  else (decimal? n).map fun d => .ofNat (48 + d)

/-- `Py_ISSPACE`. -/
def isBlank (c : Char) : Bool := c = ' ' || (9 ≤ c.toNat && c.toNat ≤ 13)

/-- The value of a digit, in the bases that have it. -/
def digit? (base : Nat) (c : Char) : Option Nat :=
  let value :=
    if '0' ≤ c ∧ c ≤ '9' then c.toNat - 48
    else if 'a' ≤ c ∧ c ≤ 'z' then c.toNat - 87
    else if 'A' ≤ c ∧ c ≤ 'Z' then c.toNat - 55
    else base
  if value < base then some value else none

/-- The value of the digits in front and what follows them; `pending` after an underscore. -/
def readDigits (base value : Nat) (pending : Bool) : List Char → Option (Nat × List Char)
  | [] => if pending then none else some (value, [])
  | c :: t =>
    if c = '_' then
      if pending then none else readDigits base value true t
    else
      match digit? base c with
      | some d => readDigits base (base * value + d) false t
      | none => if pending then none else some (value, c :: t)

/-- Skip a `0x` and the one underscore allowed after it. -/
def skipHexPrefix : List Char → List Char
  | '0' :: 'x' :: '_' :: t | '0' :: 'X' :: '_' :: t | '0' :: 'x' :: t | '0' :: 'X' :: t => t
  | t => t

/-- `sys.int_info.default_max_str_digits`: longer decimal numerals are neither read nor written. -/
def maxStrDigits : Nat := 4300

/-- A numeral without its sign, then blanks to the end. -/
def magnitude (base : Nat) (s : List Char) : Option Nat :=
  let digits := if base = 16 then skipHexPrefix s else s
  if (digits.head?.bind (digit? base)).isNone then none
  else (readDigits base 0 false digits).bind fun (value, rest) =>
    if base = 10 ∧ maxStrDigits < digits.countP (fun c => (digit? base c).isSome) then none
    else if rest.all isBlank then some value
    else none

/-- `int(text, base)` in base 10 or 16, `none` where it raises `ValueError`. -/
def int? (base : Nat) (t : Text) : Option Int :=
  (t.mapM numeralChar?).bind fun s =>
    match s.dropWhile isBlank with
    | '-' :: s => (magnitude base s).map fun n => -(n : Int)
    | '+' :: s => (magnitude base s).map (·)
    | s => (magnitude base s).map (·)

/-! ## Decimal numerals -/

theorem isDigit_range {c : Char} (hc : c.isDigit) : 48 ≤ c.toNat ∧ c.toNat ≤ 57 := by
  simp only [Char.isDigit, Bool.and_eq_true, decide_eq_true_eq] at hc
  exact hc

theorem digit?_of_isDigit {c : Char} (hc : c.isDigit) : digit? 10 c = some (c.toNat - 48) := by
  have hrange := isDigit_range hc
  unfold digit?
  rw [if_pos (show '0' ≤ c ∧ c ≤ '9' from hrange)]
  exact if_pos (by omega)

theorem readDigits_of_isDigit {ds : List Char} (hds : ∀ c ∈ ds, c.isDigit) (value : Nat) :
    readDigits 10 value false ds = some (Nat.ofDigitChars 10 ds value, []) := by
  induction ds generalizing value with
  | nil => rfl
  | cons c ds ih =>
    have hc : c.isDigit := hds c (List.mem_cons_self ..)
    have hunder : c ≠ '_' := by
      rintro rfl
      exact absurd hc (by decide)
    rw [readDigits, if_neg hunder, digit?_of_isDigit hc, Nat.ofDigitChars_cons]
    exact ih (fun d hd => hds d (List.mem_cons_of_mem _ hd)) _

/-- A numeral without a sign is read back. -/
theorem magnitude_toDigits {n : Nat} (hn : (Nat.toDigits 10 n).length ≤ maxStrDigits) :
    magnitude 10 (Nat.toDigits 10 n) = some n := by
  have hds : ∀ c ∈ Nat.toDigits 10 n, c.isDigit := fun c hc =>
    Nat.isDigit_of_mem_toDigits (by decide) (by decide) hc
  have hread := readDigits_of_isDigit hds 0
  rw [Nat.ofDigitChars_ten_toDigits] at hread
  have hhead : ((Nat.toDigits 10 n).head?.bind (digit? 10)).isNone = false := by
    cases hdigits : Nat.toDigits 10 n with
    | nil => exact absurd hdigits Nat.toDigits_ne_nil
    | cons c cs =>
      have hc : c.isDigit := hds c (hdigits ▸ List.mem_cons_self ..)
      rw [List.head?_cons, Option.bind_some, digit?_of_isDigit hc]
      rfl
  have hcount : ¬(maxStrDigits < (Nat.toDigits 10 n).countP fun c => (digit? 10 c).isSome) := by
    have := List.countP_le_length (p := fun c => (digit? 10 c).isSome) (l := Nat.toDigits 10 n)
    omega
  have hten : ¬(10 = 16) := by decide
  simp only [magnitude, if_neg hten, hhead, hread, Option.bind_some]
  rw [if_neg (by decide), if_neg (fun h => hcount h.2)]
  rfl

theorem mapM_numeralChar? {s : List Char} (hs : ∀ c ∈ s, c.toNat < 127) :
    (s.map CodePoint.char).mapM numeralChar? = some s := by
  induction s with
  | nil => rfl
  | cons c s ih =>
    have hc : numeralChar? (.char c) = some c := by
      show (if c.toNat < 127 then _ else _) = _
      rw [if_pos (hs c (List.mem_cons_self ..))]
      exact congrArg some (Char.ofNat_toNat c)
    rw [List.map_cons, List.mapM_cons, hc, ih fun d hd => hs d (List.mem_cons_of_mem _ hd)]
    rfl

end PyText
