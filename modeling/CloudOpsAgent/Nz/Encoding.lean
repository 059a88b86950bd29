/-
  The canonical encoding determines the value.

  A digest binds what its text determines, so the chain of digests in a checkpoint is as good as the
  encoding is unambiguous.  It is, up to the order of the keys of a dictionary, which `sort_keys`
  removes:

  1. **Digits** — a number of fixed width is read back from its digits.

  2. **Identifiers** — the texts of a UUID and of a digest.

  3. **Strings** — the escapes of `ensure_ascii`, surrogate pairs included, are a prefix code.

  4. **Values** — `Same` is Python's equality of dictionaries; `wellFormed` is what a Python value
     is besides: keys are distinct and floats are finite.

  5. **The encoding** — what follows a value never continues it (`Stops`), so two texts that agree
     agree value by value (`render_prefix`), by induction on the first value.  `dumps_inj` is the
     result.
-/
import CloudOpsAgent.Nz.Canonical

namespace CloudOpsAgent

/-! ## Digits -/

/-- A text of `width` digits in base `b` is read back modulo `b ^ width`. -/
theorem foldl_digits {text : Nat → Nat → List Char} {value : Char → Nat} {b : Nat} (hb : 0 < b)
    (hnil : ∀ n, text n 0 = [])
    (hcons : ∀ n width, text n (width + 1) = Nat.digitChar (n / b ^ width % b) :: text n width)
    (hvalue : ∀ d < b, value (Nat.digitChar d) = d) (n width : Nat) :
    ∀ acc, (text n width).foldl (fun n c => b * n + value c) acc =
      acc * b ^ width + n % b ^ width := by
  induction width with
  | zero => intro acc; simp [hnil, Nat.mod_one]
  | succ width ih =>
    intro acc
    have hd := hvalue (n / b ^ width % b) (Nat.mod_lt _ hb)
    have hmod : n % b ^ (width + 1) = n / b ^ width % b * b ^ width + n % b ^ width := by
      rw [pow_succ, Nat.mod_mul, Nat.add_comm, Nat.mul_comm]
    have hacc : b * acc * b ^ width = acc * (b ^ width * b) := by
      rw [Nat.mul_comm b acc, Nat.mul_assoc, Nat.mul_comm b]
    rw [hcons, List.foldl_cons, ih, hd, hmod, pow_succ, Nat.add_mul, hacc, Nat.add_assoc]

def hexValue (c : Char) : Nat := if c.isDigit then c.toNat - 48 else c.toNat - 87

theorem hexValue_digitChar : ∀ d < 16, hexValue (Nat.digitChar d) = d := by decide

def readHex (text : List Char) : Nat := text.foldl (fun n c => 16 * n + hexValue c) 0

theorem readHex_hexDigits (n width : Nat) :
    readHex (UUID.hexDigits n width) = n % 16 ^ width := by
  have h := @foldl_digits UUID.hexDigits hexValue 16 (by decide) (fun _ => rfl) (fun _ _ => rfl)
    hexValue_digitChar n width 0
  rw [readHex, h, Nat.zero_mul, Nat.zero_add]

theorem length_hexDigits (n width : Nat) : (UUID.hexDigits n width).length = width := by
  induction width with
  | zero => rfl
  | succ width ih => rw [UUID.hexDigits, List.length_cons, ih]

/-! ## Identifiers -/

theorem Sha256Digest.hex_inj {d d' : Sha256Digest} (h : d.hex = d'.hex) : d = d' := by
  have hread := congrArg readHex (String.ofList_injective h)
  rw [readHex_hexDigits, readHex_hexDigits] at hread
  have hd : d.bits.toNat < 2 ^ 256 := d.bits.isLt
  have hd' : d'.bits.toNat < 2 ^ 256 := d'.bits.isLt
  have hbits : d.bits = d'.bits := BitVec.eq_of_toNat_eq (by omega)
  cases d
  cases d'
  exact congrArg _ hbits

namespace UUID

theorem toNat_bits (u : UUID) : u.bits.toNat =
    (((u.timeBits.toNat * 2 ^ 4 + 7) * 2 ^ 12 + u.randA.toNat) * 2 ^ 2 + 2) * 2 ^ 62 +
      u.randB.toNat := by
  have happend {m n : Nat} (x : BitVec m) (y : BitVec n) :
      (x ++ y).toNat = x.toNat * 2 ^ n + y.toNat := by
    rw [BitVec.toNat_append, ← Nat.shiftLeft_add_eq_or_of_lt y.isLt, Nat.shiftLeft_eq]
  simp only [bits, BitVec.toNat_cast, happend]
  rfl

theorem bits_inj {u u' : UUID} (h : u.bits.toNat = u'.bits.toNat) : u = u' := by
  rw [toNat_bits, toNat_bits] at h
  obtain ⟨time, randA, randB⟩ := u
  obtain ⟨time', randA', randB'⟩ := u'
  have ha : randA.toNat < 2 ^ 12 := randA.isLt
  have ha' : randA'.toNat < 2 ^ 12 := randA'.isLt
  have hb : randB.toNat < 2 ^ 62 := randB.isLt
  have hb' : randB'.toNat < 2 ^ 62 := randB'.isLt
  simp only at h
  have htime : time = time' := BitVec.eq_of_toNat_eq (by omega)
  have hA : randA = randA' := BitVec.eq_of_toNat_eq (by omega)
  have hB : randB = randB' := BitVec.eq_of_toNat_eq (by omega)
  rw [htime, hA, hB]

theorem str_inj {u u' : UUID} (h : u.str = u'.str) : u = u' := by
  have hlist := String.ofList_injective h
  simp only [List.append_assoc, List.cons_append] at hlist
  have split {n n' width : Nat} {t t' : List Char}
      (h : hexDigits n width ++ t = hexDigits n' width ++ t') :
      n % 16 ^ width = n' % 16 ^ width ∧ t = t' := by
    obtain ⟨hdigits, ht⟩ := List.append_inj h (by rw [length_hexDigits, length_hexDigits])
    have hread := congrArg readHex hdigits
    rw [readHex_hexDigits, readHex_hexDigits] at hread
    exact ⟨hread, ht⟩
  obtain ⟨h1, hlist⟩ := split hlist
  obtain ⟨h2, hlist⟩ := split (List.cons.inj hlist).2
  obtain ⟨h3, hlist⟩ := split (List.cons.inj hlist).2
  obtain ⟨h4, hlist⟩ := split (List.cons.inj hlist).2
  have h5 := congrArg readHex (List.cons.inj hlist).2
  rw [readHex_hexDigits, readHex_hexDigits] at h5
  have hu : u.bits.toNat < 2 ^ 128 := u.bits.isLt
  have hu' : u'.bits.toNat < 2 ^ 128 := u'.bits.isLt
  apply bits_inj
  omega

end UUID

/-! ## Strings -/

namespace Json

/-- Read one `\uXXXX`. -/
def readUnit : List Char → Option (Nat × List Char)
  | '\\' :: 'u' :: a :: b :: c :: d :: rest => some (readHex [a, b, c, d], rest)
  | _ => none

/-- The two-character escapes. -/
def escapes : List (Char × Char) :=
  [('"', '"'), ('\\', '\\'), ('n', '\n'), ('r', '\r'), ('t', '\t'), ('b', Char.ofNat 8),
    ('f', Char.ofNat 12)]

/-- Read one character of a string literal, `none` at its end. -/
def readChar (text : List Char) : Option (Char × List Char) :=
  match readUnit text with
  | some (n, rest) =>
    if 55296 ≤ n ∧ n < 56320 then
      (readUnit rest).map fun low =>
        (Char.ofNat (65536 + (n - 55296) * 1024 + (low.1 - 56320)), low.2)
    else some (Char.ofNat n, rest)
  | none =>
    match text with
    | '\\' :: c :: rest => (escapes.lookup c).map fun c => (c, rest)
    | c :: rest => if c = '"' then none else some (c, rest)
    | [] => none

theorem readUnit_escapeUnit {n : Nat} (hn : n < 65536) (rest : List Char) :
    readUnit (escapeUnit n ++ rest) = some (n, rest) := by
  have hread : readHex (UUID.hexDigits n 4) = n :=
    (readHex_hexDigits n 4).trans (Nat.mod_eq_of_lt hn)
  change some (readHex (UUID.hexDigits n 4), rest) = _
  rw [hread]

/-- **A character is read back** from its escape. -/
theorem readChar_escapeChar (c : Char) (rest : List Char) :
    readChar (escapeChar c ++ rest) = some (c, rest) := by
  have control {n : Nat} (hc : c.toNat = n) : c = Char.ofNat n := by rw [← hc, Char.ofNat_toNat]
  have hvalid : c.toNat < 55296 ∨ 57343 < c.toNat ∧ c.toNat < 1114112 := c.valid
  unfold escapeChar
  split
  · subst c; rfl
  split
  · subst c; rfl
  split
  · subst c; rfl
  split
  · subst c; rfl
  split
  · subst c; rfl
  split
  · rename_i hc
    rw [control hc]
    rfl
  split
  · rename_i hc
    rw [control hc]
    rfl
  split
  · -- the character itself
    rename_i hquote hslash _ _ _ _ _ _
    have hunit : readUnit (c :: rest) = none := by
      unfold readUnit
      split
      · rename_i heq
        exact absurd (List.cons.inj heq).1 hslash
      · rfl
    change readChar (c :: rest) = _
    simp only [readChar, hunit]
    split
    · rename_i heq
      exact absurd (List.cons.inj heq).1 hslash
    · rename_i heq
      obtain ⟨rfl, rfl⟩ := List.cons.inj heq
      exact if_neg hquote
    · rename_i heq
      cases heq
  split
  · -- a character of the basic plane is no half of a pair
    rename_i hlt
    have hpair : ¬(55296 ≤ c.toNat ∧ c.toNat < 56320) := by omega
    simp only [readChar, readUnit_escapeUnit hlt, if_neg hpair, Char.ofNat_toNat]
  · rename_i hge
    have hhigh : 55296 + (c.toNat - 65536) / 1024 < 65536 := by omega
    have hlow : 56320 + (c.toNat - 65536) % 1024 < 65536 := by omega
    have hpair : 55296 ≤ 55296 + (c.toNat - 65536) / 1024 ∧
        55296 + (c.toNat - 65536) / 1024 < 56320 := by omega
    have hvalue : 65536 + (55296 + (c.toNat - 65536) / 1024 - 55296) * 1024 +
        (56320 + (c.toNat - 65536) % 1024 - 56320) = c.toNat := by omega
    simp only [readChar, List.append_assoc, readUnit_escapeUnit hhigh, if_pos hpair,
      readUnit_escapeUnit hlow, Option.map_some, hvalue, Char.ofNat_toNat]

theorem escaped_prefix {l l' r r' : List Char}
    (h : l.flatMap escapeChar ++ '"' :: r = l'.flatMap escapeChar ++ '"' :: r') :
    l = l' ∧ r = r' := by
  have hend (r : List Char) : readChar ('"' :: r) = none := rfl
  induction l generalizing l' with
  | nil =>
    cases l' with
    | nil => exact ⟨rfl, (List.cons.inj h).2⟩
    | cons c' l' =>
      have hread := congrArg readChar h
      rw [List.flatMap_nil, List.nil_append, hend, List.flatMap_cons, List.append_assoc,
        readChar_escapeChar] at hread
      cases hread
  | cons c l ih =>
    have hread := congrArg readChar h
    rw [List.flatMap_cons, List.append_assoc, readChar_escapeChar] at hread
    cases l' with
    | nil =>
      rw [List.flatMap_nil, List.nil_append, hend] at hread
      cases hread
    | cons c' l' =>
      rw [List.flatMap_cons, List.append_assoc, readChar_escapeChar] at hread
      simp only [Option.some.injEq, Prod.mk.injEq] at hread
      obtain ⟨rfl, hrest⟩ := hread
      obtain ⟨rfl, rfl⟩ := ih hrest
      exact ⟨rfl, rfl⟩

theorem quoted_prefix {s s' : String} {r r' : List Char}
    (h : quoted s ++ r = quoted s' ++ r') : s = s' ∧ r = r' := by
  simp only [quoted, List.cons_append, List.append_assoc, List.nil_append] at h
  obtain ⟨hs, hr⟩ := escaped_prefix (List.cons.inj h).2
  exact ⟨String.toList_inj.mp hs, hr⟩

/-! ## Values -/

/-- Induction on a value: the elements of a list, the values of a dictionary. -/
@[elab_as_elim]
theorem induct {P : Json → Prop} (null : P null) (bool : ∀ b, P (bool b)) (int : ∀ i, P (int i))
    (float : ∀ repr, P (float repr)) (str : ∀ s, P (str s))
    (arr : ∀ items, (∀ j ∈ items, P j) → P (arr items))
    (obj : ∀ fields, (∀ f ∈ fields, P f.2) → P (obj fields)) (j : Json) : P j :=
  @Json.rec P (fun items => ∀ j ∈ items, P j) (fun fields => ∀ f ∈ fields, P f.2) (fun f => P f.2)
    null bool int float str arr obj nofun
    (fun _ _ hj hitems => List.forall_mem_cons.mpr ⟨hj, hitems⟩) nofun
    (fun _ _ hf hfields => List.forall_mem_cons.mpr ⟨hf, hfields⟩) (fun _ _ hj => hj) j

/-- The characters of a number. -/
def numeral (c : Char) : Bool := c.isDigit || c == '-' || c == '+' || c == '.' || c == 'e'

/-- What `float.__repr__` writes for a finite float: there is always a point or an exponent. -/
def isFloatText (repr : String) : Bool :=
  repr.toList.all numeral && (repr.toList.contains '.' || repr.toList.contains 'e')

mutual

/-- What a Python value encoded with `allow_nan=False` is besides its shape: the keys of a
    dictionary are distinct, and a float is finite. -/
def wellFormed : Json → Bool
  | float repr => isFloatText repr
  | arr items => allWellFormed items
  | obj fields => (fields.map Prod.fst).Nodup && fieldsWellFormed fields
  | _ => true

def allWellFormed : List Json → Bool
  | [] => true
  | j :: js => j.wellFormed && allWellFormed js

def fieldsWellFormed : List (String × Json) → Bool
  | [] => true
  | (_, j) :: fs => j.wellFormed && fieldsWellFormed fs

end

theorem allWellFormed_iff {items : List Json} :
    allWellFormed items ↔ ∀ j ∈ items, j.wellFormed := by
  induction items with
  | nil => simp [allWellFormed]
  | cons j js ih => simp [allWellFormed, ih]

theorem fieldsWellFormed_iff {fields : List (String × Json)} :
    fieldsWellFormed fields ↔ ∀ f ∈ fields, f.2.wellFormed := by
  induction fields with
  | nil => simp [fieldsWellFormed]
  | cons f fs ih => simp [fieldsWellFormed, ih]

theorem wellFormed_arr {items : List Json} :
    (arr items).wellFormed ↔ ∀ j ∈ items, j.wellFormed := by
  rw [wellFormed, allWellFormed_iff]

theorem wellFormed_obj {fields : List (String × Json)} : (obj fields).wellFormed ↔
    (fields.map Prod.fst).Nodup ∧ ∀ f ∈ fields, f.2.wellFormed := by
  rw [wellFormed, Bool.and_eq_true, decide_eq_true_eq, fieldsWellFormed_iff]

mutual

/-- The two are one Python value: lists element by element; two dictionaries of one size, where
    each key of the first is in the second with the same value. -/
def Same : Json → Json → Prop
  | null, null => True
  | bool b, bool b' => b = b'
  | int i, int i' => i = i'
  | float repr, float repr' => repr = repr'
  | str s, str s' => s = s'
  | arr items, arr items' => SameAll items items'
  | obj fields, obj fields' => fields.length = fields'.length ∧ SameFields fields fields'
  | _, _ => False

def SameAll : List Json → List Json → Prop
  | [], [] => True
  | j :: js, j' :: js' => Same j j' ∧ SameAll js js'
  | _, _ => False

def SameFields : List (String × Json) → List (String × Json) → Prop
  | [], _ => True
  | (k, j) :: fs, fields' => (∃ j', (k, j') ∈ fields' ∧ Same j j') ∧ SameFields fs fields'

end

theorem sameAll_iff {items items' : List Json} :
    SameAll items items' ↔ List.Forall₂ Same items items' := by
  induction items generalizing items' with
  | nil => cases items' <;> simp [SameAll]
  | cons j js ih => cases items' <;> simp [SameAll, ih]

theorem sameFields_iff {fields fields' : List (String × Json)} :
    SameFields fields fields' ↔ ∀ f ∈ fields, ∃ j', (f.1, j') ∈ fields' ∧ Same f.2 j' := by
  induction fields with
  | nil => simp [SameFields]
  | cons f fs ih => simp [SameFields, ih]

/-- Dictionaries with the same keys in the same order are the same value by value. -/
theorem values_of_same {fields fields' : List (String × Json)}
    (hkeys : fields.map Prod.fst = fields'.map Prod.fst) (hnodup : (fields'.map Prod.fst).Nodup)
    (h : Same (obj fields) (obj fields')) :
    List.Forall₂ Same (fields.map Prod.snd) (fields'.map Prod.snd) := by
  have hfields := sameFields_iff.mp h.2
  clear h
  -- the value found under a key of `fields` is the one that stands there in `fields'`
  have value (f : String × Json) (hf : f ∈ fields) (f' : String × Json) (hf' : f' ∈ fields')
      (hkey : f.1 = f'.1) : Same f.2 f'.2 := by
    obtain ⟨j', hj', hsame⟩ := hfields f hf
    have heq : (f.1, j') = f' := List.inj_on_of_nodup_map hnodup hj' hf' hkey
    rw [← heq]
    exact hsame
  clear hfields hnodup
  induction fields generalizing fields' with
  | nil =>
    rw [List.map_nil, eq_comm, List.map_eq_nil_iff] at hkeys
    subst hkeys
    exact .nil
  | cons f fs ih =>
    cases fields' with
    | nil => cases hkeys
    | cons f' fs' =>
      obtain ⟨hkey, hkeys⟩ := List.cons.inj hkeys
      refine .cons (value f (List.mem_cons_self ..) f' (List.mem_cons_self ..) hkey) ?_
      exact ih hkeys fun g hg g' hg' =>
        value g (List.mem_cons_of_mem _ hg) g' (List.mem_cons_of_mem _ hg')

/-! ## The encoding -/

/-- Nothing here continues a number. -/
def Stops (r : List Char) : Prop := ∀ c ∈ r.head?, numeral c = false

theorem stops_cons {c : Char} {r : List Char} (hc : numeral c = false) : Stops (c :: r) := by
  intro c' h
  cases h
  exact hc

/-- A number ends where its characters do. -/
theorem numerals_prefix {t t' r r' : List Char} (ht : ∀ c ∈ t, numeral c) (ht' : ∀ c ∈ t', numeral c)
    (hr : Stops r) (hr' : Stops r') (h : t ++ r = t' ++ r') : t = t' ∧ r = r' := by
  induction t generalizing t' with
  | nil =>
    cases t' with
    | nil => exact ⟨rfl, h⟩
    | cons c' t' =>
      rw [List.nil_append] at h
      have hc := hr c' (by rw [h]; rfl)
      rw [ht' c' (List.mem_cons_self ..)] at hc
      cases hc
  | cons c t ih =>
    cases t' with
    | nil =>
      rw [List.nil_append] at h
      have hc := hr' c (by rw [← h]; rfl)
      rw [ht c (List.mem_cons_self ..)] at hc
      cases hc
    | cons c' t' =>
      obtain ⟨rfl, htail⟩ := List.cons.inj h
      obtain ⟨rfl, rfl⟩ := ih (fun x hx => ht x (List.mem_cons_of_mem _ hx))
        (fun x hx => ht' x (List.mem_cons_of_mem _ hx)) htail
      exact ⟨rfl, rfl⟩

theorem toList_toString_int (i : Int) : (toString i).toList =
    (if i < 0 then ['-'] else []) ++ Nat.toDigits 10 i.natAbs := by
  cases i with
  | ofNat n =>
    change (Nat.repr n).toList = _
    rw [Nat.toList_repr, if_neg (by simp)]
    rfl
  | negSucc n =>
    change ("-" ++ Nat.repr (n + 1)).toList = _
    rw [String.toList_append, Nat.toList_repr, if_pos (Int.negSucc_lt_zero n)]
    rfl

/-- An integer is written with digits, after a sign. -/
theorem int_text {i : Int} {c : Char} (hc : c ∈ (toString i).toList) : c.isDigit ∨ c = '-' := by
  rw [toList_toString_int, List.mem_append] at hc
  obtain hc | hc := hc
  · split at hc
    · exact .inr (List.mem_singleton.mp hc)
    · cases hc
  · exact .inl (Nat.isDigit_of_mem_toDigits (by decide) (by decide) hc)

theorem int_inj {i i' : Int} (h : (toString i).toList = (toString i').toList) : i = i' := by
  have unsigned {n n' : Nat} (h : '-' :: Nat.toDigits 10 n = Nat.toDigits 10 n') : False := by
    have hsign : '-' ∈ Nat.toDigits 10 n' := by rw [← h]; exact List.mem_cons_self ..
    exact absurd (Nat.isDigit_of_mem_toDigits (by decide) (by decide) hsign) (by decide)
  have digits {n n' : Nat} (h : Nat.toDigits 10 n = Nat.toDigits 10 n') : n = n' := by
    calc
      n = Nat.ofDigitChars 10 (Nat.toDigits 10 n) 0 := Nat.ofDigitChars_ten_toDigits.symm
      _ = Nat.ofDigitChars 10 (Nat.toDigits 10 n') 0 := by rw [h]
      _ = n' := Nat.ofDigitChars_ten_toDigits
  rw [toList_toString_int, toList_toString_int] at h
  split at h
  · split at h
    · have habs := digits (List.cons.inj h).2
      omega
    · exact (unsigned h).elim
  · split at h
    · exact (unsigned h.symm).elim
    · have habs := digits h
      omega

/-- The texts of an integer and of a float differ. -/
theorem int_ne_float {i : Int} {repr : String} (hrepr : isFloatText repr) :
    (toString i).toList ≠ repr.toList := by
  intro h
  rw [isFloatText, Bool.and_eq_true, Bool.or_eq_true, List.contains_iff_mem,
    List.contains_iff_mem] at hrepr
  obtain hpoint | hexponent := hrepr.2
  · rw [← h] at hpoint
    exact absurd (int_text hpoint) (by decide)
  · rw [← h] at hexponent
    exact absurd (int_text hexponent) (by decide)

/-- The characters of a number's text, where the value is one. -/
theorem numeral_of_mem {c : Char} {j : Json} (hj : j.wellFormed) (hlead : j matches int _ | float _)
    (hc : c ∈ j.render) : numeral c := by
  cases j with
  | int i =>
    obtain hdigit | rfl := int_text hc
    · simp [numeral, hdigit]
    · decide
  | float repr =>
    rw [wellFormed, isFloatText, Bool.and_eq_true, List.all_eq_true] at hj
    exact hj.1 c hc
  | _ => cases hlead

/-- What kind of value a text that begins with `c` is. -/
def kindOf (c : Char) : Nat :=
  if numeral c then 0
  else if c = 'n' then 1
  else if c = 't' ∨ c = 'f' then 2
  else if c = '"' then 3
  else if c = '[' then 4
  else if c = '{' then 5
  else 6

def kind : Json → Nat
  | int _ | float _ => 0
  | null => 1
  | bool _ => 2
  | str _ => 3
  | arr _ => 4
  | obj _ => 5

/-- **The first character** tells the kind of a value. -/
theorem render_head {j : Json} (hj : j.wellFormed) :
    ∃ c t, j.render = c :: t ∧ kindOf c = j.kind := by
  have number (hlead : j matches int _ | float _) (hne : j.render ≠ []) :
      ∃ c t, j.render = c :: t ∧ kindOf c = 0 := by
    obtain ⟨c, t, htext⟩ := List.exists_cons_of_ne_nil hne
    have hc : c ∈ j.render := by rw [htext]; exact List.mem_cons_self ..
    exact ⟨c, t, htext, if_pos (numeral_of_mem hj hlead hc)⟩
  cases j with
  | null => exact ⟨_, _, rfl, rfl⟩
  | bool b => cases b <;> exact ⟨_, _, rfl, rfl⟩
  | int i =>
    refine number rfl fun hnil => ?_
    rw [render, toList_toString_int, List.append_eq_nil_iff] at hnil
    exact Nat.toDigits_ne_nil hnil.2
  | float repr =>
    refine number rfl fun hnil => ?_
    rw [render] at hnil
    rw [wellFormed, isFloatText, hnil] at hj
    cases hj
  | str s => exact ⟨_, _, rfl, rfl⟩
  | arr items => exact ⟨_, _, rfl, rfl⟩
  | obj fields => exact ⟨_, _, rfl, rfl⟩

/-! ### Sequences -/

theorem joined_cons (t : List Char) (ts : List (List Char)) :
    joined (t :: ts) = t ++ ts.flatMap (',' :: ·) := by
  induction ts generalizing t with
  | nil => simp [joined]
  | cons t' ts ih =>
    have h := ih t'
    simp only [joined] at h ⊢
    simp only [List.intersperse_cons_cons, List.flatten_cons, h, List.flatMap_cons]
    rfl

section Joined

variable {α : Type} {text : α → List Char} {R : α → α → Prop} {close : Char}
  (hclose : numeral close = false) (hne : close ≠ ',')

include hclose in
theorem stops_rest (xs : List α) (r : List Char) :
    Stops (xs.flatMap (fun x => ',' :: text x) ++ close :: r) := by
  cases xs with
  | nil => exact stops_cons hclose
  | cons x xs => exact stops_cons rfl

include hclose hne

/-- After its first element, a sequence that agrees with another up to the end of both does so
    element by element. -/
theorem rest_prefix {xs ys : List α}
    (hdet : ∀ x ∈ xs, ∀ y ∈ ys, ∀ r r', Stops r → Stops r' → text x ++ r = text y ++ r' →
      R x y ∧ r = r') {r r' : List Char}
    (h : xs.flatMap (fun x => ',' :: text x) ++ close :: r =
      ys.flatMap (fun y => ',' :: text y) ++ close :: r') : List.Forall₂ R xs ys ∧ r = r' := by
  induction xs generalizing ys with
  | nil =>
    cases ys with
    | nil => exact ⟨.nil, (List.cons.inj h).2⟩
    | cons y ys => exact absurd (List.cons.inj h).1 hne
  | cons x xs ih =>
    cases ys with
    | nil => exact absurd (List.cons.inj h).1.symm hne
    | cons y ys =>
      simp only [List.flatMap_cons, List.cons_append, List.append_assoc, List.cons.injEq,
        true_and] at h
      obtain ⟨hxy, hrest⟩ := hdet x (List.mem_cons_self ..) y (List.mem_cons_self ..) _ _
        (stops_rest hclose xs r) (stops_rest hclose ys r') h
      obtain ⟨hall, rfl⟩ := ih (fun x hx y hy => hdet x (List.mem_cons_of_mem _ hx) y
        (List.mem_cons_of_mem _ hy)) hrest
      exact ⟨.cons hxy hall, rfl⟩

/-- **Two sequences with one text** agree element by element; no element begins with the closing
    bracket, so an empty one is told apart. -/
theorem joined_prefix {xs ys : List α} (hxs : ∀ x ∈ xs, ∃ c t, text x = c :: t ∧ c ≠ close)
    (hys : ∀ y ∈ ys, ∃ c t, text y = c :: t ∧ c ≠ close)
    (hdet : ∀ x ∈ xs, ∀ y ∈ ys, ∀ r r', Stops r → Stops r' → text x ++ r = text y ++ r' →
      R x y ∧ r = r') {r r' : List Char}
    (h : joined (xs.map text) ++ close :: r = joined (ys.map text) ++ close :: r') :
    List.Forall₂ R xs ys ∧ r = r' := by
  have opens {x : α} {t r : List Char} (hx : ∃ c t, text x = c :: t ∧ c ≠ close)
      (h : close :: r = text x ++ t) : False := by
    obtain ⟨c, u, htext, hc⟩ := hx
    rw [htext] at h
    exact hc (List.cons.inj h).1.symm
  cases xs with
  | nil =>
    cases ys with
    | nil => exact ⟨.nil, (List.cons.inj h).2⟩
    | cons y ys =>
      rw [List.map_cons, joined_cons, List.append_assoc] at h
      exact (opens (hys y (List.mem_cons_self ..)) h).elim
  | cons x xs =>
    cases ys with
    | nil =>
      rw [List.map_cons, joined_cons, List.append_assoc] at h
      exact (opens (hxs x (List.mem_cons_self ..)) h.symm).elim
    | cons y ys =>
      simp only [List.map_cons, joined_cons, List.append_assoc, List.flatMap_map] at h
      obtain ⟨hxy, hrest⟩ := hdet x (List.mem_cons_self ..) y (List.mem_cons_self ..) _ _
        (stops_rest hclose xs r) (stops_rest hclose ys r') h
      obtain ⟨hall, rfl⟩ := rest_prefix hclose hne (fun x hx y hy => hdet x
        (List.mem_cons_of_mem _ hx) y (List.mem_cons_of_mem _ hy)) hrest
      exact ⟨.cons hxy hall, rfl⟩

end Joined

/-! ### One value -/

theorem renderAll_eq (items : List Json) : renderAll items = items.map render := by
  induction items with
  | nil => rfl
  | cons j js ih => rw [renderAll, ih, List.map_cons]

theorem renderFields_eq (fields : List (String × Json)) :
    renderFields fields = fields.map fun f => (f.1, f.2.render) := by
  induction fields with
  | nil => rfl
  | cons f fs ih => rw [renderFields, ih, List.map_cons]

/-- A field of a sorted dictionary is the text of one of its fields. -/
theorem mem_sortedFields {fields : List (String × Json)} {f : String × List Char} :
    f ∈ sortedFields (renderFields fields) ↔ ∃ j, (f.1, j) ∈ fields ∧ f.2 = j.render := by
  rw [sortedFields, List.mem_insertionSort, renderFields_eq, List.mem_map]
  constructor
  · rintro ⟨⟨k, j⟩, hmem, rfl⟩
    exact ⟨j, hmem, rfl⟩
  · rintro ⟨j, hmem, hj⟩
    exact ⟨(f.1, j), hmem, by rw [← hj]⟩

theorem length_sortedFields (fields : List (String × Json)) :
    (sortedFields (renderFields fields)).length = fields.length := by
  rw [sortedFields, List.length_insertionSort, renderFields_eq, List.length_map]

/-- A value whose text nothing else begins with. -/
def Determined (j : Json) : Prop := ∀ j' r r', j'.wellFormed → Stops r → Stops r' →
  j.render ++ r = j'.render ++ r' → Same j j' ∧ r = r'

theorem kind_eq {j j' : Json} (hj : j.wellFormed) (hj' : j'.wellFormed) {r r' : List Char}
    (h : j.render ++ r = j'.render ++ r') : j.kind = j'.kind := by
  obtain ⟨c, t, htext, hkind⟩ := render_head hj
  obtain ⟨c', t', htext', hkind'⟩ := render_head hj'
  rw [htext, htext'] at h
  rw [← hkind, ← hkind', (List.cons.inj h).1]

theorem render_ne_close {j : Json} (hj : j.wellFormed) :
    ∃ c t, j.render = c :: t ∧ c ≠ ']' := by
  obtain ⟨c, t, htext, hkind⟩ := render_head hj
  refine ⟨c, t, htext, ?_⟩
  rintro rfl
  cases j <;> cases hkind

theorem determined_arr {items : List Json} (hitems : ∀ j ∈ items, j.wellFormed)
    (ih : ∀ j ∈ items, Determined j) : Determined (arr items) := by
  intro j' r r' hj' _ _ h
  have hkind := kind_eq (wellFormed_arr.mpr hitems) hj' h
  cases j' with
  | arr items' =>
    have hitems' := wellFormed_arr.mp hj'
    simp only [render, renderAll_eq, List.cons_append, List.append_assoc, List.nil_append,
      List.cons.injEq, true_and] at h
    obtain ⟨hall, rfl⟩ := joined_prefix (by decide) (by decide)
      (fun j hj => render_ne_close (hitems j hj)) (fun j hj => render_ne_close (hitems' j hj))
      (fun j hj j' hj' r r' hr hr' heq => ih j hj j' r r' (hitems' j' hj') hr hr' heq) h
    exact ⟨sameAll_iff.mpr hall, rfl⟩
  | _ => cases hkind

/-- Two fields of sorted dictionaries, as texts, with one key and one value. -/
def SameField (fields fields' : List (String × Json)) (f f' : String × List Char) : Prop :=
  f.1 = f'.1 ∧ ∃ j j', (f.1, j) ∈ fields ∧ f.2 = j.render ∧ (f'.1, j') ∈ fields' ∧ Same j j'

theorem exists_of_forall₂ {α β : Type} {R : α → β → Prop} {xs : List α} {ys : List β}
    (h : List.Forall₂ R xs ys) {x : α} (hx : x ∈ xs) : ∃ y ∈ ys, R x y := by
  induction h with
  | nil => cases hx
  | cons hxy _ ih =>
    obtain rfl | hx := List.mem_cons.mp hx
    · exact ⟨_, List.mem_cons_self .., hxy⟩
    · obtain ⟨y, hy, hR⟩ := ih hx
      exact ⟨y, List.mem_cons_of_mem _ hy, hR⟩

/-- **Dictionaries** whose sorted fields agree are the same: a key has one value. -/
theorem same_obj {fields fields' : List (String × Json)} (hkeys : (fields.map Prod.fst).Nodup)
    (hall : List.Forall₂ (SameField fields fields') (sortedFields (renderFields fields))
      (sortedFields (renderFields fields'))) : Same (obj fields) (obj fields') := by
  have hlength := hall.length_eq
  rw [length_sortedFields, length_sortedFields] at hlength
  refine ⟨hlength, sameFields_iff.mpr fun f hf => ?_⟩
  have hsorted : (f.1, f.2.render) ∈ sortedFields (renderFields fields) :=
    mem_sortedFields.mpr ⟨f.2, hf, rfl⟩
  obtain ⟨f', -, hkey, j, j', hj, -, hj', hsame⟩ := exists_of_forall₂ hall hsorted
  have heq : (f.1, j) = f := List.inj_on_of_nodup_map hkeys hj hf rfl
  refine ⟨j', hkey ▸ hj', ?_⟩
  rw [← heq]
  exact hsame

theorem determined_obj {fields : List (String × Json)} (hkeys : (fields.map Prod.fst).Nodup)
    (hfields : ∀ f ∈ fields, f.2.wellFormed) (ih : ∀ f ∈ fields, Determined f.2) :
    Determined (obj fields) := by
  intro j' r r' hj' _ _ h
  have hkind := kind_eq (wellFormed_obj.mpr ⟨hkeys, hfields⟩) hj' h
  cases j' with
  | obj fields' =>
    obtain ⟨-, hfields'⟩ := wellFormed_obj.mp hj'
    have hdet : ∀ f ∈ sortedFields (renderFields fields),
        ∀ f' ∈ sortedFields (renderFields fields'), ∀ r r', Stops r → Stops r' →
          quoted f.1 ++ ':' :: f.2 ++ r = quoted f'.1 ++ ':' :: f'.2 ++ r' →
            SameField fields fields' f f' ∧ r = r' := by
      intro f hf f' hf' r r' hr hr' heq
      obtain ⟨j, hj, hjtext⟩ := mem_sortedFields.mp hf
      obtain ⟨j', hj', hjtext'⟩ := mem_sortedFields.mp hf'
      simp only [List.append_assoc, List.cons_append] at heq
      obtain ⟨hkey, hrest⟩ := quoted_prefix heq
      have hvalues := (List.cons.inj hrest).2
      rw [hjtext, hjtext'] at hvalues
      obtain ⟨hsame, hr⟩ := ih _ hj j' r r' (hfields' _ hj') hr hr' hvalues
      exact ⟨⟨hkey, j, j', hj, hjtext, hj', hsame⟩, hr⟩
    have opens (f : String × List Char) : ∃ c t, quoted f.1 ++ ':' :: f.2 = c :: t ∧ c ≠ '}' :=
      ⟨'"', _, rfl, by decide⟩
    simp only [render, List.cons_append, List.append_assoc, List.nil_append, List.cons.injEq,
      true_and] at h
    obtain ⟨hall, hr⟩ := joined_prefix (by decide) (by decide) (fun f _ => opens f)
      (fun f _ => opens f) hdet h
    exact ⟨same_obj hkeys hall, hr⟩
  | _ => cases hkind

/-- **The encoding is a prefix code**, up to `Same` and where no number is continued. -/
theorem determined (j : Json) : j.wellFormed → Determined j := by
  induction j using induct with
  | null =>
    intro hj j' r r' hj' _ _ h
    have hkind := kind_eq hj hj' h
    cases j' with
    | null => exact ⟨trivial, List.append_cancel_left h⟩
    | _ => cases hkind
  | bool b =>
    intro hj j' r r' hj' _ _ h
    have hkind := kind_eq hj hj' h
    cases j' with
    | bool b' =>
      cases b <;> cases b'
      · exact ⟨rfl, List.append_cancel_left h⟩
      · cases h
      · cases h
      · exact ⟨rfl, List.append_cancel_left h⟩
    | _ => cases hkind
  | int i =>
    intro hj j' r r' hj' hr hr' h
    have hkind := kind_eq hj hj' h
    cases j' with
    | int i' =>
      obtain ⟨htext, hr⟩ := numerals_prefix (fun _ => numeral_of_mem hj rfl)
        (fun _ => numeral_of_mem hj' rfl) hr hr' h
      exact ⟨int_inj htext, hr⟩
    | float repr' =>
      obtain ⟨htext, -⟩ := numerals_prefix (fun _ => numeral_of_mem hj rfl)
        (fun _ => numeral_of_mem hj' rfl) hr hr' h
      exact absurd htext (int_ne_float hj')
    | _ => cases hkind
  | float repr =>
    intro hj j' r r' hj' hr hr' h
    have hkind := kind_eq hj hj' h
    cases j' with
    | int i' =>
      obtain ⟨htext, -⟩ := numerals_prefix (fun _ => numeral_of_mem hj rfl)
        (fun _ => numeral_of_mem hj' rfl) hr hr' h
      exact absurd htext.symm (int_ne_float hj)
    | float repr' =>
      obtain ⟨htext, hr⟩ := numerals_prefix (fun _ => numeral_of_mem hj rfl)
        (fun _ => numeral_of_mem hj' rfl) hr hr' h
      exact ⟨String.toList_inj.mp htext, hr⟩
    | _ => cases hkind
  | str s =>
    intro hj j' r r' hj' _ _ h
    have hkind := kind_eq hj hj' h
    cases j' with
    | str s' => exact quoted_prefix h
    | _ => cases hkind
  | arr items ih =>
    intro hj
    have hitems := wellFormed_arr.mp hj
    exact determined_arr hitems fun j hmem => ih j hmem (hitems j hmem)
  | obj fields ih =>
    intro hj
    obtain ⟨hkeys, hfields⟩ := wellFormed_obj.mp hj
    exact determined_obj hkeys hfields fun f hmem => ih f hmem (hfields f hmem)

/-- **The canonical text determines the value.** -/
theorem dumps_inj {j j' : Json} (hj : j.wellFormed) (hj' : j'.wellFormed)
    (h : j.dumps = j'.dumps) : Same j j' := by
  have hstop : Stops [] := nofun
  have htext := String.ofList_injective h
  exact (determined j hj j' [] [] hj' hstop hstop (by rw [htext])).1

/-! ### The other way: one value has one text -/

theorem Same.refl (j : Json) : Same j j := by
  induction j using Json.induct with
  | null => trivial
  | bool b => rfl
  | int i => rfl
  | float repr => rfl
  | str s => rfl
  | arr items ih => exact sameAll_iff.mpr (List.forall₂_same.mpr ih)
  | obj fields ih => exact ⟨rfl, sameFields_iff.mpr fun f hf => ⟨f.2, hf, ih f hf⟩⟩

/-- Keys are compared by a total order, so the sorted fields are one list. -/
theorem sortedFields_perm {l l' : List (String × List Char)} (hkeys : (l.map Prod.fst).Nodup)
    (h : l.Perm l') : sortedFields l = sortedFields l' := by
  have trans : IsTrans (String × List Char) fun a b => a.1 ≤ b.1 := ⟨fun _ _ _ => String.le_trans⟩
  have total : Std.Total fun a b : String × List Char => a.1 ≤ b.1 :=
    ⟨fun a b => String.le_total a.1 b.1⟩
  have sorted : ∀ l : List (String × List Char), (sortedFields l).Pairwise fun a b => a.1 ≤ b.1 :=
    fun l => List.pairwise_insertionSort _ l
  refine List.Perm.eq_of_pairwise ?_ (sorted l) (sorted l')
    ((List.perm_insertionSort _ l).trans (h.trans (List.perm_insertionSort _ l').symm))
  intro a b ha hb hab hba
  rw [sortedFields, List.mem_insertionSort] at ha hb
  exact List.inj_on_of_nodup_map hkeys ha (h.symm.subset hb) (String.le_antisymm hab hba)

/-- **One value has one text**, however its dictionaries are ordered. -/
theorem render_same {j j' : Json} (hj : j.wellFormed) (h : Same j j') : j.render = j'.render := by
  induction j using induct generalizing j' with
  | null => cases j' <;> first | rfl | cases h
  | bool b => cases j' <;> first | (cases h; rfl) | cases h
  | int i => cases j' <;> first | (cases h; rfl) | cases h
  | float repr => cases j' <;> first | (cases h; rfl) | cases h
  | str s => cases j' <;> first | (cases h; rfl) | cases h
  | arr items ih =>
    cases j' with
    | arr items' =>
      have hitems := wellFormed_arr.mp hj
      have hall := sameAll_iff.mp h
      have htexts : items.map render = items'.map render := by
        clear h hj
        induction hall with
        | nil => rfl
        | cons hsame _ ih' =>
          rw [List.map_cons, List.map_cons, ih _ (List.mem_cons_self ..)
            (hitems _ (List.mem_cons_self ..)) hsame, ih' (fun j hj => ih j (List.mem_cons_of_mem _ hj))
            fun j hj => hitems j (List.mem_cons_of_mem _ hj)]
      rw [render, render, renderAll_eq, renderAll_eq, htexts]
    | _ => cases h
  | obj fields ih =>
    cases j' with
    | obj fields' =>
      obtain ⟨hkeys, hfields⟩ := wellFormed_obj.mp hj
      have hsub : renderFields fields ⊆ renderFields fields' := by
        rw [renderFields_eq, renderFields_eq]
        intro f hf
        obtain ⟨g, hg, rfl⟩ := List.mem_map.mp hf
        obtain ⟨j', hmem, hsame⟩ := sameFields_iff.mp h.2 g hg
        rw [ih g hg (hfields g hg) hsame]
        exact List.mem_map.mpr ⟨(g.1, j'), hmem, rfl⟩
      have hkeys' : ((renderFields fields).map Prod.fst).Nodup := by
        rw [renderFields_eq, List.map_map]
        exact hkeys
      have hlength : (renderFields fields').length ≤ (renderFields fields).length := by
        rw [renderFields_eq, renderFields_eq, List.length_map, List.length_map, h.1]
      have hperm := (List.subperm_of_subset (List.Nodup.of_map _ hkeys') hsub).perm_of_length_le hlength
      rw [render, render, sortedFields_perm hkeys' hperm]
    | _ => cases h

theorem dumps_same {j j' : Json} (hj : j.wellFormed) (h : Same j j') : j.dumps = j'.dumps := by
  rw [dumps, dumps, render_same hj h]

/-- A dictionary has one text in whatever order its fields were put in. -/
theorem dumps_of_subset {fields fields' : List (String × Json)} (hkeys : (fields.map Prod.fst).Nodup)
    (hsub : fields ⊆ fields') (hlength : fields'.length ≤ fields.length) :
    (obj fields).dumps = (obj fields').dumps := by
  have hperm := (List.subperm_of_subset (List.Nodup.of_map _ hkeys) hsub).perm_of_length_le hlength
  have hkeys' : ((renderFields fields).map Prod.fst).Nodup := by
    rw [renderFields_eq, List.map_map]
    exact hkeys
  have htexts : (renderFields fields).Perm (renderFields fields') := by
    rw [renderFields_eq, renderFields_eq]
    exact hperm.map _
  rw [dumps, dumps, render, render, sortedFields_perm hkeys' htexts]

end Json

end CloudOpsAgent
