/-
  The DynamoDB codec for JSON values.

  An attribute is a dictionary with one key, its tag: `{"N": "12"}`.  Integers and floats share the tag
  `N`, and are told apart by a point or an exponent in the text; a boolean is asked for before an
  integer, of which it is one in Python.

  1. **Encoding and decoding** — `toDynamoAttribute`, `fromDynamoAttribute`.

  2. **Numbers** — an integer of at most 4300 digits is read back from its text; a float is as far as
     its `repr` is (`EveryFloat`).

  3. **The round trip** — by induction on the value: what is encoded is decoded to the same value, with
     the keys of every dictionary sorted, and a value is encoded if and only if it is `encodable`.
-/
import CloudOpsAgent.Lib.PyText
import CloudOpsAgent.Nz.Contracts
import CloudOpsAgent.Persistence.PrivateJson

namespace CloudOpsAgent

/-- `float(text)`, as its `repr`; `none` where it raises `ValueError`. -/
class FloatParse where
  parse : String → Option String

namespace Dynamo

open Json StrictJson

/-! ## Encoding and decoding -/

/-- `str(value)` of an integer. -/
def intText (i : Int) : Except PyExc String :=
  if (Nat.toDigits 10 i.natAbs).length ≤ maxStrDigits then .ok (toString i)
  else .error (.valueError "Exceeds the limit (4300 digits) for integer string conversion")

/-- The values of a dictionary, the first failure ending it. -/
def sequence (entries : List (String × Except PyExc Json)) : Except PyExc (List (String × Json)) :=
  entries.mapM fun f => f.2.map fun j => (f.1, j)

mutual

/-- `to_dynamo_attribute`. -/
def toDynamoAttribute : Json → Except PyExc Json
  | .null => .ok (.obj [("NULL", .bool true)])
  | .bool b => .ok (.obj [("BOOL", .bool b)])
  | .str s => .ok (.obj [("S", .str s)])
  | .int i => (intText i).map fun text => .obj [("N", .str text)]
  | .float repr =>
    if isFloatText repr then .ok (.obj [("N", .str repr)])
    else .error (.typeError "non-finite numbers cannot be persisted")
  | .arr items => (toItems items).map fun items => .obj [("L", .arr items)]
  | .obj fields =>
    (sequence ((toFields fields).insertionSort fun a b => a.1 ≤ b.1)).map fun entries =>
      .obj [("M", .obj entries)]

def toItems : List Json → Except PyExc (List Json)
  | [] => .ok []
  | j :: js => do
    let a ← toDynamoAttribute j
    let as ← toItems js
    return a :: as

def toFields : List (String × Json) → List (String × Except PyExc Json)
  | [] => []
  | (k, j) :: fs => (k, toDynamoAttribute j) :: toFields fs

end

/-- A text under the tag `N`. -/
def readNumber [FloatParse] (text : String) : Except PyExc Json :=
  let number : Option Json :=
    if text.toList.any fun c => c == '.' || c == 'e' || c == 'E' then
      (FloatParse.parse text).bind fun repr => if isFloatText repr then some (.float repr) else none
    else (PyText.int? 10 (PyText.ofString text)).map .int
  match number with
  | some j => .ok j
  | none => .error (.storageDependency "stored numeric attribute is malformed")

def unsupportedShape : PyExc :=
  .storageDependency "stored DynamoDB attribute uses an unsupported shape"

mutual

/-- `from_dynamo_attribute`. -/
def fromDynamoAttribute [FloatParse] : Json → Except PyExc Json
  | .obj [(kind, .bool b)] =>
    if kind = "NULL" ∧ b = true then .ok .null
    else if kind = "BOOL" then .ok (.bool b)
    else .error unsupportedShape
  | .obj [(kind, .str s)] =>
    if kind = "S" then .ok (.str s)
    else if kind = "N" then readNumber s
    else .error unsupportedShape
  | .obj [(kind, .arr items)] =>
    if kind = "L" then (fromItems items).map .arr else .error unsupportedShape
  | .obj [(kind, .obj fields)] =>
    if kind = "M" then (fromFields fields).map .obj else .error unsupportedShape
  | .obj [_] => .error unsupportedShape
  | _ => .error (.storageDependency "stored DynamoDB attribute is malformed")

def fromItems [FloatParse] : List Json → Except PyExc (List Json)
  | [] => .ok []
  | j :: js => do
    let a ← fromDynamoAttribute j
    let as ← fromItems js
    return a :: as

def fromFields [FloatParse] : List (String × Json) → Except PyExc (List (String × Json))
  | [] => .ok []
  | (k, j) :: fs => do
    let a ← fromDynamoAttribute j
    let as ← fromFields fs
    return (k, a) :: as

end

mutual

/-- `p` holds of the text of every float in the value. -/
def EveryFloat (p : String → Prop) : Json → Prop
  | float repr => p repr
  | arr items => EveryFloatOfItems p items
  | obj fields => EveryFloatOfFields p fields
  | _ => True

def EveryFloatOfItems (p : String → Prop) : List Json → Prop
  | [] => True
  | j :: js => EveryFloat p j ∧ EveryFloatOfItems p js

def EveryFloatOfFields (p : String → Prop) : List (String × Json) → Prop
  | [] => True
  | (_, j) :: fs => EveryFloat p j ∧ EveryFloatOfFields p fs

end

/-- `float(repr(x)) == x` for every float of the value. -/
def FloatsParse [FloatParse] (j : Json) : Prop :=
  EveryFloat (fun repr => FloatParse.parse repr = some repr) j

theorem everyFloat_arr {p : String → Prop} {items : List Json} :
    EveryFloat p (arr items) ↔ ∀ j ∈ items, EveryFloat p j := by
  rw [EveryFloat]
  induction items with
  | nil => simp [EveryFloatOfItems]
  | cons j js ih => simp [EveryFloatOfItems, ih]

theorem everyFloat_obj {p : String → Prop} {fields : List (String × Json)} :
    EveryFloat p (obj fields) ↔ ∀ f ∈ fields, EveryFloat p f.2 := by
  rw [EveryFloat]
  induction fields with
  | nil => simp [EveryFloatOfFields]
  | cons f fs ih => simp [EveryFloatOfFields, ih]

/-! ## Lists -/

section Sequences

variable {α β γ ε : Type} {f : α → Except ε β} {g : β → Except ε γ} {h : α → γ} {l : List α}

/-- Element by element there and back. -/
theorem exists_mapM (hl : ∀ a ∈ l, ∃ b, f a = .ok b ∧ g b = .ok (h a)) :
    ∃ r, l.mapM f = .ok r ∧ r.mapM g = .ok (l.map h) := by
  induction l with
  | nil => exact ⟨[], rfl, rfl⟩
  | cons a l ih =>
    obtain ⟨b, hf, hg⟩ := hl a (List.mem_cons_self ..)
    obtain ⟨r, hr, hr'⟩ := ih fun x hx => hl x (List.mem_cons_of_mem _ hx)
    refine ⟨b :: r, ?_, ?_⟩
    · rw [List.mapM_cons, hf, hr]
      rfl
    · rw [List.mapM_cons, hg, hr']
      rfl

theorem exists_of_mapM {r : List β} (hr : l.mapM f = .ok r) : ∀ a ∈ l, ∃ b, f a = .ok b := by
  induction l generalizing r with
  | nil => exact fun a ha => absurd ha List.not_mem_nil
  | cons a l ih =>
    rw [List.mapM_cons] at hr
    cases hf : f a with
    | error e => simp [hf, bind, Except.bind] at hr
    | ok b =>
      cases hl : l.mapM f with
      | error e => simp [hf, hl, bind, Except.bind] at hr
      | ok r' => exact List.forall_mem_cons.2 ⟨⟨b, hf⟩, ih hl⟩

end Sequences

/-! ## Numbers -/

/-- **An integer of at most 4300 digits is read back** from its text. -/
theorem int?_toString {i : Int} (hi : (Nat.toDigits 10 i.natAbs).length ≤ PyText.maxStrDigits) :
    PyText.int? 10 (PyText.ofString (toString i)) = some i := by
  have hascii : ∀ c ∈ (toString i).toList, c.toNat < 127 := by
    intro c hc
    obtain hdigit | rfl := int_text hc
    · have := PyText.isDigit_range hdigit
      omega
    · decide
  have hmag := PyText.magnitude_toDigits hi
  unfold PyText.int? PyText.ofString
  rw [PyText.mapM_numeralChar? hascii, Option.bind_some, toList_toString_int]
  by_cases hneg : i < 0
  · rw [if_pos hneg]
    show (PyText.magnitude 10 (Nat.toDigits 10 i.natAbs)).map (fun n => -(n : Int)) = _
    rw [hmag]
    exact congrArg some (show -(i.natAbs : Int) = i by omega)
  · -- no sign: the first character is a digit
    have hpos : (i.natAbs : Int) = i := by omega
    have hds : ∀ c ∈ Nat.toDigits 10 i.natAbs, c.isDigit := fun c hc =>
      Nat.isDigit_of_mem_toDigits (by decide) (by decide) hc
    rw [if_neg hneg, List.nil_append]
    cases hdigits : Nat.toDigits 10 i.natAbs with
    | nil => exact absurd hdigits Nat.toDigits_ne_nil
    | cons c cs =>
      rw [hdigits] at hmag hds
      have hc := PyText.isDigit_range (hds c (List.mem_cons_self ..))
      have hblank : PyText.isBlank c = false := by
        have hspace : c ≠ ' ' := by
          rintro rfl
          exact absurd hc.1 (by decide)
        simp only [PyText.isBlank, hspace, decide_false, Bool.false_or, Bool.and_eq_false_iff,
          decide_eq_false_iff_not]
        omega
      rw [List.dropWhile_cons_of_neg (by simp [hblank])]
      split
      · next heq =>
        obtain ⟨rfl, -⟩ := List.cons.inj heq
        exact absurd hc.1 (by decide)
      · next heq =>
        obtain ⟨rfl, -⟩ := List.cons.inj heq
        exact absurd hc.1 (by decide)
      · rw [hmag]
        exact congrArg some hpos

variable [FloatParse]

/-- A float is read back from its text: there is a point or an exponent in it. -/
theorem readNumber_float {repr : String} (hfinite : isFloatText repr)
    (hparse : FloatParse.parse repr = some repr) : readNumber repr = .ok (.float repr) := by
  have hmarker : repr.toList.any (fun c => c == '.' || c == 'e' || c == 'E') := by
    have hmem := hfinite
    rw [isFloatText, Bool.and_eq_true, Bool.or_eq_true, List.contains_iff_mem,
      List.contains_iff_mem] at hmem
    obtain hpoint | hexponent := hmem.2
    · exact List.any_eq_true.2 ⟨_, hpoint, rfl⟩
    · exact List.any_eq_true.2 ⟨_, hexponent, rfl⟩
  simp only [readNumber, if_pos hmarker, hparse, Option.bind_some, if_pos hfinite]

theorem readNumber_int {i : Int} (hi : (Nat.toDigits 10 i.natAbs).length ≤ maxStrDigits) :
    readNumber (toString i) = .ok (.int i) := by
  have hmarker : ¬((toString i).toList.any fun c => c == '.' || c == 'e' || c == 'E') := by
    intro hany
    obtain ⟨c, hc, hmark⟩ := List.any_eq_true.1 hany
    obtain hdigit | rfl := int_text hc
    · have hrange := PyText.isDigit_range hdigit
      have hcases : (c = '.' ∨ c = 'e') ∨ c = 'E' := by simpa using hmark
      obtain (rfl | rfl) | rfl := hcases
      · exact absurd hrange (by decide)
      · exact absurd hrange (by decide)
      · exact absurd hrange (by decide)
    · exact absurd hmark (by decide)
  simp only [readNumber, if_neg hmarker, int?_toString hi, Option.map_some]

/-! ## The round trip -/

omit [FloatParse] in
theorem toItems_eq (items : List Json) : toItems items = items.mapM toDynamoAttribute := by
  induction items with
  | nil => rfl
  | cons j js ih =>
    rw [toItems, ih, List.mapM_cons]

theorem fromItems_eq (items : List Json) : fromItems items = items.mapM fromDynamoAttribute := by
  induction items with
  | nil => rfl
  | cons j js ih => rw [fromItems, ih, List.mapM_cons]

/-- The value of a field, through `f`. -/
def atValue (f : Json → Except PyExc Json) (field : String × Json) :
    Except PyExc (String × Json) := (f field.2).map fun j => (field.1, j)

theorem fromFields_eq (fields : List (String × Json)) :
    fromFields fields = fields.mapM (atValue fromDynamoAttribute) := by
  induction fields with
  | nil => rfl
  | cons f fs ih =>
    rw [fromFields, ih, List.mapM_cons, atValue]
    cases fromDynamoAttribute f.2 <;> rfl

/-- The fields in the order of their keys. -/
def byKey (fields : List (String × Json)) : List (String × Json) :=
  fields.insertionSort fun a b => a.1 ≤ b.1

omit [FloatParse] in
theorem sort_map {β : Type} (f : Json → β) (fields : List (String × Json)) :
    (fields.map fun x => (x.1, f x.2)).insertionSort (fun a b => a.1 ≤ b.1) =
      (byKey fields).map fun x => (x.1, f x.2) :=
  (List.map_insertionSort (fun a b : String × Json => a.1 ≤ b.1)
    (fun a b : String × β => a.1 ≤ b.1) _ _ fun _ _ _ _ => Iff.rfl).symm

omit [FloatParse] in
theorem sequence_toFields (fields : List (String × Json)) :
    sequence ((toFields fields).insertionSort fun a b => a.1 ≤ b.1) =
      (byKey fields).mapM (atValue toDynamoAttribute) := by
  have hmap : toFields fields = fields.map fun f => (f.1, toDynamoAttribute f.2) := by
    induction fields with
    | nil => rfl
    | cons f fs ih => rw [toFields, ih, List.map_cons]
  rw [hmap, sort_map, sequence, List.mapM_map]
  rfl

omit [FloatParse] in
theorem sortKeys_obj (fields : List (String × Json)) :
    sortKeys (obj fields) = obj ((byKey fields).map fun f => (f.1, sortKeys f.2)) := by
  rw [sortKeys, sortFields_eq, sort_map]

omit [FloatParse] in
/-- The canonical text does not depend on the order of the keys. -/
theorem render_sortKeys (j : Json) : (sortKeys j).render = j.render := by
  induction j using Json.induct with
  | null | bool | int | float | str => rfl
  | arr items ih =>
    have hall : ∀ l : List Json, (∀ j ∈ l, (sortKeys j).render = j.render) →
        renderAll (l.map sortKeys) = renderAll l := by
      intro l
      induction l with
      | nil => exact fun _ => rfl
      | cons j js ihl =>
        intro hl
        rw [List.map_cons, renderAll, renderAll, hl j (List.mem_cons_self ..),
          ihl fun x hx => hl x (List.mem_cons_of_mem _ hx)]
    rw [sortKeys, sortItems_eq, render, render, hall items ih]
  | obj fields ih =>
    have hfields : ∀ l : List (String × Json), renderFields l = l.map fun x => (x.1, x.2.render) := by
      intro l
      induction l with
      | nil => rfl
      | cons x l ihl => rw [renderFields, ihl, List.map_cons]
    have hsame : (byKey fields).map ((fun x => (x.1, x.2.render)) ∘ fun f => (f.1, sortKeys f.2)) =
        (byKey fields).map fun x => (x.1, x.2.render) := by
      refine List.map_congr_left fun x hx => Prod.ext rfl ?_
      exact ih x ((List.mem_insertionSort _).1 hx)
    have hsorted : byKey (byKey fields) = byKey fields :=
      List.Pairwise.insertionSort_eq (List.pairwise_insertionSort _ _)
    rw [sortKeys_obj, render, render, hfields, hfields, List.map_map, hsame, sortedFields,
      sortedFields, sort_map render, sort_map render, hsorted]

/-- `a` is the attribute of `j`, and is decoded to `j` with its keys sorted. -/
def Encodes (j a : Json) : Prop :=
  toDynamoAttribute j = .ok a ∧ fromDynamoAttribute a = .ok (sortKeys j)

/-- **An encodable value is encoded, and decoded.** -/
theorem exists_encodes {j : Json} (hj : encodable j) (hfloat : FloatsParse j) :
    ∃ a, Encodes j a := by
  induction j using Json.induct with
  | null => exact ⟨_, rfl, rfl⟩
  | bool b => exact ⟨_, rfl, rfl⟩
  | str s => exact ⟨_, rfl, rfl⟩
  | int i =>
    have hi : (Nat.toDigits 10 i.natAbs).length ≤ maxStrDigits := of_decide_eq_true hj
    refine ⟨obj [("N", .str (toString i))], ?_, readNumber_int hi⟩
    rw [toDynamoAttribute, intText, if_pos hi]
    rfl
  | float repr =>
    refine ⟨obj [("N", .str repr)], ?_, readNumber_float hj hfloat⟩
    rw [toDynamoAttribute]
    exact if_pos hj
  | arr items ih =>
    have hall := encodableItems_iff.1 hj
    have hfloats := everyFloat_arr.1 hfloat
    obtain ⟨r, hto, hfrom⟩ := exists_mapM fun j hmem => ih j hmem (hall j hmem) (hfloats j hmem)
    refine ⟨obj [("L", .arr r)], ?_, ?_⟩
    · rw [toDynamoAttribute, toItems_eq, hto]
      rfl
    · rw [sortKeys, sortItems_eq, ← fromItems_eq] at *
      show (fromItems r).map arr = _
      rw [hfrom]
      rfl
  | obj fields ih =>
    have hall := encodableFields_iff.1 hj
    have hfloats := everyFloat_obj.1 hfloat
    have hfields : ∀ f ∈ byKey fields, ∃ b, atValue toDynamoAttribute f = .ok b ∧
        atValue fromDynamoAttribute b = .ok (f.1, sortKeys f.2) := by
      intro f hf
      have hmem : f ∈ fields := (List.mem_insertionSort _).1 hf
      obtain ⟨a, hto, hfrom⟩ := ih f hmem (hall f hmem) (hfloats f hmem)
      refine ⟨(f.1, a), ?_, ?_⟩
      · rw [atValue, hto]
        rfl
      · rw [atValue, hfrom]
        rfl
    obtain ⟨r, hto, hfrom⟩ := exists_mapM hfields
    refine ⟨obj [("M", .obj r)], ?_, ?_⟩
    · rw [toDynamoAttribute, sequence_toFields, hto]
      rfl
    · rw [sortKeys_obj]
      show (fromFields r).map obj = _
      rw [fromFields_eq, hfrom]
      rfl

omit [FloatParse] in
/-- What is not encodable raises. -/
theorem encodable_of_toDynamoAttribute {j a : Json} (h : toDynamoAttribute j = .ok a) :
    encodable j := by
  induction j using Json.induct generalizing a with
  | null | bool | str => rfl
  | int i =>
    by_contra hi
    have hlong : ¬(Nat.toDigits 10 i.natAbs).length ≤ maxStrDigits := by simpa [encodable] using hi
    rw [toDynamoAttribute, intText, if_neg hlong] at h
    cases h
  | float repr =>
    by_contra hrepr
    have hnot : ¬isFloatText repr := hrepr
    rw [toDynamoAttribute, if_neg hnot] at h
    cases h
  | arr items ih =>
    rw [toDynamoAttribute, toItems_eq] at h
    cases hto : items.mapM toDynamoAttribute with
    | error e =>
      rw [hto] at h
      cases h
    | ok r =>
      refine encodableItems_iff.2 fun j hj => ?_
      obtain ⟨b, hb⟩ := exists_of_mapM hto j hj
      exact ih j hj hb
  | obj fields ih =>
    rw [toDynamoAttribute, sequence_toFields] at h
    cases hto : (byKey fields).mapM (atValue toDynamoAttribute) with
    | error e =>
      rw [hto] at h
      cases h
    | ok r =>
      refine encodableFields_iff.2 fun f hf => ?_
      obtain ⟨b, hb⟩ := exists_of_mapM hto f ((List.mem_insertionSort _).2 hf)
      rw [atValue] at hb
      cases ha : toDynamoAttribute f.2 with
      | error e =>
        rw [ha] at hb
        cases hb
      | ok a => exact ih f hf ha

/-- **The round trip of a value**: it comes back with its keys sorted, or is not encoded at all. -/
theorem roundTrip_iff {j : Json} (hfloat : FloatsParse j) :
    (∃ w, (toDynamoAttribute j >>= fromDynamoAttribute) = .ok w ∧ Same w j) ↔ encodable j := by
  constructor
  · rintro ⟨w, hw, -⟩
    cases hto : toDynamoAttribute j with
    | error e =>
      rw [hto] at hw
      cases hw
    | ok a => exact encodable_of_toDynamoAttribute hto
  · intro hj
    obtain ⟨a, hto, hfrom⟩ := exists_encodes hj hfloat
    refine ⟨sortKeys j, ?_, same_sortKeys j⟩
    rw [hto]
    exact hfrom

end Dynamo

end CloudOpsAgent
