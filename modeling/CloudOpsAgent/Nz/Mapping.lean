/-
  JSON values as Python code reads them: `dict.get`, `isinstance` before use, and `==`.

  Reviewing code does not parse what it is given; it asks for keys and compares what it finds with
  constants.  A missing key reads as `None`, and `==` mixes the numeric types: `True == 1 == 1.0`.
  Floats are carried by their text, so the number behind a text is a parameter (`FloatValue`).
-/
import CloudOpsAgent.Nz.Encoding
import Mathlib.Data.Rat.Defs

namespace CloudOpsAgent

/-! ## Association lists -/

namespace Assoc

variable {κ ν : Type} [BEq κ] [LawfulBEq κ] {l : List (κ × ν)} {k : κ} {v : ν}

theorem mem_of_lookup (h : l.lookup k = some v) : (k, v) ∈ l := by
  obtain ⟨l₁, l₂, rfl, -⟩ := List.lookup_eq_some_iff.1 h
  exact List.mem_append_right _ List.mem_cons_self

/-- Under distinct keys an entry is what its key looks up. -/
theorem lookup_iff_mem (hn : (l.map Prod.fst).Nodup) : l.lookup k = some v ↔ (k, v) ∈ l := by
  refine ⟨mem_of_lookup, fun h => ?_⟩
  induction l with
  | nil => exact absurd h List.not_mem_nil
  | cons f fs ih =>
    obtain ⟨hf, hfs⟩ := List.nodup_cons.1 hn
    rcases List.mem_cons.1 h with rfl | hl
    · exact List.lookup_cons_self
    · have hne : k ≠ f.1 := by
        rintro rfl
        exact hf (List.mem_map.2 ⟨_, hl, rfl⟩)
      rw [List.lookup_cons, beq_eq_false_iff_ne.2 hne]
      exact ih hfs hl

/-- A key that is not there looks nothing up. -/
theorem lookup_eq_none_iff : l.lookup k = none ↔ k ∉ l.map Prod.fst := by
  rw [List.lookup_eq_none_iff]
  constructor
  · intro h hk
    obtain ⟨e, he, rfl⟩ := List.mem_map.1 hk
    exact absurd (h e he) (by simp)
  · intro h e he
    exact bne_iff_ne.2 fun hk => h (List.mem_map.2 ⟨e, he, hk.symm⟩)

omit [BEq κ] [LawfulBEq κ] in
/-- Dropping entries drops keys. -/
theorem keys_filterMap {μ : Type} {f : κ × ν → Option (κ × μ)} (hf : ∀ e r, f e = some r → r.1 = e.1)
    (l : List (κ × ν)) : ((l.filterMap f).map Prod.fst).Sublist (l.map Prod.fst) := by
  induction l with
  | nil => exact .slnil
  | cons e es ih =>
    rcases h : f e with _ | r
    · rw [List.filterMap_cons_none h]
      exact ih.cons _
    · rw [List.filterMap_cons_some h, List.map_cons, List.map_cons, hf e r h]
      exact ih.cons_cons _

end Assoc

/-! ## JSON values -/

/-- The number a finite float's `repr` stands for. -/
class FloatValue where
  value : String → Option Rat

namespace Json

/-- The entries of a `dict` with string keys. -/
abbrev Mapping := List (String × Json)

/-- `mapping.get(key)`. -/
def Mapping.get (fields : Mapping) (key : String) : Json := (fields.lookup key).getD .null

/-- `key in mapping`. -/
def Mapping.has (fields : Mapping) (key : String) : Bool := (fields.lookup key).isSome

/-- `set(mapping) == {…}`. -/
def Mapping.keysAre (fields : Mapping) (keys : List String) : Bool :=
  fields.all (fun f => f.1 ∈ keys) && keys.all fields.has

/-- `value if isinstance(value, Mapping) else {}`. -/
def mapping : Json → Mapping
  | .obj fields => fields
  | _ => []

/-- `value if isinstance(value, list) else []`. -/
def items : Json → List Json
  | .arr items => items
  | _ => []

/-- `value == text`. -/
def isStr (j : Json) (text : String) : Bool := j.str? == some text

theorem isStr_iff {j : Json} {text : String} : j.isStr text ↔ j = .str text := by
  constructor
  · intro h
    exact eq_str (eq_of_beq h)
  · rintro rfl
    exact beq_self_eq_true _

section PyEq

variable [FloatValue]

/-- The number a bool, an int or a finite float is equal to. -/
def number? : Json → Option Rat
  | .bool b => some (if b then 1 else 0)
  | .int i => some i
  | .float repr => FloatValue.value repr
  | _ => none

mutual

/-- `a == b`. -/
def pyEq : Json → Json → Bool
  | .null, .null => true
  | .str s, .str t => s == t
  | .arr items, .arr items' => pyEqAll items items'
  | .obj fields, .obj fields' => fields.length == fields'.length && pyEqFields fields fields'
  | a, b => a.number?.isSome && a.number? == b.number?

def pyEqAll : List Json → List Json → Bool
  | [], [] => true
  | j :: js, j' :: js' => pyEq j j' && pyEqAll js js'
  | _, _ => false

def pyEqFields : Mapping → Mapping → Bool
  | [], _ => true
  | (k, j) :: fs, fields' => (fields'.lookup k).any (fun j' => pyEq j j') && pyEqFields fs fields'

end

end PyEq

/-- What is looked up is an entry. -/
theorem mem_of_get {fields : Mapping} {key : String} {j : Json} (h : fields.get key = j)
    (hj : j ≠ .null) : (key, j) ∈ fields := by
  unfold Mapping.get at h
  rcases hl : fields.lookup key with _ | j'
  · rw [hl] at h
    exact absurd h.symm hj
  · rw [hl] at h
    obtain rfl : j' = j := h
    exact Assoc.mem_of_lookup hl

end Json

/-- A mapping that `json.loads` returned: distinct keys and finite floats at every depth. -/
structure JsonMapping where
  fields : Json.Mapping
  wellFormed : (Json.obj fields).wellFormed

/-- What a mapping holds under a key is again such a value. -/
theorem JsonMapping.get_wellFormed (m : JsonMapping) (key : String) :
    (m.fields.get key).wellFormed := by
  by_cases h : m.fields.get key = .null
  · rw [h]
    rfl
  · exact (Json.wellFormed_obj.mp m.wellFormed).2 _ (Json.mem_of_get rfl h)

end CloudOpsAgent
