/-
  How a model of the contracts is dumped to JSON, and validated again.

  A `Codec` is the two functions with the proof that they belong together: what `model_dump` writes is
  read back by `model_validate`, also after the keys of every dictionary were sorted on the way.  So
  the codec of a record is only a table of its fields, and its round trip is a projection.

  1. **Scalars** — texts, integers, enumerations, instants, identifiers, digests, JSON values.

  2. **Containers** — `None` or a value, tuples, dictionaries.

  3. **Fields** — rows of a table, side by side (`Fields.and`); `Fields.build` makes a record of them,
     through its validators.

  4. **Models** — a record is an object with these fields and no others.

  Only the spellings `model_dump` writes are read here: the coercions pydantic offers besides, of a
  text to a number for one, have no part in the round trip.
-/
import CloudOpsAgent.Nz.Identifiers
import CloudOpsAgent.Nz.Isoformat
import CloudOpsAgent.Nz.LocalContracts
import CloudOpsAgent.Persistence.Serialization

namespace CloudOpsAgent

open Json StrictJson

/-- What `model_dump(mode="json")` writes for a value, and what `model_validate` makes of a payload,
    `none` for its `ValidationError`. -/
structure Codec (α : Type) where
  dump : α → Json
  load : Json → Option α
  /-- The instants in a value. -/
  times : α → List Time
  /-- The value that is read back: the same one, up to the order of the keys in JSON values. -/
  back : α → α
  load_dump : ∀ a, (∀ t ∈ times a, t ≤ Time.datetimeMax) →
    load (sortKeys (dump a)) = some (back a)

/-! ## Scalars -/

/-- The spelling of `dumpJson`, read by pydantic. -/
def Time.ofDumpJson? (text : String) : Option Time :=
  if text.toList.getLast? = some 'Z' then
    fromisoformat (String.ofList (text.toList.dropLast ++ "+00:00".toList))
  else none

theorem Time.ofDumpJson?_dumpJson {t : Time} (ht : t ≤ datetimeMax) :
    ofDumpJson? (dumpJson t) = some t := by
  have hlast : (dumpJson t).toList = clockText t ++ ['Z'] := String.toList_ofList
  rw [ofDumpJson?, hlast, List.getLast?_concat, if_pos rfl, List.dropLast_concat]
  exact fromisoformat_isoformat ht

/-- The number that hexadecimal digits spell. -/
def hexNumber? (digits : List Char) : Option Nat :=
  if digits.all fun c => (hexDigit? c).isSome then
    some (digits.foldl (fun n c => 16 * n + (hexDigit? c).getD 0) 0)
  else none

theorem hexDigits_all {p : Char → Bool} (hp : ∀ d < 16, p (Nat.digitChar d)) (n width : Nat) :
    (UUID.hexDigits n width).all p := by
  induction width with
  | zero => rfl
  | succ width ih =>
    rw [UUID.hexDigits, List.all_cons, hp _ (Nat.mod_lt _ (by decide)), ih]
    rfl

theorem hexNumber?_hexDigits (n width : Nat) :
    hexNumber? (UUID.hexDigits n width) = some (n % 16 ^ width) := by
  have hvalue : ∀ d < 16, (hexDigit? (Nat.digitChar d)).getD 0 = d := by decide
  have hread := @foldl_digits UUID.hexDigits (fun c => (hexDigit? c).getD 0) 16 (by decide)
    (fun _ => rfl) (fun _ _ => rfl) hvalue n width 0
  rw [hexNumber?, if_pos (hexDigits_all (by decide) n width), hread, Nat.zero_mul, Nat.zero_add]

theorem hexDigits_append (n m k : Nat) :
    UUID.hexDigits (n / 16 ^ k) m ++ UUID.hexDigits n k = UUID.hexDigits n (m + k) := by
  induction m with
  | zero => rw [UUID.hexDigits, List.nil_append, Nat.zero_add]
  | succ m ih =>
    have hdiv : n / 16 ^ k / 16 ^ m = n / 16 ^ (m + k) := by
      rw [Nat.div_div_eq_div_mul, ← Nat.pow_add, Nat.add_comm k]
    rw [Nat.succ_add, UUID.hexDigits, UUID.hexDigits, List.cons_append, ih, hdiv]

/-- A UUIDv7 from its hyphenated text. -/
def UUID.ofText? (text : String) : Option UUID :=
  let cs := text.toList
  if cs.length = 36 ∧ [8, 13, 18, 23].all (fun i => cs[i]? = some '-') then
    (hexNumber? (cs.filter (· ≠ '-'))).bind fun n =>
      if version (BitVec.ofNat 128 n) = some 7 then some (ofBits (BitVec.ofNat 128 n)) else none
  else none

theorem filter_hexDigits (n width : Nat) :
    (UUID.hexDigits n width).filter (· ≠ '-') = UUID.hexDigits n width :=
  List.filter_eq_self.2 (List.all_eq_true.1 (hexDigits_all (by decide) n width))

theorem UUID.ofText?_str (u : UUID) : ofText? u.str = some u := by
  have hlist : u.str.toList = hexDigits (u.bits.toNat / 16 ^ 24) 8 ++
      '-' :: hexDigits (u.bits.toNat / 16 ^ 20) 4 ++ '-' :: hexDigits (u.bits.toNat / 16 ^ 16) 4 ++
      '-' :: hexDigits (u.bits.toNat / 16 ^ 12) 4 ++ '-' :: hexDigits u.bits.toNat 12 :=
    String.toList_ofList
  have hdigits : u.str.toList.filter (· ≠ '-') = hexDigits u.bits.toNat 32 := by
    have hhyphen : ∀ l : List Char, ('-' :: l).filter (· ≠ '-') = l.filter (· ≠ '-') := fun l =>
      List.filter_cons_of_neg (by decide)
    have h12 := hexDigits_append u.bits.toNat 4 12
    have h16 := hexDigits_append u.bits.toNat 4 16
    have h20 := hexDigits_append u.bits.toNat 4 20
    have h24 := hexDigits_append u.bits.toNat 8 24
    rw [hlist, List.append_assoc, List.append_assoc, List.append_assoc]
    simp only [List.filter_append, filter_hexDigits, hhyphen, List.cons_append]
    rw [h12, h16, h20, h24]
  have hwidth : u.str.toList.length = 36 ∧
      [8, 13, 18, 23].all (fun i => u.str.toList[i]? = some '-') := by
    rw [hlist]
    simp [hexDigits]
  have hbits : BitVec.ofNat 128 (u.bits.toNat % 16 ^ 32) = u.bits := by
    apply BitVec.eq_of_toNat_eq
    have hlt := u.bits.isLt
    rw [BitVec.toNat_ofNat]
    omega
  dsimp only [ofText?]
  rw [if_pos hwidth, hdigits, hexNumber?_hexDigits, Option.bind_some, hbits, if_pos (version_bits u),
    ofBits_bits]

/-- 64 hexadecimal digits in lower case. -/
def Sha256Digest.ofHex? (text : String) : Option Sha256Digest :=
  if text.toList.length = 64 ∧ text.toList.all (fun c => !c.isUpper) then
    (hexNumber? text.toList).map fun n => ⟨BitVec.ofNat 256 n⟩
  else none

theorem Sha256Digest.ofHex?_hex (d : Sha256Digest) : ofHex? d.hex = some d := by
  have hlist : d.hex.toList = UUID.hexDigits d.bits.toNat 64 := String.toList_ofList
  have hlower : d.hex.toList.all fun c => !c.isUpper := by
    rw [hlist]
    exact hexDigits_all (by decide) _ 64
  have hbits : BitVec.ofNat 256 (d.bits.toNat % 16 ^ 64) = d.bits := by
    apply BitVec.eq_of_toNat_eq
    have hlt := d.bits.isLt
    rw [BitVec.toNat_ofNat]
    omega
  have hlength : d.hex.toList.length = 64 := by rw [hlist, length_hexDigits]
  rw [ofHex?, if_pos ⟨hlength, hlower⟩, hlist, hexNumber?_hexDigits, Option.map_some, hbits]

namespace Codec

variable {α β : Type}

def text : Codec String where
  dump := .str
  load := Json.str?
  times _ := []
  back s := s
  load_dump _ _ := rfl

def boolean : Codec Bool where
  dump := .bool
  load := Json.bool?
  times _ := []
  back b := b
  load_dump _ _ := rfl

/-- A non-negative integer. -/
def nat : Codec Nat where
  dump n := .int n
  load
    | .int i => if 0 ≤ i then some i.toNat else none
    | _ => none
  times _ := []
  back n := n
  load_dump n _ := if_pos (Int.natCast_nonneg n)

/-- `JsonValue`. -/
def value : Codec Json where
  dump j := j
  load := some
  times _ := []
  back := sortKeys
  load_dump _ _ := rfl

/-- A `datetime` with offset zero. -/
def time : Codec Time where
  dump t := .str t.dumpJson
  load j := j.str?.bind Time.ofDumpJson?
  times t := [t]
  back t := t
  load_dump t ht := Time.ofDumpJson?_dumpJson (ht t (List.mem_singleton_self t))

def uuid : Codec UUID where
  dump u := .str u.str
  load j := j.str?.bind UUID.ofText?
  times _ := []
  back u := u
  load_dump u _ := UUID.ofText?_str u

def digest : Codec Sha256Digest where
  dump d := .str d.hex
  load j := j.str?.bind Sha256Digest.ofHex?
  times _ := []
  back d := d
  load_dump d _ := Sha256Digest.ofHex?_hex d

/-- An enumeration, by value. -/
def enum (members : List α) (value : α → String)
    (h : ∀ a, members.find? (fun b => value b == value a) = some a) : Codec α where
  dump a := .str (value a)
  load j := j.str?.bind fun s => members.find? fun b => value b == s
  times _ := []
  back a := a
  load_dump a _ := h a

/-! ## Containers -/

/-- `None` or a value. -/
def option (c : Codec α) (h : ∀ a, sortKeys (c.dump a) ≠ .null) : Codec (Option α) where
  dump := .ofOption c.dump
  load
    | .null => some none
    | j => (c.load j).map some
  times a := a.toList.flatMap c.times
  back a := a.map c.back
  load_dump a ht := by
    cases a with
    | none => rfl
    | some a =>
      have hload := c.load_dump a fun t hmem => ht t (by simpa using hmem)
      show (match sortKeys (c.dump a) with
        | .null => some none
        | j => (c.load j).map some) = _
      split
      · next hnull => exact absurd hnull (h a)
      · rw [hload]
        rfl

/-- A tuple of any length. -/
def list (c : Codec α) : Codec (List α) where
  dump l := .arr (l.map c.dump)
  load
    | .arr items => items.mapM c.load
    | _ => none
  times l := l.flatMap c.times
  back l := l.map c.back
  load_dump l ht := by
    rw [sortKeys, sortItems_eq]
    dsimp only
    induction l with
    | nil => rfl
    | cons a l ih =>
      have hhead := c.load_dump a fun t hmem => ht t (List.mem_append_left _ hmem)
      have htail := ih fun t hmem => ht t (List.mem_append_right _ hmem)
      rw [List.map_cons, List.map_cons, List.mapM_cons, hhead, htail]
      rfl

/-- A codec that reads back exactly what was written. -/
def exact (c : Codec α) (h : ∀ a, c.back a = a) : Codec α :=
  { c with
    back := fun a => a
    load_dump := fun a ht => (c.load_dump a ht).trans (congrArg some (h a)) }

/-- `None` or a value that is read back exactly. -/
def optional (c : Codec α) (hnull : ∀ a, sortKeys (c.dump a) ≠ .null) (h : ∀ a, c.back a = a) :
    Codec (Option α) :=
  (option c hnull).exact fun a => by
    cases a with
    | none => rfl
    | some a => exact congrArg some (h a)

/-- A tuple of values that are read back exactly. -/
def tuple (c : Codec α) (h : ∀ a, c.back a = a) : Codec (List α) :=
  (list c).exact fun l => (congrArg (List.map · l) (funext h)).trans (List.map_id' l)

end Codec

/-! ### Dictionaries -/

namespace Dict

variable {ν μ : Type}

/-- The bindings in the order of the keys. -/
def items (d : Dict String ν) : List (String × ν) :=
  (d.keys.sort (· ≤ ·)).filterMap fun k => (d.lookup k).map fun v => (k, v)

theorem toFields_eq (f : ν → Json) (d : Dict String ν) :
    d.toFields f = d.items.map fun x => (x.1, f x.2) := by
  rw [toFields, items, List.map_filterMap]
  refine List.filterMap_congr fun k _ => ?_
  cases d.lookup k <;> rfl

theorem mem_items {d : Dict String ν} {k : String} {v : ν} :
    (k, v) ∈ d.items ↔ d.lookup k = some v := by
  rw [items, List.mem_filterMap]
  constructor
  · rintro ⟨j, -, hj⟩
    obtain ⟨w, hw, he⟩ := Option.map_eq_some_iff.1 hj
    obtain ⟨rfl, rfl⟩ := Prod.mk.inj he
    exact hw
  · intro h
    refine ⟨k, ?_, by rw [h]; rfl⟩
    rw [Finset.mem_sort, Finmap.mem_keys]
    exact Finmap.mem_of_lookup_eq_some h

theorem items_sorted (d : Dict String ν) : d.items.Pairwise fun a b => a.1 < b.1 := by
  refine List.Pairwise.filterMap _ ?_ (Finset.sortedLT_sort d.keys).pairwise
  intro j k hjk a ha b hb
  obtain ⟨v, -, rfl⟩ := Option.map_eq_some_iff.1 ha
  obtain ⟨w, -, rfl⟩ := Option.map_eq_some_iff.1 hb
  exact hjk

/-- Later bindings win; with no two of one key, all are there. -/
theorem lookup_ofPairs {l : List (String × ν)} (hl : (l.map Prod.fst).Nodup) (k : String) (v : ν) :
    (ofPairs l).lookup k = some v ↔ (k, v) ∈ l := by
  have hfold : ∀ d : Dict String ν, (∀ x ∈ l, d.lookup x.1 = none) →
      ((l.foldl (fun d kv => d.insert kv.1 kv.2) d).lookup k = some v ↔
        d.lookup k = some v ∨ (k, v) ∈ l) := by
    induction l with
    | nil => exact fun d _ => by simp
    | cons x l ih =>
      intro d hd
      rw [List.map_cons, List.nodup_cons] at hl
      have hfresh : ∀ y ∈ l, (d.insert x.1 x.2).lookup y.1 = none := by
        intro y hy
        have hne : y.1 ≠ x.1 := fun he => hl.1 (he ▸ List.mem_map_of_mem hy)
        rw [Finmap.lookup_insert_of_ne _ hne]
        exact hd y (List.mem_cons_of_mem _ hy)
      rw [List.foldl_cons, ih hl.2 _ hfresh]
      by_cases hk : k = x.1
      · subst hk
        have hnone := hd x (List.mem_cons_self ..)
        have habsent : (x.1, v) ∉ l := fun hmem =>
          hl.1 (List.mem_map.2 ⟨_, hmem, rfl⟩)
        simp only [Finmap.lookup_insert, hnone, List.mem_cons, habsent, or_false,
          Option.some.injEq]
        constructor
        · rintro rfl
          exact .inr rfl
        · rintro (h | h)
          · cases h
          · rw [← h]
      · rw [Finmap.lookup_insert_of_ne _ hk, List.mem_cons]
        have hne : (k, v) ≠ x := fun he => hk (by rw [← he])
        simp only [hne, false_or]
  have hempty := hfold ∅ fun x _ => Finmap.lookup_empty x.1
  rw [ofPairs, hempty, Finmap.lookup_empty]
  simp

/-- `{k: f(v) for k, v in d.items()}`. -/
def mapValues (f : ν → μ) (d : Dict String ν) : Dict String μ :=
  ofPairs (d.items.map fun x => (x.1, f x.2))

theorem lookup_mapValues (f : ν → μ) (d : Dict String ν) (k : String) :
    (d.mapValues f).lookup k = (d.lookup k).map f := by
  have hkeys : ((d.items.map fun x => (x.1, f x.2)).map Prod.fst).Nodup := by
    rw [List.map_map]
    exact (List.pairwise_map.2 ((items_sorted d).imp fun h => h)).imp fun h => ne_of_lt h
  apply Option.ext
  intro w
  rw [mapValues, lookup_ofPairs hkeys, List.mem_map, Option.map_eq_some_iff]
  constructor
  · rintro ⟨x, hx, he⟩
    obtain ⟨rfl, rfl⟩ := Prod.mk.inj he
    exact ⟨x.2, mem_items.1 hx, rfl⟩
  · rintro ⟨v, hv, rfl⟩
    exact ⟨(k, v), mem_items.2 hv, rfl⟩

theorem mapValues_id {f : ν → ν} (hf : ∀ v, f v = v) (d : Dict String ν) : d.mapValues f = d := by
  refine Finmap.ext_lookup fun k => ?_
  rw [lookup_mapValues, funext hf]
  exact Option.map_id_fun' ▸ rfl

end Dict

namespace Codec

variable {α β : Type}

/-- A dictionary. -/
def dict (c : Codec α) : Codec (Dict String α) where
  dump d := .obj (d.toFields c.dump)
  load
    | .obj fields => (fields.mapM fun f => (c.load f.2).map fun a => (f.1, a)).map Dict.ofPairs
    | _ => none
  times d := d.items.flatMap fun x => c.times x.2
  back d := d.mapValues c.back
  load_dump d ht := by
    have hsorted : Dynamo.byKey (d.toFields c.dump) = d.toFields c.dump := by
      rw [Dict.toFields_eq]
      refine List.Pairwise.insertionSort_eq (List.pairwise_map.2 ?_)
      exact (Dict.items_sorted d).imp fun h => le_of_lt h
    have hread : ∀ l : List (String × α), (∀ t ∈ l.flatMap fun x => c.times x.2, t ≤ Time.datetimeMax) →
        (l.map fun x => (x.1, sortKeys (c.dump x.2))).mapM
          (fun f => (c.load f.2).map fun a => (f.1, a)) = some (l.map fun x => (x.1, c.back x.2)) := by
      intro l
      induction l with
      | nil => exact fun _ => rfl
      | cons x l ih =>
        intro ht
        have hhead := c.load_dump x.2 fun t hmem => ht t (List.mem_append_left _ hmem)
        have htail := ih fun t hmem => ht t (List.mem_append_right _ hmem)
        rw [List.map_cons, List.map_cons, List.mapM_cons, hhead, htail]
        rfl
    rw [Dynamo.sortKeys_obj, hsorted, Dict.toFields_eq, List.map_map]
    exact congrArg (Option.map Dict.ofPairs) (hread d.items ht)

/-- A dictionary of values that are read back exactly. -/
def mapping (c : Codec α) (h : ∀ a, c.back a = a) : Codec (Dict String α) :=
  (dict c).exact (Dict.mapValues_id h)

end Codec

/-! ## Fields -/

/-- Some fields of a model, in the order of its class. -/
structure Fields (α : Type) where
  names : List String
  dump : α → List (String × Json)
  /-- From the payload, as a function of the field's name. -/
  load : (String → Option Json) → Option α
  times : α → List Time
  back : α → α
  names_dump : ∀ a, (dump a).map Prod.fst = names
  load_dump : ∀ a payload, (∀ t ∈ times a, t ≤ Time.datetimeMax) →
    (∀ f ∈ dump a, payload f.1 = some (sortKeys f.2)) → load payload = some (back a)

namespace Fields

variable {α β ρ : Type}

/-- A required field. -/
def field (name : String) (c : Codec α) : Fields α where
  names := [name]
  dump a := [(name, c.dump a)]
  load payload := (payload name).bind c.load
  times := c.times
  back := c.back
  names_dump _ := rfl
  load_dump a payload ht hpayload := by
    rw [hpayload _ (List.mem_singleton_self _)]
    exact c.load_dump a ht

/-- A field with a default. -/
def fieldOr (name : String) (c : Codec α) (default : α) : Fields α where
  names := [name]
  dump a := [(name, c.dump a)]
  load payload := match payload name with
    | none => some default
    | some j => c.load j
  times := c.times
  back := c.back
  names_dump _ := rfl
  load_dump a payload ht hpayload := by
    rw [hpayload _ (List.mem_singleton_self _)]
    exact c.load_dump a ht

/-- A field whose `Literal` type and default fix it. -/
def literal [DecidableEq α] (name : String) (c : Codec α) (a : α)
    (h : c.load (sortKeys (c.dump a)) = some a) : Fields Unit where
  names := [name]
  dump _ := [(name, c.dump a)]
  load payload := match payload name with
    | none => some ()
    | some j => if c.load j = some a then some () else none
  times _ := []
  back _ := ()
  names_dump _ := rfl
  load_dump _ payload _ hpayload := by
    rw [hpayload _ (List.mem_singleton_self _)]
    exact if_pos h

/-- These fields, then those. -/
def and (F : Fields α) (G : Fields β) : Fields (α × β) where
  names := F.names ++ G.names
  dump p := F.dump p.1 ++ G.dump p.2
  load payload := (F.load payload).bind fun a => (G.load payload).map fun b => (a, b)
  times p := F.times p.1 ++ G.times p.2
  back p := (F.back p.1, G.back p.2)
  names_dump p := by rw [List.map_append, F.names_dump, G.names_dump]
  load_dump p payload ht hpayload := by
    have hF := F.load_dump p.1 payload (fun t h => ht t (List.mem_append_left _ h))
      fun f h => hpayload f (List.mem_append_left _ h)
    have hG := G.load_dump p.2 payload (fun t h => ht t (List.mem_append_right _ h))
      fun f h => hpayload f (List.mem_append_right _ h)
    rw [hF, Option.bind_some, hG]
    rfl

/-- A record of the fields' values, through its validators. -/
def build (F : Fields α) (make : α → Option ρ) (parts : ρ → α) (back : ρ → ρ)
    (h : ∀ r, make (F.back (parts r)) = some (back r)) : Fields ρ where
  names := F.names
  dump r := F.dump (parts r)
  load payload := (F.load payload).bind make
  times r := F.times (parts r)
  back := back
  names_dump r := F.names_dump (parts r)
  load_dump r payload ht hpayload := by
    rw [F.load_dump _ payload ht hpayload]
    exact h r

end Fields

/-! ## Models -/

/-- A pydantic model: its fields, all of different names. -/
structure Model (ρ : Type) extends Fields ρ where
  nodup : names.Nodup

namespace Model

variable {ρ : Type}

theorem lookup_of_mem {l : List (String × Json)} (hl : (l.map Prod.fst).Nodup) (g : Json → Json)
    {f : String × Json} (hf : f ∈ l) :
    (l.map fun x => (x.1, g x.2)).lookup f.1 = some (g f.2) := by
  induction l with
  | nil => cases hf
  | cons x l ih =>
    rw [List.map_cons, List.nodup_cons] at hl
    obtain rfl | hmem := List.mem_cons.1 hf
    · rw [List.map_cons, List.lookup_cons_self]
    · have hne : f.1 ≠ x.1 := fun he => hl.1 (he ▸ List.mem_map_of_mem hmem)
      rw [List.map_cons, List.lookup_cons, beq_false_of_ne hne]
      exact ih hl.2 hmem

/-- A payload with sorted keys has the fields of the record. -/
theorem payload (M : Model ρ) (r : ρ) : ∃ fields, sortKeys (.obj (M.dump r)) = .obj fields ∧
    (∀ f ∈ M.dump r, fields.lookup f.1 = some (sortKeys f.2)) ∧ ∀ f ∈ fields, f.1 ∈ M.names := by
  have hperm : (Dynamo.byKey (M.dump r)).Perm (M.dump r) := List.perm_insertionSort _ _
  have hkeys : ((Dynamo.byKey (M.dump r)).map Prod.fst).Nodup := by
    rw [(hperm.map Prod.fst).nodup_iff, M.names_dump]
    exact M.nodup
  refine ⟨_, Dynamo.sortKeys_obj _, fun f hf => ?_, fun f hf => ?_⟩
  · exact lookup_of_mem hkeys sortKeys (hperm.mem_iff.2 hf)
  · obtain ⟨g, hg, rfl⟩ := List.mem_map.1 hf
    rw [← M.names_dump r]
    exact List.mem_map.2 ⟨g, hperm.mem_iff.1 hg, rfl⟩

/-- `extra="forbid"`. -/
def codec (M : Model ρ) : Codec ρ where
  dump r := .obj (M.dump r)
  load
    | .obj fields =>
      if ∀ f ∈ fields, f.1 ∈ M.names then M.load fun name => fields.lookup name
      else none
    | _ => none
  times := M.times
  back := M.back
  load_dump r ht := by
    obtain ⟨fields, hsorted, hlookup, hnames⟩ := M.payload r
    rw [hsorted]
    exact (if_pos hnames).trans (M.load_dump r _ ht hlookup)

/-- A model is not dumped to `null`. -/
theorem codec_ne_null (M : Model ρ) (r : ρ) : sortKeys (M.codec.dump r) ≠ .null := by
  show sortKeys (.obj _) ≠ _
  rw [sortKeys]
  exact nofun

end Model

end CloudOpsAgent
