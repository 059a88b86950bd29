/-
  Keyed tables: finite maps in which every record sits under its own key.

  `Table key` is a finite map from keys to records together with the proof that a record found
  under `k` has `key v = k`.  Because `put` files a record under its own key, the invariant never
  has to be re-established by a user of the table, and an update that leaves the key of a record
  alone is just another `put`.

  1. **Lookup and update** — `get`, `put`, and how they interact.
  2. **Keys** — the key set of a table and what `put` does to it; counting the keys of one group.
  3. **Evolution** — `t.Evolves R t'`: every record of `t` is still there in `t'`, up to `R`; and
     `t.Known R v`: `v` was read from an earlier version of `t`.
  4. **Records as lists** — `ofList` (what a loader does) and `select` along a list of keys, with
     `ofList_select`: a table is rebuilt from the list of its records.
  5. **Sorted listings** — `listed`, what a dumper does: the records in the order of the texts of
     their keys.
  6. **Changing every record** — `mapRecords`, and how it goes with the rest.
-/
import Mathlib.Data.Finmap
import Mathlib.Data.Finset.Sort

/-- A finite map whose records are filed under their own keys. -/
structure Table {κ ν : Type} [DecidableEq κ] (key : ν → κ) where
  entries : Finmap (fun _ : κ => ν)
  keyed : ∀ {k v}, entries.lookup k = some v → key v = k

namespace Table

variable {κ ν : Type} [DecidableEq κ] {key : ν → κ}

/-! ## Lookup and update -/

def empty : Table key where
  entries := ∅
  keyed h := by simp at h

instance : EmptyCollection (Table key) := ⟨empty⟩
instance : Inhabited (Table key) := ⟨empty⟩

def get (t : Table key) (k : κ) : Option ν := t.entries.lookup k

/-- File a record under its own key, over whatever was there. -/
def put (t : Table key) (v : ν) : Table key where
  entries := t.entries.insert (key v) v
  keyed {k w} h := by
    by_cases hk : k = key v
    · subst hk
      rw [Finmap.lookup_insert] at h
      cases h; rfl
    · rw [Finmap.lookup_insert_of_ne _ hk] at h
      exact t.keyed h

/-- Take the record under a key away. -/
def erase (t : Table key) (k : κ) : Table key where
  entries := t.entries.erase k
  keyed {j w} h := by
    by_cases hj : j = k
    · subst hj
      rw [Finmap.lookup_erase] at h
      cases h
    · rw [Finmap.lookup_erase_ne hj] at h
      exact t.keyed h

@[simp] theorem get_erase_self (t : Table key) (k : κ) : (t.erase k).get k = none :=
  Finmap.lookup_erase _ _

theorem get_erase_of_ne (t : Table key) {j k : κ} (h : j ≠ k) : (t.erase k).get j = t.get j :=
  Finmap.lookup_erase_ne h

@[simp] theorem get_empty (k : κ) : (∅ : Table key).get k = none := Finmap.lookup_empty k

@[simp] theorem get_put_self (t : Table key) (v : ν) : (t.put v).get (key v) = some v :=
  Finmap.lookup_insert _

theorem get_put_of_ne (t : Table key) {v : ν} {k : κ} (h : k ≠ key v) :
    (t.put v).get k = t.get k := Finmap.lookup_insert_of_ne _ h

theorem get_put (t : Table key) (v : ν) (k : κ) :
    (t.put v).get k = if k = key v then some v else t.get k := by
  split
  · next h => subst h; exact get_put_self t v
  · next h => exact get_put_of_ne t h

/-- The record found after a `put` is the new one or an old one. -/
theorem get_put_cases {t : Table key} {v w : ν} {k : κ} (h : (t.put v).get k = some w) :
    k = key v ∧ w = v ∨ k ≠ key v ∧ t.get k = some w := by
  rw [get_put] at h
  split at h
  · next hk => exact .inl ⟨hk, by cases h; rfl⟩
  · next hk => exact .inr ⟨hk, h⟩

theorem key_of_get {t : Table key} {k : κ} {v : ν} (h : t.get k = some v) : key v = k := t.keyed h

theorem get_put_of_get {t : Table key} {v w : ν} (hk : t.get (key v) = none) {k : κ}
    (h : t.get k = some w) : (t.put v).get k = some w := by
  rw [get_put_of_ne]
  · exact h
  · rintro rfl
    rw [hk] at h
    cases h

@[ext] theorem ext {t t' : Table key} (h : ∀ k, t.get k = t'.get k) : t = t' := by
  obtain ⟨e, he⟩ := t
  obtain ⟨e', he'⟩ := t'
  have : e = e' := Finmap.ext_lookup h
  subst this
  rfl

/-! ## Keys -/

def keys (t : Table key) : Finset κ := t.entries.keys

/-- `len(table)`. -/
def size (t : Table key) : Nat := t.keys.card

@[simp] theorem keys_empty : (∅ : Table key).keys = ∅ := rfl

theorem mem_keys {t : Table key} {k : κ} : k ∈ t.keys ↔ ∃ v, t.get k = some v := by
  rw [keys, Finmap.mem_keys, ← Finmap.lookup_isSome, Option.isSome_iff_exists]
  rfl

theorem get_of_keys_empty {t : Table key} (h : t.keys = ∅) (k : κ) : t.get k = none := by
  rcases hv : t.get k with _ | v
  · rfl
  · have := mem_keys.mpr ⟨v, hv⟩
    rw [h] at this
    cases this

@[simp] theorem keys_put (t : Table key) (v : ν) : (t.put v).keys = insert (key v) t.keys := by
  ext k
  rw [mem_keys, Finset.mem_insert, mem_keys]
  constructor
  · rintro ⟨w, hw⟩
    obtain ⟨hk, -⟩ | ⟨-, hw⟩ := get_put_cases hw
    · exact .inl hk
    · exact .inr ⟨w, hw⟩
  · rintro (rfl | ⟨w, hw⟩)
    · exact ⟨v, get_put_self t v⟩
    · by_cases hk : k = key v
      · exact ⟨v, by rw [hk, get_put_self]⟩
      · exact ⟨w, by rw [get_put_of_ne t hk, hw]⟩

theorem forall_empty {P : ν → Prop} : ∀ k w, (∅ : Table key).get k = some w → P w := by
  intro k w hw
  rw [get_empty] at hw
  cases hw

/-- What holds of every record, and of a new one, holds of every record afterwards. -/
theorem forall_put {t : Table key} {v : ν} {P : ν → Prop} (h : ∀ k w, t.get k = some w → P w)
    (hv : P v) : ∀ k w, (t.put v).get k = some w → P w := by
  intro k w hw
  rw [get_put] at hw
  split at hw
  · cases hw
    exact hv
  · exact h k w hw

theorem isSome_get_put {t : Table key} {k : κ} (v : ν) (h : (t.get k).isSome) :
    ((t.put v).get k).isSome := by
  rw [get_put]
  split
  · rfl
  · exact h

theorem size_put_of_get {t : Table key} {v w : ν} (h : t.get (key v) = some w) :
    (t.put v).size = t.size := by
  rw [size, keys_put, Finset.insert_eq_of_mem (mem_keys.mpr ⟨w, h⟩), size]

theorem size_put_of_none {t : Table key} {v : ν} (h : t.get (key v) = none) :
    (t.put v).size = t.size + 1 := by
  rw [size, keys_put, Finset.card_insert_of_notMem, size]
  intro hmem
  obtain ⟨w, hw⟩ := mem_keys.mp hmem
  rw [h] at hw
  cases hw

/-- How many keys of the table satisfy `p`. -/
def countKeys (t : Table key) (p : κ → Prop) [DecidablePred p] : Nat := (t.keys.filter p).card

theorem countKeys_put_of_none {t : Table key} {v : ν} {p : κ → Prop} [DecidablePred p]
    (h : t.get (key v) = none) :
    (t.put v).countKeys p = t.countKeys p + if p (key v) then 1 else 0 := by
  have hmem : key v ∉ t.keys := fun hm => by
    obtain ⟨w, hw⟩ := mem_keys.mp hm
    rw [h] at hw
    cases hw
  rw [countKeys, keys_put, Finset.filter_insert]
  split
  · rw [Finset.card_insert_of_notMem (fun hm => hmem (Finset.mem_filter.mp hm).1), countKeys]
  · rw [countKeys, Nat.add_zero]

theorem countKeys_put_of_get {t : Table key} {v w : ν} {p : κ → Prop} [DecidablePred p]
    (h : t.get (key v) = some w) : (t.put v).countKeys p = t.countKeys p := by
  rw [countKeys, keys_put, Finset.insert_eq_of_mem (mem_keys.mpr ⟨w, h⟩), countKeys]

/-! ## Evolution -/

/-- Every record of `t` has a successor under the same key in `t'`. -/
def Evolves (R : ν → ν → Prop) (t t' : Table key) : Prop :=
  ∀ k v, t.get k = some v → ∃ w, t'.get k = some w ∧ R v w

theorem Evolves.refl {R : ν → ν → Prop} (hR : ∀ v, R v v) (t : Table key) : t.Evolves R t :=
  fun _ v hv => ⟨v, hv, hR v⟩

theorem Evolves.trans {R : ν → ν → Prop} (hR : ∀ u v w, R u v → R v w → R u w)
    {t t' t'' : Table key} (h : t.Evolves R t') (h' : t'.Evolves R t'') : t.Evolves R t'' := by
  intro k v hv
  obtain ⟨v', hv', hR1⟩ := h k v hv
  obtain ⟨v'', hv'', hR2⟩ := h' k v' hv'
  exact ⟨v'', hv'', hR _ _ _ hR1 hR2⟩

/-- A table evolves by a `put` that replaces at most an `R`-predecessor of the new record. -/
theorem evolves_put {R : ν → ν → Prop} (hR : ∀ v, R v v) {t : Table key} {v : ν}
    (h : ∀ w, t.get (key v) = some w → R w v) : t.Evolves R (t.put v) := by
  intro k w hw
  by_cases hk : k = key v
  · subst hk
    exact ⟨v, get_put_self t v, h w hw⟩
  · exact ⟨w, by rw [get_put_of_ne t hk, hw], hR w⟩

/-- Under `Eq`, evolution means that nothing is ever changed. -/
theorem Evolves.trans_eq {t t' t'' : Table key} (h : t.Evolves Eq t') (h' : t'.Evolves Eq t'') :
    t.Evolves Eq t'' := by
  intro k v hv
  obtain ⟨v', hv', rfl⟩ := h k v hv
  exact h' k v hv'

theorem Evolves.get_eq {t t' : Table key} (h : t.Evolves Eq t') {k : κ} {v : ν}
    (hv : t.get k = some v) : t'.get k = some v := by
  obtain ⟨w, hw, rfl⟩ := h k v hv
  exact hw

/-- A record that was read from an earlier version of the table: its successor is there. -/
def Known (R : ν → ν → Prop) (t : Table key) (v : ν) : Prop := ∃ w, t.get (key v) = some w ∧ R v w

theorem Known.of_get {R : ν → ν → Prop} (hR : ∀ v, R v v) {t : Table key} {k : κ} {v : ν}
    (h : t.get k = some v) : t.Known R v := ⟨v, by rw [key_of_get h, h], hR v⟩

theorem Known.evolves {R : ν → ν → Prop} (hR : ∀ u v w, R u v → R v w → R u w) {t t' : Table key}
    (h : t.Evolves R t') {v : ν} (hv : t.Known R v) : t'.Known R v := by
  obtain ⟨w, hw, hvw⟩ := hv
  obtain ⟨w', hw', hww'⟩ := h _ w hw
  exact ⟨w', hw', hR _ _ _ hvw hww'⟩

/-! ## Records as lists -/

/-- File the records of a list one after the other. -/
def ofList (l : List ν) : Table key := l.foldl put ∅

/-- The records under a list of keys, in that order. -/
def select (t : Table key) (ks : List κ) : List ν := ks.filterMap t.get

theorem get_foldl_put (l : List ν) : ∀ (t : Table key) (k : κ), (∀ v ∈ l, key v ≠ k) →
    (l.foldl put t).get k = t.get k := by
  induction l with
  | nil => exact fun _ _ _ => rfl
  | cons v l ih =>
    intro t k h
    rw [List.foldl_cons, ih _ _ fun w hw => h w (List.mem_cons_of_mem _ hw)]
    exact get_put_of_ne t fun hk => h v List.mem_cons_self hk.symm

theorem get_foldl_put_of_mem {l : List ν} (hl : (l.map key).Nodup) {v : ν} (hv : v ∈ l) :
    ∀ t : Table key, (l.foldl put t).get (key v) = some v := by
  induction l with
  | nil => cases hv
  | cons w l ih =>
    intro t
    rw [List.map_cons, List.nodup_cons] at hl
    obtain rfl | hv := List.mem_cons.mp hv
    · rw [List.foldl_cons, get_foldl_put l]
      · exact get_put_self t v
      · exact fun u hu hk => hl.1 (hk ▸ List.mem_map_of_mem (f := key) hu)
    · exact ih hl.2 hv _

theorem mem_select {t : Table key} {ks : List κ} {v : ν} :
    v ∈ t.select ks ↔ key v ∈ ks ∧ t.get (key v) = some v := by
  rw [select, List.mem_filterMap]
  constructor
  · rintro ⟨k, hk, hv⟩
    have := key_of_get hv
    subst this
    exact ⟨hk, hv⟩
  · exact fun h => ⟨key v, h.1, h.2⟩

theorem map_key_select {t : Table key} {ks : List κ} (h : ∀ k ∈ ks, k ∈ t.keys) :
    (t.select ks).map key = ks := by
  induction ks with
  | nil => rfl
  | cons k ks ih =>
    obtain ⟨v, hv⟩ := mem_keys.mp (h k List.mem_cons_self)
    have ih := ih fun k' hk' => h k' (List.mem_cons_of_mem _ hk')
    rw [select, List.filterMap_cons_some hv, List.map_cons, key_of_get hv]
    exact congrArg (k :: ·) ih

theorem length_select {t : Table key} {ks : List κ} (h : ∀ k ∈ ks, k ∈ t.keys) :
    (t.select ks).length = ks.length := by
  rw [← List.length_map (f := key), map_key_select h]

/-- **Reloading**: a table is rebuilt from its records, listed along its keys in any order. -/
theorem ofList_select {t : Table key} {ks : List κ} (hks : ks.Nodup)
    (hmem : ∀ k, k ∈ ks ↔ k ∈ t.keys) : ofList (t.select ks) = t := by
  have hkeys := map_key_select (t := t) fun k hk => (hmem k).mp hk
  ext1 k
  cases hk : t.get k with
  | none =>
    rw [ofList, get_foldl_put]
    · exact get_empty k
    · rintro v hv rfl
      rw [(mem_select.mp hv).2] at hk
      cases hk
  | some v =>
    have hkv := key_of_get hk
    subst hkv
    have hv : v ∈ t.select ks := mem_select.mpr ⟨(hmem _).mpr (mem_keys.mpr ⟨v, hk⟩), hk⟩
    exact get_foldl_put_of_mem (by rwa [hkeys]) hv _

/-! ## Sorted listings -/

section Listed

variable {β : Type} [LinearOrder β] (text : κ → β) (htext : Function.Injective text)

omit [DecidableEq κ] in
/-- The keys in the order of their texts. -/
def sortedBy (s : Finset κ) : List κ :=
  letI := LinearOrder.lift' text htext
  s.sort (· ≤ ·)

variable {text htext}

omit [DecidableEq κ] in
theorem mem_sortedBy {s : Finset κ} {k : κ} : k ∈ sortedBy text htext s ↔ k ∈ s := by
  let _ := LinearOrder.lift' text htext
  exact Finset.mem_sort _

omit [DecidableEq κ] in
theorem nodup_sortedBy (s : Finset κ) : (sortedBy text htext s).Nodup := by
  let _ := LinearOrder.lift' text htext
  exact Finset.sort_nodup _ _

omit [DecidableEq κ] in
theorem length_sortedBy (s : Finset κ) : (sortedBy text htext s).length = s.card := by
  let _ := LinearOrder.lift' text htext
  exact Finset.length_sort _

variable (text htext)

/-- The records in the order of the texts of their keys. -/
def listed (t : Table key) : List ν := t.select (sortedBy text htext t.keys)

variable {text htext} {t : Table key}

theorem mem_listed {v : ν} : v ∈ t.listed text htext ↔ t.get (key v) = some v := by
  rw [listed, mem_select, mem_sortedBy, mem_keys]
  exact ⟨fun h => h.2, fun h => ⟨⟨v, h⟩, h⟩⟩

theorem map_key_listed : (t.listed text htext).map key = sortedBy text htext t.keys :=
  map_key_select fun _ hk => mem_sortedBy.mp hk

theorem length_listed : (t.listed text htext).length = t.size := by
  rw [← List.length_map (f := key), map_key_listed, length_sortedBy, size]

/-- Counting the listed records of a group counts its keys. -/
theorem countP_listed {p : κ → Prop} [DecidablePred p] :
    (t.listed text htext).countP (fun v => p (key v)) = t.countKeys p := by
  have hmap : (t.listed text htext).countP (fun v => p (key v)) =
      (sortedBy text htext t.keys).countP (fun k => p k) := by
    rw [← map_key_listed, List.countP_map]
    rfl
  have hnodup : ((sortedBy text htext t.keys).filter fun k => p k).Nodup :=
    (nodup_sortedBy _).filter _
  rw [hmap, List.countP_eq_length_filter, ← List.toFinset_card_of_nodup hnodup, countKeys]
  congr 1
  ext k
  simp [mem_sortedBy]

theorem ofList_listed : ofList (t.listed text htext) = t :=
  ofList_select (nodup_sortedBy _) fun _ => mem_sortedBy

end Listed

/-! ## Changing every record -/

/-- Every record changed by `f`, under the key it had. -/
def mapRecords (t : Table key) (f : ν → ν) (hf : ∀ v, key (f v) = key v) : Table key where
  entries := ⟨t.entries.entries.map fun e => ⟨e.1, f e.2⟩, by
    rw [← Multiset.nodup_keys, Multiset.keys, Multiset.map_map]
    exact t.entries.nodupKeys.nodup_keys⟩
  keyed {k v} h := by
    obtain ⟨⟨k', w⟩, hmem, he⟩ := Multiset.mem_map.mp (Finmap.lookup_eq_some_iff.mp h)
    cases he
    exact (hf w).trans (t.keyed (Finmap.lookup_eq_some_iff.mpr hmem))

theorem get_mapRecords {t : Table key} {f : ν → ν} {hf : ∀ v, key (f v) = key v} (k : κ) :
    (t.mapRecords f hf).get k = (t.get k).map f := by
  refine Option.ext fun v => ?_
  rw [Option.map_eq_some_iff]
  refine Finmap.lookup_eq_some_iff.trans (Multiset.mem_map.trans ?_)
  constructor
  · rintro ⟨⟨k', w⟩, hmem, he⟩
    cases he
    exact ⟨w, Finmap.lookup_eq_some_iff.mpr hmem, rfl⟩
  · rintro ⟨w, hw, rfl⟩
    exact ⟨⟨k, w⟩, Finmap.lookup_eq_some_iff.mp hw, rfl⟩

@[simp] theorem keys_mapRecords (t : Table key) {f : ν → ν} {hf : ∀ v, key (f v) = key v} :
    (t.mapRecords f hf).keys = t.keys := by
  ext k
  rw [mem_keys, mem_keys]
  simp [get_mapRecords]

theorem mapRecords_put {t : Table key} {f : ν → ν} {hf : ∀ v, key (f v) = key v} (v : ν) :
    (t.put v).mapRecords f hf = (t.mapRecords f hf).put (f v) := by
  ext1 k
  rw [get_mapRecords, get_put, get_put, hf, get_mapRecords]
  split
  · rfl
  · rfl

theorem mapRecords_eq_self {t : Table key} {f : ν → ν} {hf : ∀ v, key (f v) = key v}
    (h : ∀ k v, t.get k = some v → f v = v) : t.mapRecords f hf = t := by
  ext1 k
  rw [get_mapRecords]
  cases hk : t.get k with
  | none => rfl
  | some v => exact congrArg some (h k v hk)

/-- **Reloading through a change**: the changed records rebuild the changed table. -/
theorem ofList_map_listed {β : Type} [LinearOrder β] {text : κ → β}
    {htext : Function.Injective text} {t : Table key} {f : ν → ν} (hf : ∀ v, key (f v) = key v) :
    ofList ((t.listed text htext).map f) = t.mapRecords f hf := by
  have hkeys : ((t.listed text htext).map f).map key = sortedBy text htext t.keys := by
    rw [List.map_map, ← map_key_listed]
    exact List.map_congr_left fun v _ => hf v
  ext1 k
  rw [get_mapRecords]
  cases hk : t.get k with
  | none =>
    rw [ofList, get_foldl_put]
    · exact get_empty k
    · intro w hw hwk
      have hmem : k ∈ sortedBy text htext t.keys := by
        rw [← hkeys, ← hwk]
        exact List.mem_map_of_mem hw
      obtain ⟨v, hv⟩ := mem_keys.mp (mem_sortedBy.mp hmem)
      rw [hk] at hv
      cases hv
  | some v =>
    have hkv := key_of_get hk
    subst hkv
    have hmem : f v ∈ (t.listed text htext).map f := List.mem_map_of_mem (mem_listed.mpr hk)
    have hget := get_foldl_put_of_mem (by rw [hkeys]; exact nodup_sortedBy _) hmem (∅ : Table key)
    rw [hf] at hget
    exact hget

end Table
