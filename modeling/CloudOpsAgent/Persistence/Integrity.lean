/-
  The integrity envelope of local state, sealed and opened.

      payload ── seal ──→ envelope ── write ──→ file ── read ──→ envelope ── open ──→ payload, digest

  `open_local_payload` compares the version with `!=`, and hashes a header it builds again with the
  version 1.  So `true` and `1.0` pass for the version, which `seal` never writes; and the payload
  type it is asked for is checked by `seal` alone.

  1. **The envelope** — `sealLocalPayload` and `openLocalPayload`.

  2. **Exactness** — an envelope that passes but for its version and type (`Loose`) is the only one
     on which opening is not exact (`exact_iff`).

  3. **The round trip** — sealed, written, read and opened is what it was (`open_written`).
-/
import CloudOpsAgent.Lib.PyText
import CloudOpsAgent.Nz.Sha256
import CloudOpsAgent.Persistence.PrivateJson

namespace CloudOpsAgent

namespace LocalIntegrity

open Json StrictJson

/-! ## The envelope -/

/-- `LocalIntegrityError`, by its message. -/
inductive IntegrityError where
  | notCanonical | payloadNotMapping | payloadTypeInvalid
  | envelopeShape | versionUnsupported | payloadTypeMismatch | payloadShape | digestShape
  | digestMismatch
  deriving DecidableEq

/-- `LOCAL_INTEGRITY_VERSION`. -/
def localIntegrityVersion : Int := 1

/-- `_ENVELOPE_KEYS`. -/
def envelopeKeys : List String := ["integrity_version", "payload", "payload_sha256", "payload_type"]

/-- `_canonical_bytes`. -/
def canonicalBytes (value : Json) : Except IntegrityError String :=
  if encodable value then .ok value.dumps else .error .notCanonical

/-- Not empty, stripped, and at most 64 characters. -/
def isPayloadType (payloadType : String) : Bool :=
  payloadType ≠ "" && PyText.isStripped (PyText.ofString payloadType) && payloadType.length ≤ 64

/-- The header that is hashed. -/
def material (payload : List (String × Json)) (payloadType : String) : List (String × Json) :=
  [("integrity_version", .int localIntegrityVersion), ("payload", .obj payload),
    ("payload_type", .str payloadType)]

/-- A dictionary's value under a key. -/
def get (j : Json) (key : String) : Option Json :=
  match j with
  | .obj fields => fields.lookup key
  | _ => none

/-- `value == LOCAL_INTEGRITY_VERSION`. -/
def equalsVersion : Json → Bool
  | .int i => i = localIntegrityVersion
  | .bool b => b
  | .float repr => repr = "1.0"
  | _ => false

/-- 64 lowercase hex digits. -/
def isDigestText (s : String) : Bool :=
  s.toList.length = 64 && s.toList.all fun c => "0123456789abcdef".toList.contains c

/-! ### Equal dictionaries -/

theorem lookup_of_mem {l : List (String × Json)} {k : String} {j : Json}
    (hn : (l.map Prod.fst).Nodup) (h : (k, j) ∈ l) : l.lookup k = some j := by
  induction l with
  | nil => cases h
  | cons f l ih =>
    rw [List.map_cons, List.nodup_cons] at hn
    rcases List.mem_cons.1 h with rfl | hl
    · exact List.lookup_cons_self
    · have hne : k ≠ f.1 := by
        rintro rfl
        exact hn.1 (List.mem_map.2 ⟨_, hl, rfl⟩)
      rw [List.lookup_cons, beq_eq_false_iff_ne.2 hne]
      exact ih hn.2 hl

theorem mem_of_lookup {l : List (String × Json)} {k : String} {j : Json}
    (h : l.lookup k = some j) : (k, j) ∈ l := by
  obtain ⟨l₁, l₂, rfl, -⟩ := List.lookup_eq_some_iff.1 h
  simp

/-- Equal dictionaries have the same keys. -/
theorem keys_of_same {fields fields' : List (String × Json)} (hn : (fields.map Prod.fst).Nodup)
    (h : Same (.obj fields) (.obj fields')) :
    (fields.map Prod.fst).Perm (fields'.map Prod.fst) := by
  have hsub : fields.map Prod.fst ⊆ fields'.map Prod.fst := by
    intro k hk
    obtain ⟨f, hf, rfl⟩ := List.mem_map.1 hk
    obtain ⟨j', hj', -⟩ := sameFields_iff.1 h.2 f hf
    exact List.mem_map.2 ⟨_, hj', rfl⟩
  refine (List.subperm_of_subset hn hsub).perm_of_length_le ?_
  rw [List.length_map, List.length_map, h.1]

/-- Equal dictionaries have equal values. -/
theorem get_of_same {fields fields' : List (String × Json)} {k : String} {j' : Json}
    (hn : (fields.map Prod.fst).Nodup) (h : Same (.obj fields) (.obj fields'))
    (hk : fields'.lookup k = some j') : ∃ j, fields.lookup k = some j ∧ Same j j' := by
  have hkeys := keys_of_same hn h
  have hmem : k ∈ fields.map Prod.fst :=
    hkeys.symm.subset (List.mem_map.2 ⟨_, mem_of_lookup hk, rfl⟩)
  obtain ⟨f, hf, rfl⟩ := List.mem_map.1 hmem
  obtain ⟨j, hj, hsame⟩ := sameFields_iff.1 h.2 f hf
  have hj' : fields'.lookup f.1 = some j := lookup_of_mem (hkeys.nodup_iff.1 hn) hj
  rw [hk] at hj'
  obtain rfl := Option.some.inj hj'
  exact ⟨f.2, lookup_of_mem hn hf, hsame⟩

theorem wellFormed_of {j : Json} (hu : uniqueKeys j) (he : encodable j) : j.wellFormed := by
  induction j using Json.induct with
  | null | bool | int | str => rfl
  | float repr => exact he
  | arr items ih =>
    have hu := uniqueKeysAll_iff.1 hu
    have he := encodableItems_iff.1 he
    exact wellFormed_arr.2 fun j hj => ih j hj (hu j hj) (he j hj)
  | obj fields ih =>
    simp only [uniqueKeys, Bool.and_eq_true, decide_eq_true_eq] at hu
    have hu' := uniqueKeysFields_iff.1 hu.2
    have he := encodableFields_iff.1 he
    exact wellFormed_obj.2 ⟨hu.1, fun f hf => ih f hf (hu' f hf) (he f hf)⟩

theorem encodable_same {j j' : Json} (h : Same j j') (he : encodable j') : encodable j := by
  induction j using Json.induct generalizing j' with
  | null | bool | str => rfl
  | int i =>
    cases j' with
    | int i' =>
      obtain rfl : i = i' := h
      exact he
    | _ => cases h
  | float repr =>
    cases j' with
    | float repr' =>
      obtain rfl : repr = repr' := h
      exact he
    | _ => cases h
  | arr items ih =>
    cases j' with
    | arr items' =>
      have hall := sameAll_iff.1 h
      have he := encodableItems_iff.1 he
      refine encodableItems_iff.2 fun j hj => ?_
      obtain ⟨j', hj', hsame⟩ := exists_of_forall₂ hall hj
      exact ih j hj hsame (he j' hj')
    | _ => cases h
  | obj fields ih =>
    cases j' with
    | obj fields' =>
      have he := encodableFields_iff.1 he
      refine encodableFields_iff.2 fun f hf => ?_
      obtain ⟨j', hj', hsame⟩ := sameFields_iff.1 h.2 f hf
      exact ih f hf hsame (he _ hj')
    | _ => cases h

/-! ### Sealing and opening -/

section Exactness

variable [Sha256]

def sealLocalPayload (payload : Json) (payloadType : String) : Except IntegrityError Json :=
  match payload with
  | .obj fields =>
    if !isPayloadType payloadType then .error .payloadTypeInvalid
    else do
      let text ← canonicalBytes (.obj (material fields payloadType))
      return .obj (material fields payloadType ++
        [("payload_sha256", .str (Sha256.hexdigest text).hex)])
  | _ => .error .payloadNotMapping

def openLocalPayload (envelope : Json) (payloadType : String) :
    Except IntegrityError (Json × String) :=
  match envelope with
  | .obj fields =>
    if ¬ (fields.map Prod.fst ⊆ envelopeKeys ∧ envelopeKeys ⊆ fields.map Prod.fst) then
      .error .envelopeShape
    else if !(get envelope "integrity_version").any equalsVersion then .error .versionUnsupported
    else if (get envelope "payload_type").bind str? ≠ some payloadType then
      .error .payloadTypeMismatch
    else match get envelope "payload", get envelope "payload_sha256" with
      | some (.obj payload), some (.str digest) =>
        if !isDigestText digest then .error .digestShape
        else do
          let text ← canonicalBytes (.obj (material payload payloadType))
          if digest = (Sha256.hexdigest text).hex then return (.obj payload, digest)
          else .error .digestMismatch
      | some (.obj _), _ => .error .digestShape
      | _, _ => .error .payloadShape
  | _ => .error .envelopeShape

/-! ## Exactness -/

/-- `envelope` is what sealing `payload` gives, and `digest` the digest that is sealed. -/
def IsSealed (payload : Json) (payloadType : String) (envelope : Json) (digest : String) : Prop :=
  uniqueKeys payload ∧ ∃ e, sealLocalPayload payload payloadType = .ok e ∧ Same envelope e ∧
    get e "payload_sha256" = some (.str digest)

/-- Opening accepts what was sealed, and gives back the payload and the digest. -/
def Exact (envelope : Json) (payloadType : String) : Prop :=
  (∀ payload digest, openLocalPayload envelope payloadType = .ok (payload, digest) →
    IsSealed payload payloadType envelope digest) ∧
  ∀ payload digest, IsSealed payload payloadType envelope digest →
    ∃ p, openLocalPayload envelope payloadType = .ok (p, digest) ∧ Same p payload

/-- An envelope of `payload`, but for the version and the type, which only pass. -/
def Loose (envelope : Json) (payloadType : String) (payload : List (String × Json)) : Prop :=
  ∃ fields, envelope = .obj fields ∧
    fields.map Prod.fst ⊆ envelopeKeys ∧ envelopeKeys ⊆ fields.map Prod.fst ∧
    (get envelope "integrity_version").any equalsVersion ∧
    get envelope "payload_type" = some (.str payloadType) ∧
    get envelope "payload" = some (.obj payload) ∧
    encodable (.obj (material payload payloadType)) ∧
    get envelope "payload_sha256" =
      some (.str (Sha256.hexdigest (dumps (.obj (material payload payloadType)))).hex)

/-! ### Two specifications -/

variable {payload envelope e p : Json} {payloadType digest : String}
  {fields payloadFields : List (String × Json)}

omit [Sha256] in
theorem encodable_material (fields : List (String × Json)) (payloadType : String) :
    encodable (.obj (material fields payloadType)) ↔ encodable (.obj fields) := by
  have hone : (Nat.toDigits 10 1).length ≤ maxStrDigits := by decide
  simp [material, encodable, encodableFields, localIntegrityVersion, hone]

omit [Sha256] in
theorem isDigestText_hex (d : Sha256Digest) : isDigestText d.hex := by
  have digit : ∀ m < 16, "0123456789abcdef".toList.contains (Nat.digitChar m) := by decide
  have digits : ∀ n count, ∀ c ∈ UUID.hexDigits n count, "0123456789abcdef".toList.contains c := by
    intro n count
    induction count with
    | zero => exact fun c hc => by cases hc
    | succ count ih =>
      intro c hc
      rcases List.mem_cons.1 hc with rfl | hc
      · exact digit _ (Nat.mod_lt _ (by decide))
      · exact ih c hc
  unfold isDigestText Sha256Digest.hex
  rw [String.toList_ofList, length_hexDigits]
  simpa using digits d.bits.toNat 64

/-- The digest that is sealed with a payload. -/
def digestOf (payload : List (String × Json)) (payloadType : String) : String :=
  (Sha256.hexdigest (dumps (.obj (material payload payloadType)))).hex

theorem seal_ok_iff : sealLocalPayload payload payloadType = .ok e ↔
    ∃ fields, payload = .obj fields ∧ isPayloadType payloadType ∧ encodable (.obj fields) ∧
      e = .obj (material fields payloadType ++
        [("payload_sha256", .str (digestOf fields payloadType))]) := by
  unfold sealLocalPayload
  cases payload with
  | obj fields =>
    by_cases ht : isPayloadType payloadType
    · by_cases hc : encodable (.obj fields)
      · have hm := (encodable_material fields payloadType).2 hc
        simp only [ht, canonicalBytes, if_pos hm, digestOf, bind, Except.bind]
        constructor
        · intro h
          cases h
          exact ⟨fields, rfl, trivial, hc, rfl⟩
        · rintro ⟨fields', hf, -, -, rfl⟩
          obtain rfl := Json.obj.inj hf
          rfl
      · have hm := mt (encodable_material fields payloadType).1 hc
        simp only [ht, canonicalBytes, if_neg hm, bind, Except.bind]
        constructor
        · intro h
          cases h
        · rintro ⟨fields', hf, -, hc', -⟩
          obtain rfl := Json.obj.inj hf
          exact absurd hc' hc
    · simp [ht]
  | _ => simp

theorem open_ok_iff : openLocalPayload envelope payloadType = .ok (p, digest) ↔
    ∃ payload, p = .obj payload ∧ Loose envelope payloadType payload ∧
      digest = digestOf payload payloadType := by
  constructor
  · intro h
    unfold openLocalPayload at h
    split at h
    · next fields =>
      split at h
      · cases h
      next hkeys =>
      split at h
      · cases h
      next hversion =>
      split at h
      · cases h
      next htype =>
      split at h
      · next payload digest' hpayload hdigest =>
        split at h
        · cases h
        · by_cases hc : encodable (.obj (material payload payloadType))
          · simp only [canonicalBytes, if_pos hc, bind, Except.bind] at h
            split at h
            · next heq =>
              cases h
              have htype' : (get (.obj fields) "payload_type").bind str? = some payloadType := by
                simpa using htype
              obtain ⟨j, hj, hstr⟩ := Option.bind_eq_some_iff.1 htype'
              rw [eq_str hstr] at hj
              refine ⟨payload, rfl, ⟨fields, rfl, ?_, ?_, ?_, hj, hpayload, hc, ?_⟩, heq⟩
              · exact (not_not.1 hkeys).1
              · exact (not_not.1 hkeys).2
              · simpa using hversion
              · rw [hdigest, heq]
            · cases h
          · simp only [canonicalBytes, if_neg hc, bind, Except.bind] at h
            cases h
      · cases h
      · cases h
    · cases h
  · rintro ⟨payload, rfl, ⟨fields, rfl, hsub, hsup, hv, ht, hp, hc, hd⟩, rfl⟩
    unfold openLocalPayload
    have hkeys : ¬¬ (fields.map Prod.fst ⊆ envelopeKeys ∧ envelopeKeys ⊆ fields.map Prod.fst) :=
      not_not_intro ⟨hsub, hsup⟩
    have htype : ¬ (get (.obj fields) "payload_type").bind str? ≠ some payloadType := by
      rw [ht]
      simp [str?]
    simp only [if_neg hkeys, hv, if_neg htype, hp, hd, isDigestText_hex, canonicalBytes, if_pos hc,
      bind, Except.bind, digestOf]
    rfl

/-! ### When opening is exact -/

/-- A sealed envelope, and what it is compared with. -/
def sealed (payload : List (String × Json)) (payloadType : String) : List (String × Json) :=
  material payload payloadType ++ [("payload_sha256", .str (digestOf payload payloadType))]

theorem sealed_keys (payload : List (String × Json)) (payloadType k : String) :
    k ∈ (sealed payload payloadType).map Prod.fst ↔ k ∈ envelopeKeys := by
  simp only [sealed, material, envelopeKeys, List.map_cons, List.map_nil,
    List.cons_append, List.nil_append, List.mem_cons, List.not_mem_nil, or_false]
  tauto

/-- An envelope that passes, with the version 1, is the sealed one. -/
theorem same_sealed {payload : List (String × Json)} (hn : (fields.map Prod.fst).Nodup)
    (h : Loose (.obj fields) payloadType payload)
    (hversion : get (.obj fields) "integrity_version" = some (.int localIntegrityVersion)) :
    Same (.obj fields) (.obj (sealed payload payloadType)) := by
  obtain ⟨fields', he, hsub, hsup, -, ht, hp, -, hd⟩ := h
  obtain rfl := Json.obj.inj he
  have hlength : fields.length = 4 := by
    have hperm : (fields.map Prod.fst).Perm envelopeKeys :=
      (List.subperm_of_subset hn hsub).antisymm (List.subperm_of_subset (by decide) hsup)
    rw [← List.length_map (f := Prod.fst), hperm.length_eq]
    rfl
  refine ⟨hlength, sameFields_iff.2 fun f hf => ?_⟩
  have hget : get (.obj fields) f.1 = some f.2 := lookup_of_mem hn hf
  have hkey : f.1 ∈ envelopeKeys := hsub (List.mem_map.2 ⟨f, hf, rfl⟩)
  have field : ∀ {k j}, get (.obj fields) k = some j → (k, j) ∈ sealed payload payloadType →
      f.1 = k → ∃ j', (f.1, j') ∈ sealed payload payloadType ∧ Same f.2 j' := by
    intro k j hj hmem hk
    rw [hk, hj] at hget
    obtain rfl := Option.some.inj hget
    exact ⟨_, hk ▸ hmem, Same.refl _⟩
  simp only [envelopeKeys, List.mem_cons, List.not_mem_nil, or_false] at hkey
  rcases hkey with hk | hk | hk | hk
  · exact field hversion (by simp [sealed, material]) hk
  · exact field hp (by simp [sealed, material]) hk
  · exact field hd (by simp [sealed, digestOf]) hk
  · exact field ht (by simp [sealed, material]) hk

/-- What equals a sealed envelope passes, with the version 1, and carries that digest. -/
theorem loose_of_sealed {payload : List (String × Json)} (he : uniqueKeys envelope)
    (hc : encodable (.obj payload))
    (h : Same envelope (.obj (sealed payload payloadType))) :
    ∃ p, Loose envelope payloadType p ∧ Same (.obj p) (.obj payload) ∧
      get envelope "integrity_version" = some (.int localIntegrityVersion) ∧
      digestOf p payloadType = digestOf payload payloadType := by
  cases envelope with
  | obj fields =>
    have hu := he
    simp only [uniqueKeys, Bool.and_eq_true, decide_eq_true_eq] at he
    have hkeys := keys_of_same he.1 h
    obtain ⟨version, hversion, hsame⟩ := get_of_same (k := "integrity_version") he.1 h rfl
    obtain ⟨type, htype, hsame'⟩ := get_of_same (k := "payload_type") he.1 h rfl
    obtain ⟨digest, hdigest, hsame''⟩ := get_of_same (k := "payload_sha256") he.1 h rfl
    obtain ⟨p, hget, hpayload⟩ := get_of_same (k := "payload") he.1 h rfl
    obtain rfl : version = .int localIntegrityVersion := by
      cases version <;> first | exact congrArg Json.int hsame | cases hsame
    obtain rfl : type = .str payloadType := by
      cases type <;> first | exact congrArg Json.str hsame' | cases hsame'
    obtain rfl : digest = .str (digestOf payload payloadType) := by
      cases digest <;> first | exact congrArg Json.str hsame'' | cases hsame''
    cases p with
    | obj p =>
      have hpu : uniqueKeys (.obj p) := uniqueKeysFields_iff.1 he.2 _ (mem_of_lookup hget)
      have hpc : encodable (.obj p) := encodable_same hpayload hc
      -- the two headers are one value, so they are hashed as one text
      have hmaterial : Same (.obj (material p payloadType)) (.obj (material payload payloadType)) := by
        refine ⟨rfl, sameFields_iff.2 fun f hf => ?_⟩
        simp only [material, List.mem_cons, List.not_mem_nil, or_false] at hf
        rcases hf with rfl | rfl | rfl
        · exact ⟨_, by simp [material], Same.refl _⟩
        · exact ⟨.obj payload, by simp [material], hpayload⟩
        · exact ⟨_, by simp [material], Same.refl _⟩
      have hwell : (Json.obj (material p payloadType)).wellFormed := by
        refine wellFormed_obj.2 ⟨by simp [material], fun f hf => ?_⟩
        simp only [material, List.mem_cons, List.not_mem_nil, or_false] at hf
        rcases hf with rfl | rfl | rfl
        · rfl
        · exact wellFormed_of hpu hpc
        · rfl
      have hhash : digestOf p payloadType = digestOf payload payloadType := by
        rw [digestOf, digestOf, dumps_same hwell hmaterial]
      refine ⟨p, ⟨fields, rfl, ?_, ?_, ?_, htype, hget, ?_, ?_⟩, hpayload, hversion, hhash⟩
      · exact fun k hk => (sealed_keys payload payloadType k).1 (hkeys.subset hk)
      · exact fun k hk => hkeys.symm.subset ((sealed_keys payload payloadType k).2 hk)
      · show (fields.lookup "integrity_version").any equalsVersion
        rw [hversion]
        rfl
      · exact (encodable_material p payloadType).2 hpc
      · show fields.lookup "payload_sha256" = some (.str (digestOf p payloadType))
        rw [hdigest, hhash]
    | _ => cases hpayload
  | _ => cases h

/-- **Opening is exact, and when**: if and only if an envelope that passes has the integer 1 for its
    version, and the payload type asked for is one `seal` takes. -/
theorem exact_iff (he : uniqueKeys envelope) : Exact envelope payloadType ↔
    ∀ payload, Loose envelope payloadType payload →
      get envelope "integrity_version" = some (.int localIntegrityVersion) ∧
      isPayloadType payloadType := by
  constructor
  · rintro ⟨hopen, -⟩ payload hl
    obtain ⟨-, e, hs, hsame, -⟩ := hopen (.obj payload) _ (open_ok_iff.2 ⟨payload, rfl, hl, rfl⟩)
    obtain ⟨fields, hf, ht, hc, rfl⟩ := seal_ok_iff.1 hs
    obtain rfl := Json.obj.inj hf
    obtain ⟨p, -, -, hversion, -⟩ := loose_of_sealed he hc hsame
    exact ⟨hversion, ht⟩
  · intro h
    constructor
    · intro p digest hp
      obtain ⟨payload, rfl, hl, rfl⟩ := open_ok_iff.1 hp
      obtain ⟨hversion, ht⟩ := h payload hl
      obtain ⟨fields, rfl, -, -, -, -, hget, hc, -⟩ := id hl
      simp only [uniqueKeys, Bool.and_eq_true, decide_eq_true_eq] at he
      have hpu : uniqueKeys (.obj payload) := uniqueKeysFields_iff.1 he.2 _ (mem_of_lookup hget)
      refine ⟨hpu, .obj (sealed payload payloadType), ?_, same_sealed he.1 hl hversion, rfl⟩
      exact seal_ok_iff.2 ⟨payload, rfl, ht, (encodable_material payload payloadType).1 hc, rfl⟩
    · rintro payload digest ⟨-, e, hs, hsame, hd⟩
      obtain ⟨fields, rfl, -, hc, rfl⟩ := seal_ok_iff.1 hs
      obtain ⟨p, hl, hpayload, -, hhash⟩ := loose_of_sealed he hc hsame
      have hdigest : digestOf fields payloadType = digest := by
        simpa [get, material, List.lookup_cons] using hd
      exact ⟨.obj p, open_ok_iff.2 ⟨p, rfl, hl, hdigest ▸ hhash.symm⟩, hpayload⟩

/-! ## The round trip -/

theorem uniqueKeys_sealed {payload : List (String × Json)} (payloadType : String)
    (hp : uniqueKeys (.obj payload)) :
    uniqueKeys (.obj (sealed payload payloadType)) := by
  simp only [uniqueKeys, Bool.and_eq_true, decide_eq_true_eq]
  refine ⟨by simp [sealed, material], uniqueKeysFields_iff.2 fun f hf => ?_⟩
  simp only [sealed, material, List.cons_append, List.nil_append, List.mem_cons, List.not_mem_nil,
    or_false] at hf
  rcases hf with rfl | rfl | rfl | rfl
  · rfl
  · exact hp
  · rfl
  · rfl

theorem floatsRead_sealed [FloatRepr] {payload : List (String × Json)}
    (hp : FloatsRead (.obj payload)) : FloatsRead (.obj (sealed payload payloadType)) := by
  refine fieldsRead_iff.2 fun f hf => ?_
  simp only [sealed, material, List.cons_append, List.nil_append, List.mem_cons, List.not_mem_nil,
    or_false] at hf
  rcases hf with rfl | rfl | rfl | rfl
  · trivial
  · exact hp
  · trivial
  · trivial

/-- **Sealed, written, read and opened** is the payload that was sealed. -/
theorem open_written [FloatRepr] {text : String} (hp : uniqueKeys payload) (hf : FloatsRead payload)
    (hs : sealLocalPayload payload payloadType = .ok e) (hw : writePrivate e = some text) :
    ∃ e' p digest, readPrivate localStateMaxBytes text = some e' ∧
      openLocalPayload e' payloadType = .ok (p, digest) ∧ Same p payload ∧
      get e "payload_sha256" = some (.str digest) := by
  obtain ⟨fields, rfl, -, hc, rfl⟩ := seal_ok_iff.1 hs
  have hu := uniqueKeys_sealed payloadType hp
  have hread := read_write hu (floatsRead_sealed hf) hw
  obtain ⟨p, hl, hpayload, -, hhash⟩ := loose_of_sealed (uniqueKeys_sortKeys hu) hc (same_sortKeys _)
  exact ⟨_, .obj p, _, hread, open_ok_iff.2 ⟨p, rfl, hl, hhash.symm⟩, hpayload, rfl⟩

/-- **The integrity envelope, and when it is exact.**  Opening accepts what was sealed and nothing
    else if and only if an envelope that passes has the integer 1 for its version, and the payload
    type is one `seal` takes.  The strict reader gives what a text says unless a key stands twice at
    some depth, and what is written is read back, and opened. -/
theorem integrity_iff [FloatRepr] :
    (∀ envelope payloadType, uniqueKeys envelope → (Exact envelope payloadType ↔
      ∀ payload, Loose envelope payloadType payload →
        get envelope "integrity_version" = some (.int localIntegrityVersion) ∧
        isPayloadType payloadType)) ∧
    (∀ text j, strictJson text = .ok j ↔ load plain text.toList = .ok j ∧ uniqueKeys j) ∧
    (∀ j text, uniqueKeys j → FloatsRead j → writePrivate j = some text →
      ∃ j', readPrivate localStateMaxBytes text = some j' ∧ Same j' j) ∧
    ∀ payload payloadType e text, uniqueKeys payload → FloatsRead payload →
      sealLocalPayload payload payloadType = .ok e → writePrivate e = some text →
      ∃ e' p digest, readPrivate localStateMaxBytes text = some e' ∧
        openLocalPayload e' payloadType = .ok (p, digest) ∧ Same p payload ∧
        get e "payload_sha256" = some (.str digest) := by
  refine ⟨fun envelope payloadType he => exact_iff he, fun text j => strict_iff, ?_, ?_⟩
  · intro j text hj hf hw
    exact ⟨_, read_write hj hf hw, same_sortKeys j⟩
  · intro payload payloadType e text hp hf hs hw
    exact open_written hp hf hs hw

end Exactness

/-- An empty payload, under a version that is `true`. -/
def versionTrue [Sha256] : Json :=
  .obj [("integrity_version", .bool true), ("payload", .obj []), ("payload_type", .str "run"),
    ("payload_sha256", .str (digestOf [] "run"))]

/-- It passes, and no payload is sealed so. -/
theorem versionTrue_opened [Sha256] : ¬ Exact versionTrue "run" := by
  rw [exact_iff (by rfl)]
  intro h
  have hl : Loose versionTrue "run" [] := by
    refine ⟨_, rfl, ?_, ?_, rfl, rfl, rfl, ?_, rfl⟩
    · simp [envelopeKeys]
    · simp [envelopeKeys]
    · exact (encodable_material [] "run").2 rfl
  have hversion := (h [] hl).1
  cases hversion

/-- Opening is not exact, with the hash that is used. -/
theorem open_not_exact : ¬ ∀ envelope payloadType, uniqueKeys envelope →
    @Exact Sha256.standard envelope payloadType :=
  fun h => @versionTrue_opened Sha256.standard (h _ _ rfl)

end LocalIntegrity

end CloudOpsAgent
