/-
  The records of the repository as items of the table.

  1. **Kept** — a record whose instants and floats survive the way into an attribute and back.

  2. **Slots** — where a record is kept.  No two slots share a key.

  3. **Forms** — `x.Form item`: the item holds the record `x`, with the attributes its conditions look
     at.  Reading it gives the record back.

  4. **Tables and stores** — `Represents items s`: the table holds the records of the store, and nothing
     under any other slot.
-/
import CloudOpsAgent.Persistence.Dumps
import CloudOpsAgent.Persistence.NzDynamodb

namespace CloudOpsAgent

open Json StrictJson

/-! ## Kept -/

/-- A way to read floats that none survives. -/
abbrev noFloat : FloatRepr := ⟨fun text => text ++ "?"⟩

theorem everyFloat_of_noFloat {p : String → Prop} {j : Json} (h : @FloatsRead noFloat j) :
    Dynamo.EveryFloat p j := by
  induction j using Json.induct with
  | null | bool | int | str => exact trivial
  | float repr =>
    have hlength := congrArg String.length h.1
    have hread : @FloatRepr.read noFloat repr = repr ++ "?" := rfl
    rw [hread, String.length_append] at hlength
    exact absurd hlength (Nat.ne_of_gt (Nat.lt_succ_self _))
  | arr items ih =>
    have hall := (@itemsRead_iff noFloat items).1 h
    exact Dynamo.everyFloat_arr.mpr fun j hj => ih j hj (hall j hj)
  | obj fields ih =>
    have hall := (@fieldsRead_iff noFloat fields).1 h
    exact Dynamo.everyFloat_obj.mpr fun f hf => ih f hf (hall f hf)

variable [FloatParse]

/-- A `datetime` holds each instant of the record, and `float(repr(x)) == x` for its floats. -/
structure Model.Kept {ρ : Type} (M : Model ρ) (r : ρ) : Prop where
  floats : Dynamo.FloatsParse (M.codec.dump r)
  times : ∀ t ∈ M.times r, t ≤ Time.datetimeMax

/-- A record without floats is kept where it can be stored. -/
theorem Model.kept_iff {ρ : Type} {M : Model ρ} {r : ρ}
    (hclean : ∀ _floats : FloatRepr, M.codec.Clean r) :
    M.Kept r ↔ @Model.Storable noFloat ρ M r := by
  constructor
  · intro h
    exact @Model.Storable.mk noFloat ρ M r (hclean noFloat) h.times
  · intro h
    let _ := noFloat
    exact ⟨everyFloat_of_noFloat (hclean noFloat).2, h.times⟩

theorem Run.kept_iff {r : Run} : Run.model.Kept r ↔ r.updatedAt ≤ Time.datetimeMax := by
  have htimes : Run.model.times r = [r.createdAt, r.updatedAt] := rfl
  constructor
  · intro h
    have h := h.times
    rw [htimes] at h
    exact h _ (by simp)
  · intro hu
    refine (Model.kept_iff fun _ => r.clean).mpr (@Model.Storable.mk noFloat _ _ r
      (@Run.clean noFloat r) fun t ht => ?_)
    rw [htimes, List.mem_pair] at ht
    obtain rfl | rfl := ht
    · exact r.time_order.trans hu
    · exact hu

/-! ## Slots -/

/-- Where a record is kept. -/
inductive Slot where
  | run (runId : UUID)
  | proposal (proposalId : UUID)
  | approval (proposalId : UUID)
  | idempotency (key : String)
  | checkpoint (runId : UUID)
  | auditEvent (runId eventId : UUID)
  | evidence (runId proposalId : UUID)
  deriving DecidableEq

namespace Slot

/-- Its key; the one of an idempotency record is only used where it passes the check. -/
def key : Slot → DynamoKey
  | run runId => runKey runId
  | proposal proposalId => proposalKey proposalId
  | approval proposalId => approvalDecisionKey proposalId
  | idempotency value => ⟨"IDEMP#" ++ value, "LOCK"⟩
  | checkpoint runId => checkpointKey runId
  | auditEvent runId eventId => auditEventKey runId eventId
  | evidence runId proposalId => verificationEvidenceKey runId proposalId

/-- The first letters of the two halves of its key. -/
def heads : Slot → Char × Char
  | run _ => ('R', 'M')
  | proposal _ => ('P', 'M')
  | approval _ => ('P', 'A')
  | idempotency _ => ('I', 'L')
  | checkpoint _ => ('R', 'C')
  | auditEvent .. => ('R', 'A')
  | evidence .. => ('R', 'V')

omit [FloatParse] in
theorem heads_key (slot : Slot) :
    slot.key.partitionKey.toList.head? = some slot.heads.1 ∧
      slot.key.sortKey.toList.head? = some slot.heads.2 := by
  cases slot <;> simp [key, heads, runKey, proposalKey, approvalDecisionKey, checkpointKey,
    auditEventKey, verificationEvidenceKey, String.toList_append]

omit [FloatParse] in
theorem append_cancel {p a b : String} (h : p ++ a = p ++ b) : a = b := by
  have h := congrArg String.toList h
  rw [String.toList_append, String.toList_append] at h
  exact String.toList_inj.mp (List.append_cancel_left h)

omit [FloatParse] in
/-- **No two slots share a key.** -/
theorem key_injective : Function.Injective key := by
  intro a b h
  have hheads : a.heads = b.heads := by
    have ha := a.heads_key
    rw [h] at ha
    have hb := b.heads_key
    exact Prod.ext (Option.some.inj (ha.1.symm.trans hb.1)) (Option.some.inj (ha.2.symm.trans hb.2))
  have hpartition := congrArg DynamoKey.partitionKey h
  have hsort := congrArg DynamoKey.sortKey h
  cases a <;> cases b <;> first | (exfalso; simp [heads] at hheads; done) | skip
  case run.run => rw [UUID.str_inj (append_cancel hpartition)]
  case proposal.proposal => rw [UUID.str_inj (append_cancel hpartition)]
  case approval.approval => rw [UUID.str_inj (append_cancel hpartition)]
  case idempotency.idempotency => rw [append_cancel hpartition]
  case checkpoint.checkpoint => rw [UUID.str_inj (append_cancel hpartition)]
  case auditEvent.auditEvent =>
    rw [UUID.str_inj (append_cancel hpartition), UUID.str_inj (append_cancel hsort)]
  case evidence.evidence =>
    rw [UUID.str_inj (append_cancel hpartition), UUID.str_inj (append_cancel hsort)]

end Slot

omit [FloatParse] in
/-- A key that passes the check is the slot's. -/
theorem semanticIdempotencyKey_ok {value : String} {key : DynamoKey}
    (h : semanticIdempotencyKey value = .ok key) : key = (Slot.idempotency value).key := by
  unfold semanticIdempotencyKey DynamoKey.make at h
  cases hp : validateKeyComponent "partition_key" ("IDEMP#" ++ value) with
  | error e =>
    rw [hp] at h
    cases h
  | ok u =>
    cases hs : validateKeyComponent "sort_key" "LOCK" with
    | error e =>
      rw [hp, hs] at h
      cases h
    | ok u' =>
      rw [hp, hs] at h
      cases h
      rfl

/-! ## Forms -/

section Forms

variable [Sha256]

/-- A record of one of the contracts. -/
structure Durable where
  contract : DurableContract
  record : contract.Record

namespace DurableContract

/-- The `entity_type` of an item. -/
def entity : DurableContract → String
  | run => "RUN"
  | actionProposal => "ACTION_PROPOSAL"
  | approval => "APPROVAL"
  | idempotencyRecord => "IDEMPOTENCY"
  | checkpoint => "CHECKPOINT"
  | auditEvent => "AUDIT_EVENT"
  | verificationEvidence => "VERIFICATION_EVIDENCE"

def slot : (d : DurableContract) → d.Record → Slot
  | run, (r : Run) => .run r.runId
  | actionProposal, (p : ActionProposal) => .proposal p.proposalId
  | approval, (a : Approval) => .approval a.proposalId
  | idempotencyRecord, (r : IdempotencyRecord) => .idempotency r.idempotencyKey
  | checkpoint, (c : Checkpoint) => .checkpoint c.runId
  | auditEvent, (e : AuditEvent) => .auditEvent e.runId e.eventId
  | verificationEvidence, (e : VerificationEvidence) => .evidence e.runId e.proposalId

/-- The text of a number attribute. -/
def versionText (version : Nat) : String := toString (version : Int)

/-- The attributes beside the record that are there while the record is. -/
def indexed : (d : DurableContract) → d.Record → List (String × Json)
  | run, (r : Run) =>
    [("state", stringAttribute r.state.value), ("version", scalar "N" (versionText r.version))]
  | actionProposal, (p : ActionProposal) => [("state", stringAttribute p.state.value)]
  | approval, (a : Approval) => [("decision", stringAttribute a.decision.value)]
  | idempotencyRecord, (r : IdempotencyRecord) =>
    [("status", stringAttribute r.status.value),
      ("action_fingerprint", stringAttribute r.actionFingerprint.hex)]
  | checkpoint, (c : Checkpoint) => [("version", scalar "N" (versionText c.version))]
  | auditEvent, _ => []
  | verificationEvidence, (e : VerificationEvidence) =>
    [("evidence_hash", stringAttribute e.evidenceHash.hex)]

end DurableContract

namespace Durable

def slot (x : Durable) : Slot := x.contract.slot x.record
def model (x : Durable) : Model x.contract.Record := x.contract.model
def indexed (x : Durable) : List (String × Json) := x.contract.indexed x.record

/-- The item holds the record. -/
structure Form (x : Durable) (item : DynamoItem) : Prop where
  pk : item "PK" = some (stringAttribute x.slot.key.partitionKey)
  sk : item "SK" = some (stringAttribute x.slot.key.sortKey)
  entity : item "entity_type" = some (stringAttribute x.contract.entity)
  record : ∃ stored, serializeRecord x.model x.record = .ok stored ∧ item "record" = some stored
  indexed : ∀ f ∈ x.indexed, item f.1 = some f.2
  kept : x.model.Kept x.record

/-- **What is stored is read back.** -/
theorem Form.read {x : Durable} {item : DynamoItem} (h : x.Form item) :
    item.hasScalar "entity_type" "S" x.contract.entity ∧
      ∃ stored, item "record" = some stored ∧
        deserializeRecord x.model stored = .ok (x.model.back x.record) := by
  refine ⟨DynamoItem.hasScalar_iff.mpr h.entity, ?_⟩
  obtain ⟨stored, hto, hrecord⟩ := h.record
  have htrip := deserialize_serialize x.model h.kept.times h.kept.floats
  have henc : encodable (x.model.codec.dump x.record) := Dynamo.encodable_of_toDynamoAttribute hto
  rw [if_pos henc, hto] at htrip
  exact ⟨stored, hrecord, htrip⟩

end Durable

/-! ## Tables and stores -/

namespace Store

/-- The record kept in a slot. -/
def recordAt (s : Store) : Slot → Option Durable
  | .run runId => (s.runs.get runId).map fun r => ⟨.run, r⟩
  | .proposal proposalId => (s.proposals.get proposalId).map fun p => ⟨.actionProposal, p⟩
  | .approval proposalId => (s.approvals.get proposalId).map fun a => ⟨.approval, a⟩
  | .idempotency key => (s.idempotency.get key).map fun r => ⟨.idempotencyRecord, r⟩
  | .checkpoint runId => (s.checkpoints.get runId).map fun c => ⟨.checkpoint, c⟩
  | .auditEvent runId eventId => (s.auditEvents.get (runId, eventId)).map fun e => ⟨.auditEvent, e⟩
  | .evidence runId proposalId =>
    (s.verificationEvidence.get (runId, proposalId)).map fun e => ⟨.verificationEvidence, e⟩

omit [FloatParse] in
theorem recordAt_empty (slot : Slot) : ({} : Store).recordAt slot = none := by
  cases slot <;> simp only [recordAt, Table.get_empty] <;> rfl

/-- File a record in its table. -/
def file (s : Store) : Durable → Store
  | ⟨.run, r⟩ => { s with runs := s.runs.put r }
  | ⟨.actionProposal, p⟩ => { s with proposals := s.proposals.put p }
  | ⟨.approval, a⟩ => { s with approvals := s.approvals.put a }
  | ⟨.idempotencyRecord, r⟩ => { s with idempotency := s.idempotency.put r }
  | ⟨.checkpoint, c⟩ => { s with checkpoints := s.checkpoints.put c }
  | ⟨.auditEvent, e⟩ => { s with auditEvents := s.auditEvents.put e }
  | ⟨.verificationEvidence, e⟩ => { s with verificationEvidence := s.verificationEvidence.put e }

omit [FloatParse] in
theorem recordAt_file_self (s : Store) (x : Durable) : (s.file x).recordAt x.slot = some x := by
  obtain ⟨d, r⟩ := x
  cases d <;> exact congrArg (Option.map _) (Table.get_put_self _ _)

omit [FloatParse] in
theorem recordAt_file_of_ne (s : Store) {x : Durable} {slot : Slot} (h : slot ≠ x.slot) :
    (s.file x).recordAt slot = s.recordAt slot := by
  obtain ⟨d, r⟩ := x
  cases d <;> cases slot <;> first | rfl | refine congrArg (Option.map _) (Table.get_put_of_ne _ ?_)
  all_goals
    intro hk
    apply h
    simp_all [Durable.slot, DurableContract.slot]

omit [FloatParse] in
theorem slot_of_recordAt {s : Store} {slot : Slot} {x : Durable} (h : s.recordAt slot = some x) :
    x.slot = slot := by
  cases slot <;> obtain ⟨r, hr, rfl⟩ := Option.map_eq_some_iff.mp h <;> have hk := Table.key_of_get hr
  all_goals simp_all [Durable.slot, DurableContract.slot]

end Store

/-- The table holds the records of the store. -/
structure Represents (items : DynamoItems) (s : Store) : Prop where
  absent : ∀ slot, s.recordAt slot = none → items slot.key = none
  present : ∀ slot x, s.recordAt slot = some x → ∃ item, items slot.key = some item ∧ x.Form item

theorem represents_empty : Represents TableWorld.emptyItems {} where
  absent _ _ := rfl
  present slot x h := by
    rw [Store.recordAt_empty] at h
    cases h

/-- **An item in the form of a record files the record.** -/
theorem Represents.file {items : DynamoItems} {s : Store} {x : Durable} {item : DynamoItem}
    (h : Represents items s) (hx : x.Form item) :
    Represents (Function.update items x.slot.key (some item)) (s.file x) where
  absent slot hslot := by
    have hne : slot ≠ x.slot := by
      rintro rfl
      rw [Store.recordAt_file_self] at hslot
      cases hslot
    rw [Store.recordAt_file_of_ne s hne] at hslot
    rw [Function.update_of_ne fun hk => hne (Slot.key_injective hk)]
    exact h.absent slot hslot
  present slot y hy := by
    by_cases hslot : slot = x.slot
    · subst hslot
      rw [Store.recordAt_file_self] at hy
      cases hy
      exact ⟨item, Function.update_self .., hx⟩
    · rw [Store.recordAt_file_of_ne s hslot] at hy
      obtain ⟨stored, hitem, hform⟩ := h.present slot y hy
      refine ⟨stored, ?_, hform⟩
      rw [Function.update_of_ne fun hk => hslot (Slot.key_injective hk)]
      exact hitem

end Forms

end CloudOpsAgent
