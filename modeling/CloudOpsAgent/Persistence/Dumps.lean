/-
  What the dump of a record can hold.

  A file is read back as it was written if no dictionary has a key twice and every float is read as
  its `repr`.  A record's own fields have different names, and there is no float among them: both
  conditions are about the JSON values a checkpoint carries, and hold of every other record.

  1. **Codecs and fields** — `Clean`, one rule for each codec and each kind of row.

  2. **Records** — the rules applied to the tables of fields.

  3. **Instants** — `Storable`: a clean dump, and no instant beyond what a `datetime` can hold.
-/
import CloudOpsAgent.Persistence.Records

namespace CloudOpsAgent

open Json StrictJson

variable [FloatRepr]

/-! ## Codecs and fields -/

/-- What is read back from a file as it was written. -/
def Json.Clean (j : Json) : Prop := uniqueKeys j ∧ FloatsRead j

theorem clean_str (s : String) : Json.Clean (.str s) := ⟨rfl, trivial⟩

theorem clean_arr {items : List Json} : Json.Clean (.arr items) ↔ ∀ j ∈ items, j.Clean := by
  have hkeys : uniqueKeys (.arr items) = uniqueKeysAll items := rfl
  have hfloats : FloatsRead (.arr items) = ItemsRead items := rfl
  unfold Json.Clean
  rw [hkeys, hfloats, uniqueKeysAll_iff, itemsRead_iff]
  exact ⟨fun h j hj => ⟨h.1 j hj, h.2 j hj⟩, fun h => ⟨fun j hj => (h j hj).1, fun j hj => (h j hj).2⟩⟩

theorem clean_obj {fields : List (String × Json)} : Json.Clean (.obj fields) ↔
    (fields.map Prod.fst).Nodup ∧ ∀ f ∈ fields, f.2.Clean := by
  have hkeys : uniqueKeys (.obj fields) = ((fields.map Prod.fst).Nodup && uniqueKeysFields fields) :=
    rfl
  have hfloats : FloatsRead (.obj fields) = FieldsRead fields := rfl
  unfold Json.Clean
  rw [hkeys, hfloats, Bool.and_eq_true, decide_eq_true_eq, uniqueKeysFields_iff, fieldsRead_iff]
  constructor
  · intro h
    exact ⟨h.1.1, fun f hf => ⟨h.1.2 f hf, h.2 f hf⟩⟩
  · intro h
    exact ⟨⟨h.1, fun f hf => (h.2 f hf).1⟩, fun f hf => (h.2 f hf).2⟩

namespace Codec

variable {α : Type}

/-- The dump of this value is clean. -/
def Clean (c : Codec α) (a : α) : Prop := Json.Clean (c.dump a)

theorem clean_option {c : Codec α} {h : ∀ a, sortKeys (c.dump a) ≠ .null} {a : Option α} :
    (option c h).Clean a ↔ ∀ x ∈ a, c.Clean x := by
  cases a with
  | none =>
    constructor
    · rintro - x hx
      cases hx
    · exact fun _ => And.intro rfl trivial
  | some a =>
    constructor
    · rintro ha x hx
      cases hx
      exact ha
    · exact fun ha => ha a rfl

theorem clean_list {c : Codec α} {l : List α} : (list c).Clean l ↔ ∀ a ∈ l, c.Clean a := by
  show Json.Clean (.arr (l.map c.dump)) ↔ _
  rw [clean_arr]
  exact List.forall_mem_map

theorem clean_dict {c : Codec α} {d : Dict String α} :
    (dict c).Clean d ↔ ∀ k a, d.lookup k = some a → c.Clean a := by
  have hkeys : ((d.items.map fun x => (x.1, c.dump x.2)).map Prod.fst).Nodup := by
    rw [List.map_map]
    exact (List.pairwise_map.mpr ((Dict.items_sorted d).imp fun h => h)).imp fun h => ne_of_lt h
  show Json.Clean (.obj (d.toFields c.dump)) ↔ _
  rw [clean_obj, Dict.toFields_eq]
  constructor
  · intro h k a ha
    exact h.2 (k, c.dump a) (List.mem_map.mpr ⟨(k, a), Dict.mem_items.mpr ha, rfl⟩)
  · intro h
    refine ⟨hkeys, fun f hf => ?_⟩
    obtain ⟨x, hx, rfl⟩ := List.mem_map.mp hf
    exact h x.1 x.2 (Dict.mem_items.mp hx)

end Codec

namespace Fields

variable {α β ρ : Type}

/-- Every field of this value has a clean dump. -/
def Clean (F : Fields α) (a : α) : Prop := ∀ f ∈ F.dump a, f.2.Clean

theorem clean_field {name : String} {c : Codec α} {a : α} :
    (field name c).Clean a ↔ c.Clean a := List.forall_mem_singleton

theorem clean_fieldOr {name : String} {c : Codec α} {default a : α} :
    (fieldOr name c default).Clean a ↔ c.Clean a := List.forall_mem_singleton

theorem clean_and {F : Fields α} {G : Fields β} {p : α × β} :
    (F.and G).Clean p ↔ F.Clean p.1 ∧ G.Clean p.2 := List.forall_mem_append

end Fields

/-- A model is as clean as its fields. -/
theorem Model.clean_codec {ρ : Type} {M : Model ρ} {r : ρ} :
    M.codec.Clean r ↔ M.toFields.Clean r := by
  show Json.Clean (.obj (M.dump r)) ↔ _
  rw [clean_obj, M.names_dump]
  exact ⟨fun h => h.2, fun h => ⟨M.nodup, h⟩⟩

/-! ## Records -/

theorem clean_int (i : Int) : Json.Clean (.int i) := ⟨rfl, trivial⟩
theorem clean_bool (b : Bool) : Json.Clean (.bool b) := ⟨rfl, trivial⟩

theorem clean_nil : ∀ f ∈ ([] : List (String × Json)), f.2.Clean := List.forall_mem_nil _

theorem clean_cons {k : String} {j : Json} {l : List (String × Json)} (hj : j.Clean)
    (hl : ∀ f ∈ l, f.2.Clean) : ∀ f ∈ (k, j) :: l, f.2.Clean := List.forall_mem_cons.mpr ⟨hj, hl⟩

/-- An optional field that is clean where it is there. -/
theorem clean_optional {α : Type} {f : α → Json} (hf : ∀ a, (f a).Clean) (o : Option α) :
    (Json.ofOption f o).Clean := by
  cases o with
  | none => exact And.intro rfl trivial
  | some a => exact hf a

/-- A dictionary of texts. -/
theorem clean_texts (d : Dict String String) : (Codec.dict Codec.text).Clean d :=
  Codec.clean_dict.mpr fun _ _ _ => clean_str _

theorem BudgetCounters.clean (b : BudgetCounters) : BudgetCounters.model.codec.Clean b := by
  refine Model.clean_codec.mpr ?_
  repeat' first | exact clean_nil | exact clean_int _ | refine clean_cons ?_ ?_

theorem Run.clean (r : Run) : Run.model.codec.Clean r := by
  refine Model.clean_codec.mpr ?_
  repeat' first
    | exact clean_nil | exact clean_str _ | exact clean_int _ | exact r.budget.clean
    | refine clean_cons ?_ ?_

theorem FailureDetail.clean (f : FailureDetail) : FailureDetail.model.codec.Clean f := by
  refine Model.clean_codec.mpr ?_
  repeat' first | exact clean_nil | exact clean_str _ | exact clean_bool _ | refine clean_cons ?_ ?_

theorem ActionTarget.clean (t : ActionTarget) : ActionTarget.model.codec.Clean t := by
  refine Model.clean_codec.mpr ?_
  repeat' first | exact clean_nil | exact clean_str _ | refine clean_cons ?_ ?_

theorem ExpectedPrecondition.clean (p : ExpectedPrecondition) :
    ExpectedPrecondition.model.codec.Clean p := by
  refine Model.clean_codec.mpr ?_
  repeat' first | exact clean_nil | exact clean_str _ | refine clean_cons ?_ ?_

theorem ActionProposal.clean (p : ActionProposal) : ActionProposal.model.codec.Clean p := by
  refine Model.clean_codec.mpr ?_
  repeat' first
    | exact clean_nil | exact clean_str _ | exact p.target.clean
    | exact p.expectedPrecondition.clean | refine clean_cons ?_ ?_

theorem Approval.clean (a : Approval) : Approval.model.codec.Clean a := by
  refine Model.clean_codec.mpr ?_
  repeat' first | exact clean_nil | exact clean_str _ | exact a.target.clean | refine clean_cons ?_ ?_

theorem ActionResult.clean (r : ActionResult) : ActionResult.model.codec.Clean r := by
  refine Model.clean_codec.mpr ?_
  repeat' first
    | exact clean_nil | exact clean_str _ | exact clean_optional (fun _ => clean_str _) _
    | exact clean_optional FailureDetail.clean _ | refine clean_cons ?_ ?_

theorem ExecutionAcknowledgement.clean (a : ExecutionAcknowledgement) :
    ExecutionAcknowledgement.model.codec.Clean a := by
  refine Model.clean_codec.mpr ?_
  repeat' first
    | exact clean_nil | exact clean_str _ | exact a.target.clean
    | exact clean_optional clean_str _ | refine clean_cons ?_ ?_

theorem IdempotencyRecord.clean (r : IdempotencyRecord) :
    IdempotencyRecord.model.codec.Clean r := by
  refine Model.clean_codec.mpr ?_
  repeat' first
    | exact clean_nil | exact clean_str _ | exact clean_optional ExecutionAcknowledgement.clean _
    | exact clean_optional ActionResult.clean _ | exact clean_optional (fun _ => clean_str _) _
    | refine clean_cons ?_ ?_

theorem AuditEvent.clean (e : AuditEvent) : AuditEvent.model.codec.Clean e := by
  refine Model.clean_codec.mpr ?_
  repeat' first
    | exact clean_nil | exact clean_str _ | exact clean_optional clean_str _ | exact clean_texts _
    | refine clean_cons ?_ ?_

theorem VerificationEvidence.clean [Sha256] (e : VerificationEvidence) :
    VerificationEvidence.model.codec.Clean e := by
  refine Model.clean_codec.mpr ?_
  repeat' first
    | exact clean_nil | exact clean_str _ | exact e.target.clean
    | exact clean_optional clean_str _ | exact clean_optional (fun _ => clean_str _) _
    | refine clean_cons ?_ ?_

/-! ### The local workflow -/

theorem SecurityGroupRule.clean (r : SecurityGroupRule) :
    SecurityGroupRule.model.codec.Clean r := by
  refine Model.clean_codec.mpr ?_
  repeat' first
    | exact clean_nil | exact clean_str _ | exact clean_optional (fun _ => clean_int _) _
    | refine clean_cons ?_ ?_

theorem Ec2Resource.clean (r : Ec2Resource) : Ec2Resource.model.codec.Clean r := by
  refine Model.clean_codec.mpr ?_
  repeat' first | exact clean_nil | exact clean_str _ | exact clean_texts _ | refine clean_cons ?_ ?_

theorem ElasticIpResource.clean (r : ElasticIpResource) :
    ElasticIpResource.model.codec.Clean r := by
  refine Model.clean_codec.mpr ?_
  repeat' first
    | exact clean_nil | exact clean_str _ | exact clean_optional clean_str _ | exact clean_texts _
    | refine clean_cons ?_ ?_

theorem clean_rules (l : List SecurityGroupRule) : (Codec.list SecurityGroupRule.model.codec).Clean l :=
  Codec.clean_list.mpr fun r _ => r.clean

theorem SecurityGroupResource.clean (r : SecurityGroupResource) :
    SecurityGroupResource.model.codec.Clean r := by
  refine Model.clean_codec.mpr ?_
  repeat' first
    | exact clean_nil | exact clean_str _ | exact clean_texts _ | exact clean_rules _
    | refine clean_cons ?_ ?_

theorem CloudResource.clean (r : CloudResource) : Codec.cloudResource.Clean r := by
  cases r with
  | ec2 r => exact r.clean
  | elasticIp r => exact r.clean
  | securityGroup r => exact r.clean

theorem ResourceProvenance.clean (p : ResourceProvenance) :
    ResourceProvenance.model.codec.Clean p := by
  refine Model.clean_codec.mpr ?_
  repeat' first
    | exact clean_nil | exact clean_str _ | exact Codec.clean_list.mpr fun _ _ => clean_str _
    | refine clean_cons ?_ ?_

theorem ResourceEvidence.clean [Sha256] (e : ResourceEvidence) :
    ResourceEvidence.model.codec.Clean e := by
  refine Model.clean_codec.mpr ?_
  repeat' first
    | exact clean_nil | exact clean_str _ | exact e.resource.clean | exact e.provenance.clean
    | exact Codec.clean_list.mpr fun _ _ => clean_str _ | refine clean_cons ?_ ?_

theorem LocalApprovalRequestRecord.clean [Sha256] (r : LocalApprovalRequestRecord) :
    LocalApprovalRequestRecord.model.codec.Clean r := by
  refine Model.clean_codec.mpr ?_
  repeat' first | exact clean_nil | exact clean_str _ | exact clean_int _ | refine clean_cons ?_ ?_

theorem LocalApprovalDecisionRecord.clean [Sha256] (r : LocalApprovalDecisionRecord) :
    LocalApprovalDecisionRecord.model.codec.Clean r := by
  refine Model.clean_codec.mpr ?_
  repeat' first | exact clean_nil | exact clean_str _ | exact clean_int _ | refine clean_cons ?_ ?_

theorem LocalExecutionIntent.clean [Sha256] (n : LocalExecutionIntent) :
    LocalExecutionIntent.model.codec.Clean n := by
  refine Model.clean_codec.mpr ?_
  repeat' first | exact clean_nil | exact clean_str _ | refine clean_cons ?_ ?_

theorem LocalExecutionReceipt.clean [Sha256] (r : LocalExecutionReceipt) :
    LocalExecutionReceipt.model.codec.Clean r := by
  refine Model.clean_codec.mpr ?_
  repeat' first
    | exact clean_nil | exact clean_str _ | exact r.beforeResource.clean
    | exact clean_optional CloudResource.clean _ | refine clean_cons ?_ ?_

theorem LocalVerificationEvidence.clean [Sha256] (v : LocalVerificationEvidence) :
    LocalVerificationEvidence.model.codec.Clean v := by
  refine Model.clean_codec.mpr ?_
  repeat' first
    | exact clean_nil | exact clean_str _ | exact clean_bool _
    | exact clean_optional CloudResource.clean _ | refine clean_cons ?_ ?_

/-- A proposal is as clean as its parameters. -/
theorem RemediationProposal.clean_iff [Sha256] (p : RemediationProposal) :
    RemediationProposal.model.codec.Clean p ↔ Json.Clean (.obj p.normalizedParameters) := by
  constructor
  · intro h
    have hrows := Model.clean_codec.mp h
    exact hrows ("normalized_parameters", .obj p.normalizedParameters)
      (.tail _ <| .tail _ <| .tail _ <| .tail _ <| .tail _ <| .tail _ <| .head _)
  · intro h
    refine Model.clean_codec.mpr ?_
    repeat' first
      | exact clean_nil | exact clean_str _ | exact clean_int _ | exact clean_bool _ | exact h
      | refine clean_cons ?_ ?_

/-- A checkpoint is as clean as the JSON values it carries. -/
theorem Checkpoint.clean_iff [Sha256] (c : Checkpoint) : Checkpoint.model.codec.Clean c ↔
    (∀ k j, c.resumeMetadata.lookup k = some j → j.Clean) ∧
      ∀ p ∈ c.remediationProposal, Json.Clean (.obj p.normalizedParameters) := by
  constructor
  · intro h
    have hrows := Model.clean_codec.mp h
    constructor
    · exact Codec.clean_dict.mp (hrows ("resume_metadata", (Codec.dict Codec.value).dump
        c.resumeMetadata) (.tail _ <| .tail _ <| .head _))
    · intro p hp
      have hproposal := (Codec.clean_option (h := RemediationProposal.model.codec_ne_null)).mp
        (hrows ("remediation_proposal", (Codec.option RemediationProposal.model.codec
          RemediationProposal.model.codec_ne_null).dump c.remediationProposal)
          (.tail _ <| .tail _ <| .tail _ <| .tail _ <| .tail _ <| .head _))
      exact p.clean_iff.mp (hproposal p hp)
  · rintro ⟨hmetadata, hproposal⟩
    refine Model.clean_codec.mpr ?_
    have hproposal : (Codec.option RemediationProposal.model.codec
        RemediationProposal.model.codec_ne_null).Clean c.remediationProposal :=
      Codec.clean_option.mpr fun p hp => p.clean_iff.mpr (hproposal p hp)
    repeat' first
      | exact clean_nil | exact clean_str _ | exact clean_int _
      | exact Codec.clean_dict.mpr hmetadata | exact hproposal
      | exact Codec.clean_dict.mpr fun _ _ _ => clean_str _
      | exact clean_optional ResourceEvidence.clean _
      | exact clean_optional LocalApprovalRequestRecord.clean _
      | exact clean_optional LocalApprovalDecisionRecord.clean _
      | exact clean_optional LocalExecutionIntent.clean _
      | exact clean_optional LocalExecutionReceipt.clean _
      | exact clean_optional LocalVerificationEvidence.clean _
      | refine clean_cons ?_ ?_

/-- Sorted keys are clean. -/
theorem clean_sortKeys {j : Json} (h : j.Clean) : (sortKeys j).Clean :=
  ⟨uniqueKeys_sortKeys h.1, floatsRead_sortKeys h.2⟩

theorem Checkpoint.clean_back [Sha256] {c : Checkpoint} (h : Checkpoint.model.codec.Clean c) :
    Checkpoint.model.codec.Clean c.back := by
  obtain ⟨hmetadata, hproposal⟩ := c.clean_iff.mp h
  refine c.back.clean_iff.mpr ⟨fun k j hj => ?_, fun p hp => ?_⟩
  · have hj : (c.resumeMetadata.lookup k).map sortKeys = some j :=
      (Dict.lookup_mapValues sortKeys c.resumeMetadata k).symm.trans hj
    obtain ⟨j, hstored, rfl⟩ := Option.map_eq_some_iff.mp hj
    exact clean_sortKeys (hmetadata k j hstored)
  · have hp : c.remediationProposal.map RemediationProposal.back = some p := hp
    obtain ⟨p, hstored, rfl⟩ := Option.map_eq_some_iff.mp hp
    have hsorted := clean_sortKeys (hproposal p hstored)
    rw [Dynamo.sortKeys_obj] at hsorted
    exact hsorted

/-! ## Instants -/

/-- The record can be stored: its dump is clean, and a `datetime` holds each of its instants. -/
structure Model.Storable {ρ : Type} (M : Model ρ) (r : ρ) : Prop where
  clean : M.codec.Clean r
  times : ∀ t ∈ M.times r, t ≤ Time.datetimeMax

omit [FloatRepr] in
theorem RemediationProposal.times_eq [Sha256] (p : RemediationProposal) :
    RemediationProposal.model.times p = [p.createdAt, p.expiresAt] := rfl

omit [FloatRepr] in
/-- Metadata holds no instants, and a proposal that is read back holds the same. -/
theorem Checkpoint.rows_times [Sha256] (runId : UUID) (safe : WorkflowState)
    (metadata metadata' : Dict String Json) (hashes : Dict String Sha256Digest)
    (evidence : Option ResourceEvidence) (proposal : Option RemediationProposal)
    (rest : Option LocalApprovalRequestRecord × Option LocalApprovalDecisionRecord ×
      Option LocalExecutionIntent × Option LocalExecutionReceipt ×
      Option LocalVerificationEvidence × Time × Nat) :
    Checkpoint.rows.times (runId, safe, metadata, hashes, evidence,
        proposal.map RemediationProposal.back, rest) =
      Checkpoint.rows.times (runId, safe, metadata', hashes, evidence, proposal, rest) := by
  have hnone (d : Dict String Json) : (Codec.dict Codec.value).times d = [] :=
    List.flatMap_eq_nil_iff.mpr fun _ _ => rfl
  have hproposal : (Codec.option RemediationProposal.model.codec
      RemediationProposal.model.codec_ne_null).times (proposal.map RemediationProposal.back) =
      (Codec.option RemediationProposal.model.codec
        RemediationProposal.model.codec_ne_null).times proposal := by
    cases proposal with
    | none => rfl
    | some p =>
      show RemediationProposal.model.times p.back ++ [] = RemediationProposal.model.times p ++ []
      rw [RemediationProposal.times_eq, RemediationProposal.times_eq]
      rfl
  dsimp only [Checkpoint.rows, Fields.and, Fields.field, Fields.fieldOr]
  rw [hnone, hnone, hproposal]

omit [FloatRepr] in
/-- The instants of a checkpoint are read back as they are. -/
theorem Checkpoint.times_back [Sha256] (c : Checkpoint) :
    Checkpoint.model.times c.back = Checkpoint.model.times c :=
  Checkpoint.rows_times c.runId c.lastSafeState _ c.resumeMetadata c.toolResultHashes
    c.resourceEvidence c.remediationProposal (c.localApprovalRequest, c.localApproval,
      c.localExecutionIntent, c.localExecutionReceipt, c.localVerification, c.createdAt, c.version)

theorem Checkpoint.storable_back [Sha256] {c : Checkpoint} (h : Checkpoint.model.Storable c) :
    Checkpoint.model.Storable c.back :=
  ⟨clean_back h.clean, c.times_back ▸ h.times⟩

end CloudOpsAgent
