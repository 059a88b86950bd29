/-
  A file within its size limit lists fewer records than a snapshot may.

  Every record of a snapshot takes at least 128 characters, for the names of its fields and the
  indentation alone, and 8 MiB are 65536 times as many bytes.  So a store that was written is `Short`,
  and the record limit of `from_snapshot` is never what refuses a file the repository wrote.
-/
import Mathlib
import CloudOpsAgent.Persistence.Snapshot

namespace CloudOpsAgent

open Json StrictJson

namespace StrictJson

/-! ## How long a text is at least -/

theorem length_le_utf8ByteSize (l : List Char) : l.length ≤ (String.ofList l).utf8ByteSize := by
  induction l with
  | nil => exact Nat.zero_le _
  | cons c l ih =>
    rw [String.ofList_cons, String.utf8ByteSize_append, String.utf8ByteSize_singleton,
      List.length_cons]
    have hc := c.utf8Size_pos
    omega

/-- What is written is no longer than a file may be. -/
theorem length_of_written {j : Json} {text : String} (h : writePrivate j = some text) :
    (pretty 0 (sortKeys j)).length ≤ localStateMaxBytes := by
  unfold writePrivate at h
  split at h
  · cases h
  · dsimp only at h
    split at h
    · cases h
    · next hsize =>
      have hlength := length_le_utf8ByteSize (pretty 0 (sortKeys j) ++ ['\n'])
      rw [List.length_append] at hlength
      omega

theorem length_quoted (k : String) : k.length + 2 ≤ (quoted k).length := by
  have hescape : ∀ l : List Char, l.length ≤ (l.flatMap escapeChar).length := by
    intro l
    induction l with
    | nil => exact Nat.zero_le _
    | cons c l ih =>
      have hc := length_escapeChar c
      rw [List.flatMap_cons, List.length_append, List.length_cons]
      omega
  have hk := hescape k.toList
  rw [String.length_toList] at hk
  simp only [quoted, List.cons_append, List.length_cons, List.length_append, List.length_nil]
  omega

theorem length_newline (n : Nat) : (newline n).length = 2 * n + 1 := by
  rw [newline, List.length_cons, List.length_replicate]

theorem le_length_items (n : Nat) (items : List Json) :
    (items.map fun j => (pretty n j).length).sum ≤ (prettyItems n items).length := by
  induction items with
  | nil => exact Nat.le_refl _
  | cons j js ih =>
    simp only [List.map_cons, List.sum_cons, prettyItems, List.cons_append, List.length_cons,
      List.length_append]
    omega

/-- The items of a list. -/
theorem le_length_arr (n : Nat) (items : List Json) :
    (items.map fun j => (pretty (n + 1) j).length).sum ≤ (pretty n (.arr items)).length := by
  cases items with
  | nil => exact Nat.zero_le _
  | cons j js =>
    have hitems := le_length_items (n + 1) js
    simp only [List.map_cons, List.sum_cons, pretty, List.cons_append, List.length_cons,
      List.length_append]
    omega

/-- What a field takes: its line, its name in quotes, the colon and its value. -/
def fieldWeight (n : Nat) (f : String × Json) : Nat :=
  2 * n + 1 + (f.1.length + 2) + 2 + (pretty n f.2).length

theorem le_length_fields (n : Nat) (fields : List (String × Json)) :
    (fields.map (fieldWeight n)).sum ≤ (prettyFields n fields).length := by
  induction fields with
  | nil => exact Nat.le_refl _
  | cons f fs ih =>
    have hquoted := length_quoted f.1
    simp only [List.map_cons, List.sum_cons, fieldWeight, prettyFields, List.cons_append,
      List.length_cons, List.length_append, length_newline]
    omega

/-- The fields of a dictionary. -/
theorem le_length_obj (n : Nat) (fields : List (String × Json)) :
    (fields.map (fieldWeight (n + 1))).sum ≤ (pretty n (.obj fields)).length := by
  cases fields with
  | nil => exact Nat.zero_le _
  | cons f fs =>
    have hquoted := length_quoted f.1
    have hfields := le_length_fields (n + 1) fs
    simp only [List.map_cons, List.sum_cons, fieldWeight, pretty, List.cons_append,
      List.length_cons, List.length_append, length_newline]
    omega

/-- A value is not longer than what it is in. -/
theorem length_le_of_mem {n : Nat} {k : String} {j : Json} {fields : List (String × Json)}
    (h : (k, j) ∈ fields) :
    (pretty (n + 1) (sortKeys j)).length ≤ (pretty n (sortKeys (.obj fields))).length := by
  rw [Dynamo.sortKeys_obj]
  have hmem : (k, sortKeys j) ∈ (Dynamo.byKey fields).map fun f => (f.1, sortKeys f.2) :=
    List.mem_map.mpr ⟨(k, j), (List.mem_insertionSort _).mpr h, rfl⟩
  have hsum := List.le_sum_of_mem (List.mem_map_of_mem (f := fieldWeight (n + 1)) hmem)
  have hobj := le_length_obj n ((Dynamo.byKey fields).map fun f => (f.1, sortKeys f.2))
  simp only [fieldWeight] at hsum hobj
  omega

end StrictJson

/-! ## How long a snapshot is at least -/

namespace Store

/-- What the names of a model's fields take in a snapshot. -/
def nameWeight {ρ : Type} (M : Model ρ) : Nat := (M.names.map fun k => k.length + 11).sum

theorem le_length_record {ρ : Type} (M : Model ρ) (r : ρ) :
    nameWeight M ≤ (pretty 3 (sortKeys (M.codec.dump r))).length := by
  have hperm : (Dynamo.byKey (M.dump r)).Perm (M.dump r) := List.perm_insertionSort _ _
  show nameWeight M ≤ (pretty 3 (sortKeys (.obj (M.dump r)))).length
  rw [Dynamo.sortKeys_obj]
  refine Nat.le_trans ?_ (le_length_obj 3 _)
  have hweight : nameWeight M = ((Dynamo.byKey (M.dump r)).map fun f => f.1.length + 11).sum := by
    rw [nameWeight, ← M.names_dump r, List.map_map]
    exact ((hperm.map _).sum_eq).symm
  rw [hweight, List.map_map]
  refine List.sum_le_sum fun f _ => ?_
  simp only [Function.comp_apply, fieldWeight]
  omega

theorem le_length_dumpAll {ρ : Type} {M : Model ρ} (hM : 128 ≤ nameWeight M) (l : List ρ) :
    128 * l.length ≤ (pretty 2 (sortKeys (dumpAll M l))).length := by
  rw [dumpAll, sortKeys, sortItems_eq, List.map_map]
  refine Nat.le_trans ?_ (le_length_arr 2 _)
  rw [List.map_map]
  induction l with
  | nil => exact Nat.le_refl _
  | cons r l ih =>
    have hr := Nat.le_trans hM (le_length_record M r)
    rw [List.map_cons, List.sum_cons, List.length_cons, Nat.mul_succ, Nat.add_comm]
    exact Nat.add_le_add hr ih

variable [Sha256] {s : Store}

theorem checkpoint_nameWeight : 128 ≤ nameWeight Checkpoint.model :=
  show 128 ≤ ((["run_id", "last_safe_state", "resume_metadata", "tool_result_hashes",
    "resource_evidence", "remediation_proposal", "local_approval_request", "local_approval",
    "local_execution_intent", "local_execution_receipt", "local_verification", "created_at",
    "version"] : List String).map fun k => k.length + 11).sum by decide

theorem evidence_nameWeight : 128 ≤ nameWeight VerificationEvidence.model :=
  show 128 ≤ (VerificationEvidence.rows.names.map fun k => k.length + 11).sum by decide

/-- **What fits into a file is short.** -/
theorem short_of_length {fields : List (String × Json)} (h : ("payload", s.exportSnapshot) ∈ fields)
    (hsize : (pretty 0 (sortKeys (.obj fields))).length ≤ localStateMaxBytes) : s.Short := by
  have hpayload : (pretty 1 (sortKeys s.exportSnapshot)).length ≤ localStateMaxBytes :=
    Nat.le_trans (length_le_of_mem h) hsize
  have hmax : localStateMaxBytes = 128 * MAX_SNAPSHOT_RECORDS := rfl
  have hlist : ∀ {ρ : Type} (M : Model ρ) (name : String) {l : List ρ}, 128 ≤ nameWeight M →
      (name, dumpAll M l) ∈ s.snapshotFields → l.length ≤ MAX_SNAPSHOT_RECORDS := by
    intro ρ M name l hM hmem
    have hrecords := le_length_dumpAll hM l
    have htable : (pretty 2 (sortKeys (dumpAll M l))).length ≤
        (pretty 1 (sortKeys s.exportSnapshot)).length := length_le_of_mem hmem
    omega
  have hruns : s.sortedRuns.length ≤ MAX_SNAPSHOT_RECORDS :=
    hlist Run.model "runs" (by decide) (by simp [snapshotFields])
  have hproposals : s.sortedProposals.length ≤ MAX_SNAPSHOT_RECORDS :=
    hlist ActionProposal.model "proposals" (by decide) (by simp [snapshotFields])
  have happrovals : s.sortedApprovals.length ≤ MAX_SNAPSHOT_RECORDS :=
    hlist Approval.model "approvals" (by decide) (by simp [snapshotFields])
  have hidempotency : s.sortedIdempotency.length ≤ MAX_SNAPSHOT_RECORDS :=
    hlist IdempotencyRecord.model "idempotency" (by decide) (by simp [snapshotFields])
  have hcheckpoints : s.sortedCheckpoints.length ≤ MAX_SNAPSHOT_RECORDS :=
    hlist Checkpoint.model "checkpoints" checkpoint_nameWeight (by simp [snapshotFields])
  have hevents : s.sortedAuditEvents.length ≤ MAX_SNAPSHOT_RECORDS :=
    hlist AuditEvent.model "audit_events" (by decide) (by simp [snapshotFields])
  have hevidence : s.sortedEvidence.length ≤ MAX_SNAPSHOT_RECORDS :=
    hlist VerificationEvidence.model "verification_evidence" evidence_nameWeight (by simp [snapshotFields])
  rw [sortedRuns, Table.length_listed] at hruns
  rw [sortedProposals, Table.length_listed] at hproposals
  rw [sortedApprovals, Table.length_listed] at happrovals
  rw [sortedIdempotency, Table.length_listed] at hidempotency
  rw [sortedCheckpoints, Table.length_listed] at hcheckpoints
  rw [sortedAuditEvents, Table.length_listed] at hevents
  rw [sortedEvidence, Table.length_listed] at hevidence
  exact ⟨hruns, hproposals, happrovals, hidempotency, hcheckpoints, hevents, hevidence⟩

end Store

end CloudOpsAgent
