/-
  The conditional writes of the repository on a shared table, one at a time.

  1. **Texts** — the attributes a condition compares are texts; they determine what they spell.

  2. **What a client has seen** — `sees w x`: some version of the table gives the record `x` to a reader.

  3. **Worlds and histories** — `Tracks w log`: version by version, the table holds the records of a
     history of stores.

  4. **Licensed requests** — `Drafts` is what a method may ask to be updated, on which condition, given what
     it has seen.

  5. **Landing** — a licensed write whose condition holds is one write of the history
     (`Licensed.land`).  The conditions are just enough for this: an equal version means the record
     that was read.
-/
import CloudOpsAgent.Safety.Landing

namespace CloudOpsAgent

open ClientProg

/-! ## Texts -/

theorem versionText_inj {n m : Nat}
    (h : DurableContract.versionText n = DurableContract.versionText m) : n = m :=
  Int.ofNat.inj (Json.int_inj (congrArg String.toList h))

theorem intText_ok {n : Nat} {text : String} (h : Dynamo.intText n = .ok text) :
    text = DurableContract.versionText n := by
  unfold Dynamo.intText at h
  split at h
  · cases h
    rfl
  · cases h

theorem numberAttribute_ok {n : Nat} {a : Json} (h : numberAttribute n = .ok a) :
    a = scalar "N" (DurableContract.versionText n) := by
  unfold numberAttribute at h
  cases htext : Dynamo.intText n with
  | error e =>
    rw [htext] at h
    cases h
  | ok text =>
    rw [htext] at h
    cases h
    rw [intText_ok htext]

theorem ProposalState.value_inj {a b : ProposalState} (h : a.value = b.value) : a = b := by
  revert h
  cases a <;> cases b <;> decide

theorem IdempotencyStatus.value_inj {a b : IdempotencyStatus} (h : a.value = b.value) : a = b := by
  revert h
  cases a <;> cases b <;> decide

theorem scalar_inj {kind a b : String} (h : scalar kind a = scalar kind b) : a = b := by
  cases h
  rfl

/-! ## What a client has seen -/

variable [Sha256] [FloatParse] {ι : Type}

/-- A reader of the slot gets the record from some version of the table. -/
def TableWorld.Shows (w : TableWorld ι) (slot : Slot) (d : DurableContract) (r : d.Record) : Prop :=
  ∃ items ∈ w.versions, ∃ item stored, items slot.key = some item ∧
    item.hasScalar "entity_type" "S" d.entity ∧ item "record" = some stored ∧
    deserializeRecord d.model stored = .ok r

/-- The record has been seen.  Checkpoints do not count: they are read up to the order of keys. -/
def sees (w : TableWorld ι) (x : Durable) : Prop :=
  x.contract ≠ .checkpoint ∧ w.Shows x.slot x.contract x.record

omit [Sha256] [FloatParse] in
theorem versions_mono {w w' : TableWorld ι} (h : w.log <:+ w'.log) {items : DynamoItems}
    (hi : items ∈ w.versions) : items ∈ w'.versions := by
  obtain ⟨l, hl⟩ := h
  rw [TableWorld.versions, ← hl, List.map_append, List.append_assoc]
  exact List.mem_append_right _ hi

theorem TableWorld.Shows.mono {w w' : TableWorld ι} (h : w.log <:+ w'.log) {slot : Slot}
    {d : DurableContract} {r : d.Record} (hr : w.Shows slot d r) : w'.Shows slot d r := by
  obtain ⟨items, hi, hitem⟩ := hr
  exact ⟨items, versions_mono h hi, hitem⟩

theorem sees_mono {w w' : TableWorld ι} (h : w.log <:+ w'.log) (x : Durable) (hx : sees w x) :
    sees w' x := ⟨hx.1, hx.2.mono h⟩

/-! ## Worlds and histories -/

/-- Version by version, the table holds the records of the history. -/
def Tracks (w : TableWorld ι) (log : List (ι × Store)) : Prop :=
  List.Forall₂ (fun a b => a.1 = b.1 ∧ Represents a.2 b.2) w.log log

namespace Tracks

variable {w : TableWorld ι} {log : List (ι × Store)} (h : Tracks w log)
include h

theorem current : Represents w.items (currentStore log) := by
  obtain ⟨l⟩ := w
  cases h with
  | nil => exact represents_empty
  | cons hab _ => exact hab.2

/-- A write of the table is a write of the history. -/
theorem mem {i : ι} {items : DynamoItems} (hmem : (i, items) ∈ w.log) :
    ∃ s, (i, s) ∈ log ∧ Represents items s := by
  have hall : ∀ {l : List (ι × DynamoItems)} {log : List (ι × Store)},
      List.Forall₂ (fun a b => a.1 = b.1 ∧ Represents a.2 b.2) l log → (i, items) ∈ l →
        ∃ s, (i, s) ∈ log ∧ Represents items s := by
    intro l log h
    induction h with
    | nil => exact fun hmem => absurd hmem List.not_mem_nil
    | @cons a b _ _ hab _ ih =>
      intro hmem
      obtain rfl | hmem := List.mem_cons.mp hmem
      · have hfirst : (i, b.2) = b := Prod.ext hab.1 rfl
        exact ⟨b.2, hfirst ▸ List.mem_cons_self, hab.2⟩
      · obtain ⟨s, hs, hrep⟩ := ih hmem
        exact ⟨s, List.mem_cons_of_mem _ hs, hrep⟩
  exact hall h hmem

theorem version {items : DynamoItems} (hi : items ∈ w.versions) :
    ∃ s ∈ storeVersions log, Represents items s := by
  rw [TableWorld.versions, List.mem_append] at hi
  obtain hi | hi := hi
  · obtain ⟨⟨i, _⟩, ha, rfl⟩ := List.mem_map.mp hi
    obtain ⟨s, hs, hrep⟩ := h.mem ha
    exact ⟨s, List.mem_append_left _ (List.mem_map.mpr ⟨_, hs, rfl⟩), hrep⟩
  · rw [List.mem_singleton.mp hi]
    exact ⟨{}, List.mem_append_right _ (List.mem_singleton_self _), represents_empty⟩

theorem writers : w.writers = log.map Prod.fst := by
  have hmap : ∀ {l : List (ι × DynamoItems)} {log : List (ι × Store)},
      List.Forall₂ (fun a b => a.1 = b.1 ∧ Represents a.2 b.2) l log →
        l.map Prod.fst = log.map Prod.fst := by
    intro l log h
    induction h with
    | nil => rfl
    | cons hab _ ih => exact congrArg₂ List.cons hab.1 ih
  exact hmap h

theorem wrote {i : ι} {key : DynamoKey} {item : DynamoItem} {s : Store}
    (hs : Represents (Function.update w.items key (some item)) s) :
    Tracks (w.wrote i key item) ((i, s) :: log) := .cons ⟨rfl, hs⟩ h

omit h [Sha256] [FloatParse] in
/-- Records of different contracts are kept under different names. -/
theorem entity_inj {d d' : DurableContract} (h : d.entity = d'.entity) : d = d' := by
  revert h
  cases d <;> cases d' <;> decide

/-- **What is read was there.** -/
theorem shown {slot : Slot} {d : DurableContract} {r : d.Record} (hr : w.Shows slot d r) :
    ∃ r₀, SeenIn log ⟨d, r₀⟩ ∧ d.slot r₀ = slot ∧ r = d.model.back r₀ ∧ d.model.Kept r₀ := by
  obtain ⟨items, hi, item, stored, hitem, hentity, hrecord, hload⟩ := hr
  obtain ⟨s, hs, hrep⟩ := h.version hi
  cases hat : s.recordAt slot with
  | none =>
    rw [hrep.absent slot hat] at hitem
    cases hitem
  | some x =>
    obtain ⟨item', hitem', hform⟩ := hrep.present slot x hat
    obtain rfl : item' = item := Option.some.inj (hitem'.symm.trans hitem)
    have hd : d = x.contract := by
      have htext := (DynamoItem.hasScalar_iff.mp hentity).symm.trans hform.entity
      exact entity_inj (scalar_inj (Option.some.inj htext))
    subst hd
    obtain ⟨-, stored', hrecord', hback⟩ := hform.read
    obtain rfl : stored' = stored := Option.some.inj (hrecord'.symm.trans hrecord)
    have hslot := Store.slot_of_recordAt hat
    refine ⟨x.record, ⟨s, hs, ?_⟩, hslot, ?_, hform.kept⟩
    · exact hslot ▸ hat
    · exact Except.ok.inj (hload.symm.trans hback)

theorem seen {x : Durable} (hx : sees w x) : SeenIn log x := by
  obtain ⟨hne, hx⟩ := hx
  obtain ⟨d, r⟩ := x
  obtain ⟨r₀, hseen, -, hr, -⟩ := h.shown hx
  cases d with
  | checkpoint => exact absurd rfl hne
  | run | actionProposal | approval | idempotencyRecord | auditEvent | verificationEvidence =>
    obtain rfl : r = r₀ := hr
    exact hseen

end Tracks

/-- An item holds one record, up to the order of keys in a checkpoint. -/
theorem Durable.Form.eq {x y : Durable} {item : DynamoItem} (hx : x.Form item) (hy : y.Form item)
    (hd : x.contract ≠ .checkpoint) : x = y := by
  have hentity := scalar_inj (Option.some.inj (hx.entity.symm.trans hy.entity))
  have hcontract := Tracks.entity_inj hentity
  obtain ⟨d, r⟩ := x
  obtain ⟨d', r'⟩ := y
  obtain rfl : d = d' := hcontract
  obtain ⟨-, stored, hs, hload⟩ := hx.read
  obtain ⟨-, stored', hs', hload'⟩ := hy.read
  obtain rfl : stored = stored' := Option.some.inj (hs.symm.trans hs')
  have hback : d.model.back r = d.model.back r' := Except.ok.inj (hload.symm.trans hload')
  cases d with
  | checkpoint => exact absurd rfl hd
  | run | actionProposal | approval | idempotencyRecord | auditEvent | verificationEvidence =>
    exact congrArg (Durable.mk _) hback

/-! ## Licensed requests -/

/-- An update that a method may ask for: the record, the attributes to set beside it, the condition. -/
inductive Drafts (seen : Durable → Prop) : Op → Durable → List (String × Json) → List Clause → Prop
  | transitionRun {current run : Run} {next : WorkflowState} {t : Time}
    {approvalId verificationId : Option UUID} (hc : seen ⟨.run, current⟩)
    (hd : DecisionSeen seen current.runId next approvalId)
    (hv : ProofSeen seen current.runId next verificationId)
    (ht : CloudOpsAgent.transitionRun current next t = .ok run) :
    Drafts seen (.transitionRun current.runId next current.state current.version t approvalId
      verificationId) ⟨.run, run⟩
      [("state", stringAttribute run.state.value),
        ("version", scalar "N" (DurableContract.versionText run.version))]
      [.equals "state" "S" current.state.value,
        .equals "version" "N" (DurableContract.versionText current.version)]
  | updateRunBudget {current : Run} {budget : BudgetCounters} {t : Time}
    (hc : seen ⟨.run, current⟩) (hb : Store.budgetMonotonic current budget)
    (ht : current.updatedAt ≤ t) :
    Drafts seen (.updateRunBudget current.runId budget current.version t)
      ⟨.run, { current with
        budget := budget
        updatedAt := t
        version := current.version + 1
        version_pos := current.next_version_pos
        time_order := current.time_order.trans ht }⟩
      [("version", scalar "N" (DurableContract.versionText (current.version + 1)))]
      [.equals "state" "S" current.state.value,
        .equals "version" "N" (DurableContract.versionText current.version)]
  | transitionProposal {current : ActionProposal} {next : ProposalState}
    (hc : seen ⟨.actionProposal, current⟩) (hn : next ∈ current.state.allowed) :
    Drafts seen (.transitionProposal current.proposalId next current.state)
      ⟨.actionProposal, { current with state := next }⟩ [("state", stringAttribute next.value)]
      [.equals "state" "S" current.state.value]
  | completeIdempotency {read r : IdempotencyRecord} {result : ActionResult} {t : Time}
    (hread : seen ⟨.idempotencyRecord, read⟩) (hr : read.complete result t = .ok r) :
    Drafts seen (.completeIdempotency read.idempotencyKey result t read.status)
      ⟨.idempotencyRecord, r⟩ [("status", stringAttribute r.status.value)]
      (DynamoRepository.ownerClauses read)
  | recordExecutionAcknowledgement {read : IdempotencyRecord} {ack : ExecutionAcknowledgement}
    (hread : seen ⟨.idempotencyRecord, read⟩) (hn : read.executionAcknowledgement = none)
    (hp : ack.proposalId = read.proposalId) :
    Drafts seen (.recordExecutionAcknowledgement read.idempotencyKey ack read.status)
      ⟨.idempotencyRecord, { read with executionAcknowledgement := some ack }⟩
      [("acknowledgement_hash", stringAttribute ack.acknowledgementHash.hex)]
      (DynamoRepository.ownerClauses read ++ [.attributeNotExists "acknowledgement_hash"])
  | saveCheckpoint {c : Checkpoint} {expected : Nat} (hv : c.version = expected + 1) :
    Drafts seen (.saveCheckpoint c (some expected)) ⟨.checkpoint, c⟩
      [("version", scalar "N" (DurableContract.versionText c.version))]
      [.equals "version" "N" (DurableContract.versionText expected)]

/-- The requests by which a call may write a record in a world. -/
inductive Licensed (w : TableWorld ι) (op : Op) : Durable → TableRequest → Prop
  | create {x : Durable} {item : DynamoItem} (h : Creates (sees w) op x) (hform : x.Form item) :
    Licensed w op x (.putItem x.slot.key item DynamoRepository.NOT_EXISTS)
  | update {x : Durable} {stored : Json} {assignments : List (String × Json)}
    {condition : List Clause} (h : Drafts (sees w) op x assignments condition)
    (hs : serializeRecord x.model x.record = .ok stored) (hk : x.model.Kept x.record) :
    Licensed w op x (.updateItem x.slot.key (("record", stored) :: assignments) condition)

omit [FloatParse] in
theorem Drafts.mono {seen seen' : Durable → Prop} (h : ∀ x, seen x → seen' x) {op : Op}
    {x : Durable} {assignments : List (String × Json)} {condition : List Clause}
    (hd : Drafts seen op x assignments condition) : Drafts seen' op x assignments condition := by
  cases hd with
  | transitionRun hc hd hv ht => exact .transitionRun (h _ hc) (hd.mono h) (hv.mono h) ht
  | updateRunBudget hc hb ht => exact .updateRunBudget (h _ hc) hb ht
  | transitionProposal hc hn => exact .transitionProposal (h _ hc) hn
  | completeIdempotency hread hr => exact .completeIdempotency (h _ hread) hr
  | recordExecutionAcknowledgement hread hn hp =>
    exact .recordExecutionAcknowledgement (h _ hread) hn hp
  | saveCheckpoint hv => exact .saveCheckpoint hv

/-! ## Landing -/

/-- What is known of a world that only calls have written to. -/
structure Inv (calls : ι → Op) (w : TableWorld ι) (log : List (ι × Store)) : Prop where
  tracks : Tracks w log
  history : WriteHistory calls log
  /-- Until an acknowledgement is recorded, nobody can have read two different ones. -/
  uniform : ∀ key item, w.items (Slot.idempotency key).key = some item →
    item "acknowledgement_hash" = none → ∀ r r' : IdempotencyRecord,
      SeenIn log ⟨.idempotencyRecord, r⟩ → SeenIn log ⟨.idempotencyRecord, r'⟩ →
        r.idempotencyKey = key → r'.idempotencyKey = key →
          r.executionAcknowledgement = r'.executionAcknowledgement
  /-- No two different acknowledgements are ever there under one key. -/
  agreed : ∀ r r' : IdempotencyRecord, SeenIn log ⟨.idempotencyRecord, r⟩ →
    SeenIn log ⟨.idempotencyRecord, r'⟩ → r.idempotencyKey = r'.idempotencyKey →
      ∀ a a', r.executionAcknowledgement = some a → r'.executionAcknowledgement = some a' → a = a'

omit [Sha256] [FloatParse] in
theorem holds_equals {item : DynamoItem} {name kind text : String} :
    (Clause.equals name kind text).holds (some item) ↔ item name = some (scalar kind text) :=
  DynamoItem.hasScalar_iff

omit [Sha256] [FloatParse] in
theorem absent_of_clause {item : DynamoItem} {name : String}
    (h : (Clause.attributeNotExists name).holds (some item)) : item name = none :=
  Option.isNone_iff_eq_none.mp h

section Landing

variable {calls : ι → Op} {w : TableWorld ι} {log : List (ι × Store)} (h : Inv calls w log)
include h

/-- A run whose version is the one that was seen is the one that was seen. -/
theorem Inv.run_unchanged {current stored : Run} {old : DynamoItem}
    (hc : sees w ⟨.run, current⟩) (hget : (currentStore log).runs.get current.runId = some stored)
    (hform : Durable.Form ⟨.run, stored⟩ old)
    (hclause : (Clause.equals "version" "N" (DurableContract.versionText current.version)).holds
      (some old)) : stored = current := by
  obtain ⟨run, hrun, hev⟩ := h.history.knows (h.tracks.seen hc)
  obtain rfl : stored = run := Option.some.inj (hget.symm.trans hrun)
  have hversion := hform.indexed ("version", scalar "N" (DurableContract.versionText stored.version))
    (List.mem_cons_of_mem _ List.mem_cons_self)
  have htext := hversion.symm.trans (holds_equals.mp hclause)
  exact hev.eq_of_version (versionText_inj (scalar_inj (Option.some.inj htext)))

/-- A proposal whose state is the one that was seen is the one that was seen. -/
theorem Inv.proposal_unchanged {current stored : ActionProposal} {old : DynamoItem}
    (hc : sees w ⟨.actionProposal, current⟩)
    (hget : (currentStore log).proposals.get current.proposalId = some stored)
    (hform : Durable.Form ⟨.actionProposal, stored⟩ old)
    (hclause : (Clause.equals "state" "S" current.state.value).holds (some old)) :
    stored = current := by
  obtain ⟨p, hp, hsame⟩ := h.history.knows (h.tracks.seen hc)
  obtain rfl : stored = p := Option.some.inj (hget.symm.trans hp)
  have hstate := hform.indexed ("state", stringAttribute stored.state.value) List.mem_cons_self
  have htext := hstate.symm.trans (holds_equals.mp hclause)
  have heq := ProposalState.value_inj (scalar_inj (Option.some.inj htext))
  have hsame : { stored with state := current.state } = current := hsame
  rw [← heq] at hsame
  exact hsame

omit h in
/-- The status that a condition compares is the status of the stored record. -/
theorem status_of_clause {stored read : IdempotencyRecord} {old : DynamoItem}
    (hform : Durable.Form ⟨.idempotencyRecord, stored⟩ old)
    (hclause : (Clause.equals "status" "S" read.status.value).holds (some old)) :
    stored.status = read.status := by
  have hstatus := hform.indexed ("status", stringAttribute stored.status.value) List.mem_cons_self
  have htext := hstatus.symm.trans (holds_equals.mp hclause)
  exact IdempotencyStatus.value_inj (scalar_inj (Option.some.inj htext))

/-- **An update whose condition holds replaces what its call has read.** -/
theorem Drafts.replaces {op : Op} {x y : Durable} {assignments : List (String × Json)}
    {condition : List Clause} (hd : Drafts (sees w) op x assignments condition) {old : DynamoItem}
    (hold : w.items x.slot.key = some old) (hcond : condition.all (·.holds (some old)))
    (hy : (currentStore log).recordAt x.slot = some y) (hform : y.Form old) :
    Replaces (SeenIn log) op y x := by
  have hmono := fun x => h.tracks.seen (x := x)
  rw [List.all_eq_true] at hcond
  cases hd with
  | @transitionRun current run next t approvalId verificationId hc hdec hv ht =>
    obtain ⟨stored, hget, rfl⟩ := Option.map_eq_some_iff.mp hy
    rw [(transitionRun_ok ht).2.2.2.2.2.1] at hget
    obtain rfl := h.run_unchanged hc hget hform (hcond _ (List.mem_cons_of_mem _ List.mem_cons_self))
    exact .transitionRun (hdec.mono hmono) (hv.mono hmono) ht
  | updateRunBudget hc hb ht =>
    obtain ⟨stored, hget, rfl⟩ := Option.map_eq_some_iff.mp hy
    obtain rfl := h.run_unchanged hc hget hform (hcond _ (List.mem_cons_of_mem _ List.mem_cons_self))
    exact .updateRunBudget hb ht
  | transitionProposal hc hn =>
    obtain ⟨stored, hget, rfl⟩ := Option.map_eq_some_iff.mp hy
    obtain rfl := h.proposal_unchanged hc hget hform (hcond _ List.mem_cons_self)
    exact .transitionProposal hn
  | @completeIdempotency read r result t hread hr =>
    obtain ⟨stored, hget, rfl⟩ := Option.map_eq_some_iff.mp hy
    have hkey := (Table.key_of_get hget).trans (IdempotencyRecord.complete_ok hr).1
    exact .completeIdempotency (hmono _ hread) hkey
      (status_of_clause hform (hcond _ List.mem_cons_self)) hr
  | @recordExecutionAcknowledgement read ack hread hn hp =>
    obtain ⟨stored, hget, rfl⟩ := Option.map_eq_some_iff.mp hy
    have hkey : stored.idempotencyKey = read.idempotencyKey := Table.key_of_get hget
    have habsent := absent_of_clause
      (hcond _ (List.mem_append_right _ (List.mem_singleton_self _)))
    -- nobody has recorded an acknowledgement, so the stored record has the one that was read
    have hsame := h.uniform read.idempotencyKey old hold habsent stored read
      ⟨_, currentStore_mem log, by rw [← hy]; exact congrArg _ (congrArg Slot.idempotency hkey)⟩
      (hmono _ hread) hkey rfl
    exact .recordExecutionAcknowledgement (hmono _ hread) hkey
      (status_of_clause hform (hcond _ List.mem_cons_self)) hn (hsame.trans hn) hp
  | @saveCheckpoint c expected hv =>
    obtain ⟨stored, hget, rfl⟩ := Option.map_eq_some_iff.mp hy
    have hversion := hform.indexed
      ("version", scalar "N" (DurableContract.versionText stored.version)) List.mem_cons_self
    have htext := hversion.symm.trans (holds_equals.mp (hcond _ List.mem_cons_self))
    obtain rfl : stored.version = expected := versionText_inj (scalar_inj (Option.some.inj htext))
    have hid := Table.key_of_get hget
    exact .saveCheckpoint hid hv

omit h in
/-- An item in the form of one record, updated to hold another one of its slot. -/
theorem Durable.Form.assign {d : DurableContract} {r r' : d.Record} {old : DynamoItem} {stored : Json}
    {assignments : List (String × Json)} (hform : Durable.Form ⟨d, r⟩ old)
    (hslot : d.slot r' = d.slot r) (hs : serializeRecord d.model r' = .ok stored)
    (hk : d.model.Kept r')
    (hnames : ("PK" :: "SK" :: "entity_type" :: "record" :: assignments.map Prod.fst).Nodup)
    (hindexed : ∀ f ∈ d.indexed r', f ∈ assignments ∨
      f.1 ∉ "record" :: assignments.map Prod.fst ∧ f ∈ d.indexed r) :
    Durable.Form ⟨d, r'⟩ (old.assign (("record", stored) :: assignments)) := by
  obtain ⟨hpk, hnames⟩ := List.nodup_cons.mp hnames
  obtain ⟨hsk, hnames⟩ := List.nodup_cons.mp hnames
  obtain ⟨hentity, hnames⟩ := List.nodup_cons.mp hnames
  have hall : ((("record", stored) :: assignments).map Prod.fst).Nodup := hnames
  rw [List.mem_cons, not_or, List.mem_cons, not_or] at hpk
  rw [List.mem_cons, not_or] at hsk
  have hkey : d.slot r = d.slot r' := hslot.symm
  refine ⟨?_, ?_, ?_, ⟨stored, hs, ?_⟩, ?_, hk⟩
  · rw [DynamoItem.assign_of_notMem hpk.2.2 old]
    exact hform.pk.trans (congrArg (fun slot : Slot => some (stringAttribute slot.key.1)) hkey)
  · rw [DynamoItem.assign_of_notMem hsk.2 old]
    exact hform.sk.trans (congrArg (fun slot : Slot => some (stringAttribute slot.key.2)) hkey)
  · rw [DynamoItem.assign_of_notMem hentity old]
    exact hform.entity
  · exact DynamoItem.assign_of_mem hall List.mem_cons_self old
  · intro f hf
    obtain hmem | ⟨hnot, hmem⟩ := hindexed f hf
    · exact DynamoItem.assign_of_mem hall (List.mem_cons_of_mem _ hmem) old
    · rw [DynamoItem.assign_of_notMem hnot old]
      exact hform.indexed f hmem

/-- The item that an update leaves holds the record. -/
theorem Drafts.form {op : Op} {x y : Durable} {assignments : List (String × Json)}
    {condition : List Clause} (hd : Drafts (sees w) op x assignments condition) {old : DynamoItem}
    (hcond : condition.all (·.holds (some old)))
    (hy : (currentStore log).recordAt x.slot = some y) (hform : y.Form old) {stored : Json}
    (hs : serializeRecord x.model x.record = .ok stored) (hk : x.model.Kept x.record) :
    x.Form (old.assign (("record", stored) :: assignments)) := by
  have hslot := Store.slot_of_recordAt hy
  rw [List.all_eq_true] at hcond
  cases hd with
  | @transitionRun current run next t approvalId verificationId hc hdec hv ht =>
    obtain ⟨r, hget, rfl⟩ := Option.map_eq_some_iff.mp hy
    refine hform.assign hslot.symm hs hk (by simp) fun f hf => ?_
    exact .inl hf
  | @updateRunBudget current budget t hc hb ht =>
    obtain ⟨r, hget, rfl⟩ := Option.map_eq_some_iff.mp hy
    obtain rfl := h.run_unchanged hc hget hform (hcond _ (List.mem_cons_of_mem _ List.mem_cons_self))
    refine hform.assign hslot.symm hs hk (by simp) fun f hf => ?_
    obtain rfl | hf := List.mem_cons.mp hf
    · exact .inr ⟨by simp, List.mem_cons_self⟩
    · exact .inl hf
  | transitionProposal hc hn =>
    obtain ⟨r, hget, rfl⟩ := Option.map_eq_some_iff.mp hy
    refine hform.assign hslot.symm hs hk (by simp) fun f hf => ?_
    exact .inl hf
  | @completeIdempotency read r result t hread hr =>
    obtain ⟨stored, hget, rfl⟩ := Option.map_eq_some_iff.mp hy
    obtain ⟨hkey, hmoves, -⟩ := IdempotencyRecord.complete_ok hr
    obtain ⟨stored', hget', hev⟩ := h.history.knows (h.tracks.seen hread)
    rw [← hkey, show _ = some stored from hget] at hget'
    obtain rfl := Option.some.inj hget'
    have hfingerprint := hmoves.actionFingerprint.trans hev.actionFingerprint.symm
    refine hform.assign hslot.symm hs hk (by simp) fun f hf => ?_
    obtain rfl | hf := List.mem_cons.mp hf
    · exact .inl List.mem_cons_self
    · obtain rfl := List.mem_singleton.mp hf
      refine .inr ⟨by simp, List.mem_cons_of_mem _ ?_⟩
      rw [hfingerprint]
      exact List.mem_singleton_self _
  | @recordExecutionAcknowledgement read ack hread hn hp =>
    obtain ⟨stored, hget, rfl⟩ := Option.map_eq_some_iff.mp hy
    obtain ⟨stored', hget', hev⟩ := h.history.knows (h.tracks.seen hread)
    obtain rfl := Option.some.inj (hget.symm.trans hget')
    have hstatus : stored.status = read.status :=
      status_of_clause hform (hcond _ List.mem_cons_self)
    refine hform.assign hslot.symm hs hk (by simp) fun f hf => .inr ?_
    obtain rfl | hf := List.mem_cons.mp hf
    · refine ⟨by simp, ?_⟩
      rw [← hstatus]
      exact List.mem_cons_self
    · obtain rfl := List.mem_singleton.mp hf
      refine ⟨by simp, List.mem_cons_of_mem _ ?_⟩
      rw [← hev.actionFingerprint]
      exact List.mem_singleton_self _
  | saveCheckpoint hv =>
    obtain ⟨r, hget, rfl⟩ := Option.map_eq_some_iff.mp hy
    refine hform.assign hslot.symm hs hk (by simp) fun f hf => ?_
    exact .inl hf

/-- Without a recorded acknowledgement, a new idempotency record has the one of a record that was read. -/
theorem Drafts.unacknowledged {op : Op} {x : Durable} {assignments : List (String × Json)}
    {condition : List Clause} (hd : Drafts (sees w) op x assignments condition) {old : DynamoItem}
    {stored : Json} (hnone : old.assign (("record", stored) :: assignments) "acknowledgement_hash" = none)
    {r : IdempotencyRecord} (hx : x = ⟨.idempotencyRecord, r⟩) :
    old "acknowledgement_hash" = none ∧ ∃ read : IdempotencyRecord,
      SeenIn log ⟨.idempotencyRecord, read⟩ ∧ read.idempotencyKey = r.idempotencyKey ∧
        r.executionAcknowledgement = read.executionAcknowledgement := by
  cases hd with
  | @completeIdempotency read updated result t hread hr =>
    cases hx
    obtain ⟨hkey, -, hack, -⟩ := IdempotencyRecord.complete_ok hr
    rw [DynamoItem.assign_of_notMem (by simp)] at hnone
    exact ⟨hnone, read, h.tracks.seen hread, hkey.symm, hack⟩
  | recordExecutionAcknowledgement hread hn hp =>
    rw [DynamoItem.assign_of_mem (by simp) (List.mem_cons_of_mem _ List.mem_cons_self)] at hnone
    cases hnone
  | _ => cases hx

/-- An update that leaves an acknowledgement leaves the only one there has been. -/
theorem Drafts.acknowledged {op : Op} {x : Durable} {assignments : List (String × Json)}
    {condition : List Clause} (hd : Drafts (sees w) op x assignments condition) {old : DynamoItem}
    (hold : w.items x.slot.key = some old) (hcond : condition.all (·.holds (some old)))
    {r : IdempotencyRecord} (hx : x = ⟨.idempotencyRecord, r⟩) {a : ExecutionAcknowledgement}
    (ha : r.executionAcknowledgement = some a) {read : IdempotencyRecord}
    (hseen : SeenIn log ⟨.idempotencyRecord, read⟩) (hk : read.idempotencyKey = r.idempotencyKey)
    {a' : ExecutionAcknowledgement} (ha' : read.executionAcknowledgement = some a') : a' = a := by
  cases hd with
  | @completeIdempotency before updated result t hread hr =>
    cases hx
    obtain ⟨hkey, -, hack, -⟩ := IdempotencyRecord.complete_ok hr
    exact h.agreed read before hseen (h.tracks.seen hread) (hk.trans hkey) a' a ha' (hack ▸ ha)
  | @recordExecutionAcknowledgement before ack hread hn hp =>
    cases hx
    have habsent := absent_of_clause
      (List.all_eq_true.mp hcond _ (List.mem_append_right _ (List.mem_singleton_self _)))
    have hsame := h.uniform before.idempotencyKey old hold habsent read before hseen
      (h.tracks.seen hread) hk rfl
    rw [ha', hn] at hsame
    cases hsame
  | _ => cases hx

/-- What is known of a write after it. -/
structure Landing (log : List (ι × Store)) (op : Op) (items : DynamoItems) (x : Durable)
    (item : DynamoItem) : Prop where
  form : x.Form item
  landed : Landed (SeenIn log) (currentStore log) op ((currentStore log).file x)
  unacknowledged : item "acknowledgement_hash" = none → ∀ r : IdempotencyRecord,
    x = ⟨.idempotencyRecord, r⟩ → (currentStore log).recordAt x.slot = none ∨
      ∃ old, items x.slot.key = some old ∧ old "acknowledgement_hash" = none ∧
        ∃ read : IdempotencyRecord, SeenIn log ⟨.idempotencyRecord, read⟩ ∧
          read.idempotencyKey = r.idempotencyKey ∧
          r.executionAcknowledgement = read.executionAcknowledgement
  acknowledged : ∀ (r : IdempotencyRecord) (a : ExecutionAcknowledgement),
    x = ⟨.idempotencyRecord, r⟩ → r.executionAcknowledgement = some a →
      ∀ read : IdempotencyRecord, SeenIn log ⟨.idempotencyRecord, read⟩ →
        read.idempotencyKey = r.idempotencyKey →
          ∀ a', read.executionAcknowledgement = some a' → a' = a

omit h [FloatParse] in
/-- Nothing has been seen where nothing is. -/
theorem WriteHistory.notSeen (hh : WriteHistory calls log) {r read : IdempotencyRecord}
    (hfree : (currentStore log).recordAt (.idempotency r.idempotencyKey) = none)
    (hseen : SeenIn log ⟨.idempotencyRecord, read⟩) : read.idempotencyKey ≠ r.idempotencyKey := by
  intro hk
  obtain ⟨stored, hstored, -⟩ := hh.knows hseen
  rw [← hk] at hfree
  cases hstored.symm.trans (Option.map_eq_none_iff.mp hfree)

/-- **A licensed write whose condition holds is one write of the history.** -/
theorem Licensed.land {op : Op} {x : Durable} {r : TableRequest} (hl : Licensed w op x r)
    {key : DynamoKey} {item : DynamoItem} (hw : r.written w.items = some (key, item)) :
    key = x.slot.key ∧ Landing log op w.items x item := by
  have hmono := fun x => h.tracks.seen (x := x)
  have hrep := h.tracks.current
  cases hl with
  | create hc hform =>
    simp only [TableRequest.written] at hw
    split at hw
    · next hcond =>
      cases hw
      have hfree : (currentStore log).recordAt x.slot = none := by
        cases hat : (currentStore log).recordAt x.slot with
        | none => rfl
        | some y =>
          -- an item there would have a `PK`
          obtain ⟨old, hold, hform⟩ := hrep.present _ y hat
          rw [hold] at hcond
          have hpk : old "PK" = none :=
            absent_of_clause (List.all_eq_true.mp hcond _ List.mem_cons_self)
          rw [hform.pk] at hpk
          cases hpk
      refine ⟨rfl, hform, .created (hc.mono hmono) hfree, fun _ _ _ => .inl hfree, ?_⟩
      intro r a hx ha read hseen hk
      subst hx
      exact absurd hk (h.history.notSeen hfree hseen)
    · cases hw
  | update hd hs hk =>
    simp only [TableRequest.written] at hw
    split at hw
    · next hcond =>
      cases hold : w.items x.slot.key with
      | none =>
        -- every condition compares an attribute
        rw [hold, List.all_eq_true] at hcond
        exfalso
        cases hd <;> exact Bool.false_ne_true (hcond _ List.mem_cons_self)
      | some old =>
        rw [hold] at hcond hw
        cases hw
        cases hat : (currentStore log).recordAt x.slot with
        | none =>
          rw [hrep.absent _ hat] at hold
          cases hold
        | some y =>
          obtain ⟨old', hold', hform⟩ := hrep.present _ y hat
          obtain rfl := Option.some.inj (hold'.symm.trans hold)
          refine ⟨rfl, hd.form h hcond hat hform hs hk,
            .replaced (hd.replaces h hold hcond hat hform) hat, fun hnone r hx => .inr ?_,
            fun r a hx ha read hseen hk a' ha' => hd.acknowledged h hold hcond hx ha hseen hk ha'⟩
          obtain ⟨hnone, hread⟩ := hd.unacknowledged h hnone hx
          exact ⟨_, hold, hnone, hread⟩
    · cases hw

omit h [FloatParse] in
/-- A record seen after a write is the new one, or was seen before. -/
theorem seenIn_cons {i : ι} {x y : Durable}
    (hy : SeenIn ((i, (currentStore log).file x) :: log) y) : y = x ∨ SeenIn log y := by
  obtain ⟨s, hs, hrecord⟩ := hy
  obtain rfl | hs := List.mem_cons.mp hs
  · by_cases hslot : y.slot = x.slot
    · rw [hslot, Store.recordAt_file_self] at hrecord
      exact .inl (Option.some.inj hrecord).symm
    · rw [Store.recordAt_file_of_ne _ hslot] at hrecord
      exact .inr ⟨_, currentStore_mem log, hrecord⟩
  · exact .inr ⟨s, hs, hrecord⟩

/-- Where no acknowledgement is recorded, whatever has been seen under the key has that of the new record. -/
theorem Landing.uniform {op : Op} {new : IdempotencyRecord} {item : DynamoItem}
    (hland : Landing log op w.items ⟨.idempotencyRecord, new⟩ item)
    (hnone : item "acknowledgement_hash" = none) {i : ι} {r : IdempotencyRecord}
    (hr : SeenIn ((i, (currentStore log).file ⟨.idempotencyRecord, new⟩) :: log) ⟨.idempotencyRecord, r⟩)
    (hk : r.idempotencyKey = new.idempotencyKey) :
    r.executionAcknowledgement = new.executionAcknowledgement := by
  obtain hnew | hseen := seenIn_cons hr
  · cases hnew
    rfl
  · obtain hfree | ⟨old, hold, holdnone, read, hread, hreadkey, hack⟩ :=
      hland.unacknowledged hnone new rfl
    · -- nothing was there, so nothing else has been seen
      exact absurd hk (h.history.notSeen hfree hseen)
    · rw [hack]
      exact h.uniform new.idempotencyKey old hold holdnone r read hseen hread hk hreadkey

/-- Two acknowledgements seen under one key after a write are one. -/
theorem Landing.agreed {op : Op} {x : Durable} {item : DynamoItem} (hland : Landing log op w.items x item)
    {i : ι} {r r' : IdempotencyRecord}
    (hr : SeenIn ((i, (currentStore log).file x) :: log) ⟨.idempotencyRecord, r⟩)
    (hr' : SeenIn ((i, (currentStore log).file x) :: log) ⟨.idempotencyRecord, r'⟩)
    (hk : r.idempotencyKey = r'.idempotencyKey) {a a' : ExecutionAcknowledgement}
    (ha : r.executionAcknowledgement = some a) (ha' : r'.executionAcknowledgement = some a') : a = a' := by
  obtain hnew | hold := seenIn_cons hr <;> obtain hnew' | hold' := seenIn_cons hr'
  · cases hnew.trans hnew'.symm
    exact Option.some.inj (ha.symm.trans ha')
  · exact (hland.acknowledged r a hnew.symm ha r' hold' hk.symm a' ha').symm
  · exact hland.acknowledged r' a' hnew'.symm ha' r hold hk a ha
  · exact h.agreed r r' hold hold' hk a a' ha ha'

/-- **A licensed write extends the history.** -/
theorem Inv.wrote {i : ι} (hi : i ∉ w.writers) {x : Durable} {r : TableRequest}
    (hl : Licensed w (calls i) x r) {key : DynamoKey} {item : DynamoItem} (hw : r.written w.items = some (key, item)) :
    ∃ s, Inv calls (w.wrote i key item) ((i, s) :: log) := by
  obtain ⟨rfl, hland⟩ := hl.land h hw
  have hfresh : i ∉ log.map Prod.fst := h.tracks.writers ▸ hi
  refine ⟨(currentStore log).file x, h.tracks.wrote (h.tracks.current.file hland.form),
    .cons h.history hfresh hland.landed, ?_, fun r r' hr hr' hk a a' => hland.agreed h hr hr' hk⟩
  intro k item' hitem hnone r r' hr hr' hk hk'
  by_cases hslot : x.slot = .idempotency k
  · rw [TableWorld.wrote_items, hslot, Function.update_self] at hitem
    obtain rfl := Option.some.inj hitem
    obtain ⟨new, rfl⟩ : ∃ new, x = ⟨.idempotencyRecord, new⟩ := by
      obtain ⟨d, new⟩ := x
      cases d <;> first | exact ⟨_, rfl⟩ | cases hslot
    have hnewkey : new.idempotencyKey = k := Slot.idempotency.inj hslot
    have hleft := hland.uniform h hnone hr (hk.trans hnewkey.symm)
    have hright := hland.uniform h hnone hr' (hk'.trans hnewkey.symm)
    exact hleft.trans hright.symm
  · -- the item under the key is the one from before, and so is all that has been seen there
    have hother : (Slot.idempotency k).key ≠ x.slot.key :=
      fun heq => hslot (Slot.key_injective heq).symm
    rw [TableWorld.wrote_items, Function.update_of_ne hother] at hitem
    have hold : ∀ r : IdempotencyRecord, r.idempotencyKey = k →
        SeenIn ((i, (currentStore log).file x) :: log) ⟨.idempotencyRecord, r⟩ →
          SeenIn log ⟨.idempotencyRecord, r⟩ := by
      intro r hk hr
      obtain hnew | hr := seenIn_cons hr
      · exact absurd (by rw [← hnew, ← hk]; rfl) hslot
      · exact hr
    exact h.uniform k item' hitem hnone r r' (hold r hk hr) (hold r' hk' hr') hk hk'

end Landing

theorem inv_empty (calls : ι → Op) : Inv calls ⟨[]⟩ [] where
  tracks := .nil
  history := .nil
  uniform _ _ h := by cases h
  agreed r r' h := by
    obtain ⟨s, hs, hrecord⟩ := h
    rw [List.mem_singleton.mp hs, Store.recordAt_empty] at hrecord
    cases hrecord

end CloudOpsAgent
