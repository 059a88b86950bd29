/-
  Clients of the DynamoDB repository, interleaved request by request.

  A client is one call of a method; who makes several calls is several clients, scheduled one after the
  other.  Requests fail, replies are lost, reads may be stale, and any client may stop for ever.

  1. **The discipline** — reads are always allowed; a write is allowed to a client that has not written yet,
     and must be licensed by what it has seen.

  2. **Rules** — `Does`: what a method does against any interference, request by request.

  3. **Methods** — every method makes licensed requests only, and returns what it has written or
     found (`perform_does`).
-/
import CloudOpsAgent.Persistence.Placement
import CloudOpsAgent.Safety.DynamoWrites

namespace CloudOpsAgent

open ClientProg Prog

variable [Sha256] [FloatParse] {ι : Type}

/-! ## The discipline -/

omit [Sha256] [FloatParse] in
/-- A write is applied, or the world is left alone. -/
theorem WriteAnswer.cases' {who : ι} {w w' : TableWorld ι} {r : TableRequest} {x : WriteReply}
    (h : WriteAnswer who w r x w') : w' = w ∧ x ≠ .done ∨ ∃ key item,
      r.written w.items = some (key, item) ∧ w' = w.wrote who key item := by
  cases h with
  | done h => exact .inr ⟨_, _, h, rfl⟩
  | refused h => exact .inl ⟨rfl, by decide⟩
  | failedBefore => exact .inl ⟨rfl, by decide⟩
  | failedAfter h => exact .inr ⟨_, _, h, rfl⟩
  | repeated h => exact .inr ⟨_, _, h, rfl⟩

omit [Sha256] [FloatParse] in
/-- A read leaves the world alone. -/
theorem tableAnswers_get {consistent : Bool} {who : ι} {w w' : TableWorld ι} {key : DynamoKey}
    {x : GetReply} (h : tableAnswers consistent who w (.getItem key) x w') : w' = w := by
  cases x with
  | found item => exact h.1
  | malformedResponse | malformedItem | failed => exact h

omit [Sha256] [FloatParse] in
theorem suffix_wrote (w : TableWorld ι) (i : ι) (key : DynamoKey) (item : DynamoItem) :
    w.log <:+ (w.wrote i key item).log := List.suffix_cons ..

theorem Inv.written {calls : ι → Op} {w w' : TableWorld ι} {log : List (ι × Store)}
    (h : Inv calls w log) {i : ι} {y : Durable} {r : TableRequest}
    (hi : i ∉ w.writers) (hl : Licensed w (calls i) y r) {x : WriteReply} (hx : WriteAnswer i w r x w') :
    (∃ log, Inv calls w' log) ∧ w.log <:+ w'.log ∧
      ∀ j, j ≠ i → w.log <:+ w'.log ∧ (j ∈ w'.writers → j ∈ w.writers) := by
  obtain ⟨rfl, -⟩ | ⟨key, item, hw, rfl⟩ := hx.cases'
  · exact ⟨⟨log, h⟩, List.suffix_refl _, fun j _ => ⟨List.suffix_refl _, id⟩⟩
  · obtain ⟨s, hs⟩ := h.wrote hi hl hw
    refine ⟨⟨_, hs⟩, suffix_wrote .., fun j hj => ⟨suffix_wrote .., fun hmem => ?_⟩⟩
    obtain rfl | hmem := List.mem_cons.mp hmem
    · exact absurd rfl hj
    · exact hmem

/-- What clients rely on: the log grows, and nobody writes in another's name. -/
def dynamoDiscipline (calls : ι → Op) (consistent : Bool) :
    Discipline (tableAnswers (ι := ι) consistent) where
  inv w := ∃ log, Inv calls w log
  evolve w w' := w.log <:+ w'.log
  rely i w w' := w.log <:+ w'.log ∧ (i ∈ w'.writers → i ∈ w.writers)
  allowed i w r := (∃ key, r = .getItem key) ∨ i ∉ w.writers ∧ ∃ x, Licensed w (calls i) x r
  evolve_trans h h' := h.trans h'
  rely_refl _ w := ⟨List.suffix_refl _, id⟩
  rely_trans _ {_ _ _} h h' := ⟨h.1.trans h'.1, fun hi => h.2 (h'.2 hi)⟩
  evolve_of_rely h := h.1
  step {i w r x w'} hI ha hx := by
    obtain ⟨log, hI⟩ := hI
    obtain ⟨key, rfl⟩ | ⟨hi, y, hl⟩ := ha
    · obtain rfl := tableAnswers_get hx
      exact ⟨⟨log, hI⟩, List.suffix_refl _, fun j _ => ⟨List.suffix_refl _, id⟩⟩
    · cases r with
      | getItem key => cases hl
      | putItem key item condition => exact hI.written hi hl hx
      | updateItem key assignments condition => exact hI.written hi hl hx

/-- The client's write has left the record. -/
def Wrote (w : TableWorld ι) (i : ι) (x : Durable) : Prop :=
  ∃ items item, (i, items) ∈ w.log ∧ items x.slot.key = some item ∧ x.Form item

theorem Wrote.mono {w w' : TableWorld ι} (h : w.log <:+ w'.log) {i : ι} {x : Durable}
    (hx : Wrote w i x) : Wrote w' i x := by
  obtain ⟨items, item, hmem, hitem⟩ := hx
  exact ⟨items, item, h.subset hmem, hitem⟩

/-- A licensed write that is applied leaves its record. -/
theorem Licensed.wrote {calls : ι → Op} {w : TableWorld ι} {log : List (ι × Store)}
    (h : Inv calls w log) {op : Op} {x : Durable} {r : TableRequest} (hl : Licensed w op x r)
    {key : DynamoKey} {item : DynamoItem} (hw : r.written w.items = some (key, item)) (i : ι) :
    Wrote (w.wrote i key item) i x := by
  obtain ⟨rfl, hland⟩ := hl.land h hw
  exact ⟨_, item, List.mem_cons_self, Function.update_self .., hland.form⟩

theorem Inv.wrote_of_done {calls : ι → Op} {w w' : TableWorld ι} {log : List (ι × Store)}
    (h : Inv calls w log) {i : ι} {op : Op} {x : Durable} {r : TableRequest}
    (hl : Licensed w op x r) {reply : WriteReply} (hx : WriteAnswer i w r reply w')
    (hdone : reply = .done) : Wrote w' i x := by
  cases hx with
  | done hw => exact hl.wrote h hw i
  | _ => cases hdone

/-! ## Rules -/

/-- What a reader of a slot knows of the record it got. -/
structure Got (w : TableWorld ι) (slot : Slot) (d : DurableContract) (r : d.Record) : Prop where
  slot_eq : d.slot r = slot
  shows : w.Shows (d.slot r) d r
  kept : d ≠ .checkpoint → d.model.Kept r

theorem Got.mono {w w' : TableWorld ι} (h : w.log <:+ w'.log) {slot : Slot} {d : DurableContract}
    {r : d.Record} (hr : Got w slot d r) : Got w' slot d r :=
  ⟨hr.slot_eq, hr.shows.mono h, hr.kept⟩

theorem Got.shown {w : TableWorld ι} {slot : Slot} {d : DurableContract} {r : d.Record}
    (h : Got w slot d r) : w.Shows slot d r := h.slot_eq ▸ h.shows

theorem Got.sees {w : TableWorld ι} {slot : Slot} {d : DurableContract} {r : d.Record}
    (h : Got w slot d r) (hd : d ≠ .checkpoint) : sees w ⟨d, r⟩ := ⟨hd, h.shows⟩

section Rules

variable {calls : ι → Op} {consistent : Bool} {i : ι} {α β : Type}

/-- Against any interference, the client only makes requests it is licensed to make, and what it
    returns satisfies `R` then and ever after. -/
def Does (calls : ι → Op) (consistent : Bool) (i : ι) (p : DynamoCall α)
    (R : α → TableWorld ι → Prop) (w : TableWorld ι) : Prop :=
  Safe (dynamoDiscipline calls consistent) i p (fun o w' => ∀ a, o = .ok a → R a w') w

namespace Does

variable {p : DynamoCall α} {f : α → DynamoCall β} {R : α → TableWorld ι → Prop}
  {S : β → TableWorld ι → Prop} {w : TableWorld ι}

theorem ret {a : α} (h : ∀ w', w.log <:+ w'.log → (i ∉ w.writers → i ∉ w'.writers) → R a w') :
    Does calls consistent i (.ret a) R w := by
  intro w' hw _ b hb
  cases hb
  exact h w' hw.1 fun hi hi' => hi (hw.2 hi')

theorem raise (e : PyExc) : Does calls consistent i (.raise e) R w := by
  intro w' _ _ b hb
  cases hb

theorem bind (hp : Does calls consistent i p R w)
    (hf : ∀ a w', w.log <:+ w'.log → R a w' → Does calls consistent i (f a) S w') :
    Does calls consistent i (p >>= f) S w :=
  Safe.bind hp (fun a w' hw _ hR => hf a w' hw (hR a rfl)) fun e w' _ _ _ b hb => by cases hb

theorem bindExcept {x : Except PyExc α}
    (h : ∀ a, x = .ok a → Does calls consistent i (f a) S w) :
    Does calls consistent i (.ofExcept x >>= f) S w := by
  cases x with
  | error e => exact raise e
  | ok a => exact h a rfl

/-- A check, and what follows it or is raised instead. -/
theorem ifThen {c : Prop} [Decidable c] {q : DynamoCall α}
    (hp : c → Does calls consistent i p R w) (hq : ¬c → Does calls consistent i q R w) :
    Does calls consistent i (if c then p else q) R w := by
  split
  · next hc => exact hp hc
  · next hc => exact hq hc

theorem dite {c : Prop} [Decidable c] {f : c → DynamoCall α} {g : ¬c → DynamoCall α}
    (hf : ∀ h, Does calls consistent i (f h) R w) (hg : ∀ h, Does calls consistent i (g h) R w) :
    Does calls consistent i (if h : c then f h else g h) R w := by
  split
  · next hc => exact hf hc
  · next hc => exact hg hc

theorem mono {R' : α → TableWorld ι → Prop} (hR : ∀ a w', R a w' → R' a w')
    (hp : Does calls consistent i p R w) : Does calls consistent i p R' w :=
  Safe.mono (fun _ _ _ h a ha => hR a _ (h a ha)) hp

/-- A read gives nothing, or a record of the slot that the table has shown. -/
theorem read {s : Slot} {d : DurableContract} {f : Option d.Record → DynamoCall β}
    (h : ∀ o w', w.log <:+ w'.log → (i ∉ w.writers → i ∉ w'.writers) →
      (∀ r, o = some r → Got w' s d r) → Does calls consistent i (f o) S w') :
    Does calls consistent i (DynamoRepository.read s.key d.entity d.model >>= f) S w := by
  intro w' hw hI
  have hfresh : i ∉ w.writers → i ∉ w'.writers := fun hi hi' => hi (hw.2 hi')
  refine ⟨.inl ⟨_, rfl⟩, fun x w'' hx _ => ?_⟩
  obtain rfl := tableAnswers_get hx
  cases x with
  | malformedResponse => exact raise _
  | malformedItem => exact raise _
  | failed => exact raise _
  | found item =>
    cases item with
    | none => exact h none w'' hw.1 hfresh fun r hr => by cases hr
    | some item =>
      obtain ⟨-, items, hitems, hitem, -⟩ := hx
      show Does calls consistent i (DynamoRepository.recordIn d.entity d.model item >>= f) S w''
      unfold DynamoRepository.recordIn
      split
      · next stored hentity hrecord =>
        refine bindExcept fun o ho => ?_
        obtain ⟨r, hload, rfl⟩ : ∃ r, deserializeRecord d.model stored = .ok r ∧ o = some r := by
          cases hload : deserializeRecord d.model stored with
          | error e =>
            rw [hload] at ho
            cases ho
          | ok r =>
            rw [hload] at ho
            cases ho
            exact ⟨r, rfl, rfl⟩
        have hshows : w''.Shows s d r :=
          ⟨items, hitems, item, stored, hitem, hentity, hrecord, hload⟩
        have hgot : Got w'' s d r := by
          obtain ⟨log, hI⟩ := hI
          obtain ⟨r₀, -, hslot, rfl, hkept⟩ := hI.tracks.shown hshows
          have hback : d.slot (d.model.back r₀) = s := by
            rw [← hslot]
            cases d <;> rfl
          -- a checkpoint comes back up to the order of keys, every other record as it was
          refine ⟨hback, hback ▸ hshows, fun hd => ?_⟩
          cases d with
          | checkpoint => exact absurd rfl hd
          | _ => exact hkept
        refine h _ w'' hw.1 hfresh fun r' hr' => ?_
        cases hr'
        exact hgot
      · exact raise _

/-- What was read goes on existing. -/
theorem readOnly {s : Slot} {d : DurableContract} {S : Option d.Record → TableWorld ι → Prop}
    (h : ∀ o w', w.log <:+ w'.log → (∀ r, o = some r → Got w' s d r) → S o w') :
    Does calls consistent i (DynamoRepository.read s.key d.entity d.model) S w := by
  rw [← bind_ret (DynamoRepository.read s.key d.entity d.model)]
  refine read fun o w' hw _ hr => ret fun w'' hw' _ => ?_
  exact h o w'' (hw.trans hw') fun r ho => (hr r ho).mono hw'

/-- `_put_create` returns where the record was written. -/
theorem put {d : DurableContract} {r : d.Record} {indexed : List (String × Json)}
    {op : Op} (hop : calls i = op) (hi : i ∉ w.writers) (hc : Creates (sees w) op ⟨d, r⟩)
    (hk : d.model.Kept r)
    (hnames : ("PK" :: "SK" :: "entity_type" :: "record" :: indexed.map Prod.fst).Nodup)
    (hindexed : ∀ f ∈ d.indexed r, f ∈ indexed) :
    Does calls consistent i (DynamoRepository.putCreate (d.slot r).key d.entity d.model r indexed)
      (fun _ w' => Wrote w' i ⟨d, r⟩) w := by
  subst hop
  unfold DynamoRepository.putCreate
  split
  · exact raise _
  · next stored hs =>
    have hform : Durable.Form ⟨d, r⟩
        (DynamoRepository.itemOf (d.slot r).key d.entity stored indexed) := by
      have hset : ∀ {name : String} {value : Json}, (name, value) ∈
          [("PK", stringAttribute (d.slot r).key.partitionKey),
            ("SK", stringAttribute (d.slot r).key.sortKey),
            ("entity_type", stringAttribute d.entity), ("record", stored)] ++ indexed →
          DynamoRepository.itemOf (d.slot r).key d.entity stored indexed name = some value :=
        fun hmem => DynamoItem.assign_of_mem (by simpa using hnames) hmem _
      exact ⟨hset (by simp [Durable.slot]), hset (by simp [Durable.slot]), hset (by simp),
        ⟨stored, hs, hset (by simp)⟩,
        fun f hf => hset (List.mem_append_right _ (hindexed f hf)), hk⟩
    intro w' hw hI
    have hi' : i ∉ w'.writers := fun hmem => hi (hw.2 hmem)
    -- others may have written since `w`; what this call had seen then it still has
    have hl := Licensed.create (hc.mono (sees_mono hw.1)) hform
    refine ⟨.inr ⟨hi', _, hl⟩, fun x w'' hx _ => ?_⟩
    obtain ⟨log, hI⟩ := hI
    have hwrote := hI.wrote_of_done hl hx
    cases x with
    | conditionalCheckFailed => exact raise _
    | failed => exact raise _
    | done => exact ret fun _ hw _ => (hwrote rfl).mono hw

/-- `_update` returns where the record was written. -/
theorem update {d : DurableContract} {r : d.Record} {assignments : List (String × Json)}
    {condition : List Clause} {op : Op} (hop : calls i = op) (hi : i ∉ w.writers)
    (hd : Drafts (sees w) op ⟨d, r⟩ assignments condition) (hk : d.model.Kept r) :
    Does calls consistent i
      (DynamoRepository.update (d.slot r).key d.entity d.model r condition assignments)
      (fun _ w' => Wrote w' i ⟨d, r⟩) w := by
  subst hop
  unfold DynamoRepository.update
  refine bindExcept fun stored hs => ?_
  intro w' hw hI
  have hi' : i ∉ w'.writers := fun hmem => hi (hw.2 hmem)
  have hl := Licensed.update (hd.mono (sees_mono hw.1)) hs hk
  refine ⟨.inr ⟨hi', _, hl⟩, fun x w'' hx _ => ?_⟩
  obtain ⟨log, hI⟩ := hI
  have hwrote := hI.wrote_of_done hl hx
  cases x with
  | conditionalCheckFailed => exact raise _
  | failed => exact raise _
  | done => exact ret fun _ hw _ => (hwrote rfl).mono hw

/-- `try` a write, `except StorageConflictError`. -/
theorem exceptConflict {body : DynamoCall Unit} {handler rest : DynamoCall α}
    {B : TableWorld ι → Prop} (hbody : Does calls consistent i body (fun _ => B) w)
    (hrest : ∀ w', w.log <:+ w'.log → B w' → Does calls consistent i rest R w')
    (hhandler : ∀ w', w.log <:+ w'.log → Does calls consistent i handler R w') :
    Does calls consistent i (DynamoRepository.exceptConflict body handler rest) R w := by
  unfold DynamoRepository.exceptConflict
  refine Safe.bind (R := fun o w' => ∀ o', o = .ok o' → o' = .ok () → B w') ?_ ?_ ?_
  · refine Safe.attempt (Safe.mono ?_ hbody)
    intro o w' _ hB o' ho' hok
    cases ho'
    exact hB () hok
  · -- the handler learns nothing: a refused write may be one that was repeated
    intro o w' hw _ hB
    cases o with
    | ok u => exact hrest w' hw (hB _ rfl rfl)
    | error e =>
      show Does calls consistent i (if e.isConflict then handler else .raise e) R w'
      split
      · exact hhandler w' hw
      · exact raise e
  · intro e w' _ _ _ a ha
    cases ha

end Does

-- from here on a method is taken apart by the rules, not evaluated
attribute [irreducible] Does

end Rules

/-! ## Methods -/

/-- The records and instants that are passed can be kept. -/
def Op.Kept : Op → Prop
  | createRun run => Run.model.Kept run
  | transitionRun _ _ _ _ updatedAt _ _ | updateRunBudget _ _ _ updatedAt =>
    updatedAt ≤ Time.datetimeMax
  | createProposal proposal => ActionProposal.model.Kept proposal
  | createApproval approval => Approval.model.Kept approval
  | registerIdempotency record => IdempotencyRecord.model.Kept record
  | completeIdempotency _ _ completedAt _ => completedAt ≤ Time.datetimeMax
  | recordExecutionAcknowledgement _ acknowledgement _ =>
    ExecutionAcknowledgement.model.Kept acknowledgement
  | saveCheckpoint checkpoint _ => Checkpoint.model.Kept checkpoint
  | appendAuditEvent event => AuditEvent.model.Kept event
  | createVerificationEvidence evidence => VerificationEvidence.model.Kept evidence
  | _ => True

/-- The record that a call leaves where it returns the value. -/
def Op.Leaves : (op : Op) → op.Result → Durable → Prop
  | createRun run, v, x => v = run ∧ x = ⟨.run, run⟩
  | transitionRun .., v, x | updateRunBudget .., v, x => x = ⟨.run, v⟩
  | createProposal p, v, x => v = p ∧ x = ⟨.actionProposal, p⟩
  | transitionProposal .., v, x => x = ⟨.actionProposal, v⟩
  | createApproval a, v, x => v = a ∧ x = ⟨.approval, a⟩
  | registerIdempotency r, v, x => v = r ∧ x = ⟨.idempotencyRecord, r⟩
  | completeIdempotency .., v, x | recordExecutionAcknowledgement .., v, x =>
    x = ⟨.idempotencyRecord, v⟩
  | saveCheckpoint c _, v, x => v = c ∧ x = ⟨.checkpoint, c⟩
  | appendAuditEvent e, v, x => v = e ∧ x = ⟨.auditEvent, e⟩
  | createVerificationEvidence e, v, x => v = e ∧ x = ⟨.verificationEvidence, e⟩
  | _, _, _ => False

/-- What a call that returns without writing has found, of what readers are shown. -/
def Op.Found (shown : Slot → (d : DurableContract) → d.Record → Prop) :
    (op : Op) → op.Result → Prop
  | getRun runId, o => ∀ r, o = some r → shown (.run runId) .run r
  | getProposal proposalId, o => ∀ p, o = some p → shown (.proposal proposalId) .actionProposal p
  | getApproval proposalId, o => ∀ a, o = some a → shown (.approval proposalId) .approval a
  | getIdempotency key, o => ∀ r, o = some r → shown (.idempotency key) .idempotencyRecord r
  | getCheckpoint runId, o => ∀ c, o = some c → shown (.checkpoint runId) .checkpoint c
  | getAuditEvent runId eventId, o =>
    ∀ e, o = some e → shown (.auditEvent runId eventId) .auditEvent e
  | getVerificationEvidence runId proposalId, o =>
    ∀ e, o = some e → shown (.evidence runId proposalId) .verificationEvidence e
  | createApproval a, v => v = a ∧ shown (.approval a.proposalId) .approval v
  | registerIdempotency r, (v : IdempotencyRecord) =>
    shown (.idempotency r.idempotencyKey) .idempotencyRecord v ∧ v.proposalId = r.proposalId ∧
      v.actionFingerprint = r.actionFingerprint
  | recordExecutionAcknowledgement key acknowledgement _, (v : IdempotencyRecord) =>
    shown (.idempotency key) .idempotencyRecord v ∧
      v.executionAcknowledgement = some acknowledgement
  | createVerificationEvidence e, v =>
    v = e ∧ shown (.evidence e.runId e.proposalId) .verificationEvidence v
  | _, _ => False

/-- The client has written what it returns, or has found it. -/
def Settled (w : TableWorld ι) (i : ι) (op : Op) (v : op.Result) : Prop :=
  (∃ x, op.Leaves v x ∧ Wrote w i x) ∨ op.Found w.Shows v

omit [Sha256] in
theorem Model.Kept.state {p : ActionProposal} (h : ActionProposal.model.Kept p) (next : ProposalState) :
    ActionProposal.model.Kept { p with state := next } :=
  (Model.kept_iff fun _ => ActionProposal.clean _).mpr
    (@Model.Storable.mk noFloat _ _ _ (@ActionProposal.clean noFloat _) h.times)

omit [Sha256] in
theorem IdempotencyRecord.kept_iff {r : IdempotencyRecord} :
    IdempotencyRecord.model.Kept r ↔ r.registeredAt ≤ Time.datetimeMax ∧
      (∀ t, r.completedAt = some t → t ≤ Time.datetimeMax) ∧
      ∀ a, r.executionAcknowledgement = some a → ExecutionAcknowledgement.model.Kept a := by
  rw [Model.kept_iff fun _ => r.clean, @IdempotencyRecord.storable_iff noFloat]
  have hack : ∀ a : ExecutionAcknowledgement,
      ExecutionAcknowledgement.model.Kept a ↔ @Model.Storable noFloat _ _ a :=
    fun a => Model.kept_iff fun _ => a.clean
  simp only [hack]

omit [Sha256] in
theorem Model.Kept.complete {r updated : IdempotencyRecord} (h : IdempotencyRecord.model.Kept r)
    {result : ActionResult} {t : Time} (ht : t ≤ Time.datetimeMax)
    (hu : r.complete result t = .ok updated) : IdempotencyRecord.model.Kept updated := by
  obtain ⟨hregistered, -, hack⟩ := IdempotencyRecord.kept_iff.mp h
  obtain ⟨-, hsame, hacknowledgement, -, hcompleted⟩ := IdempotencyRecord.complete_ok hu
  refine IdempotencyRecord.kept_iff.mpr ⟨hsame.registeredAt ▸ hregistered, fun u hut => ?_,
    hacknowledgement ▸ hack⟩
  rw [hcompleted] at hut
  exact Option.some.inj hut ▸ ht

omit [Sha256] in
theorem Model.Kept.acknowledge {r : IdempotencyRecord} (h : IdempotencyRecord.model.Kept r)
    {ack : ExecutionAcknowledgement} (hk : ExecutionAcknowledgement.model.Kept ack) :
    IdempotencyRecord.model.Kept { r with executionAcknowledgement := some ack } := by
  obtain ⟨hregistered, hcompleted, -⟩ := IdempotencyRecord.kept_iff.mp h
  exact IdempotencyRecord.kept_iff.mpr ⟨hregistered, hcompleted, fun a ha => Option.some.inj ha ▸ hk⟩

section Methods

variable {calls : ι → Op} {consistent : Bool} {i : ι} {op : Op} {α β : Type} {w : TableWorld ι}

theorem Does.getIdempotency {key : String} {f : Option IdempotencyRecord → DynamoCall β}
    {S : β → TableWorld ι → Prop}
    (h : ∀ o w', w.log <:+ w'.log → (i ∉ w.writers → i ∉ w'.writers) →
      (∀ r, o = some r → Got w' (.idempotency key) .idempotencyRecord r) →
        Does calls consistent i (f o) S w') :
    Does calls consistent i (DynamoRepository.getIdempotency key >>= f) S w := by
  unfold DynamoRepository.getIdempotency
  rw [Prog.bind_assoc]
  refine Does.bindExcept fun k hk => ?_
  rw [semanticIdempotencyKey_ok hk]
  exact Does.read (d := .idempotencyRecord) h

/-- A method that ends in `_put_create`. -/
theorem Does.putReturn {d : DurableContract} {r : d.Record} {indexed : List (String × Json)}
    (hop : calls i = op) (hi : i ∉ w.writers) (hc : Creates (sees w) op ⟨d, r⟩)
    (hk : d.model.Kept r)
    (hnames : ("PK" :: "SK" :: "entity_type" :: "record" :: indexed.map Prod.fst).Nodup)
    (hindexed : ∀ f ∈ d.indexed r, f ∈ indexed) {v : op.Result}
    (hv : op.Leaves v ⟨d, r⟩) :
    Does calls consistent i
      (DynamoRepository.putCreate (d.slot r).key d.entity d.model r indexed >>= fun _ => .ret v)
      (fun v w' => Settled w' i op v) w := by
  refine Does.bind (Does.put hop hi hc hk hnames hindexed) fun _ w' _ hwrote => ?_
  exact .ret fun w'' hw _ => .inl ⟨_, hv, hwrote.mono hw⟩

theorem createRun_does {run : Run} (hop : calls i = .createRun run) (hi : i ∉ w.writers)
    (hk : Run.model.Kept run) : Does calls consistent i (DynamoRepository.createRun run)
      (fun v w' => Settled w' i (.createRun run) v) w := by
  unfold DynamoRepository.createRun
  split
  · exact .raise _
  · next hnew =>
    rw [not_or, not_not, not_not] at hnew
    refine Does.bindExcept fun version hv => ?_
    obtain rfl := numberAttribute_ok hv
    have hc : Creates (sees w) (.createRun run) ⟨.run, run⟩ := .createRun hnew.1 hnew.2
    exact Does.putReturn (d := .run) (r := run) hop hi hc hk (by simp) (by exact fun f hf => hf) ⟨rfl, rfl⟩

theorem createProposal_does {p : ActionProposal} (hop : calls i = .createProposal p)
    (hi : i ∉ w.writers) (hk : ActionProposal.model.Kept p) :
    Does calls consistent i (DynamoRepository.createProposal p)
      (fun v w' => Settled w' i (.createProposal p) v) w := by
  unfold DynamoRepository.createProposal
  split
  · exact .raise _
  · next hnew =>
    have hc : Creates (sees w) (.createProposal p) ⟨.actionProposal, p⟩ :=
      .createProposal (not_not.mp hnew)
    exact Does.putReturn (d := .actionProposal) (r := p) hop hi hc hk (by simp)
      (by exact fun f hf => hf) ⟨rfl, rfl⟩

theorem appendAuditEvent_does {e : AuditEvent} (hop : calls i = .appendAuditEvent e)
    (hi : i ∉ w.writers) (hk : AuditEvent.model.Kept e) :
    Does calls consistent i (DynamoRepository.appendAuditEvent e)
      (fun v w' => Settled w' i (.appendAuditEvent e) v) w := by
  unfold DynamoRepository.appendAuditEvent
  have hc : Creates (sees w) (.appendAuditEvent e) ⟨.auditEvent, e⟩ := .appendAuditEvent
  exact Does.putReturn (d := .auditEvent) (r := e) hop hi hc hk (by simp)
    (by exact fun f hf => hf) ⟨rfl, rfl⟩


/-- Passed checks mean that the decision has been seen. -/
theorem decisionCheck_does {runId : UUID} {next : WorkflowState} {approvalId : Option UUID}
    (hi : i ∉ w.writers) :
    Does calls consistent i (DynamoRepository.decisionCheck runId next approvalId)
      (fun _ w' => i ∉ w'.writers ∧ DecisionSeen (sees w') runId next approvalId) w := by
  unfold DynamoRepository.decisionCheck
  split
  · cases approvalId with
    | none => exact .raise _
    | some proposalId =>
      refine Does.read (s := .proposal proposalId) (d := .actionProposal) fun (po : Option ActionProposal) w₁ _ hf₁ hp => ?_
      refine Does.read (s := .approval proposalId) (d := .approval) fun (ao : Option Approval) w₂ h₂ hf₂ ha => ?_
      refine .ifThen (fun hcond => ?_) fun _ => .raise _
      rw [Bool.and_eq_true, Option.any_eq_true, Option.any_eq_true] at hcond
      obtain ⟨⟨p, rfl, hpcond⟩, a, rfl, hacond⟩ := hcond
      rw [Bool.and_eq_true, beq_iff_eq, beq_iff_eq] at hpcond
      have hp := (hp p rfl).mono h₂
      have ha := ha a rfl
      have hpid : p.proposalId = proposalId := Slot.proposal.inj hp.slot_eq
      have haid : a.proposalId = proposalId := Slot.approval.inj ha.slot_eq
      refine .ret fun w' hw hf => ⟨hf (hf₂ (hf₁ hi)), fun _ => ?_⟩
      exact ⟨p, a, by rw [hpid], (hp.mono hw).sees (by decide), hpcond.1, hpcond.2,
        (ha.mono hw).sees (by decide), haid.trans hpid.symm, beq_iff_eq.mp hacond⟩
  · next hnext => exact .ret fun w' _ hf => ⟨hf hi, fun h => absurd h hnext⟩

/-- The idempotency record of a proposal is filed under its derived key. -/
theorem Does.proposalIdempotency {o : Option ActionProposal}
    {f : Option IdempotencyRecord → DynamoCall β} {S : β → TableWorld ι → Prop}
    (h : ∀ o' w', w.log <:+ w'.log → (i ∉ w.writers → i ∉ w'.writers) →
      (∀ p, o = some p → ∀ r, o' = some r →
        Got w' (.idempotency (deriveIdempotencyKey p)) .idempotencyRecord r) →
          Does calls consistent i (f o') S w') :
    Does calls consistent i (DynamoRepository.proposalIdempotency o >>= f) S w := by
  cases o with
  | none =>
    have hnone : DynamoRepository.proposalIdempotency none >>= f = f none := rfl
    rw [hnone]
    exact h none w (List.suffix_refl _) id fun p hp => by cases hp
  | some p =>
    refine Does.getIdempotency fun o' w' hw hf hr => h o' w' hw hf fun p' hp' r ho' => ?_
    cases hp'
    exact hr r ho'

/-- Passed checks mean that the proof has been seen. -/
theorem successCheck_does {runId : UUID} {next : WorkflowState} {verificationId : Option UUID}
    (hi : i ∉ w.writers) :
    Does calls consistent i (DynamoRepository.successCheck runId next verificationId)
      (fun _ w' => i ∉ w'.writers ∧ ProofSeen (sees w') runId next verificationId) w := by
  unfold DynamoRepository.successCheck
  refine .ifThen (fun _ => ?_) fun hnext => ?_
  · cases verificationId with
    | none => exact .raise _
    | some proposalId =>
      refine Does.read (s := .proposal proposalId) (d := .actionProposal)
        fun (po : Option ActionProposal) w₁ _ hf₁ hp => ?_
      refine Does.read (s := .evidence runId proposalId) (d := .verificationEvidence)
        fun (eo : Option VerificationEvidence) w₂ h₂ hf₂ he => ?_
      refine Does.proposalIdempotency fun ro w₃ h₃ hf₃ hr => ?_
      obtain _ | p := po
      · exact .raise _
      obtain _ | e := eo
      · exact .raise _
      obtain _ | r := ro
      · exact .raise _
      · refine .ifThen (fun hcomplete => ?_) fun _ => .raise _
        have hp := (hp p rfl).mono (h₂.trans h₃)
        have he := (he e rfl).mono h₃
        have hr := hr p rfl r rfl
        have hpid : p.proposalId = proposalId := Slot.proposal.inj hp.slot_eq
        obtain ⟨herun, hepid⟩ := Slot.evidence.inj he.slot_eq
        refine .ret fun w' hw hf => ⟨hf (hf₃ (hf₂ (hf₁ hi))), fun _ => ?_⟩
        exact ⟨p, e, r, by rw [hpid], (hp.mono hw).sees (by decide), (he.mono hw).sees (by decide), herun,
          hepid.trans hpid.symm, (hr.mono hw).sees (by decide), Slot.idempotency.inj hr.slot_eq, hcomplete⟩
  · exact .ret fun w' _ hf => ⟨hf hi, fun h => absurd h hnext⟩

/-- A run is replaced on the condition that it still has the state and the version that were read. -/
theorem replaceRun_does {current updated : Run} {indexed : List (String × Json)}
    (hop : calls i = op) (hi : i ∉ w.writers)
    (hd : Drafts (sees w) op ⟨.run, updated⟩
      (indexed ++ [("version", scalar "N" (DurableContract.versionText updated.version))])
      [.equals "state" "S" current.state.value,
        .equals "version" "N" (DurableContract.versionText current.version)])
    (hid : updated.runId = current.runId) (hk : updated.updatedAt ≤ Time.datetimeMax) :
    Does calls consistent i (DynamoRepository.replaceRun current updated indexed)
      (fun v w' => v = updated ∧ Wrote w' i ⟨.run, updated⟩) w := by
  unfold DynamoRepository.replaceRun
  refine Does.bindExcept fun expectedVersion he => ?_
  obtain rfl := intText_ok he
  refine Does.bindExcept fun version hv => ?_
  obtain rfl := numberAttribute_ok hv
  rw [← hid]
  refine Does.bind (Does.update (d := .run) (r := updated) hop hi hd (Run.kept_iff.mpr hk))
    fun _ w' _ hwrote => ?_
  exact .ret fun w'' hw _ => ⟨rfl, hwrote.mono hw⟩

theorem transitionRun_does {runId : UUID} {next expectedState : WorkflowState}
    {expectedVersion : Nat} {t : Time} {approvalId verificationId : Option UUID}
    (hop : calls i =
      .transitionRun runId next expectedState expectedVersion t approvalId verificationId)
    (hi : i ∉ w.writers) (ht : t ≤ Time.datetimeMax) :
    Does calls consistent i (DynamoRepository.transitionRun runId next expectedState expectedVersion t
        approvalId verificationId)
      (fun v w' => Settled w' i (.transitionRun runId next expectedState expectedVersion t approvalId
        verificationId) v) w := by
  unfold DynamoRepository.transitionRun
  refine Does.read (s := .run runId) (d := .run) fun (o : Option Run) w₁ _ hf₁ hr => ?_
  cases o with
  | none => exact .raise _
  | some current =>
    refine .ifThen (fun _ => .raise _) fun hmatch => ?_
    rw [not_or, not_not, not_not] at hmatch
    obtain ⟨rfl, rfl⟩ := hmatch
    have hcurrent := hr current rfl
    obtain rfl : current.runId = runId := Slot.run.inj hcurrent.slot_eq
    refine Does.bind (decisionCheck_does (hf₁ hi)) fun _ w₂ h₂ hd => ?_
    refine Does.bind (successCheck_does hd.1) fun _ w₃ h₃ hv => ?_
    refine Does.bindExcept fun updated hu => ?_
    obtain ⟨-, -, -, -, htime, hid, -⟩ := CloudOpsAgent.transitionRun_ok hu
    have hdraft := Drafts.transitionRun ((hcurrent.mono (h₂.trans h₃)).sees (by decide))
      (hd.2.mono (sees_mono h₃)) hv.2 hu
    refine .mono ?_ (replaceRun_does hop hv.1 hdraft hid (htime ▸ ht))
    rintro _ w' ⟨rfl, hwrote⟩
    exact .inl ⟨_, rfl, hwrote⟩

theorem updateRunBudget_does {runId : UUID} {budget : BudgetCounters} {expectedVersion : Nat}
    {t : Time} (hop : calls i = .updateRunBudget runId budget expectedVersion t)
    (hi : i ∉ w.writers) (ht : t ≤ Time.datetimeMax) :
    Does calls consistent i (DynamoRepository.updateRunBudget runId budget expectedVersion t)
      (fun v w' => Settled w' i (.updateRunBudget runId budget expectedVersion t) v) w := by
  unfold DynamoRepository.updateRunBudget
  refine .ifThen (fun _ => .raise _) fun _ => ?_
  refine Does.read (s := .run runId) (d := .run) fun (o : Option Run) w₁ _ hf₁ hr => ?_
  cases o with
  | none => exact .raise _
  | some current =>
    refine .ifThen (fun _ => .raise _) fun hversion => ?_
    obtain rfl := not_not.mp hversion
    have hcurrent := hr current rfl
    obtain rfl : current.runId = runId := Slot.run.inj hcurrent.slot_eq
    refine .dite (fun hbudget => ?_) fun _ => .raise _
    · have hdraft := Drafts.updateRunBudget (hcurrent.sees (by decide)) hbudget.1 hbudget.2
      refine .mono ?_ (replaceRun_does hop (hf₁ hi) hdraft rfl ht)
      rintro _ w' ⟨rfl, hwrote⟩
      exact .inl ⟨_, rfl, hwrote⟩

theorem transitionProposal_does {proposalId : UUID} {next expectedState : ProposalState}
    (hop : calls i = .transitionProposal proposalId next expectedState) (hi : i ∉ w.writers) :
    Does calls consistent i (DynamoRepository.transitionProposal proposalId next expectedState)
      (fun v w' => Settled w' i (.transitionProposal proposalId next expectedState) v) w := by
  unfold DynamoRepository.transitionProposal
  refine Does.read (s := .proposal proposalId) (d := .actionProposal)
    fun (o : Option ActionProposal) w₁ _ hf₁ hp => ?_
  cases o with
  | none => exact .raise _
  | some current =>
    refine .ifThen (fun _ => .raise _) fun hstate => ?_
    obtain rfl := not_not.mp hstate
    have hcurrent := hp current rfl
    obtain rfl : current.proposalId = proposalId := Slot.proposal.inj hcurrent.slot_eq
    refine Does.bindExcept fun updated hu => ?_
    unfold transitionedProposal at hu
    split at hu
    · next hn =>
      cases hu
      have hdraft := Drafts.transitionProposal (hcurrent.sees (by decide)) hn
      refine Does.bind (Does.update (d := .actionProposal) hop (hf₁ hi) hdraft
        ((hcurrent.kept (by decide)).state next)) fun _ w' _ hwrote => ?_
      exact .ret fun w'' hw _ => .inl ⟨_, rfl, hwrote.mono hw⟩
    · cases hu

theorem createApproval_does {a : Approval} (hop : calls i = .createApproval a) (hi : i ∉ w.writers)
    (hk : Approval.model.Kept a) : Does calls consistent i (DynamoRepository.createApproval a)
      (fun v w' => Settled w' i (.createApproval a) v) w := by
  unfold DynamoRepository.createApproval
  refine Does.read (s := .proposal a.proposalId) (d := .actionProposal)
    fun (o : Option ActionProposal) w₁ _ hf₁ hp => ?_
  cases o with
  | none => exact .raise _
  | some p =>
    refine .ifThen (fun _ => .raise _) fun hstate => ?_
    refine Does.bindExcept fun _ hb => ?_
    unfold validateApprovalBinding at hb
    split at hb
    · next hbinds =>
      have hc : Creates (sees w₁) (.createApproval a) ⟨.approval, a⟩ :=
        .createApproval ((hp p rfl).sees (by decide)) (not_not.mp hstate) hbinds
      refine Does.exceptConflict (Does.put (d := .approval) (r := a) hop (hf₁ hi) hc hk (by simp)
        (by exact fun f hf => hf)) (fun w' _ hwrote => ?_) fun w' _ => ?_
      · exact .ret fun w'' hw _ => .inl ⟨_, ⟨rfl, rfl⟩, hwrote.mono hw⟩
      · refine Does.read (s := .approval a.proposalId) (d := .approval)
          fun (o : Option Approval) w₂ _ _ ha => ?_
        refine .ifThen (fun hsame => ?_) fun _ => .raise _
        exact .ret fun w'' hw _ => .inr ⟨rfl, ((ha a hsame).mono hw).shown⟩
    · cases hb

/-- The record that is there, if it has the owner. -/
theorem ownedBy_does {r existing : IdempotencyRecord}
    (hr : Got w (.idempotency r.idempotencyKey) .idempotencyRecord existing) :
    Does calls consistent i (DynamoRepository.ownedBy r existing)
      (fun v w' => Settled w' i (.registerIdempotency r) v) w := by
  unfold DynamoRepository.ownedBy
  refine .ifThen (fun _ => .raise _) fun howner => ?_
  rw [not_or, not_not, not_not] at howner
  exact .ret fun w' hw _ => .inr ⟨(hr.mono hw).shown, howner⟩

theorem registerIdempotency_does {r : IdempotencyRecord} (hop : calls i = .registerIdempotency r)
    (hi : i ∉ w.writers) (hk : IdempotencyRecord.model.Kept r) :
    Does calls consistent i (DynamoRepository.registerIdempotency r)
      (fun v w' => Settled w' i (.registerIdempotency r) v) w := by
  unfold DynamoRepository.registerIdempotency
  refine Does.bindExcept fun key hkey => ?_
  obtain rfl := semanticIdempotencyKey_ok hkey
  refine Does.getIdempotency fun o w₁ _ hf₁ hr => ?_
  cases o with
  | some existing => exact ownedBy_does (hr existing rfl)
  | none =>
    refine Does.read (s := .proposal r.proposalId) (d := .actionProposal)
      fun (o : Option ActionProposal) w₂ _ hf₂ hp => ?_
    cases o with
    | none => exact .raise _
    | some p =>
      refine .ifThen (fun _ => .raise _) fun hmatch => ?_
      rw [not_or, not_or, not_not, not_not, not_not] at hmatch
      obtain ⟨hstate, hfingerprint, hderived⟩ := hmatch
      refine Does.read (s := .approval r.proposalId) (d := .approval)
        fun (ao : Option Approval) w₃ h₃ hf₃ ha => ?_
      refine Does.read (s := .run p.runId) (d := .run)
        fun (ro : Option Run) w₄ h₄ hf₄ hrun => ?_
      refine .ifThen (fun _ => .raise _) fun happroved => ?_
      refine .ifThen (fun _ => .raise _) fun hrunning => ?_
      rw [Bool.not_eq_true', Bool.not_eq_false, Option.any_eq_true] at happroved hrunning
      obtain ⟨a, rfl, hdecision⟩ := happroved
      obtain ⟨run, rfl, happroved⟩ := hrunning
      have hp := (hp p rfl).mono (h₃.trans h₄)
      have ha := (ha a rfl).mono h₄
      have hrun := hrun run rfl
      have hc : Creates (sees w₄) (.registerIdempotency r) ⟨.idempotencyRecord, r⟩ :=
        .registerIdempotency (hp.sees (by decide)) (Slot.proposal.inj hp.slot_eq) hstate hfingerprint
          hderived (ha.sees (by decide)) (Slot.approval.inj ha.slot_eq) (beq_iff_eq.mp hdecision)
          (hrun.sees (by decide)) (Slot.run.inj hrun.slot_eq) (beq_iff_eq.mp happroved)
      have hi₄ := hf₄ (hf₃ (hf₂ (hf₁ hi)))
      refine Does.exceptConflict (Does.put (d := .idempotencyRecord) (r := r) hop hi₄ hc hk (by simp)
        (by exact fun f hf => hf)) (fun w' _ hwrote => ?_) fun w' _ => ?_
      · exact .ret fun w'' hw _ => .inl ⟨_, ⟨rfl, rfl⟩, hwrote.mono hw⟩
      · refine Does.getIdempotency fun o w₅ _ _ hr => ?_
        cases o with
        | none => exact .raise _
        | some existing => exact ownedBy_does (hr existing rfl)

/-- The record whose status is the expected one has been read. -/
theorem expectedIdempotency_does {key : String} {expected : IdempotencyStatus} (hi : i ∉ w.writers) :
    Does calls consistent i (DynamoRepository.expectedIdempotency key expected)
      (fun r w' => i ∉ w'.writers ∧ Got w' (.idempotency key) .idempotencyRecord r ∧
        r.status = expected) w := by
  unfold DynamoRepository.expectedIdempotency
  refine Does.getIdempotency fun o w₁ _ hf₁ hr => ?_
  cases o with
  | none => exact .raise _
  | some current =>
    refine .ifThen (fun _ => .raise _) fun hstatus => ?_
    exact .ret fun w' hw hf => ⟨hf (hf₁ hi), (hr current rfl).mono hw, not_not.mp hstatus⟩

theorem completeIdempotency_does {key : String} {result : ActionResult} {t : Time}
    {expected : IdempotencyStatus} (hop : calls i = .completeIdempotency key result t expected)
    (hi : i ∉ w.writers) (ht : t ≤ Time.datetimeMax) :
    Does calls consistent i (DynamoRepository.completeIdempotency key result t expected)
      (fun v w' => Settled w' i (.completeIdempotency key result t expected) v) w := by
  unfold DynamoRepository.completeIdempotency
  refine Does.bind (expectedIdempotency_does hi) fun current w₁ _ hcurrent => ?_
  obtain ⟨hi₁, hgot, rfl⟩ := hcurrent
  obtain rfl : current.idempotencyKey = key := Slot.idempotency.inj hgot.slot_eq
  refine Does.bindExcept fun updated hu => ?_
  refine Does.bindExcept fun k hkey => ?_
  obtain rfl := semanticIdempotencyKey_ok hkey
  have hdraft := Drafts.completeIdempotency (hgot.sees (by decide)) hu
  have hid : updated.idempotencyKey = current.idempotencyKey := (IdempotencyRecord.complete_ok hu).1
  rw [← hid]
  refine Does.bind (Does.update (d := .idempotencyRecord) hop hi₁ hdraft
    ((hgot.kept (by decide)).complete ht hu)) fun _ w' _ hwrote => ?_
  exact .ret fun w'' hw _ => .inl ⟨_, rfl, hwrote.mono hw⟩

theorem recordExecutionAcknowledgement_does {key : String} {ack : ExecutionAcknowledgement}
    {expected : IdempotencyStatus}
    (hop : calls i = .recordExecutionAcknowledgement key ack expected) (hi : i ∉ w.writers)
    (hk : ExecutionAcknowledgement.model.Kept ack) :
    Does calls consistent i (DynamoRepository.recordExecutionAcknowledgement key ack expected)
      (fun v w' => Settled w' i (.recordExecutionAcknowledgement key ack expected) v) w := by
  unfold DynamoRepository.recordExecutionAcknowledgement
  refine Does.bind (expectedIdempotency_does hi) fun current w₁ _ hcurrent => ?_
  obtain ⟨hi₁, hgot, rfl⟩ := hcurrent
  obtain rfl : current.idempotencyKey = key := Slot.idempotency.inj hgot.slot_eq
  cases hack : current.executionAcknowledgement with
  | some recorded =>
    refine .ifThen (fun hsame => ?_) fun _ => .raise _
    exact .ret fun w' hw _ => .inr ⟨(hgot.mono hw).shown, hsame ▸ hack⟩
  | none =>
    refine .ifThen (fun _ => .raise _) fun hproposal => ?_
    have hdraft := Drafts.recordExecutionAcknowledgement (hgot.sees (by decide)) hack (not_not.mp hproposal)
    have hkept := (hgot.kept (by decide)).acknowledge hk
    refine Does.exceptConflict (B := fun w' => Wrote w' i ⟨.idempotencyRecord,
      { current with executionAcknowledgement := some ack }⟩) ?_ (fun w' _ hwrote => ?_) fun w' _ => ?_
    · refine Does.bindExcept fun k hkey => ?_
      obtain rfl := semanticIdempotencyKey_ok hkey
      exact Does.update (d := .idempotencyRecord) hop hi₁ hdraft hkept
    · exact .ret fun w'' hw _ => .inl ⟨_, rfl, hwrote.mono hw⟩
    · refine Does.getIdempotency fun o w₂ _ _ hr => ?_
      cases o with
      | none => exact .raise _
      | some raced =>
        refine .ifThen (fun hsame => ?_) fun _ => .raise _
        exact .ret fun w'' hw _ => .inr ⟨((hr raced rfl).mono hw).shown, hsame⟩

theorem saveCheckpoint_does {c : Checkpoint} {expected : Option Nat}
    (hop : calls i = .saveCheckpoint c expected) (hi : i ∉ w.writers)
    (hk : Checkpoint.model.Kept c) :
    Does calls consistent i (DynamoRepository.saveCheckpoint c expected)
      (fun v w' => Settled w' i (.saveCheckpoint c expected) v) w := by
  unfold DynamoRepository.saveCheckpoint
  cases expected with
  | none =>
    refine .ifThen (fun _ => .raise _) fun hversion => ?_
    refine Does.bindExcept fun version hv => ?_
    obtain rfl := numberAttribute_ok hv
    have hc : Creates (sees w) (.saveCheckpoint c none) ⟨.checkpoint, c⟩ :=
      .saveCheckpoint (not_not.mp hversion)
    exact Does.putReturn (d := .checkpoint) (r := c) hop hi hc hk (by simp)
      (by exact fun f hf => hf) ⟨rfl, rfl⟩
  | some expected =>
    refine Does.read (s := .checkpoint c.runId) (d := .checkpoint)
      fun (o : Option Checkpoint) w₁ _ hf₁ _ => ?_
    cases o with
    | none => exact .raise _
    | some current =>
      refine .ifThen (fun _ => .raise _) fun hversion => ?_
      rw [not_or, not_not, not_not] at hversion
      refine Does.bindExcept fun expectedText he => ?_
      obtain rfl := intText_ok he
      refine Does.bindExcept fun version hv => ?_
      obtain rfl := numberAttribute_ok hv
      have hdraft : Drafts (sees w₁) (.saveCheckpoint c (some expected)) _ _ _ :=
        .saveCheckpoint hversion.2
      refine Does.bind (Does.update (d := .checkpoint) hop (hf₁ hi) hdraft hk)
        fun _ w' _ hwrote => ?_
      exact .ret fun w'' hw _ => .inl ⟨_, ⟨rfl, rfl⟩, hwrote.mono hw⟩

theorem createVerificationEvidence_does {e : VerificationEvidence}
    (hop : calls i = .createVerificationEvidence e) (hi : i ∉ w.writers)
    (hk : VerificationEvidence.model.Kept e) :
    Does calls consistent i (DynamoRepository.createVerificationEvidence e)
      (fun v w' => Settled w' i (.createVerificationEvidence e) v) w := by
  unfold DynamoRepository.createVerificationEvidence
  refine Does.read (s := .proposal e.proposalId) (d := .actionProposal)
    fun (po : Option ActionProposal) w₁ _ hf₁ hp => ?_
  refine Does.read (s := .run e.runId) (d := .run) fun (ro : Option Run) w₂ h₂ hf₂ hrun => ?_
  refine Does.proposalIdempotency fun io w₃ h₃ hf₃ hr => ?_
  refine Does.read (s := .approval e.proposalId) (d := .approval)
    fun (ao : Option Approval) w₄ h₄ hf₄ ha => ?_
  obtain _ | p := po
  · exact .raise _
  obtain _ | run := ro
  · exact .raise _
  obtain _ | r := io
  · exact .raise _
  refine .ifThen (fun _ => .raise _) fun hmatch => ?_
  rw [Bool.not_eq_true', Bool.not_eq_false] at hmatch
  have hp := (hp p rfl).mono (h₂.trans (h₃.trans h₄))
  have hrun := (hrun run rfl).mono (h₃.trans h₄)
  have hr := (hr p rfl r rfl).mono h₄
  have hc : Creates (sees w₄) (.createVerificationEvidence e) ⟨.verificationEvidence, e⟩ := by
    refine .createVerificationEvidence (hp.sees (by decide)) (Slot.proposal.inj hp.slot_eq)
      (hrun.sees (by decide)) (Slot.run.inj hrun.slot_eq) (hr.sees (by decide))
      (Slot.idempotency.inj hr.slot_eq) (fun a hmem => ?_) hmatch
    have ha := ha a hmem
    exact ⟨ha.sees (by decide), Slot.approval.inj ha.slot_eq⟩
  have hi₄ := hf₄ (hf₃ (hf₂ (hf₁ hi)))
  refine Does.exceptConflict (Does.put (d := .verificationEvidence) (r := e) hop hi₄ hc hk (by simp)
    (by exact fun f hf => hf)) (fun w' _ hwrote => ?_) fun w' _ => ?_
  · exact .ret fun w'' hw _ => .inl ⟨_, ⟨rfl, rfl⟩, hwrote.mono hw⟩
  · refine Does.read (s := .evidence e.runId e.proposalId) (d := .verificationEvidence)
      fun (o : Option VerificationEvidence) w₅ _ _ he => ?_
    refine .ifThen (fun hsame => ?_) fun _ => .raise _
    exact .ret fun w'' hw _ => .inr ⟨rfl, ((he e hsame).mono hw).shown⟩

/-- **A method only makes requests it is licensed to make**, and returns what it has written or found. -/
theorem perform_does (hop : calls i = op) (hi : i ∉ w.writers) (hk : op.Kept) :
    Does calls consistent i (DynamoRepository.perform op) (fun v w' => Settled w' i op v) w := by
  cases op with
  | createRun run => exact createRun_does hop hi hk
  | transitionRun runId next expectedState expectedVersion t approvalId verificationId =>
    exact transitionRun_does hop hi hk
  | updateRunBudget runId budget expectedVersion t => exact updateRunBudget_does hop hi hk
  | createProposal p => exact createProposal_does hop hi hk
  | transitionProposal proposalId next expectedState => exact transitionProposal_does hop hi
  | createApproval a => exact createApproval_does hop hi hk
  | registerIdempotency r => exact registerIdempotency_does hop hi hk
  | completeIdempotency key result t expected => exact completeIdempotency_does hop hi hk
  | recordExecutionAcknowledgement key ack expected =>
    exact recordExecutionAcknowledgement_does hop hi hk
  | saveCheckpoint c expected => exact saveCheckpoint_does hop hi hk
  | appendAuditEvent e => exact appendAuditEvent_does hop hi hk
  | createVerificationEvidence e => exact createVerificationEvidence_does hop hi hk
  | getRun runId =>
    exact Does.readOnly (s := .run runId) (d := .run) fun o w' _ h => .inr fun r hr => (h r hr).shown
  | getProposal proposalId =>
    exact Does.readOnly (s := .proposal proposalId) (d := .actionProposal)
      fun o w' _ h => .inr fun r hr => (h r hr).shown
  | getApproval proposalId =>
    exact Does.readOnly (s := .approval proposalId) (d := .approval)
      fun o w' _ h => .inr fun r hr => (h r hr).shown
  | getIdempotency key =>
    refine Does.bindExcept fun k hkey => ?_
    obtain rfl := semanticIdempotencyKey_ok hkey
    exact Does.readOnly (s := .idempotency key) (d := .idempotencyRecord)
      fun o w' _ h => .inr fun r hr => (h r hr).shown
  | getCheckpoint runId =>
    exact Does.readOnly (s := .checkpoint runId) (d := .checkpoint)
      fun o w' _ h => .inr fun r hr => (h r hr).shown
  | getAuditEvent runId eventId =>
    exact Does.readOnly (s := .auditEvent runId eventId) (d := .auditEvent)
      fun o w' _ h => .inr fun r hr => (h r hr).shown
  | getVerificationEvidence runId proposalId =>
    exact Does.readOnly (s := .evidence runId proposalId) (d := .verificationEvidence)
      fun o w' _ h => .inr fun r hr => (h r hr).shown

end Methods

end CloudOpsAgent
