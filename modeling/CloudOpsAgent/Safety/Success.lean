/-
  WHAT SUCCESS RESTS ON: the invariant and the discipline behind every claim about
  `SUCCESS_WITH_EVIDENCE`.

  The runs of the system are of two kinds, told apart by a fixed predicate: an EC2 run has action
  proposals and no remediation proposal in its checkpoint, a local run the other way round.  For
  every reachable world (`SuccessInv`):

  * stored evidence is `Backed`: a read-back of the proposal's target under the run's ids observed
    `STOPPED`, hashes to the evidence's observation hash, and is in the audit trail;

  * a run that is `EXECUTING`, `VERIFYING` or successful was `EXECUTING` once (`Entered`), unless it
    `Strayed`: a claimed run went from `APPROVED` straight to `RECOVERY_REQUIRED` (or SHA-256
    `Collided` on the keys of two runs);

  * every transition into success in the history of an EC2 run had both at that moment.

  `successDiscipline` asks a justification of the operations that could break this: storing
  evidence, re-entering `VERIFYING`, saving a checkpoint, creating a proposal.
-/
import CloudOpsAgent.Safety.AtMostOnce

namespace CloudOpsAgent

open ClientProg ClientProg.Prog

variable [Sha256] {ι : Type}

/-! ## Read-backs and backed evidence -/

/-- The history has a read-back of the proposal's target, under `identity`, that observed `STOPPED`
    and whose observation hashes to `hash`. -/
def ReadBack (log : List (Event ι)) (p : ActionProposal) (identity : InvestigationIdentity)
    (hash : Sha256Digest) : Prop :=
  ∃ i inspection observedAt attempt,
    .inspected i p.target.resourceId identity (.succeeded inspection) ∈ log ∧
      inspection.state = .stopped ∧
      hash = canonicalDigest (observationPayload p identity inspection observedAt attempt)

/-- The run's audit trail has an observation event carrying `hash`. -/
def Audited (s : Store) (runId : UUID) (hash : Sha256Digest) : Prop :=
  ∃ e, s.auditEvents.get (runId, e.eventId) = some e ∧
    (e.type = .verificationObserved ∨ e.type = .recoveryObserved) ∧ e.redactedPayloadHash = hash

/-- A read-back and its audit event stand behind the evidence. -/
def Backed (log : List (Event ι)) (s : Store) (e : VerificationEvidence) : Prop :=
  ∃ p run, s.proposals.get e.proposalId = some p ∧ p.runId = e.runId ∧ e.target = p.target ∧
    s.runs.get e.runId = some run ∧ ReadBack log p (.fromRun run) e.observationHash ∧
    Audited s e.runId e.observationHash

theorem ReadBack.mono {log log' : List (Event ι)} (h : log <+: log') {p : ActionProposal}
    {identity : InvestigationIdentity} {hash : Sha256Digest} (hr : ReadBack log p identity hash) :
    ReadBack log' p identity hash := by
  obtain ⟨i, x, t, n, hmem, hrest⟩ := hr
  exact ⟨i, x, t, n, h.subset hmem, hrest⟩

/-- A read-back is about the content of the proposal. -/
theorem ReadBack.sameContent {log : List (Event ι)} {p q : ActionProposal} (hpq : p.SameContent q)
    {identity : InvestigationIdentity} {hash : Sha256Digest} (hr : ReadBack log p identity hash) :
    ReadBack log q identity hash := by
  obtain ⟨h1, -, -, h2, -⟩ := hpq.fields
  obtain ⟨i, x, t, n, hmem, hs, rfl⟩ := hr
  refine ⟨i, x, t, n, h2 ▸ hmem, hs, ?_⟩
  rw [observationPayload, observationPayload, h1, h2]

theorem Audited.evolves {s s' : Store} (h : s.Evolves s') {runId : UUID} {hash : Sha256Digest}
    (ha : Audited s runId hash) : Audited s' runId hash := by
  obtain ⟨e, he, hrest⟩ := ha
  exact ⟨e, h.auditEvents.get_eq he, hrest⟩

omit [Sha256] in
theorem InvestigationIdentity.fromRun_evolves {r r' : Run} (h : RunEvolves r r')
    (hid : r'.runId = r.runId) :
    InvestigationIdentity.fromRun r' = InvestigationIdentity.fromRun r := by
  simp only [InvestigationIdentity.fromRun, hid, h.traceId, h.correlationId]

theorem Backed.grows {log log' : List (Event ι)} {s s' : Store} (hl : log <+: log')
    (h : s.Evolves s') {e : VerificationEvidence} (he : Backed log s e) : Backed log' s' e := by
  obtain ⟨p, run, hp, hrun, ht, hr, hback, haud⟩ := he
  obtain ⟨q, hq, hpq⟩ := h.proposals _ p hp
  obtain ⟨run', hr', hev⟩ := h.runs _ run hr
  obtain ⟨-, k1, -, k2, -⟩ := hpq.fields
  refine ⟨q, run', hq, k1.trans hrun, ht.trans k2.symm, hr', ?_, haud.evolves h⟩
  rw [InvestigationIdentity.fromRun_evolves hev
    ((Table.key_of_get hr').trans (Table.key_of_get hr).symm)]
  exact (hback.mono hl).sameContent hpq

/-! ## Executed runs -/

/-- The history has a transition of the run into `EXECUTING`. -/
def Entered (log : List (Event ι)) (r : UUID) : Prop := ∃ i, i ∈ movers r log

/-- An idempotency record is stored under the key of a proposal of the run. -/
def Claimed (s : Store) (r : UUID) : Prop :=
  ∃ k record p, s.proposals.get k = some p ∧ p.runId = r ∧
    s.idempotency.get (deriveIdempotencyKey p) = some record

/-- Two proposals of different runs have the same idempotency key: SHA-256 collided on them. -/
def KeyCollision (s : Store) : Prop :=
  ∃ k p k' q, s.proposals.get k = some p ∧ s.proposals.get k' = some q ∧
    deriveIdempotencyKey p = deriveIdempotencyKey q ∧ p.runId ≠ q.runId

/-- The run an operation moves from `APPROVED` straight to `RECOVERY_REQUIRED`. -/
def Op.strays : Op → Option UUID
  | .transitionRun runId .recoveryRequired .approved .. => some runId
  | _ => none

/-- The history has such a transition of the run, made while it was claimed. -/
def Strayed (log : List (Event ι)) (r : UUID) : Prop :=
  ∃ i op s s', .stored i op s s' ∈ log ∧ op.strays = some r ∧ Claimed s r

/-- An operation of the history was made on a store with colliding keys. -/
def Collided (log : List (Event ι)) : Prop :=
  ∃ i op s s', .stored i op s s' ∈ log ∧ KeyCollision s

/-- The run was executed, as far as this development promises it. -/
def Executed (log : List (Event ι)) (r : UUID) : Prop :=
  Strayed log r ∨ Collided log ∨ Entered log r

theorem Executed.mono {log log' : List (Event ι)} (h : log <+: log') {r : UUID}
    (he : Executed log r) : Executed log' r := by
  obtain ⟨i, op, s, s', hmem, hrest⟩ | ⟨i, op, s, s', hmem, hrest⟩ | ⟨i, hi⟩ := he
  · exact .inl ⟨i, op, s, s', h.subset hmem, hrest⟩
  · exact .inr (.inl ⟨i, op, s, s', h.subset hmem, hrest⟩)
  · exact .inr (.inr ⟨i, movers_mono h hi⟩)

/-- The states a run is in while it executes, is verified, or has succeeded. -/
def WorkflowState.underway : WorkflowState → Bool
  | executing | verifying | successWithEvidence => true
  | _ => false

/-! ## Checkpoints of local runs -/

/-- Receipt and verification, once there, stay what they are. -/
structure ProofKept (c c' : CheckpointFields) : Prop where
  receipt : ∀ r, c.localExecutionReceipt = some r → c'.localExecutionReceipt = some r
  verification : ∀ v, c.localVerification = some v → c'.localVerification = some v

omit [Sha256] in
theorem ProofKept.refl (c : CheckpointFields) : ProofKept c c := ⟨fun _ h => h, fun _ h => h⟩

omit [Sha256] in
theorem ProofKept.trans {c c' c'' : CheckpointFields} (h : ProofKept c c')
    (h' : ProofKept c' c'') : ProofKept c c'' :=
  ⟨fun r hr => h'.receipt r (h.receipt r hr), fun v hv => h'.verification v (h.verification v hv)⟩

/-- A checkpoint without a request has nothing to keep. -/
theorem ProofKept.of_request {c : Checkpoint} (h : c.localApprovalRequest = none)
    (c' : CheckpointFields) : ProofKept c.toCheckpointFields c' := by
  obtain ⟨h1, h2, h3, h4, -⟩ := c.chain
  have happ : c.localApproval = none := by simpa [h] using h4
  have hint : c.localExecutionIntent = none := by simpa [happ] using h3
  have hrec : c.localExecutionReceipt = none := by simpa [hint] using h2
  have hver : c.localVerification = none := by simpa [hrec] using h1
  constructor
  · rw [hrec]
    exact fun r hr => by cases hr
  · rw [hver]
    exact fun v hv => by cases hv

/-- Every stored checkpoint is followed by ones that keep its proof. -/
abbrev ProofsKept (s s' : Store) : Prop :=
  s.checkpoints.Evolves (fun c c' => ProofKept c.toCheckpointFields c'.toCheckpointFields)
    s'.checkpoints

/-! ## The invariant -/

section Invariant

variable (isLocal : UUID → Bool)

/-- What a transition of an EC2 run into success had at that moment. -/
def SuccessEntry (before : List (Event ι)) : Event ι → Prop
  | .stored _ (.transitionRun r .successWithEvidence _ _ _ _ verificationId) s _ =>
    isLocal r = false → Executed before r ∧ ∃ pid p run e, verificationId = some pid ∧
      s.proposals.get pid = some p ∧ p.runId = r ∧ s.runs.get r = some run ∧
      s.verificationEvidence.get (r, pid) = some e ∧
      ReadBack before p (.fromRun run) e.observationHash ∧ Audited s r e.observationHash
  | _ => True

structure SuccessInv (w : World ι) : Prop where
  backed : ∀ k e, w.store.verificationEvidence.get k = some e → Backed w.log w.store e
  cloudProposal : ∀ k p, w.store.proposals.get k = some p → isLocal p.runId = false
  cloudCheckpoint : ∀ r c, w.store.checkpoints.get r = some c → isLocal r = false →
    c.remediationProposal = none
  firstCheckpoint : ∀ r c, w.store.checkpoints.get r = some c → c.version = 1 →
    c.localApprovalRequest = none
  underway : ∀ r run, w.store.runs.get r = some run → run.state.underway → Executed w.log r
  claimed : ∀ k record, w.store.idempotency.get k = some record →
    ∃ p run, w.store.proposals.get record.proposalId = some p ∧ deriveIdempotencyKey p = k ∧
      w.store.runs.get p.runId = some run ∧ run.state.beforeApproved = false ∧
      (run.state = .recoveryRequired → Executed w.log p.runId)
  history : History (SuccessEntry isLocal) w.log

theorem SuccessInv.initial : SuccessInv isLocal (World.initial : World ι) where
  backed k e h := by simp [World.initial] at h
  cloudProposal k p h := by simp [World.initial] at h
  cloudCheckpoint r c h := by simp [World.initial] at h
  firstCheckpoint r c h := by simp [World.initial] at h
  underway r run h := by simp [World.initial] at h
  claimed k record h := by simp [World.initial] at h
  history := History.nil

variable {isLocal} {w : World ι}

/-- A claimed run that is in `RECOVERY_REQUIRED` was executed, unless its key collides. -/
theorem SuccessInv.executed_of_claimed (hw : SuccessInv isLocal w) {r : UUID}
    (hc : Claimed w.store r) {run : Run} (hr : w.store.runs.get r = some run)
    (hs : run.state = .recoveryRequired) : KeyCollision w.store ∨ Executed w.log r := by
  obtain ⟨k, record, p, hp, rfl, hrec⟩ := hc
  obtain ⟨q, run', hq, hkey, hr', -, hex⟩ := hw.claimed _ record hrec
  by_cases hrun : q.runId = p.runId
  · rw [hrun, hr] at hr'
    cases hr'
    exact .inr (hrun ▸ hex hs)
  · exact .inl ⟨_, q, k, p, hq, hp, hkey, hrun⟩

/-- The history grows by an entry that says nothing about the store. -/
theorem SuccessInv.logged (hw : SuccessInv isLocal w) {e : Event ι}
    (he : ∀ before, SuccessEntry isLocal before e) : SuccessInv isLocal (w.logged e) where
  backed k x hx := (hw.backed k x hx).grows (List.prefix_append _ _) (.refl _)
  cloudProposal := hw.cloudProposal
  cloudCheckpoint := hw.cloudCheckpoint
  firstCheckpoint := hw.firstCheckpoint
  underway r run hr hs := (hw.underway r run hr hs).mono (List.prefix_append _ _)
  claimed k record hrec := by
    obtain ⟨p, run, hp, hk, hr, hb, hex⟩ := hw.claimed k record hrec
    exact ⟨p, run, hp, hk, hr, hb, fun hs => (hex hs).mono (List.prefix_append _ _)⟩
  history := hw.history.snoc (he _)

/-! ## What a write does to it -/

theorem Write.evidence {op : Op} {s s' : Store} (h : Write s op s') {k : UUID × UUID}
    {e : VerificationEvidence} (he : s'.verificationEvidence.get k = some e) :
    s.verificationEvidence.get k = some e ∨ op = .createVerificationEvidence e := by
  cases h with
  | createVerificationEvidence hn hm =>
    obtain ⟨-, rfl⟩ | ⟨-, he⟩ := Table.get_put_cases he
    · exact .inr rfl
    · exact .inl he
  | _ => exact .inl he

theorem Write.proposal {op : Op} {s s' : Store} (h : Write s op s') {k : UUID}
    {p : ActionProposal} (hp : s'.proposals.get k = some p) :
    (∃ q, s.proposals.get k = some q ∧ q.SameContent p) ∨ op = .createProposal p := by
  cases h with
  | createProposal hn hs =>
    obtain ⟨-, rfl⟩ | ⟨-, hp⟩ := Table.get_put_cases hp
    · exact .inr rfl
    · exact .inl ⟨p, hp, .refl p⟩
  | transitionProposal hc hn =>
    obtain ⟨rfl, rfl⟩ | ⟨-, hp⟩ := Table.get_put_cases hp
    · exact .inl ⟨_, hc, rfl⟩
    · exact .inl ⟨p, hp, .refl p⟩
  | _ => exact .inl ⟨p, hp, .refl p⟩

theorem Write.checkpoint {op : Op} {s s' : Store} (h : Write s op s') {r : UUID} {c : Checkpoint}
    (hc : s'.checkpoints.get r = some c) :
    s.checkpoints.get r = some c ∨ r = c.runId ∧ ∃ expected, op = .saveCheckpoint c expected ∧
      (c.version = 1 → expected = none) := by
  cases h with
  | @saveCheckpoint d expected hd =>
    obtain ⟨hr, rfl⟩ | ⟨-, hc⟩ := Table.get_put_cases hc
    · refine .inr ⟨hr, expected, rfl, fun hv => ?_⟩
      obtain ⟨-, he, -⟩ | ⟨current, -, he, hcv⟩ := hd
      · exact he
      · have hpos := (CheckpointFields.violation_eq_none _ |>.mp current.valid).1
        omega
    · exact .inl hc
  | _ => exact .inl hc

theorem Write.record {op : Op} {s s' : Store} (h : Write s op s') {k : String}
    {r : IdempotencyRecord} (hr : s'.idempotency.get k = some r) :
    (∃ q, s.idempotency.get k = some q ∧ r.proposalId = q.proposalId) ∨
      ∃ p run, s.proposals.get r.proposalId = some p ∧ deriveIdempotencyKey p = k ∧
        s.runs.get p.runId = some run ∧ run.state = .approved ∧ s'.runs = s.runs ∧
        s'.proposals = s.proposals := by
  cases h with
  | registerIdempotency hn hp hs hf hk ha had hrun hrs =>
    obtain ⟨hkey, rfl⟩ | ⟨-, hr⟩ := Table.get_put_cases hr
    · exact .inr ⟨_, _, hp, (hkey.trans hk).symm, hrun, hrs, rfl, rfl⟩
    · exact .inl ⟨r, hr, rfl⟩
  | completeIdempotency hc hk hev ha hs hres =>
    obtain ⟨rfl, rfl⟩ | ⟨-, hr⟩ := Table.get_put_cases hr
    · exact .inl ⟨_, hk ▸ hc, hev.proposalId⟩
    · exact .inl ⟨r, hr, rfl⟩
  | recordExecutionAcknowledgement hc hn hp =>
    obtain ⟨rfl, rfl⟩ | ⟨-, hr⟩ := Table.get_put_cases hr
    · exact .inl ⟨_, hc, rfl⟩
    · exact .inl ⟨r, hr, rfl⟩
  | _ => exact .inl ⟨r, hr, rfl⟩

/-! ## The discipline -/

variable (isLocal) in
/-- What justifies the guarded operations. -/
def successAllowed (w : World ι) : Req → Prop
  | .store (.createVerificationEvidence e) => Backed w.log w.store e
  | .store (.transitionRun r .verifying .recoveryRequired ..) => Claimed w.store r
  | .store (.saveCheckpoint c expected) =>
    (isLocal c.runId = false → c.remediationProposal = none) ∧
      (expected = none → c.localApprovalRequest = none) ∧
      ∀ current, w.store.checkpoints.get c.runId = some current →
        expected = some current.version → ProofKept current.toCheckpointFields c.toCheckpointFields
  | .store (.createProposal p) => isLocal p.runId = false
  | _ => True

theorem successAllowed_plain (w : World ι) {r : Req} (hr : Req.plain r) :
    successAllowed isLocal w r := by
  unfold successAllowed
  split
  · cases hr
  · cases hr
  · cases hr
  · cases hr
  · trivial

theorem SuccessInv.applied_underway (hw : SuccessInv isLocal w) {i : ι} {op : Op} {s : Store}
    (ha : successAllowed isLocal w (.store op)) (h : Write w.store op s) {r : UUID} {run : Run}
    (hr : s.runs.get r = some run) (hs : run.state.underway) :
    Executed (w.applied i op s).log r := by
  have hpre : w.log <+: (w.applied i op s).log := List.prefix_append _ _
  obtain ⟨old, hold, hst⟩ | hst | ⟨old, _, v, t, a, b, hold, rfl, rfl, hn⟩ := h.run hr
  · exact (hw.underway r old hold (hst ▸ hs)).mono hpre
  · rw [hst] at hs
    cases hs
  · cases hst : run.state with
    | executing =>
      refine .inr (.inr ⟨i, ?_⟩)
      rw [movers_applied]
      exact List.mem_append_right _ (by simp [Op.entersExecuting])
    | verifying =>
      rw [hst] at hn ha hpre
      obtain hex | hrr := origin_of_verifying_allowed hn
      · exact (hw.underway r old hold (by rw [hex]; rfl)).mono hpre
      · rw [hrr] at ha
        obtain hcol | hex := hw.executed_of_claimed ha hold hrr
        · exact .inr (.inl ⟨i, _, w.store, s, List.mem_append_right _ (List.mem_singleton_self _),
            hcol⟩)
        · exact hex.mono hpre
    | successWithEvidence =>
      rw [hst] at hn hpre
      exact (hw.underway r old hold (by rw [verifying_of_success_allowed hn]; rfl)).mono hpre
    | _ => rw [hst] at hs; cases hs

theorem SuccessInv.applied_claimed (hw : SuccessInv isLocal w) {i : ι} {op : Op} {s : Store}
    (h : Write w.store op s) {k : String} {record : IdempotencyRecord}
    (hrec : s.idempotency.get k = some record) :
    ∃ p run, s.proposals.get record.proposalId = some p ∧ deriveIdempotencyKey p = k ∧
      s.runs.get p.runId = some run ∧ run.state.beforeApproved = false ∧
      (run.state = .recoveryRequired → Executed (w.applied i op s).log p.runId) := by
  have hpre : w.log <+: (w.applied i op s).log := List.prefix_append _ _
  obtain ⟨q, hq, hpid⟩ | ⟨p, run, hp, hk, hr, hs, hruns, hprops⟩ := h.record hrec
  · obtain ⟨p, run, hp, hk, hr, hb, hex⟩ := hw.claimed k q hq
    obtain ⟨p', hp', hpp⟩ := h.evolves.proposals _ p hp
    obtain ⟨run', hr', hev⟩ := h.evolves.runs _ run hr
    obtain ⟨-, hid, -⟩ := hpp.fields
    refine ⟨p', run', hpid ▸ hp', (deriveIdempotencyKey_congr hpp).trans hk, hid ▸ hr', ?_,
      fun hrr => ?_⟩
    · exact Bool.eq_false_iff.mpr fun hb' => by simp [hev.beforeApproved hb'] at hb
    rw [hid]
    obtain ⟨old, hold, hst⟩ | hst | ⟨old, _, v, t, a, b, hold, rfl, rfl, hn⟩ := h.run hr'
    · rw [hr] at hold
      cases hold
      exact (hex (hst ▸ hrr)).mono hpre
    · rw [hst] at hrr
      cases hrr
    · rw [hr] at hold
      cases hold
      rw [hrr] at hn
      -- the run was past the human decision, so it came from APPROVED or from execution
      obtain hst | hst | hst := origin_of_recoveryRequired_allowed hn hb
      · refine .inl ⟨i, _, w.store, s, List.mem_append_right _ (List.mem_singleton_self _), ?_,
          _, q, p, hp, rfl, hk ▸ hq⟩
        rw [hrr, hst]
        rfl
      · exact (hw.underway _ run hr (by rw [hst]; rfl)).mono hpre
      · exact (hw.underway _ run hr (by rw [hst]; rfl)).mono hpre
  · refine ⟨p, run, hprops ▸ hp, hk, hruns ▸ hr, by rw [hs]; rfl, fun hrr => ?_⟩
    rw [hs] at hrr
    cases hrr

/-- The check behind a success transition of an EC2 run is the stored evidence. -/
theorem SuccessInv.successEntry (hw : SuccessInv isLocal w) {i : ι} {op : Op} {s : Store}
    (h : Write w.store op s) : SuccessEntry isLocal w.log (.stored i op w.store s) := by
  cases h with
  | @transitionRun current run next t a verificationId hc hd hv ht =>
    cases next with
    | successWithEvidence =>
      intro hlocal
      have hn := (transitionRun_ok ht).1
      refine ⟨hw.underway _ _ hc (by rw [verifying_of_success_allowed hn]; rfl), ?_⟩
      cases verificationId with
      | none => cases hv
      | some pid =>
        simp only [Store.successCheck, if_true] at hv
        split at hv
        · rename_i hproof
          rw [Bool.or_eq_true] at hproof
          obtain hproof | hproof := hproof
          · unfold Store.legacyProofValid at hproof
            split at hproof
            · rename_i p e hp he
              obtain ⟨p', run', hp', hrun, -, hr', hback, haud⟩ := hw.backed _ _ he
              have hkey := Table.key_of_get he
              simp only [Prod.mk.injEq] at hkey
              rw [hkey.2, hp] at hp'
              rw [hkey.1] at hr'
              rw [hkey.1] at hrun haud
              cases hp'
              exact ⟨pid, p, run', e, rfl, hp, hrun, hr', he, hback, haud⟩
            · cases hproof
          · unfold Store.localProofValid at hproof
            split at hproof
            · cases hproof
            · rename_i c hck
              simp [hw.cloudCheckpoint _ c hck hlocal] at hproof
        · cases hv
    | _ => trivial
  | @unchanged op hrep =>
    cases op <;> trivial
  | _ => trivial

theorem SuccessInv.applied (hw : SuccessInv isLocal w) {i : ι} {op : Op} {s : Store}
    (ha : successAllowed isLocal w (.store op)) (h : Write w.store op s) :
    SuccessInv isLocal (w.applied i op s) where
  backed k e he := by
    obtain he | rfl := h.evidence he
    · exact (hw.backed k e he).grows (List.prefix_append _ _) h.evolves
    · exact Backed.grows (List.prefix_append _ _) h.evolves ha
  cloudProposal k p hp := by
    obtain ⟨q, hq, hqp⟩ | rfl := h.proposal hp
    · rw [hqp.fields.2.1]
      exact hw.cloudProposal k q hq
    · exact ha
  cloudCheckpoint r c hc hr := by
    obtain hc | ⟨rfl, expected, rfl, -⟩ := h.checkpoint hc
    · exact hw.cloudCheckpoint r c hc hr
    · exact ha.1 hr
  firstCheckpoint r c hc hv := by
    obtain hc | ⟨rfl, expected, rfl, hnone⟩ := h.checkpoint hc
    · exact hw.firstCheckpoint r c hc hv
    · exact ha.2.1 (hnone hv)
  underway r run hr hs := hw.applied_underway ha h hr hs
  claimed k record hrec := hw.applied_claimed h hrec
  history := hw.history.snoc (hw.successEntry h)

theorem Write.proofsKept {op : Op} {s : Store} (h : Write w.store op s)
    (ha : successAllowed isLocal w (.store op)) : ProofsKept w.store s := by
  have same : ProofsKept w.store w.store :=
    .refl (fun c => ProofKept.refl c.toCheckpointFields) _
  cases h with
  | saveCheckpoint hc =>
    refine Table.evolves_put (fun c => ProofKept.refl c.toCheckpointFields) fun d hd => ?_
    obtain ⟨hn, -⟩ | ⟨current, hcur, he, -⟩ := hc
    · rw [hn] at hd
      cases hd
    · rw [hcur] at hd
      cases hd
      exact ha.2.2 _ hcur he
  | _ => exact same

/-- The store and the history grow, and no local proof is lost. -/
def GrowsKept (w w' : World ι) : Prop := Grows w w' ∧ ProofsKept w.store w'.store

theorem GrowsKept.refl (w : World ι) : GrowsKept w w :=
  ⟨.refl w, .refl (fun c => ProofKept.refl c.toCheckpointFields) _⟩

theorem GrowsKept.trans {w w' w'' : World ι} (h : GrowsKept w w') (h' : GrowsKept w' w'') :
    GrowsKept w w'' :=
  ⟨h.1.trans h'.1, Table.Evolves.trans
    (R := fun c c' : Checkpoint => ProofKept c.toCheckpointFields c'.toCheckpointFields)
    (fun _ _ _ h1 h2 => h1.trans h2) h.2 h'.2⟩

variable (isLocal) in
/-- The discipline of success. -/
def successDiscipline : Discipline (answers (ι := ι)) where
  inv := SuccessInv isLocal
  evolve := GrowsKept
  rely _ := GrowsKept
  allowed _ := successAllowed isLocal
  evolve_trans h h' := h.trans h'
  rely_refl _ := .refl
  rely_trans _ _ _ _ h h' := h.trans h'
  evolve_of_rely h := h
  step {i w r x w'} hw ha hx := by
    suffices h : SuccessInv isLocal w' ∧ ProofsKept w.store w'.store from
      ⟨h.1, ⟨.of_answers hx, h.2⟩, fun _ _ => ⟨.of_answers hx, h.2⟩⟩
    have same : ProofsKept w.store w.store := (GrowsKept.refl w).2
    cases r with
    | store op =>
      obtain rfl | ⟨s, hs, rfl⟩ := answers_store hx
      · exact ⟨hw, same⟩
      · exact ⟨hw.applied ha hs, hs.proofsKept ha⟩
    | inspect id identity => cases hx; exact ⟨hw.logged fun _ => trivial, same⟩
    | stop c => cases hx; exact ⟨hw.logged fun _ => trivial, same⟩
    | _ => cases hx; exact ⟨hw, same⟩

instance : Permissive (successDiscipline (ι := ι) isLocal) where
  allowed _ w _ hr := successAllowed_plain w hr

end Invariant

end CloudOpsAgent
