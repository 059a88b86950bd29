/-
  A resume challenge is used once.

  `issue` stores the digest of a challenge in the checkpoint of its run, `resume` checks it against
  the checkpoint it has read and marks it consumed.  Neither holds a lock: what both rely on is that
  a save goes through only over the version that was read, so what `resume` has found in a checkpoint
  is true of the one it replaces.

  1. **The clients** — the two calls of the service, and the other writers of the checkpoint.  A
     `resume` is followed up to the point where it calls the approval flow; the flow's own call is a
     client beside it, so that any number of them may be under way.

  2. **The live challenge** — the last one stored that was not consumed since.  A checkpoint with an
     unconsumed challenge holds the live one (`FreshInv`), so a consumption is of the live one.

  3. **Once** — a challenge that was consumed is not live again, and the values differ, so no two
     calls are made on the strength of one (`challenge_used_once`).

  The clock that is compared with the expiry is read before the save, so a challenge may still be
  marked consumed after it: what comes before the expiry is that reading, and with it the beginning
  of the call.
-/
import CloudOpsAgent.Recovery.Challenges
import CloudOpsAgent.Safety.Rewrites

namespace CloudOpsAgent

open ClientProg ClientProg.Prog Flow AuthenticatedApprovalResumeService

section

variable [Sha256] {ι : Type}

/-! ## The clients -/

namespace AuthenticatedApprovalResumeService

/-- `resume` up to its call of the approval flow. -/
def handOver (interrupt : ApprovalInterrupt) (decision : ApprovalDecision)
    (principal : AuthenticatedJudgePrincipal) (challenge : String) : Flow ApprovalResumeRequest :=
  consume interrupt principal challenge >>= fun _ =>
    .ret (responseOf interrupt decision principal challenge)

theorem resume_eq (runtime : PrimaryAgentRuntime) (interrupt : ApprovalInterrupt)
    (decision : ApprovalDecision) (principal : AuthenticatedJudgePrincipal) (challenge : String) :
    resume runtime interrupt decision principal challenge =
      handOver interrupt decision principal challenge >>= DurableApprovalFlow.resume runtime := by
  rw [handOver, bind_assoc]
  rfl

end AuthenticatedApprovalResumeService

/-- A call of the challenge service, or of a flow that writes checkpoints beside it. -/
inductive ChallengeClient where
  | issue (cfg : ResumeServiceConfig) (interrupt : ApprovalInterrupt)
    (principal : AuthenticatedJudgePrincipal)
  | resume (interrupt : ApprovalInterrupt) (decision : ApprovalDecision)
    (principal : AuthenticatedJudgePrincipal) (challenge : String)
  | request (runtime : PrimaryAgentRuntime) (proposalId : UUID)
  | decide (runtime : PrimaryAgentRuntime) (response : ApprovalResumeRequest)
  | recover (setup : RecoverySetup) (request : RecoveryRequest)

namespace ChallengeClient

/-- The call; a `resume` ends with the response it calls the approval flow with. -/
def flow : ChallengeClient → Flow (Option ApprovalResumeRequest)
  | .issue cfg interrupt principal =>
    AuthenticatedApprovalResumeService.issue cfg interrupt principal >>= fun _ => .ret none
  | .resume interrupt decision principal challenge =>
    handOver interrupt decision principal challenge >>= fun response => .ret (some response)
  | .request runtime proposalId =>
    DurableApprovalFlow.request runtime proposalId >>= fun _ => .ret none
  | .decide runtime response => DurableApprovalFlow.resume runtime response >>= fun _ => .ret none
  | .recover setup wanted =>
    RecoveryCoordinator.recover setup.config wanted >>= fun _ => .ret none

def issues : ChallengeClient → Bool
  | .issue .. => true
  | _ => false

def resumes : ChallengeClient → Bool
  | .resume .. => true
  | _ => false

omit [Sha256] in
theorem not_resumes (c : ChallengeClient) (h : c.issues) : c.resumes = false := by
  cases c with
  | issue => rfl
  | _ => cases h

omit [Sha256] in
theorem resumes_iff (c : ChallengeClient) : c.resumes ↔
    ∃ interrupt decision principal challenge, c = .resume interrupt decision principal challenge := by
  constructor
  · intro h
    cases c with
    | resume interrupt decision principal challenge => exact ⟨_, _, _, _, rfl⟩
    | _ => cases h
  · rintro ⟨_, _, _, _, rfl⟩
    rfl

/-- Who a challenge is issued to, or presented by. -/
def subject : ChallengeClient → Option String
  | .issue _ _ principal | .resume _ _ principal _ => some principal.subject
  | _ => none

/-- The challenge that is presented. -/
def presented : ChallengeClient → Option String
  | .resume _ _ _ challenge => some challenge
  | _ => none

/-- What a client that begins at `since` may write over `base`. -/
def Writes (since : Time) (base next : Checkpoint) : ChallengeClient → Prop
  | .issue cfg _ principal => IssueWrite cfg principal base next
  | .resume _ _ principal challenge => ConsumedWrite base next ∧
    challengeMatches base principal challenge ∧ ∃ t, expiry base = some t ∧ since < t
  | .request .. => DurableApprovalFlow.InterruptWrite base next
  | .decide .. => DurableApprovalFlow.DecisionWrite base next
  | .recover setup _ => RecoveryCoordinator.ClaimWrite setup.config base next ∨
    DurableApprovalFlow.InterruptWrite base next

end ChallengeClient

/-! ## Clocks -/

/-- A reading of the clock is not before `since`. -/
def Req.NotBefore (since : Time) : (r : Req) → r.Ans → Prop
  | .clock, t => since ≤ t
  | _, _ => True

/-- What the world answers clients that begin at `since`. -/
def answersSince (since : ι → Time) (i : ι) (w : World ι) (r : Req) (x : r.Ans) (w' : World ι) :
    Prop := answers i w r x w' ∧ r.NotBefore (since i) x

theorem answers_of_since {since : ι → Time} (i : ι) (w : World ι) (r : Req) (x : r.Ans)
    (w' : World ι) (h : answersSince since i w r x w') : answers i w r x w' := h.1

/-- `rewriteDiscipline` in that world. -/
abbrev rewritesSince (since : ι → Time) (own : ι → Checkpoint → Checkpoint → Prop) :
    Discipline (answersSince since) := (rewriteDiscipline own).restrict answers_of_since

section Rules

variable {since : ι → Time} {own : ι → Checkpoint → Checkpoint → Prop} {i : ι} {w : World ι}
  {α : Type} {Q : Except PyExc α → World ι → Prop}

/-- A reading of the clock is one the client may get. -/
theorem since_clock_bind {f : Time → Flow α}
    (h : ∀ t, since i ≤ t → Safe (rewritesSince since own) i (f t) Q w) :
    Safe (rewritesSince since own) i (Flow.clock >>= f) Q w := by
  intro w' hw _
  refine ⟨rewriteAllowed_quiet trivial, fun t w'' hx _ => ?_⟩
  obtain ⟨hx, ht⟩ := hx
  cases hx
  exact (h t ht).rely hw

theorem since_checkpoint_bind {r : UUID} {f : Option Checkpoint → Flow α}
    (h : ∀ w', Grows w w' → Safe (rewritesSince since own) i (f (w'.store.checkpoints.get r)) Q w')
    (herr : ∀ e w', Q (.error e) w') :
    Safe (rewritesSince since own) i (Flow.op (.getCheckpoint r) >>= f) Q w := by
  intro w' hw _
  refine ⟨rewriteAllowed_quiet trivial, fun x w'' hx _ => ?_⟩
  have hgrows : Grows w w'' := Grows.trans hw (.of_answers hx.1)
  cases hx.1 with
  | done hrun =>
    cases hrun
    exact h _ hgrows
  | refused hrun => cases hrun
  | failedBefore he => exact safe_raise fun w _ _ => herr _ w
  | failedAfter hrun he => exact safe_raise fun w _ _ => herr _ w

/-- **What a call of the flow rests on**: the call has replaced a checkpoint that it has found to
    hold its challenge, at a time before the expiry. -/
theorem consume_fresh {interrupt : ApprovalInterrupt} {principal : AuthenticatedJudgePrincipal}
    {challenge : String} (hown : ∀ c next t, ConsumedWrite c next →
      challengeMatches c principal challenge → expiry c = some t → since i < t → own i c next) :
    Safe (rewritesSince since own) i (consume interrupt principal challenge) (fun o w' => o = .ok () →
      ∃ c next, ⟨i, c, next⟩ ∈ rewrites w'.log ∧ next.runId = interrupt.payload.runId) w := by
  have raised {e : PyExc} {v : World ι} : Safe (rewritesSince since own) i (.raise e : Flow Unit)
      (fun o w' => o = .ok () → ∃ c next, ⟨i, c, next⟩ ∈ rewrites w'.log ∧
        next.runId = interrupt.payload.runId) v := safe_raise fun _ _ _ h => by cases h
  refine since_checkpoint_bind (fun w1 _ => ?_) fun _ _ h => by cases h
  cases hc : w1.store.checkpoints.get interrupt.payload.runId with
  | none => exact raised
  | some c =>
    dsimp only
    cases ht : expiry c with
    | none => exact raised
    | some t =>
      dsimp only
      split
      · exact raised
      rename_i hmatch
      refine since_clock_bind fun now hnow => ?_
      split
      · exact raised
      rename_i hearly
      have hwrite {next : Checkpoint} (h : ConsumedWrite c next) : own i c next :=
        hown c next t h (by simpa using hmatch) ht (lt_of_le_of_lt hnow (not_le.mp hearly))
      have hknown : w1.store.KnowsVersion c := Store.knowsVersion_of_get hc
      -- from here on the clock is read for the record only
      refine .restrict answers_of_since (safe_clock_bind fun consumedAt => ?_)
      refine .bind (R := fun o _ => ∀ n, o = .ok n → ConsumedWrite c n)
        (safe_ofExcept fun _ _ _ n hn => ⟨consumedAt, Checkpoint.validate_ok hn⟩)
        (fun next w2 h2 _ hnext => ?_) fun _ _ _ _ _ h => by cases h
      have hnext := hnext next rfl
      have hid : next.runId = c.runId := by
        obtain ⟨_, h⟩ := hnext
        rw [h, consumed]
      refine safe_op_bind (fun w' hw _ => ?_) (fun v s w' hw _ hrun _ _ => ?_)
        fun _ _ _ _ h => by cases h
      · exact rewrite_allowed ((h2.trans hw).1.knowsVersion hknown) hid (hwrite hnext)
      · obtain ⟨-, hmem⟩ := saved_rewrites (i := i) ((h2.trans hw).1.knowsVersion hknown) hid hrun
        refine safe_ret fun w'' hw'' _ _ => ⟨c, next, (rewrites_mono hw''.2).subset hmem, ?_⟩
        rw [hid]
        exact Table.key_of_get (t := w1.store.checkpoints) hc

end Rules

/-- What client `i` may write, and what it has written when it ends with a response. -/
theorem client_fresh (clients : ι → ChallengeClient) (since : ι → Time) (i : ι) (w : World ι) :
    Safe (rewritesSince since fun i base next => (clients i).Writes (since i) base next) i
      (clients i).flow (fun o w' => ∀ response, o = .ok (some response) →
        ∃ interrupt decision principal challenge,
          clients i = .resume interrupt decision principal challenge ∧
          response = responseOf interrupt decision principal challenge ∧
          ∃ base next, ⟨i, base, next⟩ ∈ rewrites w'.log ∧ next.runId = response.runId) w := by
  -- a client that ends with nothing has nothing to show
  have silent {α : Type} {p : Flow α}
      (h : Safe (rewriteDiscipline fun i base next => (clients i).Writes (since i) base next) i p
        (fun _ _ => True) w) {P : ApprovalResumeRequest → World ι → Prop} :
      Safe (rewritesSince since fun i base next => (clients i).Writes (since i) base next) i
        (p >>= fun _ => .ret none) (fun o w' => ∀ response, o = .ok (some response) → P response w')
        w := by
    refine .bind (h.restrict answers_of_since) (fun _ _ _ _ _ => safe_ret fun _ _ _ _ h => ?_)
      fun _ _ _ _ _ _ h => ?_
    · cases h
    · cases h
  cases hi : clients i with
  | issue cfg interrupt principal =>
    refine silent (issue_rewrites (fun c next h => ?_) interrupt)
    rw [hi]
    exact h
  | resume interrupt decision principal challenge =>
    refine .bind (R := fun o (w' : World ι) => ∀ response, o = .ok response →
      response = responseOf interrupt decision principal challenge ∧
      ∃ base next, ⟨i, base, next⟩ ∈ rewrites w'.log ∧ next.runId = response.runId)
      (.bind (consume_fresh fun c next t hc hm ht hlt => ?_)
        (fun _ w1 _ _ h => safe_ret fun w2 h2 _ response hr => ?_) fun _ _ _ _ _ _ h => ?_)
      (fun response w1 _ _ h => safe_ret fun w2 h2 _ response' hr => ?_) fun _ _ _ _ _ _ h => ?_
    · rw [hi]
      exact ⟨hc, hm, t, ht, hlt⟩
    · cases hr
      obtain ⟨base, next, hmem, hid⟩ := h rfl
      exact ⟨rfl, base, next, (rewrites_mono h2.2).subset hmem, hid⟩
    · cases h
    · cases hr
      obtain ⟨hresponse, base, next, hmem, hid⟩ := h response rfl
      exact ⟨interrupt, decision, principal, challenge, rfl, hresponse, base, next,
        (rewrites_mono h2.2).subset hmem, hid⟩
    · cases h
  | request runtime proposalId =>
    refine silent (DurableApprovalFlow.request_rewrites (fun c next h => ?_) runtime proposalId)
    rw [hi]
    exact h
  | decide runtime response =>
    refine silent (DurableApprovalFlow.resume_rewrites (fun c next h => ?_) runtime response)
    rw [hi]
    exact h
  | recover setup wanted =>
    refine silent (RecoveryCoordinator.recover_rewrites (fun c next h => ?_) (fun c next h => ?_)
      wanted)
    · rw [hi]
      exact .inl h
    · rw [hi]
      exact .inr h

/-! ## The live challenge -/

/-- Where a checkpoint holds a challenge. -/
def CHALLENGE_KEYS : List String := [CHALLENGE_DIGEST_KEY, PRINCIPAL_DIGEST_KEY, EXPIRES_AT_KEY]

namespace Checkpoint

/-- The digest of the stored challenge. -/
def challengeText (c : Checkpoint) : Option String :=
  (c.resumeMetadata.lookup CHALLENGE_DIGEST_KEY).bind Json.str?

def unconsumed (c : Checkpoint) : Bool :=
  (c.resumeMetadata.lookup CONSUMED_KEY).bind Json.bool? == some false

/-- The digest of the subject it was issued to. -/
def principalText (c : Checkpoint) : Option String :=
  (c.resumeMetadata.lookup PRINCIPAL_DIGEST_KEY).bind Json.str?

/-- The two checkpoints hold the same challenge. -/
def SameChallenge (c c' : Checkpoint) : Prop :=
  ∀ key ∈ CHALLENGE_KEYS, c.resumeMetadata.lookup key = c'.resumeMetadata.lookup key

theorem SameChallenge.challengeText {c c' : Checkpoint} (h : c.SameChallenge c') :
    c.challengeText = c'.challengeText := by
  unfold Checkpoint.challengeText
  rw [h CHALLENGE_DIGEST_KEY (by decide)]

theorem SameChallenge.principalText {c c' : Checkpoint} (h : c.SameChallenge c') :
    c.principalText = c'.principalText := by
  unfold Checkpoint.principalText
  rw [h PRINCIPAL_DIGEST_KEY (by decide)]

theorem SameChallenge.expiry {c c' : Checkpoint} (h : c.SameChallenge c') :
    expiry c = expiry c' := by
  unfold AuthenticatedApprovalResumeService.expiry
  rw [h EXPIRES_AT_KEY (by decide)]

end Checkpoint

/-- A challenge is stored with the subject it is issued to. -/
theorem ChallengeClient.Writes.issuedTo {client : ChallengeClient} {since : Time}
    {base next : Checkpoint} (h : client.Writes since base next) (hissue : client.issues) :
    next.principalText = client.subject.map digest := by
  cases client with
  | issue cfg interrupt principal =>
    obtain ⟨value, now, -, h⟩ := h
    simp [Checkpoint.principalText, h, challenged, ChallengeClient.subject, CHALLENGE_DIGEST_KEY,
      PRINCIPAL_DIGEST_KEY, EXPIRES_AT_KEY, CONSUMED_KEY, Json.str?]
  | _ => cases hissue

/-- The other flows write under keys of their own. -/
theorem ChallengeClient.Writes.keeps {client : ChallengeClient} {since : Time}
    {base next : Checkpoint} (h : client.Writes since base next) (hissue : client.issues = false)
    (hresume : client.resumes = false) :
    next.unconsumed = base.unconsumed ∧ next.SameChallenge base := by
  have hother : ∀ key ∈ CONSUMED_KEY :: CHALLENGE_KEYS, ∀ key' ∈ ["approval_interrupt_id",
      "approval_request_hash", "proposal_id", "approval_decision", "recovery_claim_id",
      "recovery_claim_state", "recovery_lease_expires_at", "recovery_proposal_id"],
      key ≠ key' := by decide
  have hinterrupt (h : DurableApprovalFlow.InterruptWrite base next) :
      ∀ key ∈ CONSUMED_KEY :: CHALLENGE_KEYS,
        next.resumeMetadata.lookup key = base.resumeMetadata.lookup key := by
    intro key hkey
    obtain ⟨_, _, _, _, h⟩ := h
    rw [h, DurableApprovalFlow.interruptFields,
      Finmap.lookup_insert_of_ne _ (hother key hkey _ (by simp)),
      Finmap.lookup_insert_of_ne _ (hother key hkey _ (by simp)),
      Finmap.lookup_insert_of_ne _ (hother key hkey _ (by simp))]
  have hkeys : ∀ key ∈ CONSUMED_KEY :: CHALLENGE_KEYS,
      next.resumeMetadata.lookup key = base.resumeMetadata.lookup key := by
    cases client with
    | issue => cases hissue
    | resume => cases hresume
    | request => exact hinterrupt h
    | decide =>
      intro key hkey
      obtain ⟨_, _, h⟩ := h
      rw [h, DurableApprovalFlow.decisionFields,
        Finmap.lookup_insert_of_ne _ (hother key hkey _ (by simp))]
    | recover =>
      obtain ⟨_, _, _, _, -, -, h⟩ | h := h
      · intro key hkey
        rw [h, RecoveryCoordinator.claimFields,
          Finmap.lookup_insert_of_ne _ (hother key hkey _ (by simp)),
          Finmap.lookup_insert_of_ne _ (hother key hkey _ (by simp)),
          Finmap.lookup_insert_of_ne _ (hother key hkey _ (by simp)),
          Finmap.lookup_insert_of_ne _ (hother key hkey _ (by simp))]
      · exact hinterrupt h
  refine ⟨?_, fun key hkey => hkeys key (List.mem_cons_of_mem _ hkey)⟩
  unfold Checkpoint.unconsumed
  rw [hkeys CONSUMED_KEY List.mem_cons_self]

/-- The replacements of one run's checkpoint. -/
def runRewrites (r : UUID) (log : List (Event ι)) : List (Rewrite ι) :=
  (rewrites log).filter fun x => x.next.runId = r

section Live

variable (clients : ι → ChallengeClient)

/-- The last challenge stored, if it was not consumed since. -/
def liveChallenge (l : List (Rewrite ι)) : Option (Rewrite ι) :=
  l.foldl (fun live x =>
    if (clients x.who).issues then some x else if (clients x.who).resumes then none else live) none

theorem liveChallenge_snoc (l : List (Rewrite ι)) (x : Rewrite ι) :
    liveChallenge clients (l ++ [x]) = if (clients x.who).issues then some x
      else if (clients x.who).resumes then none else liveChallenge clients l := by
  rw [liveChallenge, List.foldl_append]
  rfl

/-- What is live was stored. -/
theorem mem_of_live {l : List (Rewrite ι)} {y : Rewrite ι} (h : liveChallenge clients l = some y) :
    y ∈ l ∧ (clients y.who).issues := by
  induction l using List.reverseRecOn with
  | nil => cases h
  | append_singleton l x ih =>
    rw [liveChallenge_snoc] at h
    split at h
    · rename_i hx
      cases h
      exact ⟨by simp, hx⟩
    split at h
    · cases h
    · obtain ⟨hy, hissues⟩ := ih h
      exact ⟨List.mem_append_left _ hy, hissues⟩

/-- A consumption is of the challenge that was live. -/
def OfLive (l : List (Rewrite ι)) (x : Rewrite ι) : Prop :=
  (clients x.who).resumes → ∃ y, liveChallenge clients l = some y ∧ x.base.SameChallenge y.next

/-- **Once**: where the stored challenges differ, so do the consumed ones. -/
theorem consumed_once {l : List (Rewrite ι)} (hlive : History (OfLive clients) l)
    (hdistinct : (l.filter fun x => (clients x.who).issues).Pairwise fun x y =>
      x.next.challengeText ≠ y.next.challengeText) :
    (∀ x ∈ l, (clients x.who).resumes → ∃ y ∈ l, (clients y.who).issues ∧
      x.base.challengeText = y.next.challengeText) ∧
    (∀ y, liveChallenge clients l = some y → ∀ x ∈ l, (clients x.who).resumes →
      x.base.challengeText ≠ y.next.challengeText) ∧
    (l.filter fun x => (clients x.who).resumes).Pairwise fun x y =>
      x.base.challengeText ≠ y.base.challengeText := by
  induction l using List.reverseRecOn with
  | nil => exact ⟨by simp, by simp [liveChallenge], .nil⟩
  | append_singleton l x ih =>
    have hx : OfLive clients l x := hlive l x [] rfl
    have hbefore : History (OfLive clients) l := fun before e after h =>
      hlive before e (after ++ [x]) (by rw [h]; simp)
    rw [List.filter_append, List.pairwise_append] at hdistinct
    obtain ⟨hmatched, hfresh, honce⟩ := ih hbefore hdistinct.1
    have hold {z : Rewrite ι} (hz : z ∈ l) (hresume : (clients z.who).resumes) :
        ∃ y ∈ l ++ [x], (clients y.who).issues ∧
          z.base.challengeText = y.next.challengeText := by
      obtain ⟨y, hy, h⟩ := hmatched z hz hresume
      exact ⟨y, List.mem_append_left _ hy, h⟩
    rw [List.filter_append, List.pairwise_append]
    simp only [List.mem_append, List.mem_singleton]
    by_cases hissue : (clients x.who).issues
    · -- a challenge is stored: it differs from all before it
      have hnot := (clients x.who).not_resumes hissue
      refine ⟨?_, ?_, ?_⟩
      · rintro z (hz | rfl) hresume
        · simpa using hold hz hresume
        · rw [hnot] at hresume
          cases hresume
      · rw [liveChallenge_snoc, if_pos hissue]
        rintro y hy z (hz | rfl) hresume htext
        · cases hy
          obtain ⟨y, hy, hyissue, hztext⟩ := hmatched z hz hresume
          exact hdistinct.2.2 y (List.mem_filter.mpr ⟨hy, hyissue⟩) x
            (by simp [hissue]) (hztext.symm.trans htext)
        · rw [hnot] at hresume
          cases hresume
      · simpa [hnot] using honce
    by_cases hresume : (clients x.who).resumes
    · -- the live challenge is consumed: none is live any more
      obtain ⟨y, hy, hsame⟩ := hx hresume
      refine ⟨?_, ?_, ?_⟩
      · rintro z (hz | rfl) hresume
        · simpa using hold hz hresume
        · obtain ⟨hmem, hyissue⟩ := mem_of_live clients hy
          exact ⟨y, .inl hmem, hyissue, hsame.challengeText⟩
      · rw [liveChallenge_snoc, if_neg hissue, if_pos hresume]
        rintro y hy
        cases hy
      · refine ⟨honce, by simp [hresume], fun z hz z' hz' htext => ?_⟩
        obtain ⟨hz, hzresume⟩ := List.mem_filter.mp hz
        obtain rfl : z' = x := by simpa [hresume] using hz'
        exact hfresh y hy z hz hzresume (htext.trans hsame.challengeText)
    · refine ⟨?_, ?_, ?_⟩
      · rintro z (hz | rfl) hz'
        · simpa using hold hz hz'
        · exact absurd hz' hresume
      · rw [liveChallenge_snoc, if_neg hissue, if_neg hresume]
        rintro y hy z (hz | rfl) hz'
        · exact hfresh y hy z hz hz'
        · exact absurd hz' hresume
      · simpa [hresume] using honce

/-! ## Whole runs -/

/-- A checkpoint with an unconsumed challenge holds the live one. -/
structure FreshInv (r : UUID) (w : World ι) : Prop where
  stored : ∃ c, w.store.checkpoints.get r = some c
  live : ∀ c, w.store.checkpoints.get r = some c → c.unconsumed →
    ∃ y, liveChallenge clients (runRewrites r w.log) = some y ∧ c.SameChallenge y.next
  history : History (OfLive clients) (runRewrites r w.log)

variable {clients}

/-- **One request** of clients that write what they may. -/
theorem FreshInv.step {since : ι → Time} {r : UUID} {i : ι} {w w' : World ι} {q : Req} {x : q.Ans}
    (h : FreshInv clients r w) (hx : answers i w q x w')
    (hown : ∀ y ∈ rewrites w'.log, (clients y.who).Writes (since y.who) y.base y.next) :
    FreshInv clients r w' := by
  obtain ⟨hsame, hlog⟩ | ⟨c, hnone, hput, hlog⟩ | ⟨base, next, -, hget, -, hput, hlog⟩ :=
    answers_rewrites hx
  · refine ⟨hsame ▸ h.stored, ?_, ?_⟩
    · rw [hsame, runRewrites, hlog]
      exact h.live
    · rw [runRewrites, hlog]
      exact h.history
  · -- a first checkpoint, of another run
    have hne : c.runId ≠ r := by
      rintro rfl
      obtain ⟨d, hd⟩ := h.stored
      rw [hnone] at hd
      cases hd
    have hget : w'.store.checkpoints.get r = w.store.checkpoints.get r := by
      rw [hput]
      exact Table.get_put_of_ne _ hne.symm
    refine ⟨hget ▸ h.stored, ?_, ?_⟩
    · rw [hget, runRewrites, hlog]
      exact h.live
    · rw [runRewrites, hlog]
      exact h.history
  have hwrites := hown ⟨i, base, next⟩ (by rw [hlog]; simp)
  by_cases hid : next.runId = r
  · have hruns : runRewrites r w'.log = runRewrites r w.log ++ [⟨i, base, next⟩] := by
      rw [runRewrites, hlog, List.filter_append]
      simp [runRewrites, hid]
    have hget' : w'.store.checkpoints.get r = some next := by
      rw [hput, ← hid]
      exact Table.get_put_self _ _
    have hbase : w.store.checkpoints.get r = some base := hid ▸ hget
    have hof : OfLive clients (runRewrites r w.log) ⟨i, base, next⟩ := by
      intro hresume
      obtain ⟨interrupt, decision, principal, challenge, hi⟩ := (clients i).resumes_iff.mp hresume
      rw [hi] at hwrites
      refine h.live base hbase ?_
      have hmatch := hwrites.2.1
      simp only [challengeMatches, Bool.and_eq_true] at hmatch
      exact hmatch.1.1
    refine ⟨⟨next, hget'⟩, fun c hc hunconsumed => ?_, ?_⟩
    · rw [hget'] at hc
      cases hc
      rw [hruns, liveChallenge_snoc]
      by_cases hissue : (clients i).issues
      · exact ⟨⟨i, base, next⟩, if_pos hissue, fun _ _ => rfl⟩
      rw [if_neg hissue]
      by_cases hresume : (clients i).resumes
      · -- a consumed challenge is not unconsumed
        obtain ⟨interrupt, decision, principal, challenge, hi⟩ := (clients i).resumes_iff.mp hresume
        rw [hi] at hwrites
        obtain ⟨⟨consumedAt, hnext⟩, -⟩ := hwrites
        rw [Checkpoint.unconsumed, hnext, consumed, Finmap.lookup_insert] at hunconsumed
        cases hunconsumed
      · rw [if_neg hresume]
        obtain ⟨hkeeps, hsame⟩ := hwrites.keeps (Bool.eq_false_of_not_eq_true hissue)
          (Bool.eq_false_of_not_eq_true hresume)
        obtain ⟨y, hy, hbasey⟩ := h.live base hbase (hkeeps ▸ hunconsumed)
        exact ⟨y, hy, fun key hkey => (hsame key hkey).trans (hbasey key hkey)⟩
    · rw [hruns]
      exact h.history.snoc hof
  · have hruns : runRewrites r w'.log = runRewrites r w.log := by
      rw [runRewrites, hlog, List.filter_append]
      simp [runRewrites, hid]
    have hget' : w'.store.checkpoints.get r = w.store.checkpoints.get r := by
      rw [hput]
      exact Table.get_put_of_ne _ (Ne.symm hid)
    refine ⟨hget' ▸ h.stored, ?_, hruns ▸ h.history⟩
    rw [hget', hruns]
    exact h.live

end Live

/-- The response rests on the challenge that `y` has stored. -/
structure RestsOn (clients : ι → ChallengeClient) (since : ι → Time) (log : List (Event ι)) (j : ι)
    (response : ApprovalResumeRequest) (y : Rewrite ι) : Prop where
  stored : y ∈ runRewrites response.runId log
  issued : (clients y.who).issues
  /-- It was presented by the subject that it was issued to. -/
  subject : (clients j).subject.map digest = (clients y.who).subject.map digest
  nonce : y.next.challengeText.map ("freshness:" ++ ·) = some response.decisionNonce
  unexpired : ∃ t, expiry y.next = some t ∧ since j < t

section Runs

variable [DecidableEq ι] {clients : ι → ChallengeClient} {since : ι → Time} {s₀ : Store} {r : UUID}
  {c : Config ι (World ι) Req Req.Ans PyExc (Option ApprovalResumeRequest)}

/-- What every run of the clients keeps. -/
theorem fresh_reachable (hstored : ∃ c₀, s₀.checkpoints.get r = some c₀ ∧ c₀.unconsumed = false)
    (hc : Steps (answersSince since) ⟨⟨s₀, []⟩, fun i => (clients i).flow⟩ c) :
    FreshInv clients r c.world ∧
    (∀ y ∈ rewrites c.world.log, (clients y.who).Writes (since y.who) y.base y.next) ∧
    ∀ j response, c.threads j = .ret (some response) →
      ∃ interrupt decision principal challenge,
        clients j = .resume interrupt decision principal challenge ∧
        response = responseOf interrupt decision principal challenge ∧
        ∃ base next, ⟨j, base, next⟩ ∈ rewrites c.world.log ∧ next.runId = response.runId := by
  have hinv : (rewritesSince since fun i base next =>
      (clients i).Writes (since i) base next).inv ⟨s₀, []⟩ := by
    intro y hy
    cases hy
  have hsafe (j : ι) := client_fresh clients since j ⟨s₀, []⟩
  have hwrites := (reachable_safe hinv hsafe hc).1
  refine ⟨?_, hwrites, fun j response hj => reachable_ret hinv hsafe hc hj response rfl⟩
  obtain ⟨c₀, hget, hspent⟩ := hstored
  refine steps_rewrites (I := FreshInv clients r) (fun i w q x w' h hx hown => h.step hx hown) ?_
    (steps_mono answers_of_since hc) hwrites
  refine ⟨⟨c₀, hget⟩, fun c hc hunconsumed => ?_, .nil⟩
  rw [hget] at hc
  cases hc
  rw [hspent] at hunconsumed
  cases hunconsumed

omit [DecidableEq ι] in
theorem mem_runRewrites {log : List (Event ι)} {x : Rewrite ι} :
    x ∈ runRewrites r log ↔ x ∈ rewrites log ∧ x.next.runId = r := by
  simp [runRewrites]

/-- One client runs to its end, alone. -/
def alone {α : Type} (e : Environment) (i : ι) (c : Config ι (World ι) Req Req.Ans PyExc α) :
    Config ι (World ι) Req Req.Ans PyExc α :=
  let r := (c.threads i).run (e.respond i) ⟨c.world, 0⟩
  ⟨r.2.world, Function.update c.threads i (ofExcept r.1)⟩

theorem steps_alone {α : Type} {e : Environment} {i : ι} (h : since i ≤ e.now 0)
    (c : Config ι (World ι) Req Req.Ans PyExc α) : Steps (answersSince since) c (alone e i c) := by
  refine steps_run (answersSince since) Solo.world (fun st q => ⟨e.answers_respond i st q, ?_⟩) (c.threads i) ⟨c.world, 0⟩
    c.threads rfl
  cases q with
  | clock => exact h.trans (e.now_mono (Nat.zero_le _))
  | _ => trivial

/-- The clients of a list run to their ends, one after the other. -/
def oneByOne {α : Type} (e : ι → Environment) (l : List ι)
    (c : Config ι (World ι) Req Req.Ans PyExc α) : Config ι (World ι) Req Req.Ans PyExc α :=
  l.foldl (fun c i => alone (e i) i c) c

theorem steps_oneByOne {α : Type} {e : ι → Environment} (h : ∀ i, since i ≤ (e i).now 0)
    (l : List ι) (c : Config ι (World ι) Req Req.Ans PyExc α) :
    Steps (answersSince since) c (oneByOne e l c) := by
  induction l generalizing c with
  | nil => exact .refl
  | cons i rest ih => exact (steps_alone (h i) c).trans (ih _)

end Runs

end

/-! ## A sample run -/

namespace Sample

/-- A digest function that can be evaluated and tells the two challenges apart. -/
abbrev initials : Sha256 :=
  ⟨fun text => ⟨BitVec.ofNat 256 (text.toByteArray.data.toList.headD 0).toNat⟩⟩

attribute [local instance] initials

/-- The digest of a canonical object. -/
def objectHash : Sha256Digest := ⟨BitVec.ofNat 256 '{'.toNat⟩

/-- The interrupt of the sample proposal. -/
def raised : ApprovalInterrupt := { interrupt with requestHash := objectHash }

/-- The checkpoint that holds it. -/
def raisedCheckpoint : Checkpoint where
  runId := uid 1
  lastSafeState := .awaitingApproval
  resumeMetadata := Dict.ofPairs [("approval_interrupt_id", .str "interrupt"),
    ("approval_request_hash", .str objectHash.hex), ("proposal_id", .str (uid 4).str)]
  toolResultHashes := Dict.ofPairs [("build_remediation_evidence", ⟨0⟩)]
  createdAt := 0
  valid := rfl

def raisedStore : Store := { awaitingStore with checkpoints := (∅ : Table _).put raisedCheckpoint }

/-- A challenge is issued and used, then a second one. -/
def challengeClients : Fin 4 → ChallengeClient
  | 0 => .issue serviceConfig raised judge
  | 1 => .resume raised .approved judge firstChallenge
  | 2 => .issue serviceConfig raised judge
  | 3 => .resume raised .denied judge secondChallenge

/-- Where the challenges are made up. -/
def challengeEnvironments (i : Fin 4) : Environment :=
  { environment (100 * i) acknowledges with
    nonces := fun _ => if i = 0 then firstChallenge else secondChallenge }

/-- The four calls, one after the other. -/
def challengeRun : Config (Fin 4) (World (Fin 4)) Req Req.Ans PyExc (Option ApprovalResumeRequest) :=
  oneByOne challengeEnvironments [0, 1, 2, 3]
    ⟨⟨raisedStore, []⟩, fun i => (challengeClients i).flow⟩

/-- What client `i` has returned. -/
def handedOver (i : Fin 4) : Option (UUID × String) :=
  ((challengeRun.threads i).observe fun _ => none).bind fun o =>
    o.toOption.join.map fun a => (a.runId, a.decisionNonce)

theorem handedOver_ret {i : Fin 4} {x : UUID × String} (h : handedOver i = some x) :
    ∃ a, challengeRun.threads i = .ret (some a) ∧ (a.runId, a.decisionNonce) = x := by
  unfold handedOver at h
  cases hq : challengeRun.threads i with
  | ret o =>
    rw [hq] at h
    cases o with
    | none => cases h
    | some a => exact ⟨a, rfl, Option.some.inj h⟩
  | raise e =>
    rw [hq] at h
    cases h
  | call q k =>
    rw [hq] at h
    cases h

theorem challenge_run_reached : Steps (answersSince fun _ : Fin 4 => (0 : Time))
    ⟨⟨raisedStore, []⟩, fun i => (challengeClients i).flow⟩ challengeRun :=
  steps_oneByOne (fun _ => Nat.zero_le _) _ _

theorem challenges_issued_differ :
    ((runRewrites (uid 1) challengeRun.world.log).filter fun y =>
      (challengeClients y.who).issues).Pairwise fun y z =>
        y.next.challengeText ≠ z.next.challengeText := by
  decide +kernel

theorem handedOver_first : handedOver 1 = some (uid 1, "freshness:" ++
    AuthenticatedApprovalResumeService.digest firstChallenge) := by decide +kernel

theorem handedOver_second : handedOver 3 = some (uid 1, "freshness:" ++
    AuthenticatedApprovalResumeService.digest secondChallenge) := by decide +kernel

theorem raised_stored : ∃ c₀, raisedStore.checkpoints.get (uid 1) = some c₀ ∧
    c₀.unconsumed = false := ⟨raisedCheckpoint, rfl, by decide +kernel⟩

end Sample

end CloudOpsAgent
