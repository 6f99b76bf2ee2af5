import HyperTrader.Orchestrator.Reviewed

/-!
# The deadlines of a submission

A confirmation waits for its refresh, for the session and for its signature, each
time for as long as it takes. The expiry of the review, which the refresh copies into
the action it returns, is compared with the time of that action, before the session is
unlocked, and not again; what is compared at the mark, the last write before the
submission, is the deadline that was reserved with the nonce, which the exchange is
given too.
-/

namespace HyperTrader

open Library ConfirmState

theorem validateTradingAction_unexpired {viem : Viem}
    {input : TradingActionValidationInput} {validated : ValidatedTradingAction}
    (h : validateTradingAction viem input = .ok validated) :
    input.context.nowMs < input.context.reviewExpiresAtMs := by
  simp only [validateTradingAction, except_bind_eq_ok] at h
  obtain ⟨_, hcontext, -⟩ := h
  simp only [assertCurrentContext, except_bind_eq_ok, require_eq_ok] at hcontext
  obtain ⟨-, -, -, -, -, -, -, -, -, -, -, -, -, -, -, -, -, -, -, -, -, -, -, -, -, -,
    -, -, hexpiry⟩ := hcontext
  exact hexpiry.2

def PreparedSubmission.Deposited (prepared : PreparedSubmission) (database : Database) : Prop :=
  database.Holds prepared.record.journalId fun row =>
    row.expiresAfterMs = prepared.record.expiresAfterMs

variable {prepared : PreparedSubmission} {s : ConfirmState}

theorem PreparedSubmission.Deposited.aged {before after : Database} (h : prepared.Deposited before)
    (hrows : RowsAged before after) : prepared.Deposited after :=
  Database.Holds.aged h hrows fun _ _ haging hrow =>
    (congrArg PreparedActionInput.expiresAfterMs haging.captured).trans hrow

namespace Confirming

theorem advance_keeps {q raises : ConfirmState → Prop} {generation : ℤ}
    {phase : ActionFlowPhase} {journalId : Option String}
    (hq : ∀ s flow, q s → q { s with flow := flow }) :
    Action.Meets q (advance generation phase journalId) (fun _ => q) raises :=
  .modify fun s hs => hq s _ hs

theorem unlocked_deposits (viem : Viem) (encode : MessagePack)
    (review : ActionReviewSnapshot) (generation : ℤ) (refreshedInput : TradingActionValidationInput)
    (refreshed : ValidatedTradingAction) (answers : UnlockAnswers) :
    Action.Meets (fun _ => True)
      (unlocked viem encode review generation refreshedInput refreshed answers)
      (fun prepared s => prepared.refreshedInput = refreshedInput ∧
        prepared.Deposited s.repository.database) (fun _ => True) := by
  have hany : ∀ s : ConfirmState, True → True := fun _ _ => trivial
  unfold unlocked
  refine .check_bind hany fun _ _ => ?_
  refine .bind (requireCurrent_meets _ hany) fun _ => ?_
  refine .bind (advance_keeps fun _ _ hs => hs) fun _ => ?_
  refine .check_bind hany fun identity _ => ?_
  refine .check_bind hany fun clock _ => ?_
  refine .check_bind hany fun journalId _ => ?_
  refine .check_bind hany fun correlationId _ => ?_
  refine .check_bind hany fun preparedAction _ => ?_
  have hreserve : Action.Meets (fun _ => True)
      (onRepository (reservePreparedAction viem answers.authority answers.fault
        { binding := review.binding
          capturedContextEpoch := review.validation.context.capturedContextEpoch
          clock := clock
          preparedAction := preparedAction }))
      (fun record s => record ∈ s.repository.database.actionJournal)
      (fun _ => True) := by
    refine onRepository_meets ?_ fun _ _ _ _ _ => trivial
    intro s record repository _ hrun
    obtain ⟨binding, allocation, scope, -, hreserved⟩ := reservePreparedAction_ok hrun
    rw [hreserved.journal]
    exact List.mem_append_right _ List.mem_cons_self
  refine .bind hreserve fun record => ?_
  -- nothing after the reservation writes the journal
  have hkept : Action.Meets
      (fun s => record ∈ s.repository.database.actionJournal)
      (Action.modify fun s => { s with journalId := some record.journalId } : Confirming Unit)
      (fun _ s => record ∈ s.repository.database.actionJournal) (fun _ => True) :=
    .modify fun _ hs => hs
  refine .bind hkept fun _ => ?_
  refine .bind (requireCurrent_meets _ fun _ _ => trivial) fun _ => ?_
  refine .bind (advance_keeps fun _ _ hs => hs) fun _ => ?_
  refine .check_bind (fun _ _ => trivial) fun action _ => ?_
  refine .check_bind (fun _ _ => trivial) fun encoded _ => ?_
  exact .pure fun s hs => ⟨rfl, record, hs, rfl, rfl⟩

theorem signed_timely (review : ActionReviewSnapshot) (generation : ℤ)
    (prepared : PreparedSubmission) (answers : SignAnswers) :
    Action.Meets (fun s => prepared.Deposited s.repository.database)
      (signed review generation prepared answers) (fun _ _ => ∃ now, answers.now = .ok now ∧
        now < prepared.record.expiresAfterMs) (fun _ => True) := by
  have hany : ∀ s : ConfirmState, prepared.Deposited s.repository.database → True :=
    fun _ _ => trivial
  unfold signed
  refine .check_bind hany fun signature _ => ?_
  refine .bind (requireCurrent_meets _ hany) fun _ => ?_
  refine .bind (advance_keeps fun _ _ hs => hs) fun _ => ?_
  refine .check_bind hany fun _ _ => ?_
  refine .check_bind hany fun now hnow => ?_
  have hmark : Action.Meets (fun s => prepared.Deposited s.repository.database)
      (onRepository (markSubmissionStarted answers.fault prepared.record.journalId now))
      (fun _ _ => now < prepared.record.expiresAfterMs) (fun _ => True) := by
    refine onRepository_meets ?_ fun _ _ _ _ _ => trivial
    intro s receipt repository hs hrun
    obtain ⟨-, row, hid, hmay, -, hrewrite⟩ := markSubmissionStarted_ok hrun
    obtain ⟨other, hother, hotherid, hexpires⟩ := hs
    obtain rfl := s.repository.database.uniqueIds.eq_of_mem hrewrite.rewrites.mem
      hother (hid.trans hotherid.symm)
    rw [← hexpires]
    exact hmay.2.2
  refine .bind hmark fun receipt => ?_
  refine .bind (advance_keeps fun _ _ hs => hs) fun _ => ?_
  exact .pure fun s hs => ⟨now, hnow, hs⟩

theorem refreshed_answers (viem : Viem) (review : ActionReviewSnapshot) (generation : ℤ)
    (refreshedInput : TradingActionValidationInput) (current : Outcome Bool) :
    Action.Meets (fun _ => True) (refreshed viem review generation (.ok refreshedInput) current)
      (fun r _ => r.1 = refreshedInput) (fun _ => True) := by
  have hany : ∀ s : ConfirmState, True → True := fun _ _ => trivial
  unfold refreshed
  refine .check_bind hany fun input hinput => ?_
  cases hinput
  refine .bind (requireCurrent_meets _ hany) fun _ => ?_
  refine .check_bind hany fun refreshed _ => ?_
  refine .bind (advance_keeps fun _ _ hs => hs) fun _ => ?_
  exact .pure fun _ _ => rfl

end Confirming

/-! ### When permits are given -/

theorem ConfirmStage.mem_submission {review : ActionReviewSnapshot} {stage next : ConfirmStage}
    {submission : Submission} (h : submission ∈ (stage.submission review next).toList) :
    ∃ prepared signature permit, stage = .permitted prepared signature permit ∧
      submission =
        { review := review
          prepared := prepared
          request := Confirming.signedRequest prepared signature } := by
  unfold ConfirmStage.submission at h
  split at h
  · exact ⟨_, _, _, rfl, List.mem_singleton.mp h⟩
  · cases h

theorem ConfirmRun.proceed_permitted {viem : Viem} {encode : MessagePack}
    {run : ConfirmRun} {answer : ConfirmAnswer} {signature : Eip712Signature}
    {permit : TransportWritePermit}
    (h : (run.proceed viem encode s answer).1 = .permitted prepared signature permit) :
    run.stage = .permitted prepared signature permit ∨
      ∃ answers, answer = .signed answers ∧ run.stage = .signing prepared ∧
        ∃ t, Confirming.signed run.review run.generation prepared answers s =
          (.ok (signature, permit), t) := by
  have hafter : ∀ {α : Type} (next : α → ConfirmStage) (p : Outcome α × ConfirmState),
      (∀ a, next a ≠ .permitted prepared signature permit) →
        (ConfirmStage.after next p).1 ≠ .permitted prepared signature permit := by
    intro α next p hnext
    rcases ConfirmStage.after_cases next p with ⟨a, -, hp⟩ | ⟨error, -, hp⟩
    · rw [hp]
      exact hnext a
    · rw [hp]
      exact ConfirmStage.noConfusion
  have hreconciles : ∀ {stage : ConfirmStage}, stage.Reconciles →
      stage ≠ .permitted prepared signature permit := by
    intro stage hstage hpermitted
    have hout := hstage.not_inTransport
    rw [hpermitted] at hout
    cases hout
  cases answer with
  | refreshed result current =>
    rw [proceed] at h
    split at h
    · exact absurd h (hafter _ _ fun _ => ConfirmStage.noConfusion)
    · exact .inl h
  | unlocked answers =>
    rw [proceed] at h
    split at h
    · exact absurd h (hafter _ _ fun _ => ConfirmStage.noConfusion)
    · exact .inl h
  | signed answers =>
    rw [proceed] at h
    split at h
    · rename_i other hstage
      rcases ConfirmStage.after_cases
        (fun r => ConfirmStage.permitted other r.1 r.2)
        (Confirming.signed run.review run.generation other answers s) with
          ⟨⟨given, handed⟩, hresult, hp⟩ | ⟨error, -, hp⟩
      · rw [hp] at h
        cases h
        exact .inr ⟨answers, rfl, hstage, _, Prod.ext hresult rfl⟩
      · rw [hp] at h
        cases h
    · exact .inl h
  | consumed =>
    rw [proceed] at h
    split at h
    · exact absurd h (hafter _ _ fun _ => ConfirmStage.noConfusion)
    · exact .inl h
  | answered answers =>
    rw [proceed] at h
    split at h
    · refine absurd h (hafter _ _ fun unresolved => ?_)
      cases unresolved <;> exact ConfirmStage.noConfusion
    · exact .inl h
  | recovered answers =>
    rw [proceed] at h
    split at h
    · exact absurd h (hreconciles (ConfirmStage.afterRecovery_reconciles _ _))
    · exact .inl h
  | portRead shouldContinue fault =>
    rw [proceed] at h
    split at h
    · exact absurd h (hreconciles (ConfirmStage.afterPort_reconciles _ _))
    · exact .inl h
  | portAttempted shouldContinue faults owner now =>
    rw [proceed] at h
    split at h
    · exact absurd h (hreconciles (ConfirmStage.afterPort_reconciles _ _))
    · exact .inl h
  | portResumed faults owner now evidence =>
    rw [proceed] at h
    split at h
    · exact absurd h (hreconciles (ConfirmStage.afterPort_reconciles _ _))
    · exact .inl h
  | portReturned =>
    rw [proceed] at h
    split at h
    · exact absurd h (hafter _ _ fun _ => ConfirmStage.noConfusion)
    · exact .inl h

theorem ConfirmRun.Proceeded.deposited {viem : Viem} {encode : MessagePack}
    {run : ConfirmRun} {p : ConfirmStage × ConfirmState} (h : run.Proceeded viem encode s p)
    (hstage : p.1 = .signing prepared) :
    run.stage = .signing prepared ∨ prepared.Deposited p.2.repository.database := by
  have hafter : ∀ {α : Type} (next : α → ConfirmStage) (q : Outcome α × ConfirmState),
      (∀ a, next a ≠ .signing prepared) →
        (ConfirmStage.after next q).1 ≠ .signing prepared := by
    intro α next q hnext
    rcases ConfirmStage.after_cases next q with ⟨a, -, hq⟩ | ⟨error, -, hq⟩
    · rw [hq]
      exact hnext a
    · rw [hq]
      exact ConfirmStage.noConfusion
  have hreconciles : ∀ {stage : ConfirmStage}, stage.Reconciles →
      stage ≠ .signing prepared := by
    rintro stage (rfl | ⟨journalId, port, rfl⟩)
    · exact ConfirmStage.noConfusion
    · exact ConfirmStage.noConfusion
  cases h with
  | ignored => exact .inl hstage
  | refreshed => exact absurd hstage (hafter _ _ fun _ => ConfirmStage.noConfusion)
  | unlocked refreshedInput refreshed answers =>
    rcases ConfirmStage.after_cases ConfirmStage.signing
      (Confirming.unlocked viem encode run.review run.generation refreshedInput
        refreshed answers s) with ⟨made, hresult, hp⟩ | ⟨error, -, hp⟩
    · rw [hp] at hstage ⊢
      cases hstage
      exact .inr ((Confirming.unlocked_deposits viem encode run.review run.generation
        refreshedInput refreshed answers).returns s prepared _ trivial (Prod.ext hresult rfl)).2
    · rw [hp] at hstage
      cases hstage
  | signed => exact absurd hstage (hafter _ _ fun _ => ConfirmStage.noConfusion)
  | consumed => exact absurd hstage (hafter _ _ fun _ => ConfirmStage.noConfusion)
  | answered =>
    refine absurd hstage (hafter _ _ fun unresolved => ?_)
    cases unresolved <;> exact ConfirmStage.noConfusion
  | recovered =>
    exact absurd hstage (hreconciles (ConfirmStage.afterRecovery_reconciles _ _))
  | ported =>
    exact absurd hstage (hreconciles (ConfirmStage.afterPort_reconciles _ _))
  | published => exact absurd hstage (hafter _ _ fun _ => ConfirmStage.noConfusion)

namespace OrchestratorWorld

/-- In a run, the mark that gave a submission its permit was made with the time
`now`. -/
def MarkedAt (viem : Viem) (encode : MessagePack) (events : List OrchestratorEvent)
    (prepared : PreparedSubmission) (now : ℤ) : Prop :=
  ∃ before i run answers after,
    events = before ++ .answer i (.signed answers) :: after ∧
    (Library.run (step viem encode) create before).runs[i]? = some run ∧
    run.stage = .signing prepared ∧ answers.now = .ok now ∧
    ∃ given s, Confirming.signed run.review run.generation prepared answers
      ((Library.run (step viem encode) create before).view run) = (.ok given, s)

/-- It was made before the deadline that was reserved with the nonce. -/
def InTime (viem : Viem) (encode : MessagePack) (events : List OrchestratorEvent)
    (prepared : PreparedSubmission) : Prop :=
  ∃ now, MarkedAt viem encode events prepared now ∧
    now < prepared.record.expiresAfterMs

theorem InTime.append {viem : Viem} {encode : MessagePack}
    {events : List OrchestratorEvent} {prepared : PreparedSubmission}
    (h : InTime viem encode events prepared) (later : List OrchestratorEvent) :
    InTime viem encode (events ++ later) prepared := by
  obtain ⟨now, ⟨before, i, run, answers, after, rfl, hmarked⟩, hnow⟩ := h
  refine ⟨now, ⟨before, i, run, answers, after ++ later, ?_, hmarked⟩, hnow⟩
  rw [List.append_assoc, List.cons_append]

structure Others (world next : OrchestratorWorld) : Prop where
  submissions : next.submissions = world.submissions
  runs : ∀ (i : ℕ) (run : ConfirmRun), next.runs[i]? = some run →
    world.runs[i]? = some run ∨ run.stage = .refreshing ∨ ∃ error, run.stage = .failing error

theorem step_others (viem : Viem) (encode : MessagePack) (world : OrchestratorWorld)
    (event : OrchestratorEvent) :
    world.Others (world.step viem encode event) ∨
      ∃ i answer run, event = .answer i answer ∧ world.runs[i]? = some run := by
  cases event with
  | confirm orchestrator repository attempts input current =>
    refine .inl ⟨?_, ?_⟩
    · rw [step, confirm]
      split
      · rfl
      · rfl
    · intro i run hrun
      rw [step, confirm] at hrun
      split at hrun
      · exact .inl hrun
      · rcases getElem?_append_cases hrun with hold | ⟨-, rfl⟩
        · exact .inl hold
        · rcases ConfirmStage.after_cases (fun _ => ConfirmStage.refreshing)
            (Confirming.requireCurrent current _) with ⟨_, -, hp⟩ | ⟨error, -, hp⟩
          · exact .inr (.inl (congrArg Prod.fst hp))
          · exact .inr (.inr ⟨error, congrArg Prod.fst hp⟩)
  | answer i answer =>
    cases hrun : world.runs[i]? with
    | none =>
      rw [step, hrun]
      exact .inl ⟨rfl, fun _ _ hother => .inl hother⟩
    | some run => exact .inr ⟨i, answer, run, rfl, hrun⟩
  | reset orchestrator => exact .inl ⟨rfl, fun _ _ hrun => .inl hrun⟩
  | call repository call =>
    refine .inl ⟨?_, ?_⟩
    · rw [step, OrchestratorWorld.call]
      split
      · rfl
      · rfl
    · intro i run hrun
      rw [step, OrchestratorWorld.call] at hrun
      split at hrun
      · exact .inl hrun
      · exact .inl hrun
  | crash => exact .inl ⟨rfl, fun _ _ hrun => by cases hrun⟩

/-- After `events`: what is being signed is in the journal, and every permit was
given in time. -/
structure Timely (viem : Viem) (encode : MessagePack) (events : List OrchestratorEvent)
    (world : OrchestratorWorld) : Prop where
  deposited : ∀ (i : ℕ) (run : ConfirmRun) (prepared : PreparedSubmission),
    world.runs[i]? = some run → run.stage = .signing prepared →
      prepared.Deposited world.database
  permitted : ∀ (i : ℕ) (run : ConfirmRun) (prepared : PreparedSubmission)
    (signature : Eip712Signature) (permit : TransportWritePermit),
    world.runs[i]? = some run →
      run.stage = .permitted prepared signature permit →
        InTime viem encode events prepared
  submitted : ∀ submission ∈ world.submissions,
    InTime viem encode events submission.prepared ∧
      submission.request.expiresAfter = submission.prepared.record.expiresAfterMs

namespace Timely

variable {viem : Viem} {encode : MessagePack} {events : List OrchestratorEvent}
  {world : OrchestratorWorld}

theorem create : Timely viem encode [] create where
  deposited _ _ _ hrun := by cases hrun
  permitted _ _ _ _ _ hrun := by cases hrun
  submitted _ hmem := absurd hmem List.not_mem_nil

theorem other (h : world.Timely viem encode events) {next : OrchestratorWorld}
    (later : List OrchestratorEvent) (haged : RowsAged world.database next.database)
    (hothers : world.Others next) : next.Timely viem encode (events ++ later) where
  deposited i run prepared hrun hstage := by
    rcases hothers.runs i run hrun with hold | hnew | ⟨error, hnew⟩
    · exact (h.deposited i run prepared hold hstage).aged haged
    · rw [hnew] at hstage
      cases hstage
    · rw [hnew] at hstage
      cases hstage
  permitted i run prepared signature permit hrun hstage := by
    rcases hothers.runs i run hrun with hold | hnew | ⟨error, hnew⟩
    · exact (h.permitted i run prepared signature permit hold hstage).append later
    · rw [hnew] at hstage
      cases hstage
    · rw [hnew] at hstage
      cases hstage
  submitted submission hmem := by
    rw [hothers.submissions] at hmem
    obtain ⟨htime, hexpires⟩ := h.submitted submission hmem
    exact ⟨htime.append later, hexpires⟩

theorem answered (h : Timely viem encode events
      (Library.run (OrchestratorWorld.step viem encode) .create events))
    {i : ℕ} {run : ConfirmRun} (answer : ConfirmAnswer)
    (hrun : (Library.run (OrchestratorWorld.step viem encode) .create events).runs[i]? = some run)
    (haged : RowsAged (Library.run (OrchestratorWorld.step viem encode) .create events).database
      (run.proceed viem encode ((Library.run (OrchestratorWorld.step viem encode)
        .create events).view run) answer).2.repository.database) :
    Timely viem encode (events ++ [.answer i answer])
      ((Library.run (OrchestratorWorld.step viem encode) .create events).goOn i run
        (run.proceed viem encode ((Library.run (OrchestratorWorld.step viem encode)
          .create events).view run) answer).1
        (run.proceed viem encode ((Library.run (OrchestratorWorld.step viem encode)
          .create events).view run) answer).2) := by
  set world := Library.run (OrchestratorWorld.step viem encode) .create events
    with hworld
  have hproceeded := run.proceeded viem encode (world.view run) answer
  refine ⟨?_, ?_, ?_⟩
  · intro j other prepared hother hstage
    rcases getElem?_set_cases hother with ⟨rfl, rfl⟩ | ⟨-, hold⟩
    · rcases hproceeded.deposited hstage with hsame | hnew
      · exact (h.deposited j run prepared hrun hsame).aged haged
      · exact hnew
    · exact (h.deposited j other prepared hold hstage).aged haged
  · intro j other prepared signature permit hother hstage
    rcases getElem?_set_cases hother with ⟨rfl, rfl⟩ | ⟨-, hold⟩
    · rcases ConfirmRun.proceed_permitted hstage with
        hsame | ⟨answers, rfl, hsigning, t, hsigned⟩
      · exact (h.permitted j run prepared signature permit hrun hsame).append _
      · obtain ⟨now, hnow, hbefore⟩ :=
          (Confirming.signed_timely run.review run.generation prepared answers).returns
            _ _ _ (h.deposited j run prepared hrun hsigning) hsigned
        exact ⟨now, ⟨events, j, run, answers, [], rfl, hrun, hsigning, hnow, _, t,
          hsigned⟩, hbefore⟩
    · exact (h.permitted j other prepared signature permit hold hstage).append _
  · intro submission hmem
    rcases List.mem_append.mp hmem with hold | hnew
    · obtain ⟨htime, hexpires⟩ := h.submitted submission hold
      exact ⟨htime.append _, hexpires⟩
    · obtain ⟨prepared, signature, permit, hstage, rfl⟩ := ConfirmStage.mem_submission hnew
      have htime := h.permitted i run prepared signature permit hrun hstage
      exact ⟨htime.append _, rfl⟩

theorem run (viem : Viem) (encode : MessagePack) (events : List OrchestratorEvent) :
    Timely viem encode events
      (Library.run (OrchestratorWorld.step viem encode) .create events) := by
  induction events using List.reverseRecOn with
  | nil => exact create
  | append_singleton events event ih =>
    have haged := (Agreeing.run viem encode events).aged
      (stepped_step viem encode _ event)
    rw [run_append, run_cons, run_nil]
    rcases step_others viem encode
        (Library.run (OrchestratorWorld.step viem encode) .create events) event with
      hothers | ⟨i, answer, run, rfl, hrun⟩
    · exact ih.other _ haged hothers
    · rw [OrchestratorWorld.step, hrun] at haged ⊢
      exact ih.answered answer hrun haged

end Timely

/-! ### The expiry of the review -/

end OrchestratorWorld

/-- The context of the action that `refreshReviewedOrder` returns: that of the review,
with what is current at the time of the refresh. -/
def refreshedContext (review : ActionReviewSnapshot) (epoch : ℤ) (currentBinding : SignerBinding)
    (nowMs : ℤ) : ActionValidationContext :=
  { review.validation.context with
    currentContextEpoch := epoch
    currentNetwork := currentBinding.network
    currentMasterAccount := currentBinding.masterAccount
    currentTargetAccount := currentBinding.targetAccount
    nowMs := nowMs }

def ConfirmStage.refreshedInput : ConfirmStage → Option TradingActionValidationInput
  | .unlocking refreshedInput _ => some refreshedInput
  | .signing prepared => some prepared.refreshedInput
  | .permitted prepared _ _ => some prepared.refreshedInput
  | _ => none

theorem ConfirmStage.refreshedInput_after {α : Type} {next : α → ConfirmStage}
    {p : Outcome α × ConfirmState} {input : TradingActionValidationInput}
    (h : (ConfirmStage.after next p).1.refreshedInput = some input) :
    ∃ a, p.1 = .ok a ∧ (next a).refreshedInput = some input := by
  rcases ConfirmStage.after_cases next p with ⟨a, hresult, hp⟩ | ⟨error, -, hp⟩
  · rw [hp] at h
    exact ⟨a, hresult, h⟩
  · rw [hp] at h
    cases h

theorem ConfirmStage.Reconciles.refreshedInput {stage : ConfirmStage} (h : stage.Reconciles) :
    stage.refreshedInput = none := by
  rcases h with rfl | ⟨journalId, port, rfl⟩
  · rfl
  · rfl

namespace ConfirmRun

variable {viem : Viem} {encode : MessagePack} {run : ConfirmRun}
  {input : TradingActionValidationInput}

/-- After its refresh a confirmation keeps the refreshed action. -/
theorem Proceeded.refreshedInput {p : ConfirmStage × ConfirmState}
    (h : run.Proceeded viem encode s p) (hrefreshed : run.stage ≠ .refreshing)
    (hinput : p.1.refreshedInput = some input) : run.stage.refreshedInput = some input := by
  cases h with
  | ignored => exact hinput
  | refreshed result current hstage => exact absurd hstage hrefreshed
  | unlocked refreshedInput refreshed answers hstage =>
    obtain ⟨prepared, hresult, hprepared⟩ := ConfirmStage.refreshedInput_after hinput
    have hsame := ((Confirming.unlocked_deposits viem encode run.review run.generation
      refreshedInput refreshed answers).returns s prepared _ trivial (Prod.ext hresult rfl)).1
    rw [hstage, ← hprepared]
    exact congrArg some hsame.symm
  | signed prepared answers hstage =>
    obtain ⟨_, -, hprepared⟩ := ConfirmStage.refreshedInput_after hinput
    rw [hstage]
    exact hprepared
  | consumed =>
    obtain ⟨_, -, hnone⟩ := ConfirmStage.refreshedInput_after hinput
    cases hnone
  | answered =>
    obtain ⟨unresolved, -, hnone⟩ := ConfirmStage.refreshedInput_after hinput
    cases unresolved <;> cases hnone
  | recovered =>
    rw [(ConfirmStage.afterRecovery_reconciles _ _).refreshedInput] at hinput
    cases hinput
  | ported =>
    rw [(ConfirmStage.afterPort_reconciles _ _).refreshedInput] at hinput
    cases hinput
  | published =>
    obtain ⟨_, -, hnone⟩ := ConfirmStage.refreshedInput_after hinput
    cases hnone

/-- A confirmation that waits for its refresh goes on with what the port answers. -/
theorem proceed_refreshing {answer : ConfirmAnswer} (hstage : run.stage = .refreshing)
    (hinput : (run.proceed viem encode s answer).1.refreshedInput = some input) :
    ∃ current, answer = .refreshed (.ok input) current := by
  cases answer with
  | refreshed result current =>
    simp only [proceed, hstage] at hinput
    obtain ⟨r, hresult, hr⟩ := ConfirmStage.refreshedInput_after hinput
    cases result with
    | error error => cases hresult
    | ok refreshedInput =>
      have hmeets := (Confirming.refreshed_answers viem run.review run.generation refreshedInput
        current).returns s r _ trivial (Prod.ext hresult rfl)
      cases hr
      exact ⟨current, by rw [hmeets]⟩
  | _ =>
    simp only [proceed, hstage] at hinput
    cases hinput

end ConfirmRun

namespace OrchestratorWorld

variable {viem : Viem} {encode : MessagePack} {world : OrchestratorWorld}

/-- The refresh port is `refreshReviewedOrder`: what it answers a confirmation has the
context of the review, read again. -/
def RefreshesReview (world : OrchestratorWorld) (event : OrchestratorEvent) : Prop :=
  ∀ i refreshedInput current run,
    event = .answer i (.refreshed (.ok refreshedInput) current) → world.runs[i]? = some run →
      ∃ epoch currentBinding nowMs,
        refreshedInput.context = refreshedContext run.review epoch currentBinding nowMs

/-- What a confirmation carries, and what was submitted, expires with its review. -/
structure Expiring (world : OrchestratorWorld) : Prop where
  carried : ∀ (i : ℕ) (run : ConfirmRun) (input : TradingActionValidationInput),
    world.runs[i]? = some run → run.stage.refreshedInput = some input →
      input.context.reviewExpiresAtMs = run.review.validation.context.reviewExpiresAtMs
  submitted : ∀ submission ∈ world.submissions,
    submission.prepared.refreshedInput.context.reviewExpiresAtMs =
      submission.review.validation.context.reviewExpiresAtMs

theorem Expiring.step (viem : Viem) (encode : MessagePack) (h : world.Expiring)
    (event : OrchestratorEvent) (hrefreshes : world.RefreshesReview event) :
    (world.step viem encode event).Expiring := by
  rcases step_others viem encode world event with hothers | ⟨i, answer, run, rfl, hrun⟩
  · constructor
    · intro j other input hother hinput
      rcases hothers.runs j other hother with hold | hnew | ⟨error, hnew⟩
      · exact h.carried j other input hold hinput
      · rw [hnew] at hinput
        cases hinput
      · rw [hnew] at hinput
        cases hinput
    · rw [hothers.submissions]
      exact h.submitted
  · rw [OrchestratorWorld.step, hrun]
    have hproceeded := run.proceeded viem encode (world.view run) answer
    constructor
    · intro j other input hother hinput
      rcases getElem?_set_cases hother with ⟨rfl, rfl⟩ | ⟨-, hold⟩
      · by_cases hstage : run.stage = .refreshing
        · obtain ⟨current, rfl⟩ := ConfirmRun.proceed_refreshing hstage hinput
          obtain ⟨epoch, currentBinding, nowMs, hcontext⟩ :=
            hrefreshes _ input current run rfl hrun
          rw [hcontext]
          rfl
        · exact h.carried _ run input hrun (hproceeded.refreshedInput hstage hinput)
      · exact h.carried j other input hold hinput
    · intro submission hmem
      rcases List.mem_append.mp hmem with hold | hnew
      · exact h.submitted submission hold
      · obtain ⟨prepared, signature, permit, hstage, rfl⟩ := ConfirmStage.mem_submission hnew
        exact h.carried i run prepared.refreshedInput hrun (by rw [hstage]; rfl)

/-- In every run, whatever the delays, a submission was marked before the deadline
that was reserved with its nonce and that the exchange is given, and at the time of the
refreshed action that was compared with its review the review had not expired. -/
theorem submissions_in_time (viem : Viem) (encode : MessagePack) (events : List OrchestratorEvent)
    (hrefreshes : Along (step viem encode) RefreshesReview create events) :
    ∀ submission ∈ (Library.run (step viem encode) create events).submissions,
      (∃ now, MarkedAt viem encode events submission.prepared now ∧
        now < submission.request.expiresAfter) ∧
      submission.prepared.refreshedInput.context.nowMs <
        submission.review.validation.context.reviewExpiresAtMs := by
  intro submission hmem
  obtain ⟨⟨now, hmarked, hnow⟩, hexpires⟩ :=
    (Timely.run viem encode events).submitted submission hmem
  have hreviewed := (Faithful.run viem encode events).submissions submission hmem
  have hexpiring : Expiring (Library.run (step viem encode) create events) :=
    run_invariant_along (fun _ event h => h.step viem encode event)
      ⟨fun _ _ _ hrun => by (cases hrun), fun _ hnone => absurd hnone List.not_mem_nil⟩ hrefreshes
  refine ⟨⟨now, hmarked, ?_⟩, ?_⟩
  · rw [hexpires]
    exact hnow
  · rw [← hexpiring.submitted submission hmem]
    exact validateTradingAction_unexpired hreviewed.same.validated

/-- A purchase whose review expires at 2000, and which is signed and marked
at 3000. -/
def lateSubmission : List OrchestratorEvent :=
  buyReservation ++
    [.answer 0 (.signed
      { signature := .ok
          { r := "0x1111111111111111111111111111111111111111111111111111111111111111"
            s := "0x2222222222222222222222222222222222222222222222222222222222222222"
            v := 27 }
        current := .ok true
        now := .ok 3000
        fault := none }), .answer 0 .consumed]

theorem run_lateSubmission : ∃ submission ∈ (Library.run
    (step buyViem Json.messagePack) create lateSubmission).submissions,
    submission.review.validation.context.reviewExpiresAtMs = 2000 := by
  have hexpires : (Library.run (step buyViem Json.messagePack) create
      lateSubmission).submissions.map
        (fun submission => submission.review.validation.context.reviewExpiresAtMs) =
      [2000] := by
    decide +kernel
  exact List.mem_map.mp (hexpires ▸ List.mem_cons_self)

theorem lateSubmission_refreshes :
    Along (step buyViem Json.messagePack) RefreshesReview create lateSubmission := by
  have hother : ∀ world event, (∀ i input current,
      event ≠ .answer i (.refreshed (.ok input) current)) → RefreshesReview world event :=
    fun _ _ hevent i input current _ h _ => absurd h (hevent i input current)
  refine (along_append _ _ _ _ _).mpr ⟨(along_append _ _ _ _ _).mpr
    ⟨⟨?_, ?_, ?_, trivial⟩, hother _ _ ?_, trivial⟩, hother _ _ ?_, hother _ _ ?_, trivial⟩
  · exact hother _ _ fun _ _ _ => OrchestratorEvent.noConfusion
  · exact hother _ _ fun _ _ _ => OrchestratorEvent.noConfusion
  · rintro i input current run hevent hrun
    cases hevent
    have hreviewed : ((Library.run (step buyViem Json.messagePack) create
        (buyRefreshed.take 2)).runs[0]?.map fun run => run.review.validation.context) =
          some (buyInput "60000" "60300" firstCloid).context := by decide +kernel
    have hcontext : run.review.validation.context = (buyInput "60000" "60300" firstCloid).context :=
      Option.some.inj ((congrArg (Option.map _) hrun).symm.trans hreviewed)
    refine ⟨1, sampleBinding, 1500, ?_⟩
    rw [refreshedContext, hcontext]
    rfl
  all_goals
    intro i input current h
    cases h

theorem submissions_in_time_late : ∃ submission ∈ (Library.run
    (step buyViem Json.messagePack) create lateSubmission).submissions,
    (∃ now, MarkedAt buyViem Json.messagePack lateSubmission submission.prepared now ∧
      now < submission.request.expiresAfter) ∧
    submission.prepared.refreshedInput.context.nowMs <
      submission.review.validation.context.reviewExpiresAtMs := by
  obtain ⟨submission, hmem, -⟩ := run_lateSubmission
  exact ⟨submission, hmem, submissions_in_time buyViem Json.messagePack lateSubmission
    lateSubmission_refreshes submission hmem⟩

/-- The clock may pass the review while the refresh and the marker are awaited. -/
theorem lateSubmission_expired :
    ¬ ∀ (viem : Viem) (encode : MessagePack) (events : List OrchestratorEvent),
      ∀ submission ∈ (Library.run (step viem encode) create events).submissions,
        ∃ now, MarkedAt viem encode events submission.prepared now ∧
          now < submission.review.validation.context.reviewExpiresAtMs ∧
          now < submission.request.expiresAfter := by
  intro hclaim
  obtain ⟨submission, hsubmission, hexpires⟩ := run_lateSubmission
  obtain ⟨now, ⟨before, i, run, answers, after, hevents, -, -, hnow, -⟩, hbefore, -⟩ :=
    hclaim buyViem Json.messagePack lateSubmission submission hsubmission
  -- one mark is made in the run
  have hsigned : OrchestratorEvent.answer i (.signed answers) ∈ lateSubmission := by
    rw [hevents]
    exact List.mem_append_right _ List.mem_cons_self
  simp only [lateSubmission, buyReservation, buyRefreshed, buyConfirm, List.mem_append,
    List.mem_cons, List.not_mem_nil, reduceCtorEq, OrchestratorEvent.answer.injEq,
    ConfirmAnswer.signed.injEq, and_false, or_false, false_or] at hsigned
  obtain ⟨-, rfl⟩ := hsigned
  cases hnow
  rw [hexpires] at hbefore
  exact absurd hbefore (by decide)

end OrchestratorWorld

end HyperTrader
