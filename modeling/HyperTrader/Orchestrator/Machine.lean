import HyperTrader.Journal.Marker
import HyperTrader.Library.Machine
import HyperTrader.Library.Processes
import HyperTrader.Orchestrator.Confirm

/-!
# The orchestrator machine

One journal, the repositories that write it, the orchestrators with their flows,
and the confirmations under way. An event is a call of `confirm` or `reset`, the
end of an await of a confirmation, a call of a repository by anyone else, or the
end of the process, in any order; what a port answers, or throws, comes with it. A
part that throws and `reconcileFailure` are two events, so the process may end in
between. The machine keeps the records that were reserved, the permits that were
handed out and the submissions that were made.
-/

namespace HyperTrader

open Library

inductive ConfirmStage where
  | refreshing
  | unlocking (refreshedInput : TradingActionValidationInput)
      (refreshed : ValidatedTradingAction)
  | signing (prepared : PreparedSubmission)
  | permitted (prepared : PreparedSubmission) (signature : Eip712Signature)
      (permit : TransportWritePermit)
  | submitting (prepared : PreparedSubmission)
  | failing (error : Failure)
  | reconciling (journalId : String) (port : PortStage)
  | finished

/-- A call of `confirm`: what it runs on, and where it is. An orchestrator without
a reconciliation port makes no attempts. -/
structure ConfirmRun where
  orchestrator : ℕ
  repository : ℕ
  attempts : ℕ
  generation : ℤ
  review : ActionReviewSnapshot
  journalId : Option String
  stage : ConfirmStage

inductive ConfirmAnswer where
  | refreshed (result : Outcome TradingActionValidationInput)
      (current : Outcome Bool)
  | unlocked (answers : Confirming.UnlockAnswers)
  | signed (answers : Confirming.SignAnswers)
  | consumed
  | answered (answers : Confirming.SubmitAnswers)
  | recovered (answers : Confirming.RecoveryAnswers)
  | portRead (shouldContinue : Outcome Bool) (fault : Option Failure)
  | portAttempted (shouldContinue : Outcome Bool) (faults : ReconcilerFaults)
      (owner : String) (now : ℤ)
  | portResumed (faults : ReconcilerFaults) (owner : String) (now : ℤ)
      (evidence : Outcome ReconciliationEvidence)
  | portReturned

/-- A record that was reserved for a refreshed action, and the journal before it
was. -/
structure Reservation where
  review : ActionReviewSnapshot
  refreshedInput : TradingActionValidationInput
  refreshed : ValidatedTradingAction
  journalId : String
  before : Database

structure Submission where
  review : ActionReviewSnapshot
  prepared : PreparedSubmission
  request : SignedExchangeRequest

def Submission.journalId (submission : Submission) : String :=
  submission.prepared.record.journalId

structure OrchestratorWorld where
  database : Database
  reservations : ℕ → String → Option ℤ
  flows : ℕ → ActionFlowState
  runs : List ConfirmRun
  reserved : List Reservation
  permits : List String
  submissions : List Submission

inductive OrchestratorEvent where
  | confirm (orchestrator repository attempts : ℕ) (input : ActionReviewInput)
      (current : Outcome Bool)
  | answer (i : ℕ) (answer : ConfirmAnswer)
  | reset (orchestrator : ℕ)
  | call (repository : ℕ) (call : RepositoryCall)
  | crash

namespace ConfirmStage

def after {α : Type} (next : α → ConfirmStage) :
    Outcome α × ConfirmState → ConfirmStage × ConfirmState
  | (.ok a, s) => (next a, s)
  | (.error error, s) => (.failing error, s)

/-- Where a part of the reconciliation port leads; what it throws is dropped. -/
def afterPort (journalId : String) :
    Outcome PortStage × ConfirmState → ConfirmStage × ConfirmState
  | (.ok port, s) => (.reconciling journalId port, s)
  | (.error _, s) => (.finished, s)

/-- Where `reconcileFailure` leads: a flow it leaves reconciling is handed to the
reconciliation port. -/
def afterRecovery (attempts : ℕ) :
    Outcome Unit × ConfirmState → ConfirmStage × ConfirmState
  | (.ok _, s) =>
    if s.flow.phase = .reconciling then
      match s.flow.journalId with
      | some journalId => (.reconciling journalId (.head attempts), s)
      | none => (.finished, s)
    else (.finished, s)
  | (.error _, s) => (.finished, s)

end ConfirmStage

namespace ConfirmRun

def publish (run : ConfirmRun) (journalId : String) :
    Option ReconciledActionPhase → Confirming Unit
  | none => pure ()
  | some phase =>
    Confirming.dispatch (.terminal run.generation journalId phase none)

/-- The confirmation goes on with an answer; one it does not wait for changes
nothing. -/
def proceed (viem : Viem) (encode : MessagePack) (run : ConfirmRun)
    (s : ConfirmState) : ConfirmAnswer → ConfirmStage × ConfirmState
  | .refreshed result current =>
    match run.stage with
    | .refreshing => ConfirmStage.after (fun r => .unlocking r.1 r.2)
        (Confirming.refreshed viem run.review run.generation result current s)
    | stage => (stage, s)
  | .unlocked answers =>
    match run.stage with
    | .unlocking refreshedInput refreshed => ConfirmStage.after .signing
        (Confirming.unlocked viem encode run.review run.generation
          refreshedInput refreshed answers s)
    | stage => (stage, s)
  | .signed answers =>
    match run.stage with
    | .signing prepared =>
      ConfirmStage.after (fun r => .permitted prepared r.1 r.2)
        (Confirming.signed run.review run.generation prepared answers s)
    | stage => (stage, s)
  | .consumed =>
    match run.stage with
    | .permitted prepared _ permit =>
      ConfirmStage.after (fun _ => .submitting prepared) (permit.consume.1, s)
    | stage => (stage, s)
  | .answered answers =>
    match run.stage with
    | .submitting prepared =>
      ConfirmStage.after
        (fun unresolved => if unresolved then
            .reconciling prepared.record.journalId (.head run.attempts) else .finished)
        (Confirming.submitted run.generation prepared answers s)
    | stage => (stage, s)
  | .recovered answers =>
    match run.stage with
    | .failing error => ConfirmStage.afterRecovery run.attempts
        (Confirming.reconcileFailure run.generation error answers s)
    | stage => (stage, s)
  | .portRead shouldContinue fault =>
    match run.stage with
    | .reconciling journalId (.head attempts) =>
      ConfirmStage.afterPort journalId (Confirming.onRepository
        (PortStage.next shouldContinue fault journalId attempts) s)
    | stage => (stage, s)
  | .portAttempted shouldContinue faults owner now =>
    match run.stage with
    | .reconciling journalId (.ready attempts) =>
      ConfirmStage.afterPort journalId (Confirming.onRepository
        (PortStage.attempt shouldContinue faults owner now journalId attempts) s)
    | stage => (stage, s)
  | .portResumed faults owner now evidence =>
    match run.stage with
    | .reconciling journalId (.claimed attempts record lease) =>
      ConfirmStage.afterPort journalId (Confirming.onRepository
        (PortStage.resume viem faults owner now attempts record lease evidence) s)
    | stage => (stage, s)
  | .portReturned =>
    match run.stage with
    | .reconciling journalId (.returned phase) =>
      ConfirmStage.after (fun _ => .finished) (run.publish journalId phase s)
    | stage => (stage, s)

end ConfirmRun

/-! ### What a part hands out -/

namespace ConfirmStage

def permit : ConfirmStage → ConfirmStage → Option String
  | .signing _, .permitted _ _ permit => some permit.journalId
  | _, _ => none

def submission (review : ActionReviewSnapshot) :
    ConfirmStage → ConfirmStage → Option Submission
  | .permitted prepared signature _, .submitting _ => some
      { review := review
        prepared := prepared
        request := Confirming.signedRequest prepared signature }
  | _, _ => none

end ConfirmStage

def ConfirmRun.reservation (run : ConfirmRun) (before : Database)
    (journalId : Option String) : Option Reservation :=
  match run.stage, run.journalId, journalId with
  | .unlocking refreshedInput refreshed, none, some journalId => some
      { review := run.review
        refreshedInput := refreshedInput
        refreshed := refreshed
        journalId := journalId
        before := before }
  | _, _, _ => none

namespace OrchestratorWorld

def create : OrchestratorWorld where
  database := .empty
  reservations := fun _ _ => none
  flows := fun _ => initialActionFlow
  runs := []
  reserved := []
  permits := []
  submissions := []

def view (world : OrchestratorWorld) (run : ConfirmRun) : ConfirmState where
  repository :=
    { database := world.database
      preparedInThisProcess := world.reservations run.repository }
  flow := world.flows run.orchestrator
  journalId := run.journalId

def goOn (world : OrchestratorWorld) (i : ℕ) (run : ConfirmRun)
    (stage : ConfirmStage) (s : ConfirmState) : OrchestratorWorld where
  database := s.repository.database
  reservations := Function.update world.reservations run.repository
    s.repository.preparedInThisProcess
  flows := Function.update world.flows run.orchestrator s.flow
  runs := world.runs.set i { run with journalId := s.journalId, stage := stage }
  reserved := world.reserved ++
    (run.reservation world.database s.journalId).toList
  permits := world.permits ++ (run.stage.permit stage).toList
  submissions := world.submissions ++
    (run.stage.submission run.review stage).toList

/-- The part of `confirm` that is not in its `try`: the snapshot is reviewed, its
networks may trade, and no confirmation is in progress. -/
def reviewed (viem : Viem) (world : OrchestratorWorld) (orchestrator : ℕ)
    (input : ActionReviewInput) : Outcome ActionReviewSnapshot := do
  let review ← createActionReview viem input
  assertTradingActionCapability review.binding.network
  assertTradingActionCapability review.validation.context.network
  require ((world.flows orchestrator).phase.confirmable = true)
    (.error "An action confirmation is already in progress.")
  pure review

def confirm (viem : Viem) (world : OrchestratorWorld)
    (orchestrator repository attempts : ℕ) (input : ActionReviewInput)
    (current : Outcome Bool) : OrchestratorWorld :=
  match world.reviewed viem orchestrator input with
  | .error _ => world
  | .ok review =>
    let flow := reduceActionFlow (world.flows orchestrator) .confirm
    let run : ConfirmRun :=
      { orchestrator := orchestrator
        repository := repository
        attempts := attempts
        generation := flow.generation
        review := review
        journalId := none
        stage := .refreshing }
    let state := { world.view run with flow := flow }
    let (stage, _) := ConfirmStage.after (fun _ => .refreshing)
      (Confirming.requireCurrent current state)
    { world with
      flows := Function.update world.flows orchestrator flow
      runs := world.runs ++ [{ run with stage := stage }] }

def call (viem : Viem) (world : OrchestratorWorld) (repository : ℕ)
    (call : RepositoryCall) : OrchestratorWorld :=
  if call.keepsMarkers then
    let after := perform viem
      { database := world.database
        preparedInThisProcess := world.reservations repository } call
    { world with
      database := after.database
      reservations := Function.update world.reservations repository
        after.preparedInThisProcess }
  else world

def crash (world : OrchestratorWorld) : OrchestratorWorld :=
  { world with
    reservations := fun _ _ => none
    flows := fun _ => initialActionFlow
    runs := [] }

def step (viem : Viem) (encode : MessagePack) (world : OrchestratorWorld) :
    OrchestratorEvent → OrchestratorWorld
  | .confirm orchestrator repository attempts input current =>
    world.confirm viem orchestrator repository attempts input current
  | .answer i answer =>
    match world.runs[i]? with
    | none => world
    | some run =>
      let (stage, s) := run.proceed viem encode (world.view run) answer
      world.goOn i run stage s
  | .reset orchestrator =>
    { world with
      flows := Function.update world.flows orchestrator
        (reduceActionFlow (world.flows orchestrator) .reset) }
  | .call repository call => world.call viem repository call
  | .crash => world.crash

end OrchestratorWorld

/-! ### What an event does -/

theorem ConfirmStage.after_cases {α : Type} (next : α → ConfirmStage)
    (p : Outcome α × ConfirmState) :
    (∃ a, p.1 = .ok a ∧ ConfirmStage.after next p = (next a, p.2)) ∨
      ∃ error, p.1 = .error error ∧
        ConfirmStage.after next p = (.failing error, p.2) := by
  obtain ⟨result, s⟩ := p
  cases result with
  | ok a => exact .inl ⟨a, rfl, rfl⟩
  | error error => exact .inr ⟨error, rfl, rfl⟩

inductive PortStage.Attends (viem : Viem) (journalId : String) :
    PortStage → Method PortStage → Prop
  | read (shouldContinue : Outcome Bool) (fault : Option Failure) (attempts : ℕ) :
      Attends viem journalId (.head attempts)
        (PortStage.next shouldContinue fault journalId attempts)
  | attempted (shouldContinue : Outcome Bool) (faults : ReconcilerFaults)
      (owner : String) (now : ℤ) (attempts : ℕ) :
      Attends viem journalId (.ready attempts)
        (PortStage.attempt shouldContinue faults owner now journalId attempts)
  | resumed (faults : ReconcilerFaults) (owner : String) (now : ℤ) (attempts : ℕ)
      (record : PreparedActionRecord) (lease : ReconciliationLease)
      (evidence : Outcome ReconciliationEvidence) :
      Attends viem journalId (.claimed attempts record lease)
        (PortStage.resume viem faults owner now attempts record lease evidence)

inductive ConfirmRun.Proceeded (viem : Viem) (encode : MessagePack)
    (run : ConfirmRun) (s : ConfirmState) : ConfirmStage × ConfirmState → Prop
  | ignored : Proceeded viem encode run s (run.stage, s)
  | refreshed (result : Outcome TradingActionValidationInput)
      (current : Outcome Bool) (hstage : run.stage = .refreshing) :
      Proceeded viem encode run s
        (ConfirmStage.after (fun r => .unlocking r.1 r.2)
          (Confirming.refreshed viem run.review run.generation result current s))
  | unlocked (refreshedInput : TradingActionValidationInput)
      (refreshed : ValidatedTradingAction) (answers : Confirming.UnlockAnswers)
      (hstage : run.stage = .unlocking refreshedInput refreshed) :
      Proceeded viem encode run s
        (ConfirmStage.after .signing (Confirming.unlocked viem encode run.review run.generation
            refreshedInput refreshed answers s))
  | signed (prepared : PreparedSubmission) (answers : Confirming.SignAnswers)
      (hstage : run.stage = .signing prepared) :
      Proceeded viem encode run s
        (ConfirmStage.after (fun r => .permitted prepared r.1 r.2)
          (Confirming.signed run.review run.generation prepared answers s))
  | consumed (prepared : PreparedSubmission) (signature : Eip712Signature)
      (permit : TransportWritePermit)
      (hstage : run.stage = .permitted prepared signature permit) :
      Proceeded viem encode run s
        (ConfirmStage.after (fun _ => .submitting prepared) (permit.consume.1, s))
  | answered (prepared : PreparedSubmission) (answers : Confirming.SubmitAnswers)
      (hstage : run.stage = .submitting prepared) :
      Proceeded viem encode run s
        (ConfirmStage.after (fun unresolved => if unresolved then
              .reconciling prepared.record.journalId (.head run.attempts) else .finished)
          (Confirming.submitted run.generation prepared answers s))
  | recovered (error : Failure) (answers : Confirming.RecoveryAnswers)
      (hstage : run.stage = .failing error) :
      Proceeded viem encode run s
        (ConfirmStage.afterRecovery run.attempts
          (Confirming.reconcileFailure run.generation error answers s))
  | ported (journalId : String) (port : PortStage) (method : Method PortStage)
      (hstage : run.stage = .reconciling journalId port)
      (hport : PortStage.Attends viem journalId port method) :
      Proceeded viem encode run s
        (ConfirmStage.afterPort journalId (Confirming.onRepository method s))
  | published (journalId : String) (phase : Option ReconciledActionPhase)
      (hstage : run.stage = .reconciling journalId (.returned phase)) :
      Proceeded viem encode run s
        (ConfirmStage.after (fun _ => .finished) (run.publish journalId phase s))

theorem ConfirmRun.proceeded (viem : Viem) (encode : MessagePack)
    (run : ConfirmRun) (s : ConfirmState) (answer : ConfirmAnswer) :
    run.Proceeded viem encode s (run.proceed viem encode s answer) := by
  cases answer with
  | refreshed result current =>
    rw [proceed]
    split
    · exact .refreshed result current ‹_›
    · exact .ignored
  | unlocked answers =>
    rw [proceed]
    split
    · exact .unlocked _ _ answers ‹_›
    · exact .ignored
  | signed answers =>
    rw [proceed]
    split
    · exact .signed _ answers ‹_›
    · exact .ignored
  | consumed =>
    rw [proceed]
    split
    · exact .consumed _ _ _ ‹_›
    · exact .ignored
  | answered answers =>
    rw [proceed]
    split
    · exact .answered _ answers ‹_›
    · exact .ignored
  | recovered answers =>
    rw [proceed]
    split
    · exact .recovered _ answers ‹_›
    · exact .ignored
  | portRead shouldContinue fault =>
    rw [proceed]
    split
    · exact .ported _ _ _ ‹_› (.read shouldContinue fault _)
    · exact .ignored
  | portAttempted shouldContinue faults owner now =>
    rw [proceed]
    split
    · exact .ported _ _ _ ‹_› (.attempted shouldContinue faults owner now _)
    · exact .ignored
  | portResumed faults owner now evidence =>
    rw [proceed]
    split
    · exact .ported _ _ _ ‹_› (.resumed faults owner now _ _ _ evidence)
    · exact .ignored
  | portReturned =>
    rw [proceed]
    split
    · exact .published _ _ ‹_›
    · exact .ignored

namespace OrchestratorWorld

inductive Stepped (viem : Viem) (encode : MessagePack)
    (world : OrchestratorWorld) : OrchestratorWorld → Prop
  | nothing : Stepped viem encode world world
  | confirmed (orchestrator repository attempts : ℕ) (input : ActionReviewInput)
      (review : ActionReviewSnapshot) (stage : ConfirmStage)
      (hreview : createActionReview viem input = .ok review)
      (hphase : (world.flows orchestrator).phase.confirmable = true)
      (hstage : stage = .refreshing ∨ ∃ error, stage = .failing error) :
      Stepped viem encode world
        { world with
          flows := Function.update world.flows orchestrator
            (reduceActionFlow (world.flows orchestrator) .confirm)
          runs := world.runs ++
            [{ orchestrator := orchestrator
               repository := repository
               attempts := attempts
               generation := (world.flows orchestrator).generation + 1
               review := review
               journalId := none
               stage := stage }] }
  | answered (i : ℕ) (run : ConfirmRun) (stage : ConfirmStage) (s : ConfirmState)
      (hrun : world.runs[i]? = some run)
      (h : run.Proceeded viem encode (world.view run) (stage, s)) :
      Stepped viem encode world (world.goOn i run stage s)
  | reset (orchestrator : ℕ) : Stepped viem encode world
      { world with
        flows := Function.update world.flows orchestrator
          (reduceActionFlow (world.flows orchestrator) .reset) }
  | called (database : Database) (reservations : ℕ → String → Option ℤ)
      (h : MarkersKept world.database database) : Stepped viem encode world
      { world with database := database, reservations := reservations }
  | crashed : Stepped viem encode world world.crash

theorem reviewed_eq_ok {viem : Viem} {world : OrchestratorWorld}
    {orchestrator : ℕ} {input : ActionReviewInput} {review : ActionReviewSnapshot}
    (h : world.reviewed viem orchestrator input = .ok review) :
    createActionReview viem input = .ok review ∧
      (world.flows orchestrator).phase.confirmable = true := by
  simp only [reviewed, except_bind_eq_ok, require_eq_ok, pure, Except.pure, Except.ok.injEq] at h
  obtain ⟨made, hmade, _, -, _, -, _, hphase, rfl⟩ := h
  exact ⟨hmade, hphase⟩

theorem stepped_confirm (viem : Viem) (encode : MessagePack)
    (world : OrchestratorWorld) (orchestrator repository attempts : ℕ)
    (input : ActionReviewInput) (current : Outcome Bool) :
    Stepped viem encode world
      (world.confirm viem orchestrator repository attempts input current) := by
  unfold confirm
  split
  · exact .nothing
  · rename_i review hreviewed
    obtain ⟨hreview, hphase⟩ := reviewed_eq_ok hreviewed
    have hgeneration : (reduceActionFlow (world.flows orchestrator)
        .confirm).generation = (world.flows orchestrator).generation + 1 := by
      simp [reduceActionFlow, hphase]
    dsimp only
    rw [hgeneration]
    refine .confirmed orchestrator repository attempts input review _ hreview
      hphase ?_
    rcases ConfirmStage.after_cases (fun _ => ConfirmStage.refreshing)
      (Confirming.requireCurrent current _) with ⟨_, -, h⟩ | ⟨error, -, h⟩
    · exact .inl (congrArg Prod.fst h)
    · exact .inr ⟨error, congrArg Prod.fst h⟩

/-- Every event is one of the steps of `Stepped`. -/
theorem stepped_step (viem : Viem) (encode : MessagePack)
    (world : OrchestratorWorld) (event : OrchestratorEvent) :
    Stepped viem encode world (world.step viem encode event) := by
  cases event with
  | confirm orchestrator repository attempts input current =>
    exact stepped_confirm viem encode world orchestrator repository attempts
      input current
  | answer i answer =>
    rw [step]
    cases hrun : world.runs[i]? with
    | none => exact .nothing
    | some run =>
      exact .answered i run _ _ hrun
        (run.proceeded viem encode (world.view run) answer)
  | reset orchestrator => exact .reset orchestrator
  | call repository call =>
    rw [step, OrchestratorWorld.call]
    split
    · rename_i hkeeps
      let before : Repository :=
        { database := world.database
          preparedInThisProcess := world.reservations repository }
      have hkept : MarkersKept before.database
          (perform viem before call).database := perform_markersKept hkeeps
      exact .called _ _ hkept
    · exact .nothing
  | crash => exact .crashed

end OrchestratorWorld

end HyperTrader
