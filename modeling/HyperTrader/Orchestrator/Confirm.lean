import HyperTrader.Orchestrator.Review
import HyperTrader.Reconciliation.Reconciler
import HyperTrader.Signing.Signature

/-!
# A confirmation, part by part

`confirm` cut at its awaits. A part runs on the repository, the flow and the
journal id of the confirmation, and keeps what it did before it threw; what a
port answers, or throws, is an argument. `reconcileFailure` is the part a failure
leads to, and the last parts are those of the reconciliation port.
-/

namespace HyperTrader

open Library

structure SigningRequest where
  expectedBinding : SignerBinding
  payload : L1TypedData
  capturedContextEpoch : ℤ

structure SignedExchangeRequest where
  action : Json
  nonce : ℤ
  signature : Eip712Signature
  vaultAddress : Option String
  expiresAfter : ℤ

inductive RejectionReason where
  | minimumNotional
  | providerRejected
  deriving DecidableEq

inductive UnresolvedResponse where
  | malformedResponse
  | transportUncertain
  deriving DecidableEq

inductive ExchangeSubmissionResult where
  | accepted (providerOrderIds : List ℤ)
  | rejected (reason : RejectionReason)
  | expired
  | unresolved (reason : UnresolvedResponse)
  deriving DecidableEq

structure PreparedSubmission where
  refreshedInput : TradingActionValidationInput
  refreshed : ValidatedTradingAction
  record : PreparedActionRecord
  action : ExchangeAction
  encoded : EncodedL1Action
  signing : SigningRequest

structure ConfirmState where
  repository : Repository
  flow : ActionFlowState
  journalId : Option String

abbrev Confirming (α : Type) := Action ConfirmState Failure α

namespace Confirming

def dispatch (action : ActionFlowAction) : Confirming Unit :=
  Action.modify fun s => { s with flow := reduceActionFlow s.flow action }

def advance (generation : ℤ) (phase : ActionFlowPhase)
    (journalId : Option String) : Confirming Unit :=
  dispatch (.advance generation phase journalId)

def onRepository {α : Type} (method : Method α) : Confirming α := fun s =>
  ((method s.repository).1, { s with repository := (method s.repository).2 })

def requireCurrent (current : Outcome Bool) : Confirming Unit := do
  let isCurrent ← Action.check current
  Action.check (require (isCurrent = true) (.error "The active trading context changed."))

def refreshed (viem : Viem) (review : ActionReviewSnapshot) (generation : ℤ)
    (result : Outcome TradingActionValidationInput) (current : Outcome Bool) :
    Confirming (TradingActionValidationInput × ValidatedTradingAction) := do
  let refreshedInput ← Action.check result
  requireCurrent current
  let refreshed ← Action.check (checkRefreshed viem review refreshedInput)
  advance generation .unlocking none
  pure (refreshedInput, refreshed)

structure UnlockAnswers where
  unlocked : Outcome Unit
  current : Outcome Bool
  clock : Outcome ClockGateInput
  journalId : Outcome String
  correlationId : Outcome String
  authority : ContextEpochAuthority
  fault : Option Failure
  stillCurrent : Outcome Bool

def unlocked (viem : Viem) (encode : MessagePack) (review : ActionReviewSnapshot)
    (generation : ℤ) (refreshedInput : TradingActionValidationInput)
    (refreshed : ValidatedTradingAction) (answers : UnlockAnswers) :
    Confirming PreparedSubmission := do
  Action.check answers.unlocked
  requireCurrent answers.current
  advance generation .reserving none
  let capturedContextEpoch := review.validation.context.capturedContextEpoch
  let identity ← Action.check (identityFields refreshed.intent)
  let clock ← Action.check answers.clock
  let journalId ← Action.check answers.journalId
  let correlationId ← Action.check answers.correlationId
  let preparedAction ← Action.check (preparedAction viem journalId correlationId
    refreshed refreshedInput identity)
  let prepared ← onRepository (reservePreparedAction viem answers.authority answers.fault
    { binding := review.binding
      capturedContextEpoch := capturedContextEpoch
      clock := clock
      preparedAction := preparedAction })
  Action.modify fun s => { s with journalId := some prepared.journalId }
  requireCurrent answers.stillCurrent
  advance generation .signing (some prepared.journalId)
  let action ← Action.check (buildExchangeAction refreshed.intent)
  let encoded ← Action.check (encodeL1Action viem encode
    { action := action.toJson
      nonce := prepared.nonce
      vaultAddress := review.vaultAddress
      expiresAfter := some prepared.expiresAfterMs })
  pure
    { refreshedInput := refreshedInput
      refreshed := refreshed
      record := prepared
      action := action
      encoded := encoded
      signing :=
        { expectedBinding := review.binding
          payload := buildL1TypedData review.binding.network encoded
          capturedContextEpoch := capturedContextEpoch } }

structure SignAnswers where
  signature : Outcome Eip712Signature
  current : Outcome Bool
  now : Outcome ℤ
  fault : Option Failure

def signed (review : ActionReviewSnapshot) (generation : ℤ)
    (prepared : PreparedSubmission) (answers : SignAnswers) :
    Confirming (Eip712Signature × TransportWritePermit) := do
  let signature ← Action.check answers.signature
  requireCurrent answers.current
  advance generation .submissionStart (some prepared.record.journalId)
  Action.check (assertTradingActionCapability review.binding.network)
  let now ← Action.check answers.now
  let receipt ← onRepository (markSubmissionStarted answers.fault prepared.record.journalId now)
  advance generation .submitting (some prepared.record.journalId)
  pure (signature, receipt.transportPermit)

def signedRequest (prepared : PreparedSubmission) (signature : Eip712Signature) :
    SignedExchangeRequest where
  action := prepared.action.toJson
  nonce := prepared.record.nonce
  signature := signature
  vaultAddress := prepared.encoded.vaultAddress
  expiresAfter := prepared.record.expiresAfterMs

def closeRejectedMessage : String :=
  "Hyperliquid did not execute this close. The position or market may have changed. Refresh and try again."

def cancelRejectedMessage : String :=
  "Hyperliquid did not cancel this order. Refresh open orders before trying again."

def rejectionMessage (reason : RejectionReason) (actionType : JournalActionType) : Option String :=
  if reason = .minimumNotional then some minimumOrderNotionalMessage
  else if actionType = .reduceOnlyClose then some closeRejectedMessage
  else if actionType = .cancel then some cancelRejectedMessage
  else none

structure SubmitAnswers where
  result : Outcome ExchangeSubmissionResult
  now : Outcome ℤ
  fault : Option Failure

def settled (generation : ℤ) (prepared : PreparedSubmission)
    (answers : SubmitAnswers) (state : JournalState)
    (resultClass : JournalResultClass) (phase : ReconciledActionPhase)
    (message : Option String) : Confirming Unit := do
  let now ← Action.check answers.now
  let _ ← onRepository (transitionAction answers.fault prepared.record.journalId
    state (some resultClass) now)
  dispatch (.terminal generation prepared.record.journalId phase message)

def submitted (generation : ℤ) (prepared : PreparedSubmission)
    (answers : SubmitAnswers) : Confirming Bool := do
  match ← Action.check answers.result with
  | .unresolved _ => do
      let now ← Action.check answers.now
      let _ ← onRepository (transitionAction answers.fault
        prepared.record.journalId .unresolved (some .unresolved) now)
      dispatch (.unresolved generation prepared.record.journalId)
      pure true
  | .accepted _ => do
      settled generation prepared answers .accepted .accepted .accepted none
      pure false
  | .rejected reason => do
      settled generation prepared answers .rejected .rejected .rejected
        (rejectionMessage reason prepared.refreshed.intent.type)
      pure false
  | .expired => do
      settled generation prepared answers .expired .expired .expired none
      pure false

/-- The phase of a terminal state, but for an abandoned record:
`terminalPhase`. -/
def terminalPhase : JournalState → Option ReconciledActionPhase
  | .accepted => some .accepted
  | .rejected => some .rejected
  | .expired => some .expired
  | .reconciledAmbiguous => some .ambiguous
  | _ => none

def reflectDurable (generation : ℤ) (record : PreparedActionRecord) :
    Confirming Unit := do
  let s ← Action.get
  if s.flow.phase = .submissionStart then
    advance generation .submitting (some record.journalId)
  if record.state.reconcilable then
    dispatch (.unresolved generation record.journalId)
  else
    match terminalPhase record.state with
    | none => pure ()
    | some phase => dispatch (.terminal generation record.journalId phase none)

structure RecoveryAnswers where
  read : Option Failure
  now : Outcome ℤ
  write : Option Failure
  reread : Option Failure

def reread (fault : Option Failure) (record : PreparedActionRecord) :
    Confirming PreparedActionRecord := do
  let found ← onRepository (getAction fault record.journalId)
  pure (found.getD record)

/-- The record in its next state, or, when the transition throws, as it is;
and whether the transition was made. -/
def settleOrReread (answers : RecoveryAnswers) (record : PreparedActionRecord)
    (next : JournalState) (resultClass : Option JournalResultClass) :
    Confirming (PreparedActionRecord × Bool) :=
  Action.handle
    (do
      let now ← Action.check answers.now
      let record ← onRepository (transitionAction answers.write record.journalId
        next resultClass now)
      pure (record, true))
    (do
      let record ← reread answers.reread record
      pure (record, false))

def failBeforeSubmission (generation : ℤ) (journalId : Option String)
    (error : Failure) : Confirming Unit := do
  let s ← Action.get
  dispatch (.failBeforeSubmission generation journalId
    (preSubmissionFailureMessage s.flow.phase error))

def reconcileRecord (generation : ℤ) (error : Failure) (answers : RecoveryAnswers)
    (record : PreparedActionRecord) : Confirming Unit := do
  match record.state with
  | .submissionStarted => do
      let (record, _) ← settleOrReread answers record .unresolved (some .unresolved)
      reflectDurable generation record
  | .unresolved | .accepted | .rejected | .expired | .reconciledAmbiguous =>
    reflectDurable generation record
  | .prepared => do
      let (record, settled) ←
        settleOrReread answers record .abandonedBeforeSubmission none
      -- a record read again is shown as it is unless it is still prepared
      if (settled = false ∧ record.state ≠ .prepared) ∨ record.state.reconcilable then
        reflectDurable generation record
      else
        failBeforeSubmission generation (some record.journalId) error
  | .abandonedBeforeSubmission =>
    failBeforeSubmission generation (some record.journalId) error

def reconcileFailure (generation : ℤ) (error : Failure)
    (answers : RecoveryAnswers) : Confirming Unit := do
  let s ← Action.get
  match s.journalId with
  | none => failBeforeSubmission generation none error
  | some journalId =>
    match ← onRepository (getAction answers.read journalId) with
    | none => failBeforeSubmission generation none error
    | some record => reconcileRecord generation error answers record

end Confirming

/-- Where a call of the port is: before an attempt, with the attempts that are
left, after its wait, waiting for evidence, or at its result. -/
inductive PortStage where
  | head (attempts : ℕ)
  | ready (attempts : ℕ)
  | claimed (attempts : ℕ) (record : PreparedActionRecord)
      (lease : ReconciliationLease)
  | returned (phase : Option ReconciledActionPhase)

namespace PortStage

def reconciledPhase : ReconciledState → ReconciledActionPhase
  | .accepted => .accepted
  | .rejected => .rejected
  | .expired => .expired
  | .reconciledAmbiguous => .ambiguous

def afterResult (attempts : ℕ) : ActionReconcilerResult → PortStage
  | .decided (.terminal state) => .returned (some (reconciledPhase state))
  | .decided (.unresolved _) => .head attempts
  | .alreadyTerminal state => .returned (Confirming.terminalPhase state)
  | .notReconcilable => .returned none
  | .leaseLost => .head attempts

def next (shouldContinue : Outcome Bool) (fault : Option Failure)
    (journalId : String) : ℕ → Method PortStage
  | 0 => pure (.returned none)
  | attempts + 1 => do
      let continues ← Action.check shouldContinue
      if continues then do
        match ← getAction fault journalId with
        | none => pure (.returned none)
        | some record =>
          match Confirming.terminalPhase record.state with
          | some phase => pure (.returned (some phase))
          | none =>
            if record.state.reconcilable then pure (.ready attempts)
            else pure (.returned none)
      else pure (.returned none)

def attempt (shouldContinue : Outcome Bool) (faults : ReconcilerFaults)
    (owner : String) (now : ℤ) (journalId : String) (attempts : ℕ) :
    Method PortStage := do
  let continues ← Action.check shouldContinue
  if continues then do
    match ← HyperTrader.reconcile faults owner now journalId with
    | .finished result => pure (afterResult attempts result)
    | .claimed record lease => pure (.claimed attempts record lease)
  else pure (.returned none)

def resume (viem : Viem) (faults : ReconcilerFaults) (owner : String) (now : ℤ)
    (attempts : ℕ) (record : PreparedActionRecord) (lease : ReconciliationLease)
    (evidence : Outcome ReconciliationEvidence) : Method PortStage := do
  let result ← reconcileClaim viem faults owner now record lease evidence
  pure (afterResult attempts result)

end PortStage

end HyperTrader
