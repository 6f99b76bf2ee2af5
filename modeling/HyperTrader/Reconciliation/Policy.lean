import HyperTrader.Journal.Record

/-!
# The reconciliation policy

`decideReconciliation` decides from a record and the evidence observed about it
whether the record is settled and how. The decision never reads a clock: the
only time it knows is the server time the evidence carries, and an order counts
as expired only when that time is past the expiry of the action.
-/

namespace HyperTrader

open Library

inductive ObservedOrderStatus where
  | open
  | filled
  | canceled
  | triggered
  | rejected
  deriving DecidableEq

structure ObservedOrderIdentity where
  assetId : ℤ
  oid : ℤ
  cloid : Option String
  deriving DecidableEq

inductive ObservedOrderEvidence where
  | unknown
  | malformed
  | order (identity : ObservedOrderIdentity) (status : ObservedOrderStatus)
  deriving DecidableEq

structure ObservedPositionEvidence where
  assetId : ℤ
  size : String

structure ObservedLeverageEvidence where
  assetId : ℤ
  leverage : ℤ
  marginMode : MarginMode
  causallyAttributed : Bool

/-- `ReconciliationEvidence.context` -/
structure ReconciliationContext where
  network : HyperliquidNetwork
  masterAccount : String
  targetAccount : String
  assetId : Option ℤ

structure ReconciliationEvidence where
  context : ReconciliationContext
  serverTimeMs : ℤ
  complete : Bool
  order : ObservedOrderEvidence
  openOrders : List ObservedOrderIdentity
  fills : List ObservedOrderIdentity
  position : Option ObservedPositionEvidence
  leverage : Option ObservedLeverageEvidence
  stateVersion : ℤ
  definitiveRejection : Bool

inductive ReconciledState where
  | accepted
  | rejected
  | expired
  | reconciledAmbiguous
  deriving DecidableEq

def ReconciledState.journalState : ReconciledState → JournalState
  | accepted => .accepted
  | rejected => .rejected
  | expired => .expired
  | reconciledAmbiguous => .reconciledAmbiguous

inductive UnresolvedReason where
  | incompleteEvidence
  | beforeExpiry
  | actionStillPending
  deriving DecidableEq

inductive ReconciliationDecision where
  | terminal (state : ReconciledState)
  | unresolved (reason : UnresolvedReason)
  deriving DecidableEq

def normalizeEvidenceAddress (viem : Viem) (value path : String) : Outcome String :=
  (viem.getAddress value).elim
    (.error (.validation path "expected a 20-byte Ethereum address"))
    fun checksummed => .ok (asciiLower checksummed)

def safeTime (value : ℤ) (path : String) : Outcome Unit :=
  require (isSafeInteger value ∧ 0 ≤ value)
    (.validation path "expected a non-negative safe integer")

def crossedContext : Failure :=
  .validation "evidence.context"
    "reconciliation evidence crossed an action context"

def assertContext (viem : Viem) (record : PreparedActionRecord)
    (evidence : ReconciliationEvidence) : Outcome Unit := do
  require (record.network = evidence.context.network) crossedContext
  let master ← normalizeEvidenceAddress viem record.masterAccount
    "record.masterAccount"
  let evidenceMaster ← normalizeEvidenceAddress viem
    evidence.context.masterAccount "evidence.masterAccount"
  require (master = evidenceMaster) crossedContext
  let target ← normalizeEvidenceAddress viem record.targetAccount
    "record.targetAccount"
  let evidenceTarget ← normalizeEvidenceAddress viem
    evidence.context.targetAccount "evidence.targetAccount"
  require (target = evidenceTarget) crossedContext
  require (record.assetId = evidence.context.assetId) crossedContext
  safeTime record.expiresAfterMs "record.expiresAfterMs"
  safeTime evidence.serverTimeMs "evidence.serverTimeMs"
  safeTime evidence.stateVersion "evidence.stateVersion"

def sameIdentity (record : PreparedActionRecord) (identity : ObservedOrderIdentity) : Bool :=
  record.assetId == some identity.assetId &&
    match record.cloid with
    | some cloid => identity.cloid.map asciiLower == some (asciiLower cloid)
    | none => record.targetOid == some identity.oid

def exactObservedOrder (record : PreparedActionRecord) :
    ObservedOrderEvidence → Option ObservedOrderStatus
  | .order identity status =>
    if sameIdentity record identity then some status else none
  | .unknown => none
  | .malformed => none

def atOrAfterExpiry (record : PreparedActionRecord) (evidence : ReconciliationEvidence) : Bool :=
  decide (record.expiresAfterMs < evidence.serverTimeMs)

/-- The evidence shows the order of the record on the book, filled, or in any
status but `rejected`. -/
def hasAcceptance (record : PreparedActionRecord) (evidence : ReconciliationEvidence) : Bool :=
  ((exactObservedOrder record evidence.order).any fun status => status != .rejected) ||
    evidence.openOrders.any (sameIdentity record) ||
    evidence.fills.any (sameIdentity record)

def hasRejection (record : PreparedActionRecord) (evidence : ReconciliationEvidence) : Bool :=
  exactObservedOrder record evidence.order == some .rejected ||
    evidence.definitiveRejection

def decideCreate (record : PreparedActionRecord)
    (evidence : ReconciliationEvidence) : Outcome ReconciliationDecision := do
  require (record.cloid.isSome = true)
    (.validation "record.cloid" "order creation requires an immutable cloid")
  if hasAcceptance record evidence && hasRejection record evidence then
    pure (.terminal .reconciledAmbiguous)
  else if hasRejection record evidence then
    pure (.terminal .rejected)
  else if hasAcceptance record evidence then
    pure (.terminal .accepted)
  else if !atOrAfterExpiry record evidence then
    pure (.unresolved .beforeExpiry)
  else
    pure (.terminal .expired)

def decideCancel (record : PreparedActionRecord)
    (evidence : ReconciliationEvidence) : Outcome ReconciliationDecision := do
  require (record.cloid.isNone ≠ record.targetOid.isNone)
    (.validation "record.cancelTarget" "cancel requires exactly one immutable order identity")
  let status := exactObservedOrder record evidence.order
  if evidence.definitiveRejection then
    pure (.terminal .rejected)
  else if status == some .canceled || status == some .filled ||
      status == some .triggered then
    pure (.terminal .accepted)
  else if evidence.openOrders.any (sameIdentity record) then
    if atOrAfterExpiry record evidence then pure (.terminal .expired)
    else pure (.unresolved .actionStillPending)
  else if record.normalizedSecretFreeIntent.flag
        "targetObservedBeforeSubmission" == some true &&
      evidence.order == .unknown then
    pure (.terminal .accepted)
  else if atOrAfterExpiry record evidence then
    pure (.terminal .reconciledAmbiguous)
  else
    pure (.unresolved .beforeExpiry)

def closedReviewedPosition (record : PreparedActionRecord)
    (evidence : ReconciliationEvidence) : Bool :=
  (evidence.position.any fun position =>
    record.assetId == some position.assetId && position.size == "0") &&
  (record.normalizedSecretFreeIntent.text "reviewedPositionSize").any
    fun size => size != "0"

def decideClose (record : PreparedActionRecord)
    (evidence : ReconciliationEvidence) : Outcome ReconciliationDecision := do
  let orderDecision ← decideCreate record evidence
  if orderDecision == .terminal .accepted ||
      orderDecision == .terminal .rejected then
    pure orderDecision
  else if closedReviewedPosition record evidence then
    pure (.terminal .reconciledAmbiguous)
  else
    pure orderDecision

/-- The leverage a stored intent asks for, its margin mode, and the account
state it was reviewed against. -/
def reviewedLeverage (intent : Json) : Option (ℤ × MarginMode × ℤ) := do
  let leverage ← intent.integer "leverage"
  let mode ← intent.text "marginMode"
  let marginMode ←
    if mode = "cross" then some MarginMode.cross
    else if mode = "isolated" then some MarginMode.isolated
    else none
  let stateVersion ← intent.integer "reviewedAccountStateVersion"
  guard (isSafeInteger leverage ∧ isSafeInteger stateVersion ∧ 0 ≤ stateVersion)
  pure (leverage, marginMode, stateVersion)

def decideLeverage (record : PreparedActionRecord)
    (evidence : ReconciliationEvidence) : ReconciliationDecision :=
  if evidence.definitiveRejection then .terminal .rejected
  else
    match reviewedLeverage record.normalizedSecretFreeIntent with
    | none => .unresolved .incompleteEvidence
    | some (leverage, marginMode, reviewedStateVersion) =>
      match evidence.leverage.filter fun observed =>
          record.assetId == some observed.assetId &&
            observed.leverage == leverage &&
            observed.marginMode == marginMode with
      | some observed =>
        if observed.causallyAttributed then .terminal .accepted
        else .terminal .reconciledAmbiguous
      | none =>
        if !atOrAfterExpiry record evidence then .unresolved .beforeExpiry
        else if reviewedStateVersion < evidence.stateVersion then
          .terminal .expired
        else .unresolved .incompleteEvidence

def decideReconciliation (viem : Viem) (record : PreparedActionRecord)
    (evidence : ReconciliationEvidence) : Outcome ReconciliationDecision := do
  assertContext viem record evidence
  if !evidence.complete || evidence.order == .malformed then
    pure (.unresolved .incompleteEvidence)
  else
    match record.actionType with
    | .marketOrder => decideCreate record evidence
    | .limitOrder => decideCreate record evidence
    | .positionTpsl => decideCreate record evidence
    | .reduceOnlyClose => decideClose record evidence
    | .cancel => decideCancel record evidence
    | .updateLeverage => pure (decideLeverage record evidence)
    | .bulkCancel =>
      throw (.validation "record.actionType" "bulk cancel is not a U7 public action")

/-- The action types that put an order of the record's own on the book. -/
def JournalActionType.createsOrder : JournalActionType → Bool
  | .marketOrder => true
  | .limitOrder => true
  | .positionTpsl => true
  | .reduceOnlyClose => true
  | .cancel => false
  | .bulkCancel => false
  | .updateLeverage => false

variable {record : PreparedActionRecord} {evidence : ReconciliationEvidence}

theorem decideCreate_expired (h : decideCreate record evidence = .ok (.terminal .expired)) :
    hasAcceptance record evidence = false ∧
      hasRejection record evidence = false ∧
      record.expiresAfterMs < evidence.serverTimeMs := by
  unfold decideCreate at h
  simp only [except_bind_eq_ok, require_eq_ok] at h
  obtain ⟨-, -, h⟩ := h
  cases haccepted : hasAcceptance record evidence with
  | true =>
    cases hrejected : hasRejection record evidence with
    | true => simp [haccepted, hrejected, pure, Except.pure] at h
    | false => simp [haccepted, hrejected, pure, Except.pure] at h
  | false =>
    cases hrejected : hasRejection record evidence with
    | true => simp [haccepted, hrejected, pure, Except.pure] at h
    | false =>
      refine ⟨rfl, rfl, ?_⟩
      by_contra hlate
      simp [haccepted, hrejected, atOrAfterExpiry, hlate, pure, Except.pure] at h

theorem decideReconciliation_expired {viem : Viem}
    (hcreates : record.actionType.createsOrder = true)
    (h : decideReconciliation viem record evidence = .ok (.terminal .expired)) :
    evidence.order ≠ .malformed ∧ hasAcceptance record evidence = false ∧
      hasRejection record evidence = false ∧
      record.expiresAfterMs < evidence.serverTimeMs := by
  unfold decideReconciliation at h
  simp only [except_bind_eq_ok] at h
  obtain ⟨-, -, h⟩ := h
  split at h
  · simp [pure, Except.pure] at h
  · rename_i hread
    simp only [Bool.or_eq_true, Bool.not_eq_true', beq_iff_eq, not_or] at hread
    refine ⟨hread.2, ?_⟩
    cases htype : record.actionType with
    | marketOrder => exact decideCreate_expired (by simpa [htype] using h)
    | limitOrder => exact decideCreate_expired (by simpa [htype] using h)
    | positionTpsl => exact decideCreate_expired (by simpa [htype] using h)
    | reduceOnlyClose =>
      simp only [htype, decideClose, except_bind_eq_ok] at h
      obtain ⟨decision, hdecision, h⟩ := h
      have hsame : decision = .terminal .expired := by
        split at h
        · simpa [pure, Except.pure] using h
        split at h
        · simp [pure, Except.pure] at h
        · simpa [pure, Except.pure] using h
      exact decideCreate_expired (hsame ▸ hdecision)
    | cancel => simp [JournalActionType.createsOrder, htype] at hcreates
    | bulkCancel => simp [JournalActionType.createsOrder, htype] at hcreates
    | updateLeverage => simp [JournalActionType.createsOrder, htype] at hcreates

end HyperTrader
