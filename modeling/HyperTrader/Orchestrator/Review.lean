import HyperTrader.Actions.Codec
import HyperTrader.Nonce.Repository
import HyperTrader.Orchestrator.Flow

/-!
# Reviews

What the user reviewed, and what a confirmation compares with it after the
market and the account have been read again: the context, the controls and the
intent, where only the derived price of an order executed at once may differ.
-/

namespace HyperTrader

open Library

/-- `ActionReviewSnapshot`, but for its presentation. -/
structure ActionReviewSnapshot where
  binding : SignerBinding
  validation : TradingActionValidationInput
  validated : ValidatedTradingAction
  vaultAddress : Option String
  deriving DecidableEq

/-- The input of `createActionReview`. The vault address may be left out, and it
may be `null`. -/
structure ActionReviewInput where
  binding : SignerBinding
  capturedContextEpoch : ℤ
  validation : TradingActionValidationInput
  vaultAddress : Option (Option String)

def assertSuppliedVault (viem : Viem) (binding : SignerBinding)
    (requiredVaultAddress : Option String) (supplied : Option (Option String)) : Outcome Unit :=
  match supplied with
  | none => pure ()
  | some vaultAddress => do
      let suppliedVaultAddress ← match vaultAddress with
        | none => pure none
        | some address => do
            let normal ← normalizeSignerBinding viem
              { binding with targetAccount := address }
            pure (some normal.targetAccount)
      require (suppliedVaultAddress = requiredVaultAddress)
        (.error "The vault address does not match the exact reviewed target.")

def createActionReview (viem : Viem) (input : ActionReviewInput) :
    Outcome ActionReviewSnapshot := do
  assertTradingActionCapability input.validation.context.network
  let binding ← normalizeSignerBinding viem input.binding
  assertTradingActionCapability binding.network
  require (input.capturedContextEpoch = input.validation.context.capturedContextEpoch)
    (.error "The review does not match its captured context epoch.")
  assertSignerBinding viem binding
    { network := input.validation.context.network
      masterAccount := input.validation.context.masterAccount
      targetAccount := input.validation.context.targetAccount
      agentAddress := binding.agentAddress
      generation := binding.generation }
  let requiredVaultAddress :=
    if binding.masterAccount = binding.targetAccount then none
    else some binding.targetAccount
  assertSuppliedVault viem binding requiredVaultAddress input.vaultAddress
  let validated ← validateTradingAction viem input.validation
  pure
    { binding := binding
      validation := { input.validation with intent := validated.intent }
      validated := validated
      vaultAddress := requiredVaultAddress }

def currentBinding (review : ActionReviewSnapshot)
    (validation : TradingActionValidationInput) : SignerBinding where
  network := validation.context.network
  masterAccount := validation.context.masterAccount
  targetAccount := validation.context.targetAccount
  agentAddress := review.binding.agentAddress
  generation := review.binding.generation

def storedIntent (validated : ValidatedTradingAction)
    (validation : TradingActionValidationInput) : Json :=
  .object (validated.intent.allFields ++
    [("marketCanonicalId", .string validated.marketCanonicalId),
      ("reviewedAccountStateVersion", .number validated.accountStateVersion)] ++
    (validation.account.positionSize.map fun size =>
      ("reviewedPositionSize", Json.string size)).toList ++ if validated.intent.type = .cancel then
      [("targetObservedBeforeSubmission", .bool true)] else [])

def digest (viem : Viem) (value : Json) : Outcome String := do
  let text ← serializeSecretFreeIntent value
  pure (viem.keccak256 text)

def fingerprintSource (validated : ValidatedTradingAction) : Json :=
  .object [("action", withoutCloid validated.intent),
    ("marketCanonicalId", .string validated.marketCanonicalId)]

structure IdentityFields where
  cloid : Option String
  assetId : Option ℤ
  targetOid : Option ℤ
  reconciliationKey : String

def orderIdentity (assetId : ℤ) (cloid : String) : IdentityFields where
  cloid := some (asciiLower cloid)
  assetId := some assetId
  targetOid := none
  reconciliationKey := "order:" ++ toString assetId ++ ":cloid:" ++
    asciiLower cloid

def identityFields : TradingActionIntent → Outcome IdentityFields
  | .marketOrder intent => .ok (orderIdentity intent.assetId intent.cloid)
  | .limitOrder intent => .ok (orderIdentity intent.assetId intent.cloid)
  | .reduceOnlyClose intent => .ok (orderIdentity intent.assetId intent.cloid)
  | .positionTpsl intent => .ok (orderIdentity intent.assetId intent.cloid)
  | .cancel intent =>
    match intent.target with
    | .oid orderId => .ok
        { cloid := none
          assetId := some intent.assetId
          targetOid := some orderId
          reconciliationKey := "cancel:" ++ toString intent.assetId ++ ":oid:" ++
            toString orderId }
    | .cloid text => .ok
        { cloid := some (asciiLower text)
          assetId := some intent.assetId
          targetOid := none
          reconciliationKey := "cancel:" ++ toString intent.assetId ++ ":cloid:" ++
            asciiLower text }
  | .updateLeverage intent => .ok
      { cloid := none
        assetId := some intent.assetId
        targetOid := none
        reconciliationKey := "leverage:" ++ toString intent.assetId ++ ":" ++
          intent.marginMode.text ++ ":" ++ toString intent.leverage }
  | .bulkCancel _ => .error (.error "Bulk cancel is not a U7 public action.")

def preparedAction (viem : Viem) (journalId correlationId : String)
    (refreshed : ValidatedTradingAction)
    (refreshedInput : TradingActionValidationInput) (identity : IdentityFields) :
    Outcome PreparedAction := do
  let normalizedIntent := storedIntent refreshed refreshedInput
  let intentDigest ← digest viem normalizedIntent
  let equivalenceFingerprint ← digest viem (fingerprintSource refreshed)
  pure
    { journalId := journalId
      correlationId := correlationId
      actionType := refreshed.intent.type
      intentVersion := 1
      normalizedSecretFreeIntent := normalizedIntent
      intentDigest := intentDigest
      equivalenceFingerprint := equivalenceFingerprint
      cloid := identity.cloid
      assetId := identity.assetId
      targetOid := identity.targetOid
      reconciliationKey := identity.reconciliationKey }

def TradingActionIntent.executionSide : TradingActionIntent → Option OrderSide
  | .marketOrder intent => some intent.side
  | .reduceOnlyClose intent => some intent.side
  | _ => none

def sameSerialization (left right : TradingActionIntent) : Outcome Bool := do
  let leftText ← serializeSecretFreeIntent left.toJson
  let rightText ← serializeSecretFreeIntent right.toJson
  pure (leftText == rightText)

def refreshedPrice (refreshedInput : TradingActionValidationInput)
    (side : OrderSide) : Outcome String := do
  let message := "The slippage, the precision or the reference is unavailable."
  let slippageBps ← refreshedInput.controls.slippageBps.elim
    (.error (.error message)) .ok
  let precision ← refreshedInput.market.pricePrecision.elim
    (.error (.error message)) .ok
  let referencePrice ← refreshedInput.market.referencePrice.elim
    (.error (.error message)) .ok
  aggressiveOrderPrice referencePrice side slippageBps precision

def sameReviewedIntent (left right : TradingActionIntent)
    (refreshedInput : TradingActionValidationInput) : Outcome Bool :=
  if left.type ≠ right.type then .ok false
  else
    match left.executionSide with
    | none => sameSerialization left right
    | some side =>
      -- whatever is thrown on the way to the comparison is `false`
      match do
        let price ← refreshedPrice refreshedInput side
        sameSerialization (left.withAggressiveLimitPrice price) right with
      | .ok same => .ok same
      | .error _ => .ok false

def sameReviewedControls (review : ActionReviewSnapshot)
    (refreshedInput : TradingActionValidationInput) : Outcome Bool := do
  let reviewed ← serializeSecretFreeIntent review.validation.controls.toJson
  let refreshed ← serializeSecretFreeIntent refreshedInput.controls.toJson
  pure (reviewed == refreshed)

def sameSnapshot (review : ActionReviewSnapshot) (refreshedInput : TradingActionValidationInput)
    (refreshed : ValidatedTradingAction) : Prop :=
  refreshedInput.context.capturedContextEpoch =
      review.validation.context.capturedContextEpoch ∧
    refreshed.marketCanonicalId = review.validation.market.canonicalId ∧
    refreshedInput.market.metadataFingerprint =
      review.validation.market.metadataFingerprint ∧
    refreshed.accountStateVersion = review.validated.accountStateVersion

instance (review : ActionReviewSnapshot) (refreshedInput : TradingActionValidationInput)
    (refreshed : ValidatedTradingAction) :
    Decidable (sameSnapshot review refreshedInput refreshed) :=
  inferInstanceAs (Decidable (_ ∧ _))

/-- What a confirmation checks once the market and the account have been read
again; the action that comes out is the one that is submitted. -/
def checkRefreshed (viem : Viem) (review : ActionReviewSnapshot)
    (refreshedInput : TradingActionValidationInput) :
    Outcome ValidatedTradingAction := do
  let refreshed ← validateTradingAction viem refreshedInput
  assertSignerBinding viem review.binding (currentBinding review refreshedInput)
  require (sameSnapshot review refreshedInput refreshed)
    (.error "The reviewed market or account snapshot is stale.")
  let changed : Failure :=
    .error "Market or account rules changed the reviewed action."
  let sameControls ← sameReviewedControls review refreshedInput
  require (sameControls = true) changed
  let sameIntent ← sameReviewedIntent review.validated.intent refreshed.intent
    refreshedInput
  require (sameIntent = true) changed
  pure refreshed

def failureCode : Failure → Option String
  | .credential code => some code
  | _ => none

def unlockFailureMessage (code : Option String) : String :=
  if code = some "missing_or_invalidated" ∨ code = some "malformed_record" then
    "The protected API wallet is no longer available. Set up a new API wallet on this network before trading."
  else if code = some "authentication_failed" then
    "Device authentication did not complete. Try again and finish the Face ID, biometric, or passcode prompt."
  else if code = some "app_not_active" ∨ code = some "session_invalidated" then
    "Device authentication was interrupted. Keep Hyper Trader open and try again."
  else if code = some "context_changed" then
    "The selected account changed during confirmation. Return to the order and review it again."
  else
    "The selected account or API wallet could not be confirmed. Check the account and try again."

def preSubmissionFailureMessage (phase : ActionFlowPhase) (error : Failure) : String :=
  let code := failureCode error
  match phase with
  | .unlocking => unlockFailureMessage code
  | .refreshing =>
    if code = some "cancel_target_not_open" then
      "This order is no longer open. Refresh open orders before trying again."
    else
      "The latest market or account details could not be confirmed for this order. Return to the order, refresh, and try again."
  | .reserving =>
    "The order could not be prepared safely. Return to the order and try again."
  | .signing =>
    "The API wallet could not sign this order. Unlock it and try again."
  | .submissionStart =>
    "The order was not submitted because safe submission could not be started. Return to the order and try again."
  | _ => "The order was not submitted. Return to the order and try again."

end HyperTrader
