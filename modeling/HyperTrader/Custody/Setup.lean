import HyperTrader.Custody.Vault

/-!
# Setup attempts and their repository

A setup attempt is the checkpoint of one API-wallet setup. The repository keeps
the attempts and the bindings they activated in two tables of the database; each
of its methods is one transaction.
-/

namespace HyperTrader

open Library

def agentAuthorizationDurationMs : ℤ := 30 * 24 * 60 * 60 * 1000

def setupAttemptDurationMs : ℤ := 24 * 60 * 60 * 1000

structure SetupAttempt where
  id : String
  network : HyperliquidNetwork
  connectorSessionId : String
  masterAccount : String
  targetAccount : String
  agentAddress : String
  registrationName : String
  registrationGeneration : ℤ
  approvalNonce : ℤ
  requestedExpiry : ℤ
  createdAt : ℤ
  expiresAt : ℤ
  deriving DecidableEq

def connectorSessionPattern : TextPattern where
  lead := ""
  digit byte := isAlphanumeric byte || inRange '.' '.' byte ||
    inRange '_' '_' byte || inRange ':' ':' byte || inRange '-' '-' byte
  least := 1
  most := 128

def normalizeAgentRegistrationName (value : String) : Outcome String := do
  let normalized := trim value
  require (agentRegistrationNamePattern normalized = true) (.typeError
    "The API-wallet registration name must contain 1 to 16 printable characters.")
  pure normalized

def normalizeSetupAddress (viem : Viem) (value : String) : Outcome String :=
  (viem.getAddress value).elim
    (.error (.typeError "Setup requires valid master and target addresses."))
    fun checksummed => .ok (asciiLower checksummed)

def assertSafeTime (value : ℤ) (field : String) : Outcome Unit :=
  require (isSafeInteger value ∧ 0 < value)
    (.typeError (field ++ " must be a positive millisecond timestamp."))

structure SetupTarget where
  network : HyperliquidNetwork
  masterAccount : String
  targetAccount : String
  deriving DecidableEq

def normalizeSetupTarget (viem : Viem) (input : SetupTarget) :
    Outcome SetupTarget := do
  assertSignerAccessCapability input.network
  let masterAccount ← normalizeSetupAddress viem input.masterAccount
  let targetAccount ← normalizeSetupAddress viem input.targetAccount
  pure ⟨input.network, masterAccount, targetAccount⟩

def SetupAttempt.binding (attempt : SetupAttempt) : SignerBinding where
  network := attempt.network
  masterAccount := attempt.masterAccount
  targetAccount := attempt.targetAccount
  agentAddress := attempt.agentAddress
  generation := attempt.registrationGeneration

def bindingFromAttempt (viem : Viem) (attempt : SetupAttempt) : Outcome SignerBinding :=
  normalizeSignerBinding viem attempt.binding

def assertAttemptContract (viem : Viem) (attempt : SetupAttempt) :
    Outcome Unit := do
  let _ ← bindingFromAttempt viem attempt
  require (lowercaseHashPattern.test attempt.id = true ∧
      connectorSessionPattern.test attempt.connectorSessionId = true ∧
      agentRegistrationNamePattern attempt.registrationName = true ∧
      isSafeInteger attempt.approvalNonce ∧ isSafeInteger attempt.requestedExpiry ∧
      isSafeInteger attempt.createdAt ∧ isSafeInteger attempt.expiresAt ∧
      attempt.approvalNonce = attempt.createdAt ∧
      attempt.expiresAt - attempt.createdAt = setupAttemptDurationMs ∧
      attempt.requestedExpiry - attempt.approvalNonce = agentAuthorizationDurationMs)
    (.typeError "The setup attempt checkpoint is malformed.")

inductive SetupAttemptStatus where
  | pending
  | consumed
  | cancelled
  | failed
  deriving DecidableEq

structure SetupAttemptRow where
  attempt : SetupAttempt
  status : SetupAttemptStatus
  failureReason : Option String
  effectiveExpiry : Option ℤ
  consumedAt : Option ℤ
  deriving DecidableEq

inductive ApiWalletBindingStatus where
  | active
  | retiring
  | retired
  | quarantined
  deriving DecidableEq

structure ApiWalletBindingRow where
  binding : SignerBinding
  registrationName : String
  requestedExpiry : ℤ
  effectiveExpiry : ℤ
  status : ApiWalletBindingStatus
  activatedAt : ℤ
  updatedAt : ℤ

structure SetupTables where
  attempts : List SetupAttemptRow
  bindings : List ApiWalletBindingRow

def SignerBinding.setupTarget (binding : SignerBinding) : SetupTarget :=
  ⟨binding.network, binding.masterAccount, binding.targetAccount⟩

def SignerBinding.clash (a b : SignerBinding) : Prop :=
  (a.network = b.network ∧ a.agentAddress = b.agentAddress) ∨
    (a.setupTarget = b.setupTarget ∧ a.generation = b.generation)

instance SignerBinding.decidableClash (a b : SignerBinding) : Decidable (a.clash b) :=
  inferInstanceAs (Decidable (_ ∨ _))

/-- Two attempts share a key: the id, the binding's, or the target while both
are pending. -/
def SetupAttemptRow.clash (a b : SetupAttemptRow) : Prop :=
  a.attempt.id = b.attempt.id ∨ a.attempt.binding.clash b.attempt.binding ∨
    (a.status = .pending ∧ b.status = .pending ∧
      a.attempt.binding.setupTarget = b.attempt.binding.setupTarget)

instance SetupAttemptRow.decidableClash (a b : SetupAttemptRow) : Decidable (a.clash b) :=
  inferInstanceAs (Decidable (_ ∨ _))

/-- Two bindings of the table share a key: the binding's, or the target while
both are active. -/
def ApiWalletBindingRow.clash (a b : ApiWalletBindingRow) : Prop :=
  a.binding.clash b.binding ∨ (a.status = .active ∧ b.status = .active ∧
    a.binding.setupTarget = b.binding.setupTarget)

instance ApiWalletBindingRow.decidableClash (a b : ApiWalletBindingRow) : Decidable (a.clash b) :=
  inferInstanceAs (Decidable (_ ∨ _))

def attemptFromRow (viem : Viem) (row : SetupAttemptRow) :
    Outcome SetupAttempt := do
  let binding ← bindingFromAttempt viem row.attempt
  require (row.status = .pending ∧ row.effectiveExpiry = none ∧
      isSafeInteger row.attempt.approvalNonce ∧ isSafeInteger row.attempt.requestedExpiry ∧
      isSafeInteger row.attempt.createdAt ∧
      isSafeInteger row.attempt.expiresAt ∧ 0 < row.attempt.createdAt ∧
      row.attempt.createdAt < row.attempt.expiresAt ∧
      row.attempt.approvalNonce < row.attempt.requestedExpiry)
    (.error "The stored setup checkpoint is malformed.")
  let attempt := { row.attempt with
    network := binding.network
    masterAccount := binding.masterAccount
    targetAccount := binding.targetAccount
    agentAddress := binding.agentAddress
    registrationGeneration := binding.generation }
  assertAttemptContract viem attempt
  pure attempt

abbrev SetupStatement (α : Type) := Transaction SetupTables Failure α

namespace SetupTables

def nextGeneration (viem : Viem) (tables : SetupTables) (input : SetupTarget) :
    Outcome ℤ := do
  let target ← normalizeSetupTarget viem input
  let generations :=
    ((tables.bindings.map ApiWalletBindingRow.binding ++
      tables.attempts.map fun row => row.attempt.binding).filter fun binding =>
        binding.setupTarget == target).map SignerBinding.generation
  let next := generations.foldl max 0 + 1
  require (isSafeInteger next ∧ 1 ≤ next)
    (.error "The registration generation is exhausted.")
  pure next

def getPendingAttempt (viem : Viem) (tables : SetupTables) (id : String) :
    Outcome (Option SetupAttempt) :=
  match tables.attempts.find? fun row =>
      row.attempt.id == id && row.status == .pending with
  | none => pure none
  | some row => do
      let attempt ← attemptFromRow viem row
      pure (some attempt)

def getPendingAttemptForTarget (viem : Viem) (tables : SetupTables)
    (input : SetupTarget) : Outcome (Option SetupAttempt) := do
  let target ← normalizeSetupTarget viem input
  match tables.attempts.find? fun row =>
      row.attempt.binding.setupTarget == target && row.status == .pending with
  | none => pure none
  | some row => do
      let attempt ← attemptFromRow viem row
      pure (some attempt)

def insertAttempt (row : SetupAttemptRow) (tables : SetupTables) : Outcome SetupTables :=
  if ∀ other ∈ tables.attempts, ¬ other.clash row then
    .ok { tables with attempts := tables.attempts ++ [row] }
  else .error .constraint

def insertBinding (row : ApiWalletBindingRow) (tables : SetupTables) : Outcome SetupTables :=
  if ∀ other ∈ tables.bindings, ¬ other.clash row then
    .ok { tables with bindings := tables.bindings ++ [row] }
  else .error .constraint

/-- `UPDATE api_wallet_setup_attempts SET set WHERE wher` -/
def updateAttempts (tables : SetupTables) (wher : SetupAttemptRow → Bool)
    (set : SetupAttemptRow → SetupAttemptRow) : SetupTables :=
  { tables with
    attempts := tables.attempts.map fun row => if wher row then set row else row }

end SetupTables

def createAttempt (viem : Viem) (attempt : SetupAttempt) :
    SetupStatement Unit := do
  Transaction.check fun _ => assertAttemptContract viem attempt
  let binding ← Transaction.check fun _ => bindingFromAttempt viem attempt
  Transaction.check fun _ => assertSignerAccessCapability binding.network
  Transaction.write (SetupTables.insertAttempt
    { attempt := { attempt with
        network := binding.network
        masterAccount := binding.masterAccount
        targetAccount := binding.targetAccount
        agentAddress := binding.agentAddress
        registrationGeneration := binding.generation }
      status := .pending
      failureReason := none
      effectiveExpiry := none
      consumedAt := none })

def sameAttempt (attemptId : String) (expected stored : SetupAttempt) (now : ℤ) : Bool :=
  attemptId == expected.id && stored.id == expected.id &&
    stored.connectorSessionId == expected.connectorSessionId &&
    stored.registrationName == expected.registrationName &&
    stored.registrationGeneration == expected.registrationGeneration &&
    stored.approvalNonce == expected.approvalNonce &&
    stored.requestedExpiry == expected.requestedExpiry &&
    stored.createdAt == expected.createdAt &&
    stored.expiresAt == expected.expiresAt && decide (now < stored.expiresAt)

/-- The row is pending under `id` and not expired at `now`. -/
def SetupAttemptRow.consumable (row : SetupAttemptRow) (id : String) (now : ℤ) : Bool :=
  row.attempt.id == id && row.status == .pending &&
    decide (now < row.attempt.expiresAt)

def activateStatement (viem : Viem) (attemptId : String)
    (expected : SetupAttempt) (binding : SignerBinding)
    (effectiveExpiry now : ℤ) : SetupStatement Bool := do
  let tables ← Transaction.read
  match ← Transaction.check fun _ => tables.getPendingAttempt viem attemptId with
  | none => pure false
  | some stored => do
      let storedBinding ← Transaction.check fun _ =>
        bindingFromAttempt viem stored
      Transaction.check fun _ => assertSignerBinding viem binding storedBinding
      if !sameAttempt attemptId expected stored now then pure false
      else if tables.attempts.countP (fun row => row.consumable attemptId now) ≠ 1 then
        pure false
      else do
        Transaction.write fun tables => .ok <| tables.updateAttempts
          (fun row => row.consumable attemptId now) fun row =>
            { row with
              status := .consumed
              effectiveExpiry := some effectiveExpiry
              consumedAt := some now }
        Transaction.write fun tables => .ok { tables with
          bindings := tables.bindings.map fun row =>
            if row.binding.setupTarget = binding.setupTarget ∧
                row.status = .active then
              { row with status := .retiring, updatedAt := now }
            else row }
        Transaction.write (SetupTables.insertBinding
          { binding := binding
            registrationName := expected.registrationName
            requestedExpiry := expected.requestedExpiry
            effectiveExpiry := effectiveExpiry
            status := .active
            activatedAt := now
            updatedAt := now })
        pure true

def consumeAndActivate (viem : Viem) (fault : Option Failure)
    (attemptId : String) (expected : SetupAttempt) (effectiveExpiry now : ℤ) :
    Action SetupTables Failure Bool := do
  Action.check (assertAttemptContract viem expected)
  let binding ← Action.check (bindingFromAttempt viem expected)
  Action.check (assertSignerAccessCapability binding.network)
  Action.check (require (isSafeInteger effectiveExpiry ∧ now < effectiveExpiry)
    (.typeError "The authoritative credential expiry is invalid."))
  Transaction.atomically fault
    (activateStatement viem attemptId expected binding effectiveExpiry now)

def cancelAttempt (fault : Option Failure) (id reason : String) : Action SetupTables Failure Unit :=
  Transaction.atomically fault (Transaction.write fun tables => .ok <| tables.updateAttempts
      (fun row => row.attempt.id == id && row.status == .pending) fun row =>
        { row with
          status := .cancelled
          failureReason := some (String.ofList (reason.toList.take 64)) })

end HyperTrader
