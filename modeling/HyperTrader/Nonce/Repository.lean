import HyperTrader.Journal.Repository
import HyperTrader.Nonce.Allocation
import HyperTrader.Nonce.Tombstone
import HyperTrader.Signing.Binding

/-!
# The nonce and journal repository

The methods that give out nonces. A reservation moves the signer's high-water
mark and inserts the journal row in one transaction, so that neither exists
without the other; the retirement methods close a signer for good.
-/

namespace HyperTrader

open Library

structure PreparedAction where
  journalId : String
  correlationId : String
  actionType : JournalActionType
  intentVersion : ℤ
  normalizedSecretFreeIntent : Json
  intentDigest : String
  equivalenceFingerprint : String
  cloid : Option String
  assetId : Option ℤ
  targetOid : Option ℤ
  reconciliationKey : String

structure AtomicActionReservationInput where
  binding : SignerBinding
  capturedContextEpoch : ℤ
  clock : ClockGateInput
  preparedAction : PreparedAction

structure SignerScopeRegistration where
  binding : SignerBinding
  activatedAt : ℤ

/-- `ContextEpochAuthority`: refuses a reservation whose context is no longer
the current one. -/
abbrev ContextEpochAuthority := SignerBinding → ℤ → Outcome Unit

def assertReservationIdentifiers (input : PreparedAction) : Outcome String := do
  require (journalIdPattern.test input.journalId = true)
    (.typeError "journalId must be a generated opaque journal ID.")
  require (correlationIdPattern.test input.correlationId = true)
    (.typeError "correlationId must be a generated opaque action ID.")
  require (lowercaseHashPattern.test input.intentDigest = true ∧
      lowercaseHashPattern.test input.equivalenceFingerprint = true)
    (.typeError "Intent digest and fingerprint must be lowercase hashes.")
  assertPreparedActionFields input.actionType input.intentVersion input.cloid
    input.assetId input.targetOid input.reconciliationKey
  serializeSecretFreeIntent input.normalizedSecretFreeIntent

def bindingFromScope (scope : SignerScopeRow) : SignerBinding where
  network := scope.network
  masterAccount := scope.masterAccount
  targetAccount := scope.targetAccount
  agentAddress := scope.agentAddress
  generation := scope.signerGeneration

/-- `WHERE network = ? AND agent_address = ?` -/
def SignerScopeRow.keyed (scope : SignerScopeRow) (network : HyperliquidNetwork)
    (agentAddress : String) : Bool :=
  scope.network == network && scope.agentAddress == agentAddress

def Database.scope (database : Database) (network : HyperliquidNetwork)
    (agentAddress : String) : Option SignerScopeRow :=
  database.signerScopes.find? fun scope => scope.keyed network agentAddress

def requireScope (viem : Viem) (binding : SignerBinding) (missing : String) :
    Statement SignerScopeRow := do
  let database ← Transaction.read
  match database.scope binding.network binding.agentAddress with
  | none => Transaction.fail (.error missing)
  | some scope => do
      Transaction.check fun _ =>
        assertSignerBinding viem binding (bindingFromScope scope)
      pure scope

/-- `UPDATE signer_scopes SET set WHERE wher`, with the number of rows it
changed. -/
def updateScopes (wher : SignerScopeRow → Bool)
    (set : SignerScopeRow → SignerScopeRow) : Statement ℕ := do
  let database ← Transaction.read
  Transaction.write fun _ => Tables.store
    { database.toTables with
      signerScopes := Table.update database.signerScopes wher set }
  pure (Table.changes database.signerScopes wher)

/-- `INSERT INTO signer_scopes` -/
def insertScope (scope : SignerScopeRow) : Statement Unit :=
  Transaction.write fun database => Tables.store
    { database.toTables with
      signerScopes := database.signerScopes ++ [scope] }

/-- `INSERT INTO action_journal` -/
def insertAction (row : PreparedActionRecord) : Statement Unit :=
  Transaction.write fun database => Tables.store
    { database.toTables with
      actionJournal := database.actionJournal ++ [row] }

/-- `INSERT INTO retired_signer_tombstones` -/
def insertTombstone (row : TombstoneRow) : Statement Unit :=
  Transaction.write fun database => Tables.store
    { database.toTables with
      retiredSignerTombstones := database.retiredSignerTombstones ++ [row] }

def registerStatement (viem : Viem) (binding : SignerBinding)
    (activatedAt : ℤ) : Statement Unit := do
  let fingerprint ← Transaction.check fun _ =>
    agentAddressFingerprint viem binding.agentAddress
  let database ← Transaction.read
  Transaction.ensure (∀ row ∈ database.retiredSignerTombstones, ¬ (row.network = binding.network ∧
        row.agentAddressFingerprint = fingerprint))
    (.error "A retired agent address can never become active again.")
  match database.scope binding.network binding.agentAddress with
  | some existing => do
      Transaction.check fun _ =>
        assertSignerBinding viem binding (bindingFromScope existing)
      Transaction.ensure (existing.status = .active)
        (.error "The signer scope is not active.")
  | none =>
    insertScope
      { network := binding.network
        agentAddress := binding.agentAddress
        masterAccount := binding.masterAccount
        targetAccount := binding.targetAccount
        signerGeneration := binding.generation
        status := .active
        lastIssuedNonce := none
        lastObservedWallMs := none
        activatedAt := activatedAt
        updatedAt := activatedAt }

def registerActiveSignerScope (viem : Viem) (fault : Option Failure)
    (input : SignerScopeRegistration) : Method Unit := do
  let binding ← Action.check (normalizeSignerBinding viem input.binding)
  Action.check (assertTradingActionCapability binding.network)
  Action.check (assertTime input.activatedAt "activatedAt")
  immediate fault (registerStatement viem binding input.activatedAt)

def preparedRow (binding : SignerBinding) (capturedContextEpoch : ℤ)
    (action : PreparedAction) (allocation : NonceAllocation) :
    PreparedActionRecord where
  journalId := action.journalId
  correlationId := action.correlationId
  network := binding.network
  masterAccount := binding.masterAccount
  targetAccount := binding.targetAccount
  agentAddress := binding.agentAddress
  signerGeneration := binding.generation
  capturedContextEpoch := capturedContextEpoch
  actionType := action.actionType
  intentVersion := action.intentVersion
  normalizedSecretFreeIntent := action.normalizedSecretFreeIntent
  intentDigest := action.intentDigest
  equivalenceFingerprint := action.equivalenceFingerprint
  nonce := allocation.nonce
  expiresAfterMs := allocation.expiresAfterMs
  cloid := action.cloid
  assetId := action.assetId
  targetOid := action.targetOid
  reconciliationKey := action.reconciliationKey
  preparedAt := allocation.observedWallMs
  state := .prepared
  submissionStartedAt := none
  lastResultClass := none
  leaseOwner := none
  leaseExpiresAt := none
  reconciliationAttempts := 0
  nextReconciliationAt := allocation.observedWallMs
  createdAt := allocation.observedWallMs
  updatedAt := allocation.observedWallMs

/-- `SET last_issued_nonce = ?, last_observed_wall_ms = ?, updated_at = ?` -/
def SignerScopeRow.issued (allocation : NonceAllocation)
    (scope : SignerScopeRow) : SignerScopeRow :=
  { scope with
    lastIssuedNonce := some allocation.nonce
    lastObservedWallMs := some allocation.observedWallMs
    updatedAt := allocation.observedWallMs }

def reserveStatement (viem : Viem) (binding : SignerBinding)
    (input : AtomicActionReservationInput) :
    Statement PreparedActionRecord := do
  let scope ← requireScope viem binding "The signer scope is not registered."
  Transaction.ensure (scope.status = .active)
    (.error "The signer scope cannot issue another nonce.")
  let allocation ← Transaction.check fun _ => allocateNonce
    { input.clock with lastObservedWallMs := scope.lastObservedWallMs }
    scope.lastIssuedNonce
  let changes ← updateScopes
    (fun row => row.keyed binding.network binding.agentAddress &&
      row.status == .active && row.signerGeneration == binding.generation)
    (SignerScopeRow.issued allocation)
  Transaction.ensure (changes = 1)
    (.error "The signer scope changed during nonce reservation.")
  insertAction (preparedRow binding input.capturedContextEpoch input.preparedAction allocation)
  requireAction input.preparedAction.journalId

def reservePreparedAction (viem : Viem) (authority : ContextEpochAuthority)
    (fault : Option Failure) (input : AtomicActionReservationInput) :
    Method PreparedActionRecord := do
  let binding ← Action.check (normalizeSignerBinding viem input.binding)
  Action.check (assertTradingActionCapability binding.network)
  Action.check (require (isSafeInteger input.capturedContextEpoch ∧ 0 ≤ input.capturedContextEpoch)
    (.typeError "capturedContextEpoch must be a non-negative integer."))
  let _ ← Action.check (assertReservationIdentifiers input.preparedAction)
  Action.check (authority binding input.capturedContextEpoch)
  let record ← immediate fault (reserveStatement viem binding input)
  Action.modify (registerCurrentProcessReservation record.journalId
    record.expiresAfterMs record.preparedAt)
  pure record

def markRetiringStatement (viem : Viem) (binding : SignerBinding) (now : ℤ) :
    Statement Unit := do
  let scope ← requireScope viem binding "The signer scope does not exist."
  if scope.status = .retiring then
    pure ()
  else do
    Transaction.ensure (scope.status = .active)
      (.error "Only an active signer can begin retirement.")
    let _ ← updateScopes
      (fun row => row.keyed binding.network binding.agentAddress && row.status == .active)
      (fun row => { row with status := .retiring, updatedAt := now })
    pure ()

def markSignerRetiring (viem : Viem) (fault : Option Failure)
    (bindingInput : SignerBinding) (now : ℤ) : Method Unit := do
  let binding ← Action.check (normalizeSignerBinding viem bindingInput)
  Action.check (assertTime now "now")
  immediate fault (markRetiringStatement viem binding now)

inductive TombstoneChain where
  | valid (head : Option TombstoneRow)
  | invalid (reason : String)

/-- The loop of `verifyTombstoneChain`, from the row of sequence `sequence` on;
the reason the chain is broken, if it is. -/
def brokenLink (viem : Viem) (installationEpoch : String) :
    ℤ → String → List TombstoneRow → Option String
  | _, _, [] => none
  | sequence, priorChainRoot, row :: rows =>
    if row.installationEpoch ≠ installationEpoch ∨ row.sequence ≠ sequence ∨
        row.priorChainRoot ≠ priorChainRoot then
      some "retirement_chain_gap_or_link"
    else
      match createRetiredSignerTombstone viem row.input with
      | .error _ => some "retirement_chain_invalid_row"
      | .ok recomputed =>
        if recomputed.chainRoot ≠ row.chainRoot then
          some "retirement_chain_root_mismatch"
        else
          brokenLink viem installationEpoch (sequence + 1) row.chainRoot rows

def sequenceOrder (a b : TombstoneRow) : Prop := a.sequence ≤ b.sequence

instance : DecidableRel sequenceOrder := fun a b =>
  inferInstanceAs (Decidable (a.sequence ≤ b.sequence))

def Database.verifyTombstoneChain (viem : Viem) (database : Database) : TombstoneChain :=
  let rows := database.retiredSignerTombstones.insertionSort sequenceOrder
  match rows with
  | [] => .valid none
  | first :: _ =>
    match brokenLink viem first.installationEpoch 1 emptyRetirementChainRoot
        rows with
    | some reason => .invalid reason
    | none => .valid rows.getLast?

def tombstoneMatches (input : RetiredSignerTombstoneInput)
    (head : Option TombstoneRow) (binding : SignerBinding)
    (scope : SignerScopeRow) (fingerprint : String) : Prop :=
  input.installationEpoch =
      (head.map TombstoneRow.installationEpoch).getD input.installationEpoch ∧
    input.sequence = (head.map TombstoneRow.sequence).getD 0 + 1 ∧
    input.priorChainRoot =
      (head.map TombstoneRow.chainRoot).getD emptyRetirementChainRoot ∧
    input.network = binding.network ∧
    input.agentAddressFingerprint = fingerprint ∧
    input.lastIssuedNonce = scope.lastIssuedNonce.getD 0 ∧
    input.generation = binding.generation

instance (input : RetiredSignerTombstoneInput) (head : Option TombstoneRow)
    (binding : SignerBinding) (scope : SignerScopeRow) (fingerprint : String) :
    Decidable (tombstoneMatches input head binding scope fingerprint) :=
  inferInstanceAs (Decidable (_ ∧ _))

def retireStatement (viem : Viem) (binding : SignerBinding)
    (input : RetiredSignerTombstoneInput) : Statement TombstoneRow := do
  let scope ← requireScope viem binding "The signer scope does not exist."
  Transaction.ensure (scope.status = .retiring)
    (.error "The signer must be locked for retirement first.")
  let database ← Transaction.read
  Transaction.ensure
    (input.reason = .rotated ∨ input.reason = .expired → ∀ row ∈ database.actionJournal,
        row.network = binding.network → row.agentAddress = binding.agentAddress →
          isTerminalJournalState row.state = true)
    (.error "Ordinary signer retirement requires terminal actions.")
  match database.verifyTombstoneChain viem with
  | .invalid reason =>
    Transaction.fail
      (.error ("The retirement chain is corrupt: " ++ reason ++ "."))
  | .valid head => do
      let fingerprint ← Transaction.check fun _ =>
        agentAddressFingerprint viem binding.agentAddress
      Transaction.ensure (tombstoneMatches input head binding scope fingerprint)
        (.error "The signer retirement tombstone does not match durable state.")
      let tombstone ← Transaction.check fun _ =>
        createRetiredSignerTombstone viem input
      insertTombstone tombstone
      let changes ← updateScopes
        (fun row => row.keyed binding.network binding.agentAddress && row.status == .retiring)
        (fun row => { row with
          status := .retired
          updatedAt := tombstone.retiredAt })
      Transaction.ensure (changes = 1)
        (.error "The signer retirement lost its compare-and-swap.")
      pure tombstone

def retireSignerScope (viem : Viem) (fault : Option Failure)
    (bindingInput : SignerBinding) (input : RetiredSignerTombstoneInput) :
    Method TombstoneRow := do
  let binding ← Action.check (normalizeSignerBinding viem bindingInput)
  immediate fault (retireStatement viem binding input)

end HyperTrader
