import HyperTrader.Notifications.Accounts

/-!
# Revocation

A revocation drains its scope, appends the deletion to a durable ledger outside of the
database and then commits it: an installation loses its rules, tokens, links and
credential, an account link its rules and itself. The drain fences the dispatch work of
the scope, and nothing is committed while a request to the provider may be in flight.
-/

namespace HyperTrader

open Library

namespace Notifications

/-! ### Fences -/

structure FenceClock where
  outbox : ℤ
  permits : ℤ

/-- A permit of the outbox row is in flight, and its deadline has passed. -/
def overdue (permits : Keyed PermitRow.permitId) (outboxId : String) (now : ℤ) : Bool :=
  permits.rows.any fun permit => permit.outboxId = outboxId &&
    permit.state = .submissionStarted && permit.providerDeadlineAt ≤ now

/-- The state of an outbox row after a fence; `unknown` tells that its request is over. -/
def fencedOutboxState (unknown : Bool) : OutboxState → OutboxState
  | .providerSubmissionStarted =>
    if unknown then .providerOutcomeUnknown else .providerSubmissionStarted
  | .pending | .leased => .cancelled
  | .providerAccepted => .providerAccepted
  | .providerRejected => .providerRejected
  | .providerOutcomeUnknown => .providerOutcomeUnknown
  | .cancelled => .cancelled

/-- The state of a permit after a fence; `ended` tells that its request is over. -/
def fencedPermitState (ended : Bool) : PermitState → PermitState
  | .active => .expired
  | .submissionStarted => if ended then .finished else .submissionStarted
  | .finished => .finished
  | .expired => .expired

/-- Stops the dispatch work that `selects` picks by its installation, link and scope. -/
def fenceDispatchWork (selects : String → Option String → Option String → Bool)
    (scope : Option String → Option String) (deletionId : DeletionId) (forceUnknown : Bool)
    (clock : FenceClock) (tables : Tables) : Tables :=
  { tables with
    outbox := tables.outbox.update
      (fun row => selects row.installationId row.accountLinkId row.accountLinkScopeId)
      (fun row =>
        { row with
          accountLinkScopeId := row.accountLinkScopeId.or (scope row.accountLinkId)
          deletionId := some deletionId
          state := fencedOutboxState
            (forceUnknown || overdue tables.permits row.outboxId clock.outbox) row.state })
      fun _ => rfl
    permits := tables.permits.update
      (fun permit => selects permit.installationId permit.accountLinkId permit.accountLinkScopeId)
      (fun permit =>
        { permit with
          accountLinkScopeId := permit.accountLinkScopeId.or (scope permit.accountLinkId)
          deletionId := some deletionId
          state := fencedPermitState
            (forceUnknown || permit.providerDeadlineAt ≤ clock.permits) permit.state })
      fun _ => rfl
    alerts := tables.alerts.update
      (fun alert => selects alert.installationId alert.accountLinkId alert.accountLinkScopeId)
      (fun alert =>
        { alert with
          accountLinkScopeId := alert.accountLinkScopeId.or (scope alert.accountLinkId)
          deletionId := some deletionId })
      fun _ => rfl }

def fenceAccountLinkDispatchWork (accountLinkId : String) :
    DeletionId → Bool → FenceClock → Tables → Tables :=
  fenceDispatchWork
    (fun _ link scope => link = some accountLinkId || scope = some accountLinkId)
    fun _ => some accountLinkId

def fenceInstallationDispatchWork (installationId : String) :
    DeletionId → Bool → FenceClock → Tables → Tables :=
  fenceDispatchWork (fun installation _ _ => installation = installationId) fun link => link

/-! ### Drains -/

def setInstallationState (installationId : String) (state : ScopeState) (tables : Tables) :
    Tables :=
  { tables with
    installations := tables.installations.update
      (fun row => row.installationId = installationId)
      (fun row => { row with state := state }) fun _ => rfl }

def setAccountLinkState (wher : AccountLinkRow → Bool) (state : ScopeState) (tables : Tables) :
    Tables :=
  { tables with
    accountLinks := tables.accountLinks.update wher
      (fun row => { row with state := state }) fun _ => rfl }

def drainingAlready (kind : DeletionScopeKind) (scopeId operationId : String)
    (message : String) : Statement Unit := do
  let tables ← Transaction.read
  Transaction.ensure ((tables.operations.find? operationId).any (fun operation =>
      operation.scopeKind = kind && operation.scopeId = scopeId && operation.draining) = true)
    (.conflict message)

def drainInstallation (installation : InstallationRow) (operationId : String)
    (clock : FenceClock) : Statement Unit := do
  let deletionId : DeletionId :=
    ⟨.installation, installation.installationId, installation.revocationGeneration + 1⟩
  change (setInstallationState installation.installationId .draining)
  insertOperation ⟨operationId, deletionId, .installation, installation.installationId, none⟩
  change (fenceInstallationDispatchWork installation.installationId deletionId false clock)

def startInstallationDrain (primitives : StorePrimitives)
    (installationId credential operationId : String) (clock : FenceClock) : Statement Unit := do
  assertMutable
  let tables ← Transaction.read
  match tables.installations.find? installationId with
  | none => Transaction.fail .storeUnauthorized
  | some installation => do
      Transaction.ensure (installation.credentialHash =
          some (primitives.hashInstallationCredential credential)) .storeUnauthorized
      match installation.state with
      | .draining =>
        drainingAlready .installation installationId operationId
          "installation is already draining"
      | .inactive => Transaction.fail (.unauthorized "installation is not active")
      | .active => drainInstallation installation operationId clock

def drainAccountLink (link : AccountLinkRow) (operationId : String) (clock : FenceClock) :
    Statement Unit := do
  let deletionId : DeletionId := ⟨.accountLink, link.accountLinkId, link.revocationGeneration + 1⟩
  change (setAccountLinkState (fun row => row.accountLinkId = link.accountLinkId) .draining)
  insertOperation ⟨operationId, deletionId, .accountLink, link.accountLinkId, none⟩
  change (fenceAccountLinkDispatchWork link.accountLinkId deletionId false clock)

def startAccountLinkDrain (primitives : StorePrimitives)
    (installationId credential accountLinkId operationId : String) (limited : Option String)
    (clock : FenceClock) : Statement Unit := do
  assertMutable
  let _ ← lockAuthenticatedInstallation installationId
    (primitives.hashInstallationCredential credential)
  admitMutationInTransaction limited
  let tables ← Transaction.read
  match tables.accountLinks.find? accountLinkId with
  | none => Transaction.fail (.unauthorized "account link is unavailable")
  | some link => do
      Transaction.ensure (link.installationId = installationId)
        (.unauthorized "account link is unavailable")
      match link.state with
      | .draining =>
        drainingAlready .accountLink accountLinkId operationId
          "account link is already draining"
      | .inactive => Transaction.fail (.unauthorized "account link is not active")
      | .active => drainAccountLink link operationId clock

structure LostInstallationRevokeRequest where
  requestingInstallationId : String
  credential : String
  operationId : String
  network : NotificationNetwork
  masterAccount : String
  targetAccount : String
  selectedInstallationIds : List String
  proof : AccountProof
  deriving DecidableEq

def sortedAndUnique : List String → Bool
  | [] => true
  | [installationId] => installationIdPattern.test installationId
  | installationId :: next :: rest =>
    installationIdPattern.test installationId && decide (installationId < next) &&
      sortedAndUnique (next :: rest)

def LostInstallationRevokeRequest.proven (request : LostInstallationRevokeRequest)
    (installationId : String) (link : AccountLinkRow) : Bool :=
  link.installationId = installationId && link.network = request.network &&
    link.masterAccount = request.masterAccount &&
    link.targetAccount = request.targetAccount && link.state = .active

def lostRevokeDigest (primitives : StorePrimitives) (request : LostInstallationRevokeRequest) :
    String :=
  primitives.operationDigest "lost-installation-revoke/v1" (.object
    [ ("masterAccount", .string request.masterAccount),
      ("network", .string (networkText request.network)),
      ("operationId", .string request.operationId),
      ("requestingInstallationId", .string request.requestingInstallationId),
      ("selectedInstallationIds", .array (request.selectedInstallationIds.map .string)),
      ("targetAccount", .string request.targetAccount) ])

/-- The operation that a lost-installation request makes for one of its installations. -/
def derivedOperationId (primitives : StorePrimitives) (operationId installationId : String) :
    String :=
  String.ofList ((primitives.sha256 (operationId ++ "|" ++ installationId)).toList.take 32)

def lockSelected (request : LostInstallationRevokeRequest) :
    List String → Statement (List InstallationRow)
  | [] => pure []
  | installationId :: rest => do
      let tables ← Transaction.read
      match tables.installations.find? installationId with
      | none =>
        Transaction.fail (.unauthorized "selected installation set exceeds proven authority")
      | some installation => do
          Transaction.ensure (installation.state = .active ∧
              tables.accountLinks.rows.any (request.proven installationId) = true)
            (.unauthorized "selected installation set exceeds proven authority")
          let selected ← lockSelected request rest
          pure (installation :: selected)

/-- Drains the selected installations and their proven links, and returns the operations. -/
def drainSelected (primitives : StorePrimitives) (request : LostInstallationRevokeRequest)
    (clock : String → FenceClock) : List InstallationRow → Statement (List String)
  | [] => pure []
  | installation :: rest => do
      let operationId :=
        derivedOperationId primitives request.operationId installation.installationId
      change (setAccountLinkState (request.proven installation.installationId) .draining)
      drainInstallation installation operationId (clock installation.installationId)
      let operationIds ← drainSelected primitives request clock rest
      pure (operationId :: operationIds)

def verifyLostInstallationRevokeProof (primitives : StorePrimitives)
    (request : LostInstallationRevokeRequest) (limited : Option String) (now : ℤ)
    (clock : String → FenceClock) : Statement (List String) := do
  Transaction.ensure (1 ≤ request.selectedInstallationIds.length ∧
      request.selectedInstallationIds.length ≤ maxLinkedAccounts ∧
      sortedAndUnique request.selectedInstallationIds = true)
    (.unauthorized "selected installation set must be sorted and unique")
  let credentialHash := primitives.hashInstallationCredential request.credential
  let challengeHash := primitives.sha256 request.proof.challenge
  assertMutable
  let _ ← lockAuthenticatedInstallation request.requestingInstallationId credentialHash
  admitMutationInTransaction limited
  let record ← loadChallenge challengeHash request.requestingInstallationId credentialHash
  Transaction.ensure (record.purpose = .installationRevoke ∧ record.network = request.network ∧
      record.masterAccount = request.masterAccount ∧ record.targetAccount = request.targetAccount ∧
      record.operationDigest = lostRevokeDigest primitives request)
    (.unauthorized "lost-installation proof binding is invalid")
  Transaction.check fun _ =>
    verifyAccountProof primitives record request.proof (milliseconds now)
  let tables ← Transaction.read
  Transaction.ensure (tables.accountLinks.rows.countP
      (request.proven request.requestingInstallationId) = 1)
    (.unauthorized "requesting installation lacks the proven link")
  let selected ← lockSelected request request.selectedInstallationIds
  consumeChallenge challengeHash now
  drainSelected primitives request clock selected

/-! ### The ledger -/

structure DeletionTombstoneItem where
  sequence : ℕ
  deletionId : DeletionId
  scopeKind : DeletionScopeKind
  scopeMac : String
  deletionGeneration : ℕ
  deletedAt : ℤ
  keyVersion : String
  mac : String
  deriving DecidableEq

structure DeletionLedgerReceipt where
  sequence : ℕ
  durableHead : ℕ
  deriving DecidableEq

/-- `tombstoneMacBytes` -/
def tombstoneMacText (item : DeletionTombstoneItem) : String :=
  (Json.array [ .string "deletion-tombstone/v1", .number item.sequence,
      .string item.deletionId.text, .string item.scopeKind.text, .string item.scopeMac,
      .number item.deletionGeneration, .number item.deletedAt, .string item.keyVersion ]).stringify

def isTombstoneCharacter (byte : UInt8) : Bool := isWorkerCharacter byte

def deletionIdPattern : TextPattern := ⟨"", isTombstoneCharacter, 1, 128⟩

def keyVersionPattern : TextPattern :=
  ⟨"", fun byte => isTombstoneCharacter byte && !inRange ':' ':' byte, 1, 128⟩

def assertTombstoneFields (deletionId : DeletionId) (deletionGeneration : ℕ) (deletedAt : ℤ)
    (keyVersion : String) : Except StoreFailure Unit :=
  require (deletionIdPattern.test deletionId.text = true ∧
      1 ≤ deletionGeneration ∧ isSafeInteger deletionGeneration ∧
      1 ≤ deletedAt ∧ isSafeInteger deletedAt ∧ keyVersionPattern.test keyVersion = true)
    (.tombstoneRecovery "deletion tombstone fields are invalid")

/-- `InMemoryDeletionLedger.append` of the item that `appendDeletionTombstone` seals: an
item that is there under the deletion id is returned as it is. -/
def appendItem (primitives : StorePrimitives) (ledger : List DeletionTombstoneItem)
    (deletionId : DeletionId) (kind : DeletionScopeKind) (scopeId : String)
    (deletionGeneration : ℕ) (deletedAt : ℤ) (keyVersion : String) :
    DeletionTombstoneItem × List DeletionTombstoneItem :=
  match ledger.find? fun item => item.deletionId = deletionId with
  | some item => (item, ledger)
  | none =>
    let unsigned : DeletionTombstoneItem :=
      { sequence := ledger.length + 1
        deletionId := deletionId
        scopeKind := kind
        scopeMac := primitives.scopeMac keyVersion kind scopeId
        deletionGeneration := deletionGeneration
        deletedAt := deletedAt
        keyVersion := keyVersion
        mac := "" }
    let item := { unsigned with mac := primitives.mac keyVersion (tombstoneMacText unsigned) }
    (item, ledger ++ [item])

def DeletionTombstoneRow.records (row : DeletionTombstoneRow) (item : DeletionTombstoneItem)
    (sequence : ℕ) : Bool :=
  row.scopeKind = item.scopeKind && row.scopeMac = item.scopeMac &&
    row.deletionGeneration = item.deletionGeneration && row.ledgerSequence = sequence &&
    row.keyVersion = item.keyVersion

def recordDeletionTombstone (item : DeletionTombstoneItem) (receipt : DeletionLedgerReceipt) :
    Statement Unit := Transaction.write fun tables =>
  match tables.tombstones.find? item.deletionId with
  | some row =>
    if row.records item receipt.sequence then
      .ok { tables with
        tombstones := tables.tombstones.update (fun row => row.deletionId = item.deletionId)
          (fun row =>
            { row with
              ledgerDurableHead := max row.ledgerDurableHead receipt.durableHead })
          fun _ => rfl }
    else .error (.conflict "local deletion tombstone conflicts")
  | none =>
    if tables.tombstones.rows.any fun row => row.ledgerSequence = receipt.sequence then
      .error .uniqueViolation
    else
      match tables.tombstones.insert?
        { deletionId := item.deletionId
          scopeKind := item.scopeKind
          scopeMac := item.scopeMac
          deletionGeneration := item.deletionGeneration
          ledgerSequence := receipt.sequence
          ledgerDurableHead := receipt.durableHead
          keyVersion := item.keyVersion } with
      | some tombstones => .ok { tables with tombstones := tombstones }
      | none => .error .uniqueViolation

/-! ### Commits -/

def inFlight (tables : Tables) (kind : DeletionScopeKind) (scopeId : String) (now : ℤ) : Bool :=
  tables.permits.rows.any fun permit =>
    (match kind with
      | .accountLink => decide (permit.accountLinkScopeId = some scopeId)
      | .installation | .pushToken => decide (permit.installationId = scopeId)) &&
    permit.state = .submissionStarted && now < permit.providerDeadlineAt

structure OperationView where
  deletionId : DeletionId
  scopeId : String
  ledgerSequence : Option ℕ
  revocationGeneration : ℕ
  recoveryKeyVersion : String
  deriving DecidableEq

def readInstallationOperation (operationId : String) (tables : Tables) :
    Except StoreFailure OperationView :=
  match tables.operations.find? operationId with
  | none => .error (.conflict "revocation operation is unavailable")
  | some operation =>
    if operation.scopeKind = .installation then
      match tables.installations.find? operation.scopeId with
      | none => .error (.conflict "revocation operation is unavailable")
      | some installation =>
        .ok ⟨operation.deletionId, operation.scopeId, operation.ledgerSequence,
          installation.revocationGeneration, installation.recoveryKeyVersion⟩
    else .error (.conflict "revocation operation is unavailable")

/-- The first statement of `commitAccountLinkUnlink`, with the check on the link that an
operation needs unless it is committed. -/
def readAccountLinkOperation (operationId : String) (tables : Tables) :
    Except StoreFailure OperationView :=
  match tables.operations.find? operationId with
  | none => .error (.conflict "unlink operation is unavailable")
  | some operation =>
    if operation.scopeKind = .accountLink then
      match tables.accountLinks.find? operation.scopeId with
      | none =>
        if operation.draining then .error (.conflict "draining account link is unavailable")
        else .ok ⟨operation.deletionId, operation.scopeId, operation.ledgerSequence, 0, ""⟩
      | some link =>
        .ok ⟨operation.deletionId, operation.scopeId, operation.ledgerSequence,
          link.revocationGeneration, link.recoveryKeyVersion⟩
    else .error (.conflict "unlink operation is unavailable")

/-- `UPDATE notification_revocation_operations SET state = 'committed'` -/
def commitOperation (operationId : String) (sequence : ℕ) : Statement Unit :=
  Transaction.write fun tables =>
    if tables.operations.rows.any fun operation =>
        operation.operationId ≠ operationId && operation.ledgerSequence = some sequence then
      .error .uniqueViolation
    else
      .ok { tables with
        operations := tables.operations.update
          (fun operation => operation.operationId = operationId)
          (fun operation => { operation with ledgerSequence := some sequence }) fun _ => rfl }

def committed (tables : Tables) (operationId : String) : Bool :=
  (tables.operations.find? operationId).any fun operation => !operation.draining

def revokeInstallationRows (installationId : String)
    (generation : InstallationRow → ℕ) (tables : Tables) : Tables :=
  let tables := deleteRules (fun rule => rule.installationId = installationId) tables
  let tables := deletePushTokens (fun token => token.installationId = installationId) tables
  let tables := deleteAccountLinks (fun link => link.installationId = installationId) tables
  { tables with
    installations := tables.installations.update
      (fun row => row.installationId = installationId)
      (fun row =>
        { row with
          state := .inactive
          credentialHash := none
          revocationGeneration := generation row }) fun _ => rfl }

def commitInstallationWork (operationId : String) (view : OperationView)
    (item : DeletionTombstoneItem) (receipt : DeletionLedgerReceipt) (clock : FenceClock)
    (now : ℤ) : Statement Unit := do
  let tables ← Transaction.read
  match tables.installations.find? view.scopeId with
  | none => Transaction.fail (.conflict "installation is not draining")
  | some installation => do
      Transaction.ensure (installation.state = .draining)
        (.conflict "installation is not draining")
      change (fenceInstallationDispatchWork view.scopeId view.deletionId false clock)
      let tables ← Transaction.read
      Transaction.ensure (inFlight tables .installation view.scopeId now = false) .drainPending
      Transaction.ensure (installation.revocationGeneration < maxDatabaseInteger)
        .numericOverflow
      change (revokeInstallationRows view.scopeId fun row => row.revocationGeneration + 1)
      recordDeletionTombstone item receipt
      commitOperation operationId receipt.sequence

def commitInstallation (operationId : String) (view : OperationView)
    (item : DeletionTombstoneItem) (receipt : DeletionLedgerReceipt) (clock : FenceClock)
    (now : ℤ) : Statement Unit := fun tables =>
  if committed tables operationId then .ok ((), tables)
  else commitInstallationWork operationId view item receipt clock now tables

def unlinkAccountRows (accountLinkId : String) (tables : Tables) : Tables :=
  let tables := deleteRules (fun rule => rule.accountLinkId = some accountLinkId) tables
  deleteAccountLinks (fun link => link.accountLinkId = accountLinkId) tables

def commitAccountLinkWork (operationId : String) (view : OperationView)
    (item : DeletionTombstoneItem) (receipt : DeletionLedgerReceipt) (clock : FenceClock)
    (now : ℤ) : Statement Unit := do
  let tables ← Transaction.read
  match tables.accountLinks.find? view.scopeId with
  | none => Transaction.fail (.conflict "account link is not draining")
  | some link => do
      Transaction.ensure (link.state = .draining) (.conflict "account link is not draining")
      change (fenceAccountLinkDispatchWork view.scopeId view.deletionId false clock)
      let tables ← Transaction.read
      Transaction.ensure (inFlight tables .accountLink view.scopeId now = false) .drainPending
      change (unlinkAccountRows view.scopeId)
      recordDeletionTombstone item receipt
      commitOperation operationId receipt.sequence

def commitAccountLink (operationId : String) (view : OperationView)
    (item : DeletionTombstoneItem) (receipt : DeletionLedgerReceipt) (clock : FenceClock)
    (now : ℤ) : Statement Unit := fun tables =>
  if committed tables operationId then .ok ((), tables)
  else commitAccountLinkWork operationId view item receipt clock now tables

end Notifications

end HyperTrader
