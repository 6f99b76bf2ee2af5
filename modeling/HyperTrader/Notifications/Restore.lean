import HyperTrader.Notifications.Revocation

/-!
# Restores

After a backup has been restored, the deletions that the ledger has beyond the backup's
watermark are replayed, in one transaction that opens the service again. The replay finds
the rows of a deletion by the code that the ledger authenticates its scope with.
-/

namespace HyperTrader

open Library

namespace Notifications

def prepareRestore (backupWatermark : ℕ) (tables : Tables) : Tables :=
  if tables.service.schemaPhase = .contracted then
    { tables with
      service :=
        { tables.service with
          restoreState := .replaying
          ledgerWatermark := backupWatermark
          ledgerHead := backupWatermark
          mutationsEnabled := false
          monitorsEnabled := false
          deliveryEnabled := false } }
  else tables

/-- The items are consecutive from `expected` on, of different deletions and authentic;
the result is the sequence that is expected next. -/
def verifyItems (primitives : StorePrimitives) :
    ℕ → List DeletionId → List DeletionTombstoneItem → Except StoreFailure ℕ
  | expected, _, [] => .ok expected
  | expected, deletionIds, item :: items => do
      assertTombstoneFields item.deletionId item.deletionGeneration item.deletedAt
        item.keyVersion
      require (isSafeInteger item.sequence ∧ 1 ≤ item.sequence ∧
          digestPattern.test item.scopeMac = true ∧ digestPattern.test item.mac = true)
        (.tombstoneRecovery "deletion ledger item is corrupt")
      require (item.sequence = expected)
        (.tombstoneRecovery "deletion ledger sequence gap")
      require (item.deletionId ∉ deletionIds)
        (.tombstoneRecovery "deletion ledger contains a duplicate deletion ID")
      require (item.mac = primitives.mac item.keyVersion (tombstoneMacText item))
        (.tombstoneRecovery "tombstone MAC is invalid")
      verifyItems primitives (expected + 1) (item.deletionId :: deletionIds) items

/-- `verifyTombstoneReplay` of the head that the ledger gave and the items it returned. -/
def verifyTombstoneReplay (primitives : StorePrimitives) (backupWatermark currentHead : ℕ)
    (items : List DeletionTombstoneItem) : Except StoreFailure Unit := do
  require (isSafeInteger backupWatermark)
    (.tombstoneRecovery "backup watermark is invalid")
  require (isSafeInteger currentHead) (.tombstoneRecovery "ledger head is corrupt")
  require (backupWatermark ≤ currentHead) (.tombstoneRecovery "ledger head is stale")
  let expected ← verifyItems primitives (backupWatermark + 1) [] items
  require (expected = currentHead + 1) (.tombstoneRecovery "deletion ledger sequence gap")

def replayInstallation (item : DeletionTombstoneItem) (clock : String → FenceClock)
    (tables : Tables) (installation : InstallationRow) : Tables :=
  revokeInstallationRows installation.installationId
    (fun row => max row.revocationGeneration item.deletionGeneration)
    (fenceInstallationDispatchWork installation.installationId item.deletionId true
      (clock installation.installationId) tables)

def replayAccountLink (item : DeletionTombstoneItem) (clock : String → FenceClock)
    (tables : Tables) (link : AccountLinkRow) : Tables :=
  unlinkAccountRows link.accountLinkId
    (fenceAccountLinkDispatchWork link.accountLinkId item.deletionId true
      (clock link.accountLinkId) tables)

def replayScope (item : DeletionTombstoneItem) (clock : String → FenceClock)
    (tables : Tables) : Tables :=
  match item.scopeKind with
  | .installation =>
    (tables.installations.rows.filter fun row => row.recoveryScopeMac = item.scopeMac).foldl
      (replayInstallation item clock) tables
  | .accountLink =>
    (tables.accountLinks.rows.filter fun row => row.recoveryScopeMac = item.scopeMac).foldl
      (replayAccountLink item clock) tables
  | .pushToken =>
    deletePushTokens (fun token => token.recoveryScopeMac = item.scopeMac) tables

def replayItems (currentHead : ℕ) (clock : String → FenceClock) :
    List DeletionTombstoneItem → Statement Unit
  | [] => pure ()
  | item :: items => do
      change (replayScope item clock)
      recordDeletionTombstone item ⟨item.sequence, currentHead⟩
      replayItems currentHead clock items

def replayRestore (backupWatermark currentHead : ℕ) (items : List DeletionTombstoneItem)
    (clock : String → FenceClock) (confirmedHead : ℕ) : Statement Unit := do
  let tables ← Transaction.read
  Transaction.ensure (tables.service.restoreState = .replaying ∧
      tables.service.ledgerWatermark = backupWatermark)
    (.conflict "restore state changed during replay")
  replayItems currentHead clock items
  Transaction.ensure (confirmedHead = currentHead)
    (.notReady "deletion ledger advanced during restore")
  change fun tables =>
    if tables.service.schemaPhase = .contracted then
      { tables with
        service :=
          { tables.service with
            restoreState := .ready
            ledgerWatermark := currentHead
            ledgerHead := currentHead
            mutationsEnabled := true
            monitorsEnabled := false
            deliveryEnabled := false } }
    else tables

def activateWorkerGates : Statement Unit := do
  let tables ← Transaction.read
  Transaction.ensure (tables.service.serving = true ∧ tables.service.mutationsEnabled = true ∧
      tables.service.ledgerHead = tables.service.ledgerWatermark)
    (.notReady "notification restore fence is not ready")
  Transaction.ensure ((∀ rule ∈ tables.rules.rows, rule.active = true →
      (tables.installations.find? rule.installationId).any (fun row => row.state = .active) = true ∧
        (tables.pushTokens.rows.any fun token =>
          token.installationId = rule.installationId && token.deliverable) = true ∧
        ∀ accountLinkId ∈ rule.accountLinkId,
          (tables.accountLinks.find? accountLinkId).any (fun link =>
            link.installationId = rule.installationId && link.state = .active) = true) ∧
      ∀ operation ∈ tables.operations.rows, operation.draining = false)
    (.notReady "notification authorization fence is not ready")
  change fun tables =>
    { tables with
      service := { tables.service with monitorsEnabled := true, deliveryEnabled := true } }

end Notifications

end HyperTrader
