import HyperTrader.Journal.Record
import HyperTrader.Library.Table

/-!
# The database

The three tables of the action store with the constraints their schema states.
A `Database` is tables that meet every constraint, so no statement can build one
that does not: a statement whose result breaks a constraint fails. A transaction
is the synchronous body that `immediate` runs between `BEGIN IMMEDIATE` and
`COMMIT`.
-/

namespace HyperTrader

open Library

inductive SignerStatus where
  | active
  | retiring
  | retired
  deriving DecidableEq

structure SignerScopeRow where
  network : HyperliquidNetwork
  agentAddress : String
  masterAccount : String
  targetAccount : String
  signerGeneration : ℤ
  status : SignerStatus
  lastIssuedNonce : Option ℤ
  lastObservedWallMs : Option ℤ
  activatedAt : ℤ
  updatedAt : ℤ
  deriving DecidableEq

inductive SignerRetirementReason where
  | rotated
  | revoked
  | expired
  | credentialLost
  | externalRevocationUnconfirmed
  deriving DecidableEq

def SignerRetirementReason.text : SignerRetirementReason → String
  | rotated => "rotated"
  | revoked => "revoked"
  | expired => "expired"
  | credentialLost => "credential_lost"
  | externalRevocationUnconfirmed => "external_revocation_unconfirmed"

/-- A row of the retirement chain; its reason is a text column, here one of those that
are written. -/
structure TombstoneRow where
  installationEpoch : String
  sequence : ℤ
  priorChainRoot : String
  chainRoot : String
  network : HyperliquidNetwork
  agentAddressFingerprint : String
  lastIssuedNonce : ℤ
  signerGeneration : ℤ
  retiredAt : ℤ
  reason : SignerRetirementReason
  deriving DecidableEq

structure Tables where
  signerScopes : List SignerScopeRow
  retiredSignerTombstones : List TombstoneRow
  actionJournal : List PreparedActionRecord

/-- Two scopes share a key: `PRIMARY KEY (network, agent_address)`. -/
def SignerScopeRow.clash (a b : SignerScopeRow) : Prop :=
  a.network = b.network ∧ a.agentAddress = b.agentAddress

instance (a b : SignerScopeRow) : Decidable (a.clash b) :=
  inferInstanceAs (Decidable (_ ∧ _))

def TombstoneRow.clash (a b : TombstoneRow) : Prop :=
  (a.installationEpoch = b.installationEpoch ∧ a.sequence = b.sequence) ∨
  (a.network = b.network ∧ a.agentAddressFingerprint = b.agentAddressFingerprint) ∨
  (a.installationEpoch = b.installationEpoch ∧ a.chainRoot = b.chainRoot)

instance (a b : TombstoneRow) : Decidable (a.clash b) :=
  inferInstanceAs (Decidable (_ ∨ _))

namespace PreparedActionRecord

abbrev key (record : PreparedActionRecord) : String := record.journalId

/-- The records are of one intent: the columns of
`action_journal_active_fingerprint_unique`. -/
def sameFingerprint (a b : PreparedActionRecord) : Prop :=
  a.network = b.network ∧ a.masterAccount = b.masterAccount ∧
    a.targetAccount = b.targetAccount ∧ a.actionType = b.actionType ∧
    a.equivalenceFingerprint = b.equivalenceFingerprint

instance (a b : PreparedActionRecord) : Decidable (a.sameFingerprint b) :=
  inferInstanceAs (Decidable (_ ∧ _))

/-- Two records share a key: `journal_id`, `correlation_id`, the nonce of a
signer, the `cloid` of a target, or the fingerprint while neither is terminal. -/
def clash (a b : PreparedActionRecord) : Prop :=
  a.journalId = b.journalId ∨ a.correlationId = b.correlationId ∨
  (a.network = b.network ∧ a.agentAddress = b.agentAddress ∧ a.nonce = b.nonce) ∨
  (a.cloid.isSome = true ∧ a.cloid = b.cloid ∧ a.network = b.network ∧
    a.targetAccount = b.targetAccount) ∨
  (isTerminalJournalState a.state = false ∧
    isTerminalJournalState b.state = false ∧ a.sameFingerprint b)

instance (a b : PreparedActionRecord) : Decidable (a.clash b) :=
  inferInstanceAs (Decidable (_ ∨ _))

/-- The `CHECK` constraints of `action_journal` that the column types leave
open. -/
def checks (record : PreparedActionRecord) : Prop :=
  0 < record.signerGeneration ∧ 0 ≤ record.capturedContextEpoch ∧
    0 < record.intentVersion

instance (record : PreparedActionRecord) : Decidable record.checks :=
  inferInstanceAs (Decidable (_ ∧ _))

end PreparedActionRecord

structure Tables.Consistent (tables : Tables) : Prop where
  scopeChecks : ∀ scope ∈ tables.signerScopes, 0 < scope.signerGeneration
  scopeKeys : tables.signerScopes.Pairwise fun a b => ¬ a.clash b
  tombstoneChecks : ∀ tombstone ∈ tables.retiredSignerTombstones,
    0 < tombstone.sequence ∧ 0 < tombstone.signerGeneration
  tombstoneKeys : tables.retiredSignerTombstones.Pairwise fun a b => ¬ a.clash b
  recordChecks : ∀ record ∈ tables.actionJournal, record.checks
  recordKeys : tables.actionJournal.Pairwise fun a b => ¬ a.clash b
  recordScope : ∀ record ∈ tables.actionJournal,
    ∃ scope ∈ tables.signerScopes, scope.network = record.network ∧
      scope.agentAddress = record.agentAddress

theorem Tables.consistent_iff (tables : Tables) :
    tables.Consistent ↔
      (∀ scope ∈ tables.signerScopes, 0 < scope.signerGeneration) ∧
      (tables.signerScopes.Pairwise fun a b => ¬ a.clash b) ∧
      (∀ tombstone ∈ tables.retiredSignerTombstones,
        0 < tombstone.sequence ∧ 0 < tombstone.signerGeneration) ∧
      (tables.retiredSignerTombstones.Pairwise fun a b => ¬ a.clash b) ∧
      (∀ record ∈ tables.actionJournal, record.checks) ∧
      (tables.actionJournal.Pairwise fun a b => ¬ a.clash b) ∧
      (∀ record ∈ tables.actionJournal,
        ∃ scope ∈ tables.signerScopes, scope.network = record.network ∧
          scope.agentAddress = record.agentAddress) := by
  constructor
  · rintro ⟨h1, h2, h3, h4, h5, h6, h7⟩
    exact ⟨h1, h2, h3, h4, h5, h6, h7⟩
  · rintro ⟨h1, h2, h3, h4, h5, h6, h7⟩
    exact ⟨h1, h2, h3, h4, h5, h6, h7⟩

instance (tables : Tables) : Decidable tables.Consistent :=
  decidable_of_iff _ tables.consistent_iff.symm

structure Database extends Tables where
  consistent : toTables.Consistent

def Database.empty : Database where
  signerScopes := []
  retiredSignerTombstones := []
  actionJournal := []
  consistent := by decide

def Tables.store (tables : Tables) : Outcome Database :=
  if h : tables.Consistent then .ok ⟨tables, h⟩ else .error .constraint

theorem Tables.store_eq_ok {tables : Tables} {database : Database} :
    tables.store = .ok database ↔ database.toTables = tables := by
  unfold Tables.store
  split
  · rename_i h
    simp only [Except.ok.injEq]
    constructor
    · rintro rfl
      rfl
    · rintro rfl
      rfl
  · rename_i h
    simp only [reduceCtorEq, false_iff]
    rintro rfl
    exact h database.consistent

abbrev Statement (α : Type) := Transaction Database Failure α

/-- `UPDATE action_journal SET set WHERE wher`, with the number of rows it
changed. -/
def updateJournal (wher : PreparedActionRecord → Bool)
    (set : PreparedActionRecord → PreparedActionRecord) : Statement ℕ := do
  let database ← Transaction.read
  Transaction.write fun _ => Tables.store
    { database.toTables with
      actionJournal := Table.update database.actionJournal wher set }
  pure (Table.changes database.actionJournal wher)

theorem updateJournal_eq_ok {wher : PreparedActionRecord → Bool}
    {set : PreparedActionRecord → PreparedActionRecord} {changes : ℕ} {before after : Database} :
    updateJournal wher set before = .ok (changes, after) ↔
      changes = Table.changes before.actionJournal wher ∧
      after.toTables = { before.toTables with
        actionJournal := Table.update before.actionJournal wher set } := by
  unfold updateJournal
  simp only [Transaction.bind_eq_ok, Transaction.read_eq_ok,
    Transaction.write_eq_ok, Tables.store_eq_ok, Transaction.pure_eq_ok]
  constructor
  · rintro ⟨_, _, ⟨rfl, rfl⟩, _, _, hstore, hchanges, rfl⟩
    exact ⟨hchanges.symm, hstore⟩
  · rintro ⟨rfl, hstore⟩
    exact ⟨before, before, ⟨rfl, rfl⟩, (), after, hstore, rfl, rfl⟩

end HyperTrader
