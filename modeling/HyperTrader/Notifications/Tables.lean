import HyperTrader.Library.Keyed
import HyperTrader.Notifications.MonitorLeases

/-!
# The tables of the notification store

Each table has its primary key, and a statement that inserts a row checks the other unique
keys and the references that the schema declares. Deleting an account link deletes its
rules and clears the link of the alerts, outbox rows and permits that name it; these keep
the id of their scope. Times are the microseconds of the database's clock.
-/

namespace HyperTrader

open Library

namespace Notifications

inductive ScopeState
  | active
  | draining
  | inactive
  deriving DecidableEq

inductive DeletionScopeKind
  | installation
  | accountLink
  | pushToken
  deriving DecidableEq

namespace DeletionScopeKind

def text : DeletionScopeKind → String
  | .installation => "installation"
  | .accountLink => "account_link"
  | .pushToken => "push_token"

end DeletionScopeKind

structure DeletionId where
  kind : DeletionScopeKind
  scopeId : String
  generation : ℕ
  deriving DecidableEq

namespace DeletionId

def text (deletionId : DeletionId) : String :=
  deletionId.kind.text ++ ":" ++ deletionId.scopeId ++ ":" ++ toString deletionId.generation

end DeletionId

/-- `notification_installations` -/
structure InstallationRow where
  installationId : String
  credentialHash : Option String
  recoveryScopeMac : String
  recoveryKeyVersion : String
  state : ScopeState
  credentialGeneration : ℕ
  revocationGeneration : ℕ
  deriving DecidableEq

structure PushTokenRow where
  tokenId : String
  installationId : String
  fingerprint : String
  recoveryScopeMac : String
  deliverable : Bool
  deriving DecidableEq

inductive AccountProofPurpose
  | accountLink
  | accountRuleMutation
  | pushTokenRebind
  | installationRevoke
  deriving DecidableEq

namespace AccountProofPurpose

def text : AccountProofPurpose → String
  | .accountLink => "notification-account-link"
  | .accountRuleMutation => "notification-account-rule-mutation"
  | .pushTokenRebind => "notification-push-token-rebind"
  | .installationRevoke => "notification-installation-revoke"

end AccountProofPurpose

structure ChallengeRow where
  challengeHash : String
  credentialHash : String
  installationId : String
  network : NotificationNetwork
  masterAccount : String
  targetAccount : String
  purpose : AccountProofPurpose
  operationDigest : String
  serviceOrigin : String
  issuedAt : ℤ
  expiresAt : ℤ
  consumed : Bool
  deriving DecidableEq

/-- `notification_account_links` -/
structure AccountLinkRow where
  accountLinkId : String
  installationId : String
  network : NotificationNetwork
  masterAccount : String
  targetAccount : String
  state : ScopeState
  revocationGeneration : ℕ
  recoveryScopeMac : String
  recoveryKeyVersion : String
  deriving DecidableEq

inductive RuleScope
  | price
  | account
  deriving DecidableEq

inductive NotificationEventType
  | fill
  | cancellation
  | rejection
  | marginRisk
  | liquidationRisk
  | priceAbove
  | priceBelow
  | fundingAbove
  | fundingBelow
  deriving DecidableEq

/-- `notification_rules` -/
structure RuleRow where
  ruleId : String
  installationId : String
  accountLinkId : Option String
  scope : RuleScope
  network : NotificationNetwork
  marketId : String
  eventType : NotificationEventType
  threshold : String
  identityDigest : String
  active : Bool
  deriving DecidableEq

inductive AlertCategory
  | execution
  | risk
  | price
  | funding
  deriving DecidableEq

inductive AlertRoute
  | trade
  | portfolio
  deriving DecidableEq

/-- `notification_alerts` -/
structure AlertRow where
  alertId : String
  installationId : String
  accountLinkId : Option String
  accountLinkScopeId : Option String
  deletionId : Option DeletionId
  ruleId : Option String
  category : AlertCategory
  network : NotificationNetwork
  routeHint : AlertRoute
  createdAt : ℤ
  deriving DecidableEq

inductive OutboxState
  | pending
  | leased
  | providerSubmissionStarted
  | providerAccepted
  | providerRejected
  | providerOutcomeUnknown
  | cancelled
  deriving DecidableEq

/-- `notification_outbox` -/
structure OutboxRow where
  outboxId : String
  alertId : String
  installationId : String
  accountLinkId : Option String
  accountLinkScopeId : Option String
  accountLinkGeneration : Option ℕ
  deletionId : Option DeletionId
  network : NotificationNetwork
  revocationGeneration : ℕ
  state : OutboxState
  leaseOwner : Option String
  leaseExpiresAt : Option ℤ
  claimAttempts : ℕ
  providerErrorCode : Option String
  deriving DecidableEq

inductive PermitState
  | active
  | submissionStarted
  | finished
  | expired
  deriving DecidableEq

/-- `notification_dispatch_permits` -/
structure PermitRow where
  permitId : String
  outboxId : String
  installationId : String
  accountLinkId : Option String
  accountLinkScopeId : Option String
  accountLinkGeneration : Option ℕ
  deletionId : Option DeletionId
  network : NotificationNetwork
  revocationGeneration : ℕ
  state : PermitState
  expiresAt : ℤ
  providerDeadlineAt : ℤ
  deriving DecidableEq

/-- `notification_revocation_operations`; one with a ledger sequence is committed. -/
structure OperationRow where
  operationId : String
  deletionId : DeletionId
  scopeKind : DeletionScopeKind
  scopeId : String
  ledgerSequence : Option ℕ
  deriving DecidableEq

namespace OperationRow

def draining (operation : OperationRow) : Bool := operation.ledgerSequence.isNone

end OperationRow

/-- `notification_deletion_tombstones` -/
structure DeletionTombstoneRow where
  deletionId : DeletionId
  scopeKind : DeletionScopeKind
  scopeMac : String
  deletionGeneration : ℕ
  ledgerSequence : ℕ
  ledgerDurableHead : ℕ
  keyVersion : String
  deriving DecidableEq

/-- `notification_provider_tickets` -/
structure ProviderTicketRow where
  providerTicketId : String
  outboxId : String
  tokenId : String
  deriving DecidableEq

structure Tables where
  service : ServiceState
  installations : Keyed InstallationRow.installationId
  pushTokens : Keyed PushTokenRow.tokenId
  challenges : Keyed ChallengeRow.challengeHash
  accountLinks : Keyed AccountLinkRow.accountLinkId
  rules : Keyed RuleRow.ruleId
  alerts : Keyed AlertRow.alertId
  outbox : Keyed OutboxRow.outboxId
  permits : Keyed PermitRow.permitId
  operations : Keyed OperationRow.operationId
  tombstones : Keyed DeletionTombstoneRow.deletionId
  tickets : Keyed ProviderTicketRow.providerTicketId
  dedupeKeys : List String
  monitorLeases : List MonitorLeaseRow
  deriving DecidableEq

abbrev Statement := Transaction Tables StoreFailure

def change (f : Tables → Tables) : Statement Unit := Transaction.write fun tables => .ok (f tables)

variable {u : Unit} {tables tables' : Tables}

@[simp] theorem change_eq_ok {f : Tables → Tables} :
    change f tables = .ok (u, tables') ↔ f tables = tables' := by
  simp [change]

/-- `INSERT INTO notification_revocation_operations` -/
def insertOperation (row : OperationRow) : Statement Unit := Transaction.write fun tables =>
  if tables.operations.rows.any fun other => other.deletionId = row.deletionId then
    .error .uniqueViolation
  else
    match tables.operations.insert? row with
    | some operations => .ok { tables with operations := operations }
    | none => .error .uniqueViolation

theorem insertOperation_eq_ok {row : OperationRow} :
    insertOperation row tables = .ok (u, tables') ↔
      (∀ other ∈ tables.operations.rows, other.deletionId ≠ row.deletionId) ∧
        ∃ operations, tables.operations.insert? row = some operations ∧
          tables' = { tables with operations := operations } := by
  unfold insertOperation
  rw [Transaction.write_eq_ok]
  split
  · rename_i hany
    simp only [List.any_eq_true, decide_eq_true_eq] at hany
    obtain ⟨other, hother, hsame⟩ := hany
    constructor
    · intro h
      cases h
    · rintro ⟨hfresh, -⟩
      exact absurd hsame (hfresh other hother)
  · rename_i hany
    have hfresh : ∀ other ∈ tables.operations.rows, other.deletionId ≠ row.deletionId := by
      simpa using hany
    cases hinsert : tables.operations.insert? row with
    | none => simp
    | some operations =>
      simp only [Except.ok.injEq, Option.some.injEq, exists_eq_left', and_iff_right hfresh]
      exact eq_comm

/-- `INSERT INTO notification_account_links` -/
def insertAccountLink (row : AccountLinkRow) : Statement Unit := Transaction.write fun tables =>
  if (tables.installations.find? row.installationId).isNone then .error .foreignKeyViolation
  else if tables.accountLinks.rows.any fun other =>
      other.recoveryScopeMac = row.recoveryScopeMac ||
        (other.installationId = row.installationId && other.network = row.network &&
          other.masterAccount = row.masterAccount && other.targetAccount = row.targetAccount) then
    .error .uniqueViolation
  else
    match tables.accountLinks.insert? row with
    | some accountLinks => .ok { tables with accountLinks := accountLinks }
    | none => .error .uniqueViolation

def deleteRules (wher : RuleRow → Bool) (tables : Tables) : Tables :=
  { tables with
    rules := tables.rules.delete wher
    alerts := tables.alerts.update
      (fun alert => tables.rules.rows.any fun rule => wher rule && alert.ruleId = some rule.ruleId)
      (fun alert => { alert with ruleId := none }) fun _ => rfl }

def deleted (accountLinks : Keyed AccountLinkRow.accountLinkId) (wher : AccountLinkRow → Bool)
    (accountLinkId : Option String) : Bool :=
  accountLinks.rows.any fun link => wher link && accountLinkId = some link.accountLinkId

/-- `DELETE FROM notification_account_links`, with what the schema does to the rows that
refer to them. -/
def deleteAccountLinks (wher : AccountLinkRow → Bool) (tables : Tables) : Tables :=
  let gone := deleted tables.accountLinks wher
  let tables := deleteRules (fun rule => gone rule.accountLinkId) tables
  { tables with
    accountLinks := tables.accountLinks.delete wher
    alerts := tables.alerts.update (fun alert => gone alert.accountLinkId)
      (fun alert => { alert with accountLinkId := none }) fun _ => rfl
    outbox := tables.outbox.update (fun row => gone row.accountLinkId)
      (fun row => { row with accountLinkId := none }) fun _ => rfl
    permits := tables.permits.update (fun permit => gone permit.accountLinkId)
      (fun permit => { permit with accountLinkId := none }) fun _ => rfl }

/-- `DELETE FROM notification_push_tokens` -/
def deletePushTokens (wher : PushTokenRow → Bool) (tables : Tables) : Tables :=
  { tables with pushTokens := tables.pushTokens.delete wher }

end Notifications

end HyperTrader
