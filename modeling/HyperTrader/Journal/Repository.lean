import HyperTrader.Journal.Database
import Mathlib.Data.List.Sort

/-!
# The action journal repository

The methods of the repository over the journal, each with the statements it
runs, in their order. A method is an action on the repository: the database, and
the reservations this process may still submit, which are lost with the process.
`fault` is the failure the store raises during the method's transaction, if it
raises one.
-/

namespace HyperTrader

open Library

structure ReconciliationLease where
  journalId : String
  owner : String
  expiresAt : ℤ

structure TransportWritePermit where
  journalId : String
  available : Bool

def createTransportWritePermit (journalId : String) : TransportWritePermit where
  journalId := journalId
  available := true

def TransportWritePermit.consume (permit : TransportWritePermit) :
    Outcome Unit × TransportWritePermit :=
  if permit.available then (.ok (), { permit with available := false })
  else (.error (.error "This transport write permit has already been consumed."), permit)

structure SubmissionStartReceipt where
  record : PreparedActionRecord
  transportPermit : TransportWritePermit

inductive RestartRecoveryDecision where
  | unchanged
  | transition (state : JournalState)

def mayMarkSubmissionStarted (record : PreparedActionRecord) (now : ℤ) : Prop :=
  record.state = .prepared ∧ record.submissionStartedAt = none ∧
    now < record.expiresAfterMs

instance (record : PreparedActionRecord) (now : ℤ) :
    Decidable (mayMarkSubmissionStarted record now) :=
  inferInstanceAs (Decidable (_ ∧ _))

def restartRecoveryDecision (record : PreparedActionRecord) : RestartRecoveryDecision :=
  if isTerminalJournalState record.state = true ∨ record.state = .unresolved then
    .unchanged
  else if record.submissionStartedAt.isSome = true ∨
      record.state = .submissionStarted then
    .transition .unresolved
  else if record.state = .prepared then
    .transition .abandonedBeforeSubmission
  else
    .unchanged

def leaseDuration (value : Option ℤ) : Outcome ℤ := do
  let duration := value.getD 30000
  require (isSafeInteger duration ∧ 1000 ≤ duration ∧ duration ≤ 60000)
    (.typeError "Lease duration must be between 1 and 60 seconds.")
  pure duration

/-- `SqliteActionJournalRepository` -/
structure Repository where
  database : Database
  preparedInThisProcess : String → Option ℤ

abbrev Method (α : Type) := Action Repository Failure α

/-- `this.preparedInThisProcess.delete(journalId)` -/
def Repository.forget (journalId : String) (repository : Repository) : Repository :=
  { repository with
    preparedInThisProcess :=
      Function.update repository.preparedInThisProcess journalId none }

def immediate {α : Type} (fault : Option Failure) (operation : Statement α) :
    Method α := fun repository =>
  let (result, database) :=
    Transaction.atomically fault operation repository.database
  (result, { repository with database := database })

/-- `SELECT * FROM action_journal WHERE journal_id = ?`, read back. -/
def Database.getAction (database : Database) (journalId : String) :
    Outcome (Option PreparedActionRecord) :=
  match database.actionJournal.find? fun row => row.journalId == journalId with
  | none => pure none
  | some row => do
      let record ← fromRow row
      pure (some record)

def getAction (fault : Option Failure) (journalId : String) :
    Method (Option PreparedActionRecord) :=
  immediate fault (Transaction.check fun database => database.getAction journalId)

def requireAction (journalId : String) : Statement PreparedActionRecord :=
  Transaction.check fun database => do
    match ← database.getAction journalId with
    | some record => pure record
    | none => throw (.error "The action journal record does not exist.")

/-- `ORDER BY next_reconciliation_at, prepared_at, journal_id` -/
def queueOrder (a b : PreparedActionRecord) : Prop :=
  a.nextReconciliationAt < b.nextReconciliationAt ∨
  (a.nextReconciliationAt = b.nextReconciliationAt ∧ (a.preparedAt < b.preparedAt ∨
      (a.preparedAt = b.preparedAt ∧ a.journalId ≤ b.journalId)))

instance : DecidableRel queueOrder := fun _ _ =>
  inferInstanceAs (Decidable (_ ∨ _))

/-- `ORDER BY prepared_at, journal_id` -/
def preparedOrder (a b : PreparedActionRecord) : Prop :=
  a.preparedAt < b.preparedAt ∨
    (a.preparedAt = b.preparedAt ∧ a.journalId ≤ b.journalId)

instance : DecidableRel preparedOrder := fun _ _ =>
  inferInstanceAs (Decidable (_ ∨ _))

/-- The lease of the row is free at `now`:
`lease_owner IS NULL OR lease_expires_at <= ?`. -/
def PreparedActionRecord.leaseFree (record : PreparedActionRecord) (now : ℤ) : Bool :=
  record.leaseOwner.isNone || record.leaseExpiresAt.any fun at_ => at_ ≤ now

namespace PreparedActionRecord

/-- `SET state = 'submission_started', submission_started_at = ?,
updated_at = ?` -/
def marked (now : ℤ) (row : PreparedActionRecord) : PreparedActionRecord :=
  { row with
    state := .submissionStarted
    submissionStartedAt := some now
    updatedAt := now }

/-- `SET state = ?, last_result_class = ?, lease_owner = NULL,
lease_expires_at = NULL, updated_at = ?` -/
def transitioned (next : JournalState) (resultClass : Option JournalResultClass)
    (now : ℤ) (row : PreparedActionRecord) : PreparedActionRecord :=
  { row with
    state := next
    lastResultClass := resultClass
    leaseOwner := none
    leaseExpiresAt := none
    updatedAt := now }

/-- `SET lease_owner = ?, lease_expires_at = ?, updated_at = ?` -/
def leased (owner : String) (expiresAt now : ℤ) (row : PreparedActionRecord) :
    PreparedActionRecord :=
  { row with
    leaseOwner := some owner
    leaseExpiresAt := some expiresAt
    updatedAt := now }

/-- `SET lease_expires_at = ?, updated_at = ?` -/
def renewed (expiresAt now : ℤ) (row : PreparedActionRecord) : PreparedActionRecord :=
  { row with leaseExpiresAt := some expiresAt, updatedAt := now }

/-- `SET lease_owner = NULL, lease_expires_at = NULL, updated_at = ?` -/
def released (now : ℤ) (row : PreparedActionRecord) : PreparedActionRecord :=
  { row with leaseOwner := none, leaseExpiresAt := none, updatedAt := now }

/-- `SET state = 'unresolved', last_result_class = 'unresolved',
reconciliation_attempts = reconciliation_attempts + 1,
next_reconciliation_at = ?, lease_owner = NULL, lease_expires_at = NULL,
updated_at = ?` -/
def scheduled (now nextAttemptAt : ℤ) (row : PreparedActionRecord) : PreparedActionRecord :=
  { row with
    state := .unresolved
    lastResultClass := some .unresolved
    reconciliationAttempts := row.reconciliationAttempts + 1
    nextReconciliationAt := nextAttemptAt
    leaseOwner := none
    leaseExpiresAt := none
    updatedAt := now }

/-- `SET state = ?, last_result_class = ?, updated_at = ?` of the restart
recovery. -/
def recovered (state : JournalState) (now : ℤ) (row : PreparedActionRecord) :
    PreparedActionRecord :=
  { row with
    state := state
    lastResultClass := if state = .unresolved then some .unresolved else none
    updatedAt := now }

end PreparedActionRecord

def markStatement (journalId : String) (now : ℤ) :
    Statement PreparedActionRecord := do
  let current ← requireAction journalId
  Transaction.ensure (mayMarkSubmissionStarted current now)
    (.error "The action cannot start submission.")
  let changes ← updateJournal
    (fun row => row.journalId == journalId && row.state == .prepared &&
      row.submissionStartedAt.isNone)
    (PreparedActionRecord.marked now)
  Transaction.ensure (changes = 1)
    (.error "The action submission marker lost its compare-and-swap.")
  requireAction journalId

def markSubmissionStarted (fault : Option Failure) (journalId : String)
    (now : ℤ) : Method SubmissionStartReceipt := do
  Action.check (assertTime now "now")
  let repository ← Action.get
  let processLocalExpiry ← Action.check
    ((repository.preparedInThisProcess journalId).elim (.error (.error
        "Transport authority is unavailable for a reservation from another process lifetime.")) .ok)
  Action.modify fun repository =>
    if processLocalExpiry ≤ now then repository.forget journalId else repository
  let record ← immediate fault (markStatement journalId now)
  Action.modify (Repository.forget journalId)
  pure ⟨record, createTransportWritePermit journalId⟩

def transitionStatement (journalId : String) (next : JournalState)
    (resultClass : Option JournalResultClass) (now : ℤ) :
    Statement PreparedActionRecord := do
  let current ← requireAction journalId
  Transaction.check fun _ => assertJournalTransition current.state next
  Transaction.check fun _ => assertJournalResultClass next resultClass
  let changes ← updateJournal
    (fun row => row.journalId == journalId && row.state == current.state)
    (PreparedActionRecord.transitioned next resultClass now)
  Transaction.ensure (changes = 1)
    (.error "The journal transition lost its compare-and-swap.")
  requireAction journalId

def transitionAction (fault : Option Failure) (journalId : String)
    (next : JournalState) (resultClass : Option JournalResultClass) (now : ℤ) :
    Method PreparedActionRecord := do
  Action.check (assertTime now "now")
  let record ← immediate fault
    (transitionStatement journalId next resultClass now)
  Action.modify (Repository.forget journalId)
  pure record

def claimStatement (journalId owner : String) (now expiresAt : ℤ) :
    Statement (Option ReconciliationLease) := do
  let changes ← updateJournal
    (fun row => row.journalId == journalId && row.state.reconcilable && row.leaseFree now)
    (PreparedActionRecord.leased owner expiresAt now)
  pure (if changes = 1 then some ⟨journalId, owner, expiresAt⟩ else none)

def claimReconciliationLease (fault : Option Failure) (journalId owner : String)
    (now : ℤ) (leaseDurationMs : Option ℤ) :
    Method (Option ReconciliationLease) := do
  Action.check (assertLeaseOwner owner)
  Action.check (assertTime now "now")
  let duration ← Action.check (leaseDuration leaseDurationMs)
  immediate fault (claimStatement journalId owner now (addNumber now duration))

def Database.nextCandidate (database : Database) (now : ℤ) : Option PreparedActionRecord :=
  ((database.actionJournal.filter fun row =>
      row.state.reconcilable && decide (row.nextReconciliationAt ≤ now) &&
        row.leaseFree now).insertionSort queueOrder).head?

def claimNextStatement (owner : String) (now expiresAt : ℤ) :
    Statement (Option (PreparedActionRecord × ReconciliationLease)) := do
  let database ← Transaction.read
  match database.nextCandidate now with
  | none => pure none
  | some candidate => do
      let changes ← updateJournal
        (fun row => row.journalId == candidate.journalId && row.leaseFree now)
        (PreparedActionRecord.leased owner expiresAt now)
      if changes = 1 then do
        let record ← requireAction candidate.journalId
        pure (some (record, ⟨candidate.journalId, owner, expiresAt⟩))
      else
        pure none

def claimNextReconciliation (fault : Option Failure) (owner : String) (now : ℤ)
    (leaseDurationMs : Option ℤ) :
    Method (Option (PreparedActionRecord × ReconciliationLease)) := do
  Action.check (assertLeaseOwner owner)
  Action.check (assertTime now "now")
  let duration ← Action.check (leaseDuration leaseDurationMs)
  immediate fault (claimNextStatement owner now (addNumber now duration))

def PreparedActionRecord.holds (record : PreparedActionRecord)
    (lease : ReconciliationLease) : Bool :=
  record.journalId == lease.journalId && record.leaseOwner == some lease.owner &&
    record.leaseExpiresAt == some lease.expiresAt

def renewStatement (lease : ReconciliationLease) (now expiresAt : ℤ) :
    Statement (Option ReconciliationLease) := do
  let changes ← updateJournal
    (fun row => row.holds lease && row.leaseExpiresAt.any fun at_ => now < at_)
    (PreparedActionRecord.renewed expiresAt now)
  pure (if changes = 1 then some { lease with expiresAt := expiresAt } else none)

def renewReconciliationLease (fault : Option Failure)
    (lease : ReconciliationLease) (now : ℤ) (leaseDurationMs : Option ℤ) :
    Method (Option ReconciliationLease) := do
  Action.check (assertLeaseOwner lease.owner)
  Action.check (assertTime now "now")
  let duration ← Action.check (leaseDuration leaseDurationMs)
  immediate fault (renewStatement lease now (addNumber now duration))

def releaseStatement (lease : ReconciliationLease) (now : ℤ) :
    Statement Bool := do
  let changes ← updateJournal (fun row => row.holds lease)
    (PreparedActionRecord.released now)
  pure (changes == 1)

def releaseReconciliationLease (fault : Option Failure)
    (lease : ReconciliationLease) (now : ℤ) : Method Bool := do
  Action.check (assertLeaseOwner lease.owner)
  Action.check (assertTime now "now")
  immediate fault (releaseStatement lease now)

/-- The row is leased by `owner` past `now`. -/
def PreparedActionRecord.leasedBy (record : PreparedActionRecord)
    (owner : String) (now : ℤ) : Bool :=
  record.leaseOwner == some owner &&
    record.leaseExpiresAt.any fun at_ => now < at_

def scheduleStatement (journalId owner : String) (now nextAttemptAt : ℤ) :
    Statement PreparedActionRecord := do
  let current ← requireAction journalId
  Transaction.ensure (current.leasedBy owner now = true)
    (.error "A current reconciliation lease is required.")
  let changes ← updateJournal
    (fun row => row.journalId == journalId && row.leasedBy owner now)
    (PreparedActionRecord.scheduled now nextAttemptAt)
  Transaction.ensure (changes = 1)
    (.error "The reconciliation schedule lost its lease.")
  requireAction journalId

def scheduleReconciliation (fault : Option Failure) (journalId owner : String)
    (now nextAttemptAt : ℤ) : Method PreparedActionRecord := do
  Action.check (assertLeaseOwner owner)
  Action.check (assertTime now "now")
  Action.check (assertTime nextAttemptAt "nextAttemptAt")
  Action.check (require (now ≤ nextAttemptAt)
    (.typeError "The next reconciliation time cannot be in the past."))
  immediate fault (scheduleStatement journalId owner now nextAttemptAt)

def recoverRow (now : ℤ) (row : PreparedActionRecord) :
    Statement (Option PreparedActionRecord) := do
  let current ← Transaction.check fun _ => fromRow row
  match restartRecoveryDecision current with
  | .unchanged => pure none
  | .transition state => do
      let changes ← updateJournal
        (fun row => row.journalId == current.journalId && row.state == current.state)
        (PreparedActionRecord.recovered state now)
      Transaction.ensure (changes = 1)
        (.error "Restart recovery lost its compare-and-swap.")
      let record ← requireAction current.journalId
      pure (some record)

def recoverRows (now : ℤ) :
    List PreparedActionRecord → Statement (List PreparedActionRecord)
  | [] => pure []
  | row :: rows => do
      let changed ← recoverRow now row
      let later ← recoverRows now rows
      pure (changed.toList ++ later)

def recoverStatement (now : ℤ) : Statement (List PreparedActionRecord) := do
  let database ← Transaction.read
  recoverRows now ((database.actionJournal.filter fun row =>
    row.state == .prepared || row.state.reconcilable).insertionSort preparedOrder)

def recoverAfterRestart (fault : Option Failure) (now : ℤ) :
    Method (List PreparedActionRecord) := do
  Action.check (assertTime now "now")
  Action.modify fun repository =>
    { repository with preparedInThisProcess := fun _ => none }
  immediate fault (recoverStatement now)

def registerCurrentProcessReservation (journalId : String)
    (expiresAfterMs now : ℤ) (repository : Repository) : Repository :=
  let live : String → Option ℤ := fun reserved =>
    (repository.preparedInThisProcess reserved).filter fun expiry => now < expiry
  { repository with
    preparedInThisProcess := Function.update live journalId (some expiresAfterMs) }

end HyperTrader
