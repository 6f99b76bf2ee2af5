import HyperTrader.Nonce.Calls
import HyperTrader.Reconciliation.Policy
import Mathlib.Algebra.Group.Int.Defs

/-!
# The reconciler

The methods of `createActionReconciler`, each cut at its one await: `reconcile`
and `reconcileNext` run up to the request for evidence, and `reconcileClaim`
from the evidence, or the failure to get it, to the end. Between two awaits no
other code of the process runs, so each part is a single action on the
repository, and it reads the clock once.
-/

namespace HyperTrader

open Library

inductive ActionReconcilerResult where
  | decided (decision : ReconciliationDecision)
  | leaseLost
  | notReconcilable
  | alreadyTerminal (state : JournalState)

/-- What a call has come to at its await: its result, or a claim that waits for
evidence. -/
inductive Reconciling where
  | finished (result : ActionReconcilerResult)
  | claimed (record : PreparedActionRecord) (lease : ReconciliationLease)

structure ReconcilerFaults where
  read : Option Failure
  claim : Option Failure
  renew : Option Failure
  write : Option Failure

def nextAttempt (record : PreparedActionRecord) (now : ℤ) : ℤ :=
  let delay := min 30000 (1000 * 2 ^ (min record.reconciliationAttempts 5).toNat)
  let expiryProbeAt := addNumber record.expiresAfterMs 1000
  if now < expiryProbeAt then min (addNumber now delay) expiryProbeAt
  else min (addNumber now delay) (addNumber now 1000)

def ReconciledState.resultClass : ReconciledState → JournalResultClass
  | accepted => .accepted
  | rejected => .rejected
  | expired => .expired
  | reconciledAmbiguous => .ambiguous

def reconcile (faults : ReconcilerFaults) (owner : String) (now : ℤ)
    (journalId : String) : Method Reconciling := do
  match ← getAction faults.read journalId with
  | none => pure (.finished .notReconcilable)
  | some record =>
    if isTerminalJournalState record.state then
      pure (.finished (.alreadyTerminal record.state))
    else if record.state.reconcilable then do
      match ← claimReconciliationLease faults.claim record.journalId owner now
        none with
      | none => pure (.finished .leaseLost)
      | some lease => pure (.claimed record lease)
    else pure (.finished .notReconcilable)

/-- `reconcileNext` up to its await; `none` when no record waits. -/
def reconcileNext (faults : ReconcilerFaults) (owner : String) (now : ℤ) :
    Method (Option Reconciling) := do
  match ← claimNextReconciliation faults.claim owner now none with
  | none => pure none
  | some (record, lease) => pure (some (.claimed record lease))

def recordDecision (faults : ReconcilerFaults) (owner : String) (now : ℤ)
    (record : PreparedActionRecord) :
    ReconciliationDecision → Method PreparedActionRecord
  | .unresolved _ => scheduleReconciliation faults.write record.journalId owner
      now (nextAttempt record now)
  | .terminal state => transitionAction faults.write record.journalId
      state.journalState (some state.resultClass) now

def scheduleAfterFailure (faults : ReconcilerFaults) (owner : String) (now : ℤ)
    (record : PreparedActionRecord) (lease : ReconciliationLease) :
    Method ActionReconcilerResult := do
  match ← renewReconciliationLease faults.renew lease now none with
  | none => pure .leaseLost
  | some _ => do
      let decision := ReconciliationDecision.unresolved .incompleteEvidence
      let _ ← recordDecision faults owner now record decision
      pure (.decided decision)

def reconcileClaim (viem : Viem) (faults : ReconcilerFaults) (owner : String)
    (now : ℤ) (record : PreparedActionRecord) (lease : ReconciliationLease)
    (evidence : Outcome ReconciliationEvidence) : Method ActionReconcilerResult :=
  match evidence with
  | .error _ => scheduleAfterFailure faults owner now record lease
  | .ok evidence => do
      match ← renewReconciliationLease faults.renew lease now none with
      | none => pure .leaseLost
      | some _ => do
          let decision ← Action.check (decideReconciliation viem record evidence)
          let _ ← recordDecision faults owner now record decision
          pure (.decided decision)

/-- The decision a claim comes to once it holds its lease: a load that failed
leaves the record unresolved. -/
def claimDecision (viem : Viem) (record : PreparedActionRecord) :
    Outcome ReconciliationEvidence → Outcome ReconciliationDecision
  | .error _ => .ok (.unresolved .incompleteEvidence)
  | .ok evidence => decideReconciliation viem record evidence

theorem reconcileClaim_eq (viem : Viem) (faults : ReconcilerFaults)
    (owner : String) (now : ℤ) (record : PreparedActionRecord)
    (lease : ReconciliationLease) (evidence : Outcome ReconciliationEvidence) :
    reconcileClaim viem faults owner now record lease evidence =
      (renewReconciliationLease faults.renew lease now none >>= fun renewed =>
        match renewed with
        | none => pure .leaseLost
        | some _ =>
          Action.check (claimDecision viem record evidence) >>= fun decision =>
            recordDecision faults owner now record decision >>= fun _ =>
              pure (.decided decision)) := by
  cases evidence <;> rfl

theorem renewReconciliationLease_failsClean (fault : Option Failure)
    (lease : ReconciliationLease) (now : ℤ) (leaseDurationMs : Option ℤ) :
    FailsClean (renewReconciliationLease fault lease now leaseDurationMs) :=
  .check_bind fun _ => .check_bind fun _ => .check_bind fun _ =>
    .immediate _ _

theorem claimReconciliationLease_failsClean (fault : Option Failure)
    (journalId owner : String) (now : ℤ) (leaseDurationMs : Option ℤ) :
    FailsClean (claimReconciliationLease fault journalId owner now leaseDurationMs) :=
  .check_bind fun _ => .check_bind fun _ => .check_bind fun _ =>
    .immediate _ _

theorem claimNextReconciliation_failsClean (fault : Option Failure)
    (owner : String) (now : ℤ) (leaseDurationMs : Option ℤ) :
    FailsClean (claimNextReconciliation fault owner now leaseDurationMs) :=
  .check_bind fun _ => .check_bind fun _ => .check_bind fun _ =>
    .immediate _ _

theorem scheduleReconciliation_failsClean (fault : Option Failure)
    (journalId owner : String) (now nextAttemptAt : ℤ) :
    FailsClean (scheduleReconciliation fault journalId owner now nextAttemptAt) :=
  .check_bind fun _ => .check_bind fun _ => .check_bind fun _ =>
    .check_bind fun _ => .immediate _ _

theorem transitionAction_failsClean (fault : Option Failure)
    (journalId : String) (next : JournalState) (resultClass : Option JournalResultClass) (now : ℤ) :
    FailsClean (transitionAction fault journalId next resultClass now) := by
  refine .check_bind fun _ => .bind (.immediate _ _) ?_
  intro a s failure s' h
  simp [Action.bind_apply] at h

variable {now : ℤ} {fault : Option Failure} {lease : ReconciliationLease} {s s' : Repository}
  {journalId owner : String} {record : PreparedActionRecord} {faults : ReconcilerFaults}
  {decision : ReconciliationDecision}

theorem lt_addNumber {duration : ℤ} (h : 2 ≤ duration) : now < addNumber now duration := by
  unfold addNumber
  split
  · omega
  · split <;> omega

/-- A renewal that returned a lease rewrote the row that held the old one, which
had not expired; the new one expires later than `now`. -/
theorem renewReconciliationLease_some {renewed : ReconciliationLease}
    (h : renewReconciliationLease fault lease now none s = (.ok (some renewed), s')) :
    ∃ row, row.holds lease = true ∧ now < lease.expiresAt ∧
      renewed = { lease with expiresAt := renewed.expiresAt } ∧
      now < renewed.expiresAt ∧
      JournalRewrite s.database s'.database row (row.renewed renewed.expiresAt now) := by
  unfold renewReconciliationLease at h
  simp only [Action.bind_eq_ok, Action.check_apply, Prod.mk.injEq, immediate_eq_ok] at h
  obtain ⟨_, _, ⟨-, rfl⟩, _, _, ⟨-, rfl⟩, duration, _, ⟨hduration, rfl⟩, -,
    database, hrenew, rfl⟩ := h
  obtain ⟨-, -, hleast, -⟩ := leaseDuration_eq_ok hduration
  obtain ⟨rfl, row, hholds, hlive, hrewrite⟩ := renewStatement_some hrenew
  refine ⟨row, hholds, hlive, rfl, ?_, hrewrite⟩
  exact lt_addNumber (by omega)

theorem renewReconciliationLease_none
    (h : renewReconciliationLease fault lease now none s = (.ok none, s')) : s' = s := by
  unfold renewReconciliationLease at h
  simp only [Action.bind_eq_ok, Action.check_apply, Prod.mk.injEq, immediate_eq_ok] at h
  obtain ⟨_, _, ⟨-, rfl⟩, _, _, ⟨-, rfl⟩, duration, _, ⟨-, rfl⟩, -, database, hrenew, rfl⟩ := h
  rw [renewStatement_none hrenew]

theorem claimReconciliationLease_some
    (h : claimReconciliationLease fault journalId owner now none s = (.ok (some lease), s')) :
    lease.journalId = journalId ∧ lease.owner = owner ∧
      now < lease.expiresAt ∧ ∃ row, row.journalId = journalId ∧
        row.state.reconcilable = true ∧ row.leaseFree now = true ∧
        JournalRewrite s.database s'.database row (row.leased owner lease.expiresAt now) := by
  unfold claimReconciliationLease at h
  simp only [Action.bind_eq_ok, Action.check_apply, Prod.mk.injEq, immediate_eq_ok] at h
  obtain ⟨_, _, ⟨-, rfl⟩, _, _, ⟨-, rfl⟩, duration, _, ⟨hduration, rfl⟩, -,
    database, hclaim, rfl⟩ := h
  obtain ⟨-, -, hleast, -⟩ := leaseDuration_eq_ok hduration
  obtain ⟨rfl, row, hid, hstate, hfree, hrewrite⟩ := claimStatement_some hclaim
  exact ⟨rfl, rfl, lt_addNumber (by omega), row, hid, hstate, hfree, hrewrite⟩

theorem claimReconciliationLease_none
    (h : claimReconciliationLease fault journalId owner now none s = (.ok none, s')) : s' = s := by
  unfold claimReconciliationLease at h
  simp only [Action.bind_eq_ok, Action.check_apply, Prod.mk.injEq, immediate_eq_ok] at h
  obtain ⟨_, _, ⟨-, rfl⟩, _, _, ⟨-, rfl⟩, duration, _, ⟨-, rfl⟩, -, database, hclaim, rfl⟩ := h
  rw [claimStatement_none hclaim]

theorem claimNextReconciliation_some (h : claimNextReconciliation fault owner now none s =
      (.ok (some (record, lease)), s')) :
    lease.journalId = record.journalId ∧ lease.owner = owner ∧
      now < lease.expiresAt ∧ StoredRecord record ∧
      ∃ row, row.state.reconcilable = true ∧ row.leaseFree now = true ∧
        record = row.leased owner lease.expiresAt now ∧
        JournalRewrite s.database s'.database row record := by
  unfold claimNextReconciliation at h
  simp only [Action.bind_eq_ok, Action.check_apply, Prod.mk.injEq, immediate_eq_ok] at h
  obtain ⟨_, _, ⟨-, rfl⟩, _, _, ⟨-, rfl⟩, duration, _, ⟨hduration, rfl⟩, -,
    database, hclaim, rfl⟩ := h
  obtain ⟨-, -, hleast, -⟩ := leaseDuration_eq_ok hduration
  obtain ⟨rfl, hstored, row, hstate, hfree, hrecord, hrewrite⟩ :=
    claimNextStatement_some hclaim
  exact ⟨rfl, rfl, lt_addNumber (by omega), hstored, row, hstate, hfree, hrecord, hrewrite⟩

theorem claimNextReconciliation_none
    (h : claimNextReconciliation fault owner now none s = (.ok none, s')) : s' = s := by
  unfold claimNextReconciliation at h
  simp only [Action.bind_eq_ok, Action.check_apply, Prod.mk.injEq, immediate_eq_ok] at h
  obtain ⟨_, _, ⟨-, rfl⟩, _, _, ⟨-, rfl⟩, duration, _, ⟨-, rfl⟩, -, database, hclaim, rfl⟩ := h
  rw [claimNextStatement_none hclaim]

/-- What a reconciler holds after the first part of a call: nothing, and the
repository is what it was, or a lease of a free row. -/
structure Claimed (owner : String) (now : ℤ) (before after : Database)
    (record : PreparedActionRecord) (lease : ReconciliationLease) : Prop where
  journalId : lease.journalId = record.journalId
  owner_eq : lease.owner = owner
  live : now < lease.expiresAt
  stored : StoredRecord record
  leased : ∃ row, row.toPreparedActionInput = record.toPreparedActionInput ∧
    row.state = record.state ∧ row.state.reconcilable = true ∧
    row.leaseFree now = true ∧
    JournalRewrite before after row (row.leased owner lease.expiresAt now)

/-- A round without a claim has written nothing. -/
theorem reconcile_spec {result : Outcome Reconciling}
    (h : reconcile faults owner now journalId s = (result, s')) :
    (s' = s ∧ ∀ record lease, result ≠ .ok (.claimed record lease)) ∨
      ∃ record lease, result = .ok (.claimed record lease) ∧
        record.journalId = journalId ∧
        Claimed owner now s.database s'.database record lease := by
  unfold reconcile at h
  rw [Action.bind_apply] at h
  cases hget : getAction faults.read journalId s with
  | mk found mid =>
    have hmid : mid = s ∧ ∀ record, found = .ok (some record) →
        s.database.getAction journalId = .ok (some record) := by
      cases found with
      | error failure =>
        exact ⟨FailsClean.immediate _ _ _ _ _ hget, by simp⟩
      | ok found =>
        obtain ⟨-, database, hread, rfl⟩ := immediate_eq_ok.mp hget
        obtain ⟨hrow, rfl⟩ := Transaction.check_eq_ok.mp hread
        exact ⟨rfl, fun record hrecord => hrow.trans hrecord⟩
    obtain ⟨rfl, hfound⟩ := hmid
    rw [hget] at h
    cases found with
    | error failure =>
      obtain ⟨rfl, rfl⟩ := Prod.mk.inj h
      exact .inl ⟨rfl, by simp⟩
    | ok found =>
      cases found with
      | none =>
        obtain ⟨rfl, rfl⟩ := Prod.mk.inj h
        exact .inl ⟨rfl, by simp⟩
      | some record =>
        obtain ⟨hmem, hid, hstored⟩ :=
          Database.getAction_eq_some.mp (hfound record rfl)
        dsimp only at h
        split at h
        · obtain ⟨rfl, rfl⟩ := Prod.mk.inj h
          exact .inl ⟨rfl, by simp⟩
        split at h
        · rename_i hstate
          rw [Action.bind_apply] at h
          cases hclaim : claimReconciliationLease faults.claim
              record.journalId owner now none mid with
          | mk claimed last =>
            rw [hclaim] at h
            cases claimed with
            | error failure =>
              obtain ⟨rfl, rfl⟩ := Prod.mk.inj h
              exact .inl ⟨claimReconciliationLease_failsClean _ _ _ _ _
                _ _ _ hclaim, by simp⟩
            | ok claimed =>
              cases claimed with
              | none =>
                obtain ⟨rfl, rfl⟩ := Prod.mk.inj h
                exact .inl ⟨claimReconciliationLease_none hclaim,
                  by simp⟩
              | some lease =>
                obtain ⟨rfl, rfl⟩ := Prod.mk.inj h
                obtain ⟨hlease, howner, hlive, row, hrow, hrowstate, hfree, hrewrite⟩ :=
                  claimReconciliationLease_some hclaim
                obtain rfl := hrewrite.eq_of_id hmem hrow
                exact .inr ⟨row, lease, rfl, hid, hlease, howner,
                  hlive, hstored, row, rfl, rfl, hrowstate, hfree, hrewrite⟩
        · obtain ⟨rfl, rfl⟩ := Prod.mk.inj h
          exact .inl ⟨rfl, by simp⟩

theorem reconcileNext_spec {result : Outcome (Option Reconciling)}
    (h : reconcileNext faults owner now s = (result, s')) :
    (s' = s ∧ ∀ record lease, result ≠ .ok (some (.claimed record lease))) ∨
      ∃ record lease, result = .ok (some (.claimed record lease)) ∧
        Claimed owner now s.database s'.database record lease := by
  unfold reconcileNext at h
  rw [Action.bind_apply] at h
  cases hclaim : claimNextReconciliation faults.claim owner now none s with
  | mk claimed last =>
    rw [hclaim] at h
    cases claimed with
    | error failure =>
      obtain ⟨rfl, rfl⟩ := Prod.mk.inj h
      exact .inl ⟨claimNextReconciliation_failsClean _ _ _ _ _ _ _ hclaim,
        by simp⟩
    | ok claimed =>
      cases claimed with
      | none =>
        obtain ⟨rfl, rfl⟩ := Prod.mk.inj h
        exact .inl ⟨claimNextReconciliation_none hclaim, by simp⟩
      | some claimed =>
        obtain ⟨record, lease⟩ := claimed
        obtain ⟨rfl, rfl⟩ := Prod.mk.inj h
        obtain ⟨hlease, howner, hlive, hstored, row, hstate, hfree, rfl,
          hrewrite⟩ := claimNextReconciliation_some hclaim
        exact .inr ⟨_, lease, rfl, hlease, howner, hlive, hstored, row, rfl,
          rfl, hstate, hfree, hrewrite⟩

/-- What writing a decision makes of the row: it is scheduled again while the
owner's lease is live, or settled. -/
inductive Decided (owner : String) (now : ℤ) (record : PreparedActionRecord) :
    ReconciliationDecision → PreparedActionRecord → PreparedActionRecord → Prop
  | scheduled {reason : UnresolvedReason} {row : PreparedActionRecord}
      (hleased : row.leasedBy owner now = true)
      (hstate : row.state.reconcilable = true) :
      Decided owner now record (.unresolved reason) row
        (row.scheduled now (nextAttempt record now))
  | settled {state : ReconciledState} {row : PreparedActionRecord}
      (hallowed : state.journalState ∈ row.state.allowedTransitions) :
      Decided owner now record (.terminal state) row
        (row.transitioned state.journalState (resultForState state.journalState) now)

theorem Decided.change {row row' : PreparedActionRecord}
    (h : Decided owner now record decision row row') : RowChange row row' := by
  cases h with
  | scheduled hleased hstate => exact .schedule hleased hstate
  | settled hallowed => exact .transition hallowed

theorem recordDecision_ok {written : PreparedActionRecord}
    (h : recordDecision faults owner now record decision s = (.ok written, s')) :
    ∃ row, row.journalId = record.journalId ∧ StoredRecord row ∧
      StoredRecord written ∧ Decided owner now record decision row written ∧
      JournalRewrite s.database s'.database row written := by
  cases decision with
  | unresolved reason =>
    simp only [recordDecision, scheduleReconciliation, Action.bind_eq_ok,
      Action.check_apply, Prod.mk.injEq, immediate_eq_ok] at h
    obtain ⟨_, _, ⟨-, rfl⟩, _, _, ⟨-, rfl⟩, _, _, ⟨-, rfl⟩, _, _, ⟨-, rfl⟩, -,
      database, hschedule, rfl⟩ := h
    obtain ⟨row, hid, hrow, hleased, rfl, hstored, hrewrite⟩ :=
      scheduleStatement_spec hschedule
    have howner : row.leaseOwner = some owner := by
      simp [PreparedActionRecord.leasedBy] at hleased
      exact hleased.1
    exact ⟨row, hid, hrow, hstored,
      .scheduled hleased (hrow.reconcilable_of_lease howner), hrewrite⟩
  | terminal state =>
    simp only [recordDecision, transitionAction, Action.bind_eq_ok,
      Action.check_apply, Prod.mk.injEq, immediate_eq_ok, Action.modify_apply,
      Action.pure_apply, Except.ok.injEq] at h
    obtain ⟨_, _, ⟨-, rfl⟩, made, _, ⟨-, database, htransition, rfl⟩, _, _,
      ⟨-, rfl⟩, hmade, rfl⟩ := h
    obtain ⟨row, hid, hrow, hallowed, hclass, hwritten, hstored, hrewrite⟩ :=
      transitionStatement_spec htransition
    rw [hclass] at hwritten
    subst hmade
    subst hwritten
    exact ⟨row, hid, hrow, hstored, .settled hallowed, hrewrite⟩

theorem recordDecision_failsClean (faults : ReconcilerFaults) (owner : String)
    (now : ℤ) (record : PreparedActionRecord) (decision : ReconciliationDecision) :
    FailsClean (recordDecision faults owner now record decision) := by
  cases decision with
  | unresolved reason => exact scheduleReconciliation_failsClean _ _ _ _ _
  | terminal state => exact transitionAction_failsClean _ _ _ _ _

/-- The second part of a call changes nothing, or it renews its lease and stops
there, or it renews its lease and writes its decision. -/
theorem reconcileClaim_spec {viem : Viem} {evidence : Outcome ReconciliationEvidence}
    {result : Outcome ActionReconcilerResult}
    (h : reconcileClaim viem faults owner now record lease evidence s = (result, s')) :
    (s' = s ∧ ∀ decision, result ≠ .ok (.decided decision)) ∨
      ∃ renewed mid, renewReconciliationLease faults.renew lease now none s =
          (.ok (some renewed), mid) ∧
        ((s' = mid ∧ ∀ decision, result ≠ .ok (.decided decision)) ∨
          ∃ decision written, result = .ok (.decided decision) ∧
            claimDecision viem record evidence = .ok decision ∧
            recordDecision faults owner now record decision mid = (.ok written, s')) := by
  rw [reconcileClaim_eq, Action.bind_apply] at h
  cases hrenew : renewReconciliationLease faults.renew lease now none s with
  | mk renewal mid =>
    rw [hrenew] at h
    cases renewal with
    | error failure =>
      obtain ⟨rfl, rfl⟩ := Prod.mk.inj h
      exact .inl ⟨renewReconciliationLease_failsClean _ _ _ _ _ _ _ hrenew,
        by simp⟩
    | ok renewal =>
      cases renewal with
      | none =>
        obtain ⟨rfl, rfl⟩ := Prod.mk.inj h
        exact .inl ⟨renewReconciliationLease_none hrenew, by simp⟩
      | some renewed =>
        refine .inr ⟨renewed, mid, rfl, ?_⟩
        dsimp only at h
        rw [Action.bind_apply, Action.check_apply] at h
        cases hdecision : claimDecision viem record evidence with
        | error failure =>
          rw [hdecision] at h
          obtain ⟨rfl, rfl⟩ := Prod.mk.inj h
          exact .inl ⟨rfl, by simp⟩
        | ok decision =>
          rw [hdecision] at h
          dsimp only at h
          rw [Action.bind_apply] at h
          cases hwrite : recordDecision faults owner now record decision
              mid with
          | mk written last =>
            rw [hwrite] at h
            cases written with
            | error failure =>
              obtain ⟨rfl, rfl⟩ := Prod.mk.inj h
              exact .inl ⟨recordDecision_failsClean _ _ _ _ _ _ _ _
                hwrite, by simp⟩
            | ok written =>
              obtain ⟨rfl, rfl⟩ := Prod.mk.inj h
              exact .inr ⟨decision, written, rfl, rfl, hwrite⟩

end HyperTrader
