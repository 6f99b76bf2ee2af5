import HyperTrader.Workers.Supervisor

/-!
# What a call of the supervisor leaves

The supervisor asks the store for the egress lease under its own identity, which the
store accepts, so that an acquisition, a renewal and a release each either fail and
change nothing or run their statement. A deactivation goes on to its end under the
generation it began with.
-/

namespace HyperTrader

open Library

namespace MonitorLeases

variable {leases : MonitorLeases} {ownerId : String} {now : ℤ} {fault : Option StoreFailure}

theorem validateLeaseIdentity_egress (howner : workerIdPattern.test ownerId = true) :
    validateLeaseIdentity notificationEgressLeaseKey ownerId = .ok () :=
  require_of ⟨by decide, howner⟩

def afterRenewal (leases : MonitorLeases) (ownerId : String) (generation now : ℤ) : MonitorLeases :=
  { leases with
    rows := Table.update leases.rows
      (renewed notificationEgressLeaseKey ownerId generation now)
      fun row => { row with expiresAt := now + leaseInterval, renewedAt := now } }

theorem renew_cases (howner : workerIdPattern.test ownerId = true) {generation : ℤ}
    (hgeneration : isLeaseGeneration generation) :
    (∃ failure, renewMonitorLease notificationEgressLeaseKey ownerId generation now fault
        leases = (.error failure, leases) ∧
      ¬(fault = none ∧ leases.service.assertMonitorsEnabled = .ok ())) ∨
    (fault = none ∧ leases.service.assertMonitorsEnabled = .ok () ∧
      renewMonitorLease notificationEgressLeaseKey ownerId generation now fault leases =
        (.ok (Table.changes leases.rows
            (renewed notificationEgressLeaseKey ownerId generation now) == 1),
          leases.afterRenewal ownerId generation now)) := by
  have hcall : renewMonitorLease notificationEgressLeaseKey ownerId generation now fault
      leases = Transaction.atomically fault (do
        Transaction.check fun leases => leases.service.assertMonitorsEnabled
        fun leases => .ok
          (Table.changes leases.rows
            (renewed notificationEgressLeaseKey ownerId generation now) == 1,
          leases.afterRenewal ownerId generation now)) leases := by
    unfold renewMonitorLease
    rw [Action.bind_apply, Action.check_apply, validateLeaseIdentity_egress howner]
    simp only
    rw [Action.bind_apply, Action.check_apply, require_of hgeneration]
    rfl
  rw [hcall]
  cases hrun : Transaction.atomically fault _ leases with
  | mk result after =>
    cases result with
    | error failure =>
      obtain rfl := Transaction.atomically_error hrun
      refine .inl ⟨failure, rfl, ?_⟩
      rintro ⟨rfl, hgate⟩
      have hcommit : (Transaction.check (fun leases : MonitorLeases =>
            leases.service.assertMonitorsEnabled) >>= fun _ => fun leases => .ok
          (Table.changes leases.rows
            (renewed notificationEgressLeaseKey ownerId generation now) == 1,
          leases.afterRenewal ownerId generation now)) after =
          .ok (_, _) :=
        Transaction.bind_eq_ok.mpr
          ⟨(), after, Transaction.check_eq_ok.mpr ⟨hgate, rfl⟩, rfl⟩
      rw [Transaction.atomically_eq_ok.mpr ⟨rfl, hcommit⟩] at hrun
      cases hrun
    | ok answer =>
      obtain ⟨hfault, hcommit⟩ := Transaction.atomically_eq_ok.mp hrun
      obtain ⟨_, _, hgate, hrows⟩ := Transaction.bind_eq_ok.mp hcommit
      obtain ⟨hopen, rfl⟩ := Transaction.check_eq_ok.mp hgate
      cases hrows
      exact .inr ⟨hfault, hopen, rfl⟩

theorem release_cases (howner : workerIdPattern.test ownerId = true) (generation : ℤ) :
    (∃ failure, releaseMonitorLease notificationEgressLeaseKey ownerId generation fault
        leases = (.error failure, leases) ∧ fault ≠ none) ∨
    (fault = none ∧ ∃ after,
      releaseStatement notificationEgressLeaseKey ownerId generation leases = .ok ((), after) ∧
        releaseMonitorLease notificationEgressLeaseKey ownerId generation fault leases =
          (.ok (), after)) := by
  have hcall : releaseMonitorLease notificationEgressLeaseKey ownerId generation fault leases =
      Transaction.atomically fault
        (releaseStatement notificationEgressLeaseKey ownerId generation) leases := by
    unfold releaseMonitorLease
    rw [Action.bind_apply, Action.check_apply, validateLeaseIdentity_egress howner]
  have hstatement : ∃ after,
      releaseStatement notificationEgressLeaseKey ownerId generation leases =
        .ok ((), after) := by
    unfold releaseStatement
    by_cases hvalid : isLeaseGeneration generation
    · rw [if_pos hvalid, deleteStatement]
      split
      · exact ⟨_, rfl⟩
      · exact ⟨_, rfl⟩
    · rw [if_neg hvalid]
      exact ⟨leases, rfl⟩
  obtain ⟨after, hafter⟩ := hstatement
  rw [hcall]
  cases fault with
  | some failure => exact .inl ⟨failure, rfl, fun h => by cases h⟩
  | none =>
    exact .inr ⟨rfl, after, hafter, Transaction.atomically_eq_ok.mpr ⟨rfl, hafter⟩⟩

theorem acquire_cases (howner : workerIdPattern.test ownerId = true) :
    (∃ failure, acquireMonitorLease notificationEgressLeaseKey ownerId now fault leases =
      (.error failure, leases)) ∨
    ∃ generation after,
      acquireStatement notificationEgressLeaseKey ownerId now leases =
          .ok (generation, after) ∧
        acquireMonitorLease notificationEgressLeaseKey ownerId now fault leases =
          (.ok generation, after) := by
  unfold acquireMonitorLease
  rw [Action.bind_apply, Action.check_apply, validateLeaseIdentity_egress howner]
  simp only
  cases hrun : Transaction.atomically fault _ leases with
  | mk result after =>
    cases result with
    | error failure => exact .inl ⟨failure, by rw [Transaction.atomically_error hrun]⟩
    | ok generation =>
      obtain ⟨-, hcommit⟩ := Transaction.atomically_eq_ok.mp hrun
      obtain ⟨_, _, hgate, hstatement⟩ := Transaction.bind_eq_ok.mp hcommit
      obtain ⟨-, rfl⟩ := Transaction.check_eq_ok.mp hgate
      exact .inr ⟨generation, after, hstatement, rfl⟩

theorem isLeaseGeneration_of_acquire {leaseKey : String} {generation : ℕ} {after : MonitorLeases}
    (h : acquireStatement leaseKey ownerId now leases = .ok (some generation, after)) :
    isLeaseGeneration generation := by
  unfold acquireStatement at h
  split at h
  · cases h
    exact ⟨by decide, by decide⟩
  · split at h
    · split at h
      · rename_i hrange
        cases h
        unfold maxDatabaseInteger at hrange
        unfold isLeaseGeneration maxSafeInteger
        omega
      · cases h
    · cases h

end MonitorLeases

end HyperTrader
