import HyperTrader.Library.Processes
import HyperTrader.Workers.Egress

/-!
# Who closes the gates

The row of the egress lease is what the store last granted: an acquisition takes over an
expired row only, so that for thirty seconds after a grant the row stays its owner's
unless the owner gives it back. A claim and a fetch look at that row in their own
statement. The closing of the gates does not, and is the owner's exactly where it runs
within those thirty seconds.
-/

namespace HyperTrader

open Library

namespace Workers

/-- The rows of the leases and the grants agree on the lease of the egress. -/
structure Granted (clock : ℤ) (rows : List MonitorLeaseRow) (granted : Grants) : Prop where
  unique : Table.UniqueKeys MonitorLeaseRow.leaseKey rows
  grants : ∀ row ∈ rows, row.leaseKey = notificationEgressLeaseKey →
    granted row.ownerId = some (row.leaseGeneration, row.expiresAt)
  held : ∀ ownerId generation deadline, granted ownerId = some (generation, deadline) →
    clock < deadline →
      ∃ row ∈ rows, row.leaseKey = notificationEgressLeaseKey ∧ row.ownerId = ownerId

structure Handed (process : EgressProcess) : Prop where
  fences : ∀ fence ∈ process.fences, fence.ownerId = process.supervisor.ownerId
  calls : ∀ call ∈ process.calls, ∀ fence ∈ call.point.fence,
    fence.ownerId = process.supervisor.ownerId

section

variable {clock : ℤ} {rows : List MonitorLeaseRow} {granted : Grants} {ownerId : String}
  {generation : ℕ} {row : MonitorLeaseRow}

theorem Granted.later (h : Granted clock rows granted) {later : ℤ} (hlater : clock ≤ later) :
    Granted later rows granted where
  unique := h.unique
  grants := h.grants
  held ownerId generation deadline hgranted hbefore :=
    h.held ownerId generation deadline hgranted (Int.lt_of_le_of_lt hlater hbefore)

theorem Granted.held_by (h : Granted clock rows granted) (hrow : row ∈ rows)
    (hkey : row.leaseKey = notificationEgressLeaseKey) {deadline : ℤ}
    (hgranted : granted ownerId = some (generation, deadline)) (hbefore : clock < deadline) :
    row.ownerId = ownerId := by
  obtain ⟨other, hother, hotherKey, howner⟩ := h.held ownerId generation deadline hgranted hbefore
  rwa [h.unique.eq_of_mem hrow hother (hkey.trans hotherKey.symm)]

theorem Granted.grant {rows' : List MonitorLeaseRow} (row : MonitorLeaseRow)
    (hunique : Table.UniqueKeys MonitorLeaseRow.leaseKey rows') (hrow : row ∈ rows')
    (hkey : row.leaseKey = notificationEgressLeaseKey)
    (hothers : ∀ other generation deadline, other ≠ row.ownerId →
      granted other = some (generation, deadline) → ¬clock < deadline) :
    Granted clock rows'
      (Function.update granted row.ownerId (some (row.leaseGeneration, row.expiresAt))) where
  unique := hunique
  grants other hother hotherKey := by
    rw [hunique.eq_of_mem hother hrow (hotherKey.trans hkey.symm), Function.update_self]
  held other generation deadline hgranted hbefore := by
    by_cases howner : other = row.ownerId
    · exact ⟨row, hrow, hkey, howner.symm⟩
    · rw [Function.update_of_ne howner] at hgranted
      exact absurd hbefore (hothers other generation deadline howner hgranted)

theorem Granted.insert (h : Granted clock rows granted) (ownerId : String)
    (habsent : ∀ row ∈ rows, row.leaseKey ≠ notificationEgressLeaseKey) (deadline : ℤ) :
    Granted clock (rows ++ [⟨notificationEgressLeaseKey, ownerId, deadline, clock, 1⟩])
      (Function.update granted ownerId (some (1, deadline))) := by
  refine Granted.grant ⟨notificationEgressLeaseKey, ownerId, deadline, clock, 1⟩
    (h.unique.insert habsent) (List.mem_append_right _ (List.mem_singleton.mpr rfl)) rfl ?_
  intro other generation deadline _ hgranted hbefore
  obtain ⟨row, hrow, hkey, -⟩ := h.held other generation deadline hgranted hbefore
  exact habsent row hrow hkey

/-- A statement rewrites the row of the lease for an identity that may take it: the row
has expired or is the identity's own. -/
theorem Granted.rewrite (h : Granted clock rows granted) {wher : MonitorLeaseRow → Bool}
    (set : MonitorLeaseRow → MonitorLeaseRow) (hset : ∀ row, (set row).leaseKey = row.leaseKey)
    (hrow : row ∈ rows) (hkey : row.leaseKey = notificationEgressLeaseKey)
    (hwher : wher row = true) (hfree : row.expiresAt ≤ clock ∨ row.ownerId = (set row).ownerId) :
    Granted clock (Table.update rows wher set) (Function.update granted (set row).ownerId
        (some ((set row).leaseGeneration, (set row).expiresAt))) := by
  refine Granted.grant (set row) (h.unique.update wher hset)
    (Table.mem_update.mpr ⟨row, hrow, .inl ⟨hwher, rfl⟩⟩) ((hset row).trans hkey) ?_
  intro other generation deadline howner hgranted hbefore
  have hother := h.held_by hrow hkey hgranted hbefore
  rcases hfree with hexpired | hown
  · have hdeadline := h.grants row hrow hkey
    rw [hother, hgranted] at hdeadline
    obtain ⟨-, hdeadline⟩ := Prod.mk.inj (Option.some.inj hdeadline)
    rw [hdeadline] at hbefore
    exact absurd hexpired (Int.not_le.mpr hbefore)
  · exact howner (hother.symm.trans hown)

theorem Granted.delete (h : Granted clock rows granted) (ownerId : String) (generation : ℕ) :
    Granted clock (rows.filter fun row => !row.holds notificationEgressLeaseKey ownerId generation)
      (if (granted ownerId).map Prod.fst = some generation then
        Function.update granted ownerId none else granted) where
  unique := h.unique.delete _
  grants row hrow hkey := by
    obtain ⟨hmem, hkept⟩ := List.mem_filter.mp hrow
    have hgrants := h.grants row hmem hkey
    split
    · rename_i hgenerations
      have hother : row.ownerId ≠ ownerId := by
        rintro rfl
        rw [hgrants] at hgenerations
        have hgeneration : row.leaseGeneration = generation := Option.some.inj hgenerations
        simp [MonitorLeaseRow.holds, hkey, hgeneration] at hkept
      rw [Function.update_of_ne hother, hgrants]
    · exact hgrants
  held other generation' deadline hgranted hbefore := by
    have hold : granted other = some (generation', deadline) ∧
        (other = ownerId → generation' ≠ generation) := by
      split at hgranted
      · have hother : other ≠ ownerId := by
          rintro rfl
          rw [Function.update_self] at hgranted
          cases hgranted
        rw [Function.update_of_ne hother] at hgranted
        exact ⟨hgranted, fun howner => absurd howner hother⟩
      · rename_i hgenerations
        refine ⟨hgranted, ?_⟩
        rintro rfl rfl
        exact hgenerations (by rw [hgranted]; rfl)
    obtain ⟨row, hrow, hkey, howner⟩ := h.held other generation' deadline hold.1 hbefore
    refine ⟨row, List.mem_filter.mpr ⟨hrow, ?_⟩, hkey, howner⟩
    by_contra hholds
    simp only [MonitorLeaseRow.holds, Bool.not_eq_true', Bool.not_eq_false,
      Bool.and_eq_true, decide_eq_true_eq, Int.natCast_inj] at hholds
    obtain ⟨⟨-, hholder⟩, hgeneration⟩ := hholds
    have hgrants := h.grants row hrow hkey
    rw [howner, hold.1] at hgrants
    obtain ⟨hgenerations, -⟩ := Prod.mk.inj (Option.some.inj hgrants)
    exact hold.2 (howner.symm.trans hholder) (hgenerations.trans hgeneration)

theorem Granted.elsewhere (h : Granted clock rows granted) {others : List MonitorLeaseRow}
    (hothers : (others.map MonitorLeaseRow.leaseKey).Nodup) :
    Granted clock (rows.filter (fun row => row.leaseKey = notificationEgressLeaseKey) ++
        others.filter fun row => row.leaseKey ≠ notificationEgressLeaseKey) granted where
  unique := by
    refine List.pairwise_append.mpr ⟨h.unique.delete _, ?_, ?_⟩
    · exact Table.UniqueKeys.delete (List.pairwise_map.mp hothers) _
    · intro row hrow other hother
      have hkey : row.leaseKey = notificationEgressLeaseKey := by
        simpa using (List.mem_filter.mp hrow).2
      have hdiffers : other.leaseKey ≠ notificationEgressLeaseKey := by
        simpa using (List.mem_filter.mp hother).2
      rw [hkey]
      exact hdiffers.symm
  grants row hrow hkey := by
    rcases List.mem_append.mp hrow with hold | hnew
    · exact h.grants row (List.mem_filter.mp hold).1 hkey
    · have hdiffers : row.leaseKey ≠ notificationEgressLeaseKey := by
        simpa using (List.mem_filter.mp hnew).2
      exact absurd hkey hdiffers
  held ownerId generation deadline hgranted hbefore := by
    obtain ⟨row, hrow, hkey, howner⟩ := h.held ownerId generation deadline hgranted hbefore
    exact ⟨row, List.mem_append_left _ (List.mem_filter.mpr ⟨hrow, by simpa using hkey⟩),
      hkey, howner⟩

end

section

variable {clock : ℤ} {leases : MonitorLeases} {granted : Grants} {ownerId : String}
  {authorized : Bool} {fault : Option StoreFailure}

theorem activateWorkerGates_rows {opened : MonitorLeases}
    (h : activateWorkerGates leases authorized fault = some opened) :
    opened.rows = leases.rows := by
  unfold activateWorkerGates at h
  split at h
  · cases h
    rfl
  · cases h

variable {after : MonitorLeases}

theorem Granted.acquire (h : Granted clock leases.rows granted) {generation : Option ℕ}
    (hrun : MonitorLeases.acquireStatement notificationEgressLeaseKey ownerId clock leases =
      .ok (generation, after)) :
    Granted clock after.rows
      (granted.after ownerId clock .acquire (some (.acquired generation))) := by
  unfold MonitorLeases.acquireStatement at hrun
  cases hrow : leases.row notificationEgressLeaseKey with
  | none =>
    rw [hrow] at hrun
    cases hrun
    exact h.insert ownerId (MonitorLeases.row_eq_none hrow) _
  | some row =>
    obtain ⟨hmem, hkey⟩ := MonitorLeases.mem_of_row hrow
    simp only [hrow] at hrun
    split at hrun
    · rename_i hexpired
      split at hrun
      · cases hrun
        exact h.rewrite (fun row =>
            { row with
              ownerId := ownerId
              expiresAt := clock + MonitorLeases.leaseInterval
              renewedAt := clock
              leaseGeneration := row.leaseGeneration + 1 })
          (fun _ => rfl) hmem hkey (by simpa using hkey) (.inl hexpired)
      · cases hrun
    · cases hrun
      exact h

theorem renew_eq (howner : workerIdPattern.test ownerId = true) (generation : ℕ) :
    (leases.renewMonitorLease notificationEgressLeaseKey ownerId generation clock fault).2 =
        leases ∧
      (leases.renewMonitorLease notificationEgressLeaseKey ownerId generation clock
        fault).1.toOption = none ∨
    leases.renewMonitorLease notificationEgressLeaseKey ownerId generation clock fault =
      (.ok (Table.changes leases.rows (MonitorLeases.renewed notificationEgressLeaseKey ownerId
          generation clock) == 1), leases.afterRenewal ownerId generation clock) := by
  by_cases hgeneration : isLeaseGeneration generation
  · rcases @MonitorLeases.renew_cases leases ownerId clock fault howner generation
      hgeneration with ⟨failure, hfails, -⟩ | ⟨-, -, hgives⟩
    · rw [hfails]
      exact .inl ⟨rfl, rfl⟩
    · exact .inr hgives
  · left
    unfold MonitorLeases.renewMonitorLease
    rw [Action.bind_apply, Action.check_apply, MonitorLeases.validateLeaseIdentity_egress howner]
    simp only
    rw [Action.bind_apply, Action.check_apply, require, if_neg hgeneration]
    exact ⟨rfl, rfl⟩

theorem Granted.renew (h : Granted clock leases.rows granted) (generation : ℕ) :
    Granted clock (leases.afterRenewal ownerId generation clock).rows
      (granted.after ownerId clock (.renew generation) (some (.renewed (Table.changes leases.rows
          (MonitorLeases.renewed notificationEgressLeaseKey ownerId generation clock) == 1)))) := by
  have hfields : ∀ row : MonitorLeaseRow,
      MonitorLeases.renewed notificationEgressLeaseKey ownerId generation clock row = true →
        row.leaseKey = notificationEgressLeaseKey ∧ row.ownerId = ownerId ∧
          row.leaseGeneration = generation := by
    intro row hrow
    simp only [MonitorLeases.renewed, MonitorLeaseRow.holds, Bool.and_eq_true,
      decide_eq_true_eq, Int.natCast_inj] at hrow
    exact ⟨hrow.1.1.1, hrow.1.1.2, hrow.1.2⟩
  rcases @Table.update_cases _ _ _ _ h.unique _
    (fun row : MonitorLeaseRow =>
      { row with expiresAt := clock + MonitorLeases.leaseInterval, renewedAt := clock }) _
    (fun row _ hrow => (hfields row hrow).1) (fun _ => rfl) with
    ⟨hnone, hsame⟩ | ⟨hone, row, hwher, hrewrites⟩
  · rw [hnone]
    unfold MonitorLeases.afterRenewal
    simp only [hsame]
    exact h
  · obtain ⟨hkey, howner, hgeneration⟩ := hfields row hwher
    rw [hone]
    have hafter := h.rewrite (fun row : MonitorLeaseRow =>
        { row with expiresAt := clock + MonitorLeases.leaseInterval, renewedAt := clock })
      (fun _ => rfl) hrewrites.mem hkey hwher (.inr rfl)
    simp only [howner, hgeneration] at hafter
    exact hafter

theorem Granted.release (h : Granted clock leases.rows granted) {generation : ℕ}
    (hrun : MonitorLeases.releaseStatement notificationEgressLeaseKey ownerId generation leases =
      .ok ((), after)) :
    Granted clock after.rows (granted.after ownerId clock (.release generation) (some .done)) := by
  unfold MonitorLeases.releaseStatement at hrun
  unfold Grants.after
  simp only
  by_cases hvalid : isLeaseGeneration generation
  · have hdeleted := h.delete ownerId generation
    rw [if_pos hvalid, MonitorLeases.deleteStatement] at hrun
    simp only [hvalid, true_and]
    split at hrun
    · cases hrun
      exact hdeleted
    · rename_i hnone
      cases hrun
      have hkept : (leases.rows.filter fun row =>
          !row.holds notificationEgressLeaseKey ownerId generation) = leases.rows := by
        apply List.filter_eq_self.mpr
        intro row hrow
        by_contra hholds
        exact hnone (List.any_eq_true.mpr ⟨row, hrow, by simpa using hholds⟩)
      rwa [hkept] at hdeleted
  · rw [if_neg hvalid, Transaction.pure_eq_ok] at hrun
    rw [if_neg fun h => hvalid h.1, ← hrun.2]
    exact h

theorem Granted.execute (h : Granted clock leases.rows granted)
    (howner : workerIdPattern.test ownerId = true) (call : StoreCall) :
    Granted clock (call.execute leases ownerId clock authorized fault).2.rows
      (granted.after ownerId clock call
        (call.execute leases ownerId clock authorized fault).1) := by
  cases call with
  | activateWorkerGates =>
    unfold StoreCall.execute
    cases hopened : activateWorkerGates leases authorized fault with
    | none => exact h
    | some opened =>
      simp only [activateWorkerGates_rows hopened]
      exact h
  | acquire =>
    rcases @MonitorLeases.acquire_cases leases ownerId clock fault howner with
      ⟨failure, hfails⟩ | ⟨generation, after, hrun, hgives⟩
    · simp only [StoreCall.execute, answerOf, hfails]
      exact h
    · simp only [StoreCall.execute, answerOf, hgives]
      exact h.acquire hrun
  | renew generation =>
    rcases @renew_eq clock leases ownerId fault howner generation with
      ⟨hsame, hthrew⟩ | hgives
    · simp only [StoreCall.execute, answerOf, hsame, hthrew]
      exact h
    · simp only [StoreCall.execute, answerOf, hgives]
      exact h.renew generation
  | deactivateWorkerGates =>
    by_cases hfault : fault = none
    · simp only [StoreCall.execute, if_pos hfault]
      exact h
    · simp only [StoreCall.execute, if_neg hfault]
      exact h
  | release generation =>
    rcases @MonitorLeases.release_cases leases ownerId fault howner generation with
      ⟨failure, hfails, -⟩ | ⟨-, after, hrun, hgives⟩
    · simp only [StoreCall.execute, answerOf, hfails]
      exact h
    · simp only [StoreCall.execute, answerOf, hgives]
      exact h.release hrun

end

section

variable {process : EgressProcess} {supervisor : WorkerSupervisor} {point : CallPoint}

structure Continues (supervisor : WorkerSupervisor) (continuation : Continuation) : Prop where
  owner : continuation.supervisor.ownerId = supervisor.ownerId
  fence : ∀ call ∈ continuation.call, ∀ fence ∈ call.point.fence,
    fence.ownerId = supervisor.ownerId

variable {continuation : Continuation}

theorem Continues.of_no_fence (howner : continuation.supervisor.ownerId = supervisor.ownerId)
    (hcall : ∀ call ∈ continuation.call, call.point.fence = none) :
    Continues supervisor continuation where
  owner := howner
  fence call hmem fence hfence := by
    rw [hcall call hmem] at hfence
    cases hfence

theorem sendRenewal_point : (supervisor.sendRenewal point).point = point := by
  unfold WorkerSupervisor.sendRenewal
  split
  · rfl
  · rfl

theorem beginDeactivate_fence {left : DeactivationState} :
    (supervisor.beginDeactivate left).point.fence = none := by
  unfold WorkerSupervisor.beginDeactivate
  split
  · rfl
  · rw [sendRenewal_point]
    rfl

theorem Continues.beginDeactivate (left : DeactivationState) :
    Continues supervisor ⟨supervisor, some (supervisor.beginDeactivate left)⟩ :=
  Continues.of_no_fence rfl fun _ h => Option.some.inj h ▸ beginDeactivate_fence

theorem Continues.ends : Continues supervisor ⟨supervisor, none⟩ :=
  Continues.of_no_fence rfl fun _ h => by cases h

theorem Continues.begin (method : WorkerMethod) :
    Continues supervisor (supervisor.begin method) := by
  cases method with
  | activate =>
    unfold WorkerSupervisor.begin
    simp only
    split
    · exact Continues.ends
    · split
      · exact Continues.of_no_fence rfl fun _ h => by cases h
      · exact Continues.of_no_fence rfl fun _ h => Option.some.inj h ▸ rfl
  | runOnce =>
    unfold WorkerSupervisor.begin
    simp only
    split
    · exact Continues.ends
    · refine Continues.of_no_fence rfl fun _ h => Option.some.inj h ▸ ?_
      rw [sendRenewal_point]
      rfl
  | deactivate left => exact Continues.beginDeactivate left

theorem Continues.answered (hfence : ∀ fence ∈ point.fence, fence.ownerId = supervisor.ownerId)
    (answer : Option StoreAnswer) (capacity : Bool) :
    Continues supervisor (supervisor.answered point answer capacity) := by
  unfold WorkerSupervisor.answered
  split
  · exact Continues.of_no_fence rfl fun _ h => Option.some.inj h ▸ rfl
  · exact Continues.of_no_fence rfl fun _ h => by cases h
  · exact Continues.of_no_fence rfl fun _ h => Option.some.inj h ▸ rfl
  · exact Continues.of_no_fence rfl fun _ h => Option.some.inj h ▸ rfl
  · exact Continues.beginDeactivate _
  · refine ⟨rfl, ?_⟩
    intro call hcall
    split at hcall
    · obtain rfl := Option.some.inj hcall
      exact hfence
    · obtain rfl := Option.some.inj hcall
      exact fun _ h => by cases h
  · exact Continues.beginDeactivate _
  · exact Continues.of_no_fence rfl fun _ h => Option.some.inj h ▸ rfl
  · exact Continues.of_no_fence rfl fun _ h => Option.some.inj h ▸ rfl
  · exact Continues.of_no_fence rfl fun _ h => Option.some.inj h ▸ rfl
  · exact Continues.of_no_fence rfl fun _ h => by cases h
  · exact Continues.ends

theorem Continues.returned (hfence : ∀ fence ∈ point.fence, fence.ownerId = supervisor.ownerId)
    (reply : Option Bool) : Continues supervisor (supervisor.returned point reply) := by
  unfold WorkerSupervisor.returned
  split
  · exact Continues.of_no_fence rfl fun _ h => Option.some.inj h ▸ rfl
  · exact Continues.of_no_fence rfl fun _ h => by cases h
  · split
    · exact Continues.ends
    · rename_i fence hmade
      refine ⟨rfl, ?_⟩
      rintro _ ⟨⟩ _ ⟨⟩
      obtain ⟨generation, -, rfl⟩ := Option.map_eq_some_iff.mp hmade
      rfl
  · exact Continues.beginDeactivate _
  · refine ⟨rfl, ?_⟩
    intro call hcall
    obtain rfl := Option.some.inj hcall
    rw [sendRenewal_point]
    exact hfence
  · refine ⟨rfl, ?_⟩
    intro call hcall
    obtain rfl := Option.some.inj hcall
    exact hfence
  · exact Continues.of_no_fence rfl fun _ h => Option.some.inj h ▸ rfl
  · exact Continues.of_no_fence rfl fun _ h => by cases h
  · exact Continues.of_no_fence rfl fun _ h => Option.some.inj h ▸ rfl
  · exact Continues.ends

theorem fence_of_workers {fence : RuntimeEgressFence} (h : fence ∈ point.workers) :
    fence ∈ point.fence := by
  cases point with
  | delivering given => exact h
  | collecting given => exact h
  | _ => cases h

theorem Handed.goOn (h : Handed process)
    (hcontinues : Continues process.supervisor continuation) {calls : List EgressCall}
    (hcalls : ∀ call ∈ calls, call ∈ process.calls) :
    Handed (process.goOn continuation calls) where
  fences fence hfence := by
    change fence.ownerId = continuation.supervisor.ownerId
    rw [hcontinues.owner]
    rcases List.mem_append.mp hfence with hold | hnew
    · exact h.fences fence hold
    · obtain ⟨call, hcall, hworkers⟩ := Option.bind_eq_some_iff.mp (Option.mem_toList.mp hnew)
      exact hcontinues.fence call hcall fence (fence_of_workers hworkers)
  calls call hcall fence hfence := by
    change fence.ownerId = continuation.supervisor.ownerId
    rw [hcontinues.owner]
    rcases List.mem_append.mp hcall with hold | hnew
    · exact h.calls call (hcalls call hold) fence hfence
    · exact hcontinues.fence call (Option.mem_toList.mp hnew) fence hfence

theorem Handed.start (h : Handed process) (method : WorkerMethod) : Handed (process.start method) :=
  h.goOn (Continues.begin method) fun _ hcall => hcall

theorem Handed.resume (h : Handed process) (index : ℕ) (reply : Option Bool) :
    Handed (process.resume index reply) := by
  unfold EgressProcess.resume
  cases hcall : process.calls[index]? with
  | none => exact h
  | some call =>
    have hfence := h.calls call (List.mem_of_getElem? hcall)
    have hothers : ∀ other ∈ process.calls.eraseIdx index, other ∈ process.calls :=
      fun other hother => List.mem_of_mem_eraseIdx hother
    simp only
    split
    · exact h
    · exact h.goOn (Continues.answered hfence _ _) hothers
    · exact h.goOn (Continues.returned hfence _) hothers

theorem Handed.authorizeEgress (h : Handed process) : Handed process.authorizeEgress := by
  unfold EgressProcess.authorizeEgress
  split
  · exact h
  · refine ⟨h.fences, ?_⟩
    intro call hcall fence hfence
    rcases List.mem_append.mp hcall with hold | hnew
    · exact h.calls call hold fence hfence
    · rw [List.mem_singleton.mp hnew, sendRenewal_point] at hfence
      cases hfence

theorem Handed.answer (h : Handed process) {index : ℕ} {call : EgressCall}
    (hcall : process.calls[index]? = some call) (pending : Pending) :
    Handed { process with
      calls := process.calls.set index { call with pending := pending } } where
  fences := h.fences
  calls other hother := by
    rcases List.mem_or_eq_of_mem_set hother with hold | rfl
    · exact h.calls other hold
    · exact h.calls call (List.mem_of_getElem? hcall)

end

structure Orderly (egress : Egress) : Prop where
  granted : Granted egress.clock egress.leases.rows egress.granted
  handed : ∀ process ∈ egress.processes, Handed process

section

variable {egress : Egress} {found : EgressProcess}

theorem sent_eq_some {process call : ℕ} {called : EgressCall}
    {statement : StoreCall} (h : egress.sent process call = some (found, called, statement)) :
    egress.processes[process]? = some found ∧ found.calls[call]? = some called ∧
      called.pending = .sent statement := by
  obtain ⟨_, hfound, h⟩ := Option.bind_eq_some_iff.mp h
  obtain ⟨_, hcalled, h⟩ := Option.bind_eq_some_iff.mp h
  split at h
  · rename_i hpending
    cases h
    exact ⟨hfound, hcalled, hpending⟩
  · cases h

theorem Orderly.modify (h : Orderly egress) (process : ℕ)
    {f : EgressProcess → EgressProcess} (hf : ∀ found, Handed found → Handed (f found)) :
    Orderly { egress with processes := egress.processes.modify process f } where
  granted := h.granted
  handed found hfound := by
    obtain ⟨index, hindex⟩ := List.mem_iff_getElem?.mp hfound
    rcases getElem?_modify_cases hindex with ⟨old, hold, -, rfl⟩ | ⟨-, hold⟩
    · exact hf old (h.handed old (List.mem_of_getElem? hold))
    · exact h.handed found (List.mem_of_getElem? hold)

theorem Orderly.execute (h : Orderly egress) (process call : ℕ) (authorized : Bool)
    (fault : Option StoreFailure) (lost : Bool) :
    Orderly (egress.execute process call authorized fault lost) := by
  unfold Egress.execute
  cases hsent : egress.sent process call with
  | none => exact h
  | some sent =>
    obtain ⟨found, called, statement⟩ := sent
    obtain ⟨hfound, hcalled, -⟩ := sent_eq_some hsent
    refine ⟨h.granted.execute found.supervisor.ownerPattern statement, ?_⟩
    intro other hother
    rcases List.mem_or_eq_of_mem_set hother with hold | rfl
    · exact h.handed other hold
    · exact (h.handed found (List.mem_of_getElem? hfound)).answer hcalled _

theorem Orderly.step (h : Orderly egress) (event : EgressEvent) : Orderly (egress.step event) := by
  cases event with
  | launch supervisor =>
    refine ⟨h.granted, ?_⟩
    intro process hprocess
    rcases List.mem_append.mp hprocess with hold | hnew
    · exact h.handed process hold
    · rw [List.mem_singleton.mp hnew]
      exact ⟨fun _ h => (by cases h), fun _ h => (by cases h)⟩
  | start process method => exact h.modify process fun found hfound => hfound.start method
  | execute process call authorized fault lost =>
    exact h.execute process call authorized fault lost
  | resume process call reply =>
    exact h.modify process fun found hfound => hfound.resume call reply
  | authorize process => exact h.modify process fun found hfound => hfound.authorizeEgress
  | claim process fence => exact h
  | fetch process fence => exact h
  | pass time =>
    exact ⟨h.granted.later (Int.le_add_of_nonneg_right (Int.natCast_nonneg time)), h.handed⟩
  | elsewhere service others =>
    refine ⟨?_, h.handed⟩
    change Granted egress.clock (Egress.elsewhere egress.leases service others).rows
      egress.granted
    unfold Egress.elsewhere
    split
    · exact h.granted.elsewhere ‹_›
    · exact h.granted

theorem orderly_initial (service : ServiceState) (clock : ℤ) :
    Orderly (Egress.initial service clock) :=
  ⟨⟨List.Pairwise.nil, fun _ h => (by cases h), fun _ _ _ h => (by cases h)⟩,
    fun _ h => (by cases h)⟩

theorem owner_eq_some_iff (h : Orderly egress) {ownerId : String} {generation : ℕ} :
    egress.owner = some (ownerId, generation) ↔
      ∃ row ∈ egress.leases.rows, row.leaseKey = notificationEgressLeaseKey ∧
        row.ownerId = ownerId ∧ row.leaseGeneration = generation ∧
          egress.clock < row.expiresAt := by
  constructor
  · intro howner
    obtain ⟨row, hrow, hfields⟩ := Option.map_eq_some_iff.mp howner
    obtain ⟨hrow, hlive⟩ := Option.filter_eq_some_iff.mp hrow
    obtain ⟨hmem, hkey⟩ := MonitorLeases.mem_of_row hrow
    obtain ⟨rfl, rfl⟩ := Prod.mk.inj hfields
    exact ⟨row, hmem, hkey, rfl, rfl, by simpa using hlive⟩
  · rintro ⟨row, hmem, hkey, rfl, rfl, hlive⟩
    refine Option.map_eq_some_iff.mpr ⟨row, Option.filter_eq_some_iff.mpr ⟨?_, ?_⟩, rfl⟩
    · cases hrow : egress.leases.row notificationEgressLeaseKey with
      | none => exact absurd hkey (MonitorLeases.row_eq_none hrow row hmem)
      | some other =>
        obtain ⟨hother, hotherKey⟩ := MonitorLeases.mem_of_row hrow
        rw [h.granted.unique.eq_of_mem hother hmem (hotherKey.trans hkey.symm)]
    · simpa using hlive

theorem owns_iff_granted (h : Orderly egress) {ownerId : String} :
    (∃ generation, egress.owner = some (ownerId, generation)) ↔
      ∃ generation deadline, egress.granted ownerId = some (generation, deadline) ∧
        egress.clock < deadline := by
  constructor
  · rintro ⟨generation, howner⟩
    obtain ⟨row, hrow, hkey, rfl, rfl, hlive⟩ := (owner_eq_some_iff h).mp howner
    exact ⟨_, _, h.granted.grants row hrow hkey, hlive⟩
  · rintro ⟨generation, deadline, hgranted, hlive⟩
    obtain ⟨row, hrow, hkey, rfl⟩ := h.granted.held _ _ _ hgranted hlive
    have hgrants := h.granted.grants row hrow hkey
    rw [hgranted] at hgrants
    obtain ⟨-, rfl⟩ := Prod.mk.inj (Option.some.inj hgrants)
    exact ⟨_, (owner_eq_some_iff h).mpr ⟨row, hrow, hkey, rfl, rfl, hlive⟩⟩

theorem owner_of_authorized (h : Orderly egress) {process index : ℕ}
    {fence : RuntimeEgressFence} (hfence : egress.fence process index = some (found, fence))
    (hvalid : validateRuntimeEgressFence fence = .ok ())
    (hauthorized : egress.leases.egressAuthorized fence egress.clock = true) :
    ∃ generation : ℕ, fence.generation = generation ∧
      egress.owner = some (found.supervisor.ownerId, generation) := by
  obtain ⟨process, hprocess, hgiven⟩ := Option.bind_eq_some_iff.mp hfence
  obtain ⟨used, hused, hpair⟩ := Option.map_eq_some_iff.mp hgiven
  obtain ⟨rfl, rfl⟩ := Prod.mk.inj hpair
  have hown := (h.handed process (List.mem_of_getElem? hprocess)).fences used
    (List.mem_of_getElem? hused)
  have hkey := (require_eq_ok.mp hvalid).1
  obtain ⟨row, hrow, hholds⟩ := List.any_eq_true.mp hauthorized
  simp only [MonitorLeaseRow.holds, Bool.and_eq_true, decide_eq_true_eq] at hholds
  obtain ⟨⟨⟨hrowKey, hrowOwner⟩, hgeneration⟩, hlive⟩ := hholds
  exact ⟨row.leaseGeneration, hgeneration.symm, (owner_eq_some_iff h).mpr
    ⟨row, hrow, hrowKey.trans hkey, hrowOwner.trans hown, rfl, hlive⟩⟩

theorem exclusive_iff (h : Orderly egress) (event : EgressEvent) :
    Exclusive egress event ↔ Prompt egress event := by
  cases event with
  | execute process call authorized fault lost =>
    unfold Exclusive Prompt
    simp only [owns_iff_granted h]
  | claim process fence =>
    refine iff_of_true ?_ trivial
    intro found used hused hvalid hclaims
    exact owner_of_authorized h hused hvalid (Bool.and_eq_true_iff.mp hclaims).2
  | fetch process fence =>
    refine iff_of_true ?_ trivial
    intro found used hused hvalid hfetches
    exact owner_of_authorized h hused hvalid (Bool.and_eq_true_iff.mp hfetches).2
  | launch supervisor => exact Iff.rfl
  | start process method => exact Iff.rfl
  | resume process call reply => exact Iff.rfl
  | authorize process => exact Iff.rfl
  | pass time => exact Iff.rfl
  | elsewhere service others => exact Iff.rfl

end

/-- The supervisors close the gates as owners of the lease only, and their workers go out
under the owner's generation only, exactly where every closing runs within thirty seconds
of the last grant to its supervisor. -/
theorem egress_exclusive_iff (service : ServiceState) (clock : ℤ) (events : List EgressEvent) :
    Along Egress.step Exclusive (Egress.initial service clock) events ↔
      Along Egress.step Prompt (Egress.initial service clock) events :=
  @along_iff_of_invariant _ _ Egress.step Exclusive Prompt Orderly
    (fun _ event h => Orderly.step h event) (fun _ event h => exclusive_iff h event) _
    (orderly_initial service clock) events

theorem leavingWorker_pattern : workerIdPattern.test "worker-a" = true := by decide

theorem comingWorker_pattern : workerIdPattern.test "worker-b" = true := by decide

/-- A supervisor whose deactivation has come to the closing of its gates. -/
def leavingWorker : WorkerSupervisor where
  ownerId := "worker-a"
  ownerPattern := leavingWorker_pattern
  providerWorkersEnabled := true
  generation := some 1
  state := .active
  rulesOpen := false

def comingWorker : WorkerSupervisor where
  ownerId := "worker-b"
  ownerPattern := comingWorker_pattern
  providerWorkersEnabled := true
  generation := none
  state := .stopped
  rulesOpen := false

def activation (process : ℕ) : List EgressEvent :=
  [.start process .activate, .resume process 0 (some true), .execute process 0 true none false,
    .resume process 0 none, .execute process 0 true none false, .resume process 0 none,
    .resume process 0 (some true)]

/-- A deactivation renews its lease and pauses for as long as that lasts; then another
supervisor activates. -/
def pausedShutdown : List EgressEvent :=
  .launch leavingWorker :: .launch comingWorker :: activation 0 ++
    [.start 0 (.deactivate .stopped), .execute 0 0 true none false, .resume 0 0 none,
      .pass 30000] ++ activation 1

/-- The former owner closes the gates that the new owner has just opened. -/
theorem closed_by_former_owner :
    let egress := run Egress.step (Egress.initial MonitorLeases.serving 0) pausedShutdown
    egress.owner = some ("worker-b", 2) ∧
      egress.leases.service.deliveryEnabled = true ∧
      (egress.step (.execute 0 0 true none false)).leases.service.deliveryEnabled = false ∧
      ¬Along Egress.step Exclusive (Egress.initial MonitorLeases.serving 0)
        (pausedShutdown ++ [.execute 0 0 true none false]) := by
  refine ⟨by decide, by decide, by decide, ?_⟩
  rw [along_append]
  rintro ⟨-, hexclusive, -⟩
  obtain ⟨generation, howner⟩ := hexclusive
    ⟨leavingWorker, [⟨.closingGates 1 .stopped, .sent .deactivateWorkerGates⟩], []⟩
    ⟨.closingGates 1 .stopped, .sent .deactivateWorkerGates⟩ (by decide) rfl
  have hnew : (run Egress.step (Egress.initial MonitorLeases.serving 0) pausedShutdown).owner =
      some ("worker-b", 2) := by decide
  rw [hnew] at howner
  exact absurd (Prod.mk.inj (Option.some.inj howner)).1 (by decide)

end Workers

end HyperTrader
