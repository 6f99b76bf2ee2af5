import HyperTrader.Library.Machine
import HyperTrader.Library.Table
import HyperTrader.Library.Triple
import HyperTrader.Notifications.Service

/-!
# Fencing tokens of the monitor leases

A lease is a row of the database with its owner, the time it expires and a generation. An
acquisition inserts the row at generation 1 or, when the row has expired, takes it over
at the next generation; the pair of owner and generation is the holder's token, which
renewals, releases and the egress of the delivery worker are checked against. A release
deletes the row, and the count with it, so that a later acquisition starts again at 1.
-/

namespace HyperTrader

open Library

/-- `notification_monitor_leases` -/
structure MonitorLeaseRow where
  leaseKey : String
  ownerId : String
  expiresAt : ℤ
  renewedAt : ℤ
  leaseGeneration : ℕ
  deriving DecidableEq

namespace MonitorLeaseRow

/-- `WHERE lease_key = … AND owner_id = … AND lease_generation = …` -/
def holds (row : MonitorLeaseRow) (leaseKey ownerId : String) (generation : ℤ) : Bool :=
  row.leaseKey = leaseKey && row.ownerId = ownerId && row.leaseGeneration = generation

end MonitorLeaseRow

/-- An acquisition that was answered, and whether the row it was made on has been deleted. -/
structure LeaseAcquisition where
  leaseKey : String
  ownerId : String
  generation : ℕ
  rowDeleted : Bool
  deriving DecidableEq

structure MonitorLeases where
  service : ServiceState
  rows : List MonitorLeaseRow
  acquisitions : List LeaseAcquisition

namespace MonitorLeases

/-- The milliseconds of `interval '30 seconds'`. -/
def leaseInterval : ℤ := 30000

def row (leases : MonitorLeases) (leaseKey : String) : Option MonitorLeaseRow :=
  leases.rows.find? fun row => row.leaseKey = leaseKey

/-- `INSERT … ON CONFLICT (lease_key) DO UPDATE … WHERE expires_at <= clock_timestamp()` -/
def acquireStatement (leaseKey ownerId : String) (now : ℤ) :
    Transaction MonitorLeases StoreFailure (Option ℕ) := fun leases =>
  match leases.row leaseKey with
  | none =>
    .ok (some 1,
      { leases with
        rows := leases.rows ++ [⟨leaseKey, ownerId, now + leaseInterval, now, 1⟩]
        acquisitions := leases.acquisitions ++ [⟨leaseKey, ownerId, 1, false⟩] })
  | some row =>
    if row.expiresAt ≤ now then
      if row.leaseGeneration < maxDatabaseInteger then
        .ok (some (row.leaseGeneration + 1),
          { leases with
            rows := Table.update leases.rows (fun row => row.leaseKey = leaseKey)
              fun row =>
                { row with
                  ownerId := ownerId
                  expiresAt := now + leaseInterval
                  renewedAt := now
                  leaseGeneration := row.leaseGeneration + 1 }
            acquisitions := leases.acquisitions ++
              [⟨leaseKey, ownerId, row.leaseGeneration + 1, false⟩] })
      else .error .numericOverflow
    else .ok (none, leases)

/-- `acquireMonitorLease`: the generation, or none when the lease is held. -/
def acquireMonitorLease (leaseKey ownerId : String) (now : ℤ)
    (fault : Option StoreFailure) : Action MonitorLeases StoreFailure (Option ℕ) := do
  Action.check (validateLeaseIdentity leaseKey ownerId)
  Transaction.atomically fault do
    Transaction.check fun leases => leases.service.assertMonitorsEnabled
    acquireStatement leaseKey ownerId now

def renewed (leaseKey ownerId : String) (generation now : ℤ) (row : MonitorLeaseRow) : Bool :=
  row.holds leaseKey ownerId generation && now < row.expiresAt

def renewMonitorLease (leaseKey ownerId : String) (generation now : ℤ)
    (fault : Option StoreFailure) : Action MonitorLeases StoreFailure Bool := do
  Action.check (validateLeaseIdentity leaseKey ownerId)
  Action.check (require (isLeaseGeneration generation)
    (.conflict "monitor lease generation is invalid"))
  Transaction.atomically fault do
    Transaction.check fun leases => leases.service.assertMonitorsEnabled
    fun leases =>
      .ok (Table.changes leases.rows (renewed leaseKey ownerId generation now) == 1,
        { leases with
          rows := Table.update leases.rows (renewed leaseKey ownerId generation now)
            fun row => { row with expiresAt := now + leaseInterval, renewedAt := now } })

def markDeleted (leaseKey : String) (acquisition : LeaseAcquisition) : LeaseAcquisition :=
  if acquisition.leaseKey = leaseKey then { acquisition with rowDeleted := true }
  else acquisition

def deleteStatement (leaseKey ownerId : String) (generation : ℤ) :
    Transaction MonitorLeases StoreFailure Unit := fun leases =>
  if leases.rows.any fun row => row.holds leaseKey ownerId generation then
    .ok ((),
      { leases with
        rows := leases.rows.filter fun row => !row.holds leaseKey ownerId generation
        acquisitions := leases.acquisitions.map (markDeleted leaseKey) })
  else .ok ((), leases)

/-- The statement of `releaseMonitorLease`, which a generation that no lease has skips. -/
def releaseStatement (leaseKey ownerId : String) (generation : ℤ) :
    Transaction MonitorLeases StoreFailure Unit :=
  if isLeaseGeneration generation then deleteStatement leaseKey ownerId generation
  else pure ()

def releaseMonitorLease (leaseKey ownerId : String) (generation : ℤ)
    (fault : Option StoreFailure) : Action MonitorLeases StoreFailure Unit := do
  Action.check (validateLeaseIdentity leaseKey ownerId)
  Transaction.atomically fault (releaseStatement leaseKey ownerId generation)

/-- The condition on the lease in `assertRuntimeEgressFence` and in the query of
`authorizedProviderRows`. -/
def egressAuthorized (leases : MonitorLeases) (fence : RuntimeEgressFence) (now : ℤ) : Bool :=
  leases.rows.any fun row =>
    row.holds fence.leaseKey fence.ownerId fence.generation && now < row.expiresAt

end MonitorLeases

/-- A call on the store, at the time of the database's clock. The gates are moved by
other parts of the service. -/
inductive MonitorLeaseEvent
  | acquire (leaseKey ownerId : String) (now : ℤ) (fault : Option StoreFailure)
  | renew (leaseKey ownerId : String) (generation now : ℤ) (fault : Option StoreFailure)
  | release (leaseKey ownerId : String) (generation : ℤ) (fault : Option StoreFailure)
  | gates (service : ServiceState)

namespace MonitorLeases

def initial (service : ServiceState) : MonitorLeases := ⟨service, [], []⟩

def step (leases : MonitorLeases) : MonitorLeaseEvent → MonitorLeases
  | .acquire leaseKey ownerId now fault =>
    (acquireMonitorLease leaseKey ownerId now fault leases).2
  | .renew leaseKey ownerId generation now fault =>
    (renewMonitorLease leaseKey ownerId generation now fault leases).2
  | .release leaseKey ownerId generation fault =>
    (releaseMonitorLease leaseKey ownerId generation fault leases).2
  | .gates service => { leases with service := service }

/-- The key has no row, or an expired one whose generation can be counted up. -/
def free (leases : MonitorLeases) (leaseKey : String) (now : ℤ) : Bool :=
  (leases.row leaseKey).all fun row =>
    row.expiresAt ≤ now && row.leaseGeneration < maxDatabaseInteger

/-- The store answers the acquisition: the identity is a valid one, the gate of the monitors is
open, the database does not fail and the key is free. -/
def answers (leases : MonitorLeases) (leaseKey ownerId : String) (now : ℤ)
    (fault : Option StoreFailure) : Bool :=
  (validateLeaseIdentity leaseKey ownerId).isOk && leases.service.assertMonitorsEnabled.isOk &&
    fault.isNone && leases.free leaseKey now

/-- An owner whose acquisition is answered has not acquired the key on a row that has been
deleted. -/
def NotReacquired (leases : MonitorLeases) : MonitorLeaseEvent → Prop
  | .acquire leaseKey ownerId now fault =>
    leases.answers leaseKey ownerId now fault = true → ∀ acquisition ∈ leases.acquisitions,
      acquisition.leaseKey = leaseKey → acquisition.ownerId = ownerId →
        acquisition.rowDeleted = false
  | .renew .. | .release .. | .gates _ => True

instance (leases : MonitorLeases) (event : MonitorLeaseEvent) :
    Decidable (leases.NotReacquired event) :=
  match event with
  | .acquire .. => inferInstanceAs (Decidable (_ → _))
  | .renew .. | .release .. | .gates _ => inferInstanceAs (Decidable True)

/-- The acquisition at `i` has been released, or another one of its key came after it. -/
def Lost (leases : MonitorLeases) (i : ℕ) (lease : LeaseAcquisition) : Prop :=
  leases.acquisitions[i]? = some lease ∧
    (lease.rowDeleted = true ∨ ∃ (j : ℕ) (later : LeaseAcquisition), i < j ∧
      leases.acquisitions[j]? = some later ∧ later.leaseKey = lease.leaseKey)

/-- The rows and the acquisitions agree: a row is at the last acquisition of its key, the
acquisitions on it count upwards, and those before a deletion are of other owners. -/
structure Fenced (leases : MonitorLeases) : Prop where
  uniqueRows : Table.UniqueKeys MonitorLeaseRow.leaseKey leases.rows
  current : ∀ lease ∈ leases.acquisitions, lease.rowDeleted = false →
    ∃ row ∈ leases.rows, row.leaseKey = lease.leaseKey ∧
      lease.generation ≤ row.leaseGeneration
  acquired : ∀ row ∈ leases.rows, ∃ lease ∈ leases.acquisitions, lease.rowDeleted = false ∧
    lease.leaseKey = row.leaseKey ∧ lease.ownerId = row.ownerId ∧
      lease.generation = row.leaseGeneration
  apart : ∀ lease ∈ leases.acquisitions, ∀ other ∈ leases.acquisitions,
    lease.rowDeleted = true → other.rowDeleted = false →
      lease.leaseKey = other.leaseKey → lease.ownerId ≠ other.ownerId
  ordered : leases.acquisitions.Pairwise fun lease later =>
    lease.leaseKey = later.leaseKey → lease.rowDeleted = false →
      later.rowDeleted = false ∧ lease.generation < later.generation
  distinct : leases.acquisitions.Pairwise fun lease later =>
    lease.leaseKey = later.leaseKey →
      (lease.ownerId, lease.generation) ≠ (later.ownerId, later.generation)

section

variable {leases : MonitorLeases} {leaseKey ownerId : String} {now : ℤ} {row : MonitorLeaseRow}

theorem row_eq_none (h : leases.row leaseKey = none) :
    ∀ row ∈ leases.rows, row.leaseKey ≠ leaseKey := by
  unfold MonitorLeases.row at h
  simpa using h

theorem mem_of_row (h : leases.row leaseKey = some row) :
    row ∈ leases.rows ∧ row.leaseKey = leaseKey := by
  unfold MonitorLeases.row at h
  have hkey := List.find?_some h
  exact ⟨List.mem_of_find?_eq_some h, by simpa using hkey⟩

theorem fenced_initial (service : ServiceState) : Fenced (initial service) := by
  constructor <;> simp [initial, Table.UniqueKeys]

theorem Fenced.renew (h : Fenced leases) (wher : MonitorLeaseRow → Bool) (expiresAt : ℤ) :
    Fenced { leases with
      rows := Table.update leases.rows wher fun row =>
        { row with expiresAt := expiresAt, renewedAt := now } } where
  uniqueRows := by
    apply h.uniqueRows.update
    intro row
    rfl
  current := by
    intro lease hlease hlive
    obtain ⟨row, hrow, hkey, hle⟩ := h.current lease hlease hlive
    by_cases hwher : wher row = true
    · exact ⟨_, Table.mem_update.mpr ⟨row, hrow, .inl ⟨hwher, rfl⟩⟩, hkey, hle⟩
    · exact ⟨row, Table.mem_update.mpr ⟨row, hrow, .inr ⟨by simpa using hwher, rfl⟩⟩, hkey, hle⟩
  acquired := by
    intro row hrow
    obtain ⟨old, hold, ⟨-, rfl⟩ | ⟨-, rfl⟩⟩ := Table.mem_update.mp hrow
    · exact h.acquired old hold
    · exact h.acquired old hold
  apart := h.apart
  ordered := h.ordered
  distinct := h.distinct

theorem Fenced.insert (h : Fenced leases) (hnone : leases.row leaseKey = none)
    (hnew : ∀ lease ∈ leases.acquisitions, lease.leaseKey = leaseKey →
      lease.ownerId = ownerId → lease.rowDeleted = false) (expiresAt : ℤ) :
    Fenced { leases with
      rows := leases.rows ++ [⟨leaseKey, ownerId, expiresAt, now, 1⟩]
      acquisitions := leases.acquisitions ++ [⟨leaseKey, ownerId, 1, false⟩] } := by
  have habsent := row_eq_none hnone
  have hdeleted : ∀ lease ∈ leases.acquisitions, lease.leaseKey = leaseKey →
      lease.rowDeleted = true := by
    intro lease hlease hkey
    by_contra hlive
    obtain ⟨row, hrow, hrowKey, -⟩ := h.current lease hlease (by simpa using hlive)
    exact habsent row hrow (hrowKey.trans hkey)
  have hapart : ∀ lease ∈ leases.acquisitions, lease.leaseKey = leaseKey →
      lease.ownerId ≠ ownerId := by
    intro lease hlease hkey howner
    have hlive := hnew lease hlease hkey howner
    rw [hdeleted lease hlease hkey] at hlive
    cases hlive
  constructor
  · exact h.uniqueRows.insert habsent
  · intro lease hlease hlive
    rcases List.mem_append.mp hlease with hold | hlast
    · obtain ⟨row, hrow, hkey, hle⟩ := h.current lease hold hlive
      exact ⟨row, List.mem_append_left _ hrow, hkey, hle⟩
    · rw [List.mem_singleton.mp hlast]
      exact ⟨_, List.mem_append_right _ (List.mem_singleton.mpr rfl), rfl, le_refl 1⟩
  · intro row hrow
    rcases List.mem_append.mp hrow with hold | hlast
    · obtain ⟨lease, hlease, hlive⟩ := h.acquired row hold
      exact ⟨lease, List.mem_append_left _ hlease, hlive⟩
    · rw [List.mem_singleton.mp hlast]
      exact ⟨_, List.mem_append_right _ (List.mem_singleton.mpr rfl), rfl, rfl, rfl, rfl⟩
  · intro lease hlease other hother hgone hlive hkey
    rcases List.mem_append.mp hlease with hold | hlast
    · rcases List.mem_append.mp hother with hother | hother
      · exact h.apart lease hold other hother hgone hlive hkey
      · rw [List.mem_singleton.mp hother] at hkey ⊢
        exact hapart lease hold hkey
    · rw [List.mem_singleton.mp hlast] at hgone
      cases hgone
  · apply List.pairwise_append.mpr
    refine ⟨h.ordered, List.pairwise_singleton _ _, ?_⟩
    intro lease hlease later hlater hkey hlive
    rw [List.mem_singleton.mp hlater] at hkey
    rw [hdeleted lease hlease hkey] at hlive
    cases hlive
  · apply List.pairwise_append.mpr
    refine ⟨h.distinct, List.pairwise_singleton _ _, ?_⟩
    intro lease hlease later hlater hkey hpair
    rw [List.mem_singleton.mp hlater] at hkey hpair
    exact hapart lease hlease hkey (congrArg Prod.fst hpair)

/-- A take-over by an owner without a deleted row numbers its lease after all of the key. -/
theorem Fenced.takeOver (h : Fenced leases) (hrow : leases.row leaseKey = some row)
    (hnew : ∀ lease ∈ leases.acquisitions, lease.leaseKey = leaseKey →
      lease.ownerId = ownerId → lease.rowDeleted = false) (expiresAt : ℤ) :
    Fenced { leases with
      rows := Table.update leases.rows (fun row => row.leaseKey = leaseKey)
        fun row =>
          { row with
            ownerId := ownerId
            expiresAt := expiresAt
            renewedAt := now
            leaseGeneration := row.leaseGeneration + 1 }
      acquisitions := leases.acquisitions ++
        [⟨leaseKey, ownerId, row.leaseGeneration + 1, false⟩] } := by
  obtain ⟨hmem, hkeyRow⟩ := mem_of_row hrow
  have hbelow : ∀ lease ∈ leases.acquisitions, lease.leaseKey = leaseKey →
      lease.rowDeleted = false → lease.generation ≤ row.leaseGeneration := by
    intro lease hlease hkey hlive
    obtain ⟨other, hother, hotherKey, hle⟩ := h.current lease hlease hlive
    rwa [h.uniqueRows.eq_of_mem hother hmem (hotherKey.trans (hkey.trans hkeyRow.symm))] at hle
  have hafter : ({ row with
      ownerId := ownerId
      expiresAt := expiresAt
      renewedAt := now
      leaseGeneration := row.leaseGeneration + 1 } : MonitorLeaseRow) ∈
      Table.update leases.rows (fun row => row.leaseKey = leaseKey)
        fun row =>
          { row with
            ownerId := ownerId
            expiresAt := expiresAt
            renewedAt := now
            leaseGeneration := row.leaseGeneration + 1 } :=
    Table.mem_update.mpr ⟨row, hmem, .inl ⟨by simpa using hkeyRow, rfl⟩⟩
  constructor
  · apply h.uniqueRows.update
    intro row
    rfl
  · intro lease hlease hlive
    by_cases hkey : lease.leaseKey = leaseKey
    · refine ⟨_, hafter, hkeyRow.trans hkey.symm, ?_⟩
      rcases List.mem_append.mp hlease with hold | hlast
      · exact (hbelow lease hold hkey hlive).trans (Nat.le_succ _)
      · rw [List.mem_singleton.mp hlast]
    · rcases List.mem_append.mp hlease with hold | hlast
      · obtain ⟨other, hother, hotherKey, hle⟩ := h.current lease hold hlive
        refine ⟨other, Table.mem_update.mpr ⟨other, hother, .inr ⟨?_, rfl⟩⟩, hotherKey, hle⟩
        simpa [hotherKey] using hkey
      · rw [List.mem_singleton.mp hlast] at hkey
        exact absurd rfl hkey
  · intro other hother
    obtain ⟨old, hold, ⟨hwher, rfl⟩ | ⟨-, rfl⟩⟩ := Table.mem_update.mp hother
    · have hkey : old.leaseKey = leaseKey := by simpa using hwher
      obtain rfl := h.uniqueRows.eq_of_mem hold hmem (hkey.trans hkeyRow.symm)
      exact ⟨_, List.mem_append_right _ (List.mem_singleton.mpr rfl), rfl, hkey.symm, rfl, rfl⟩
    · obtain ⟨lease, hlease, hlive⟩ := h.acquired old hold
      exact ⟨lease, List.mem_append_left _ hlease, hlive⟩
  · intro lease hlease other hother hgone hlive hkey
    rcases List.mem_append.mp hlease with hold | hlast
    · rcases List.mem_append.mp hother with hother | hother
      · exact h.apart lease hold other hother hgone hlive hkey
      · rw [List.mem_singleton.mp hother] at hkey ⊢
        intro howner
        have hlive := hnew lease hold hkey howner
        rw [hgone] at hlive
        cases hlive
    · rw [List.mem_singleton.mp hlast] at hgone
      cases hgone
  · apply List.pairwise_append.mpr
    refine ⟨h.ordered, List.pairwise_singleton _ _, ?_⟩
    intro lease hlease later hlater hkey hlive
    rw [List.mem_singleton.mp hlater] at hkey ⊢
    exact ⟨rfl, Nat.lt_succ_of_le (hbelow lease hlease hkey hlive)⟩
  · apply List.pairwise_append.mpr
    refine ⟨h.distinct, List.pairwise_singleton _ _, ?_⟩
    intro lease hlease later hlater hkey hpair
    rw [List.mem_singleton.mp hlater] at hkey hpair
    obtain ⟨howner, hgeneration⟩ := Prod.mk.inj hpair
    have hle := hbelow lease hlease hkey (hnew lease hlease hkey howner)
    exact absurd hgeneration (Nat.ne_of_lt (Nat.lt_succ_of_le hle))

@[simp] theorem markDeleted_leaseKey (lease : LeaseAcquisition) :
    (markDeleted leaseKey lease).leaseKey = lease.leaseKey := by
  unfold markDeleted
  split <;> rfl

@[simp] theorem markDeleted_ownerId (lease : LeaseAcquisition) :
    (markDeleted leaseKey lease).ownerId = lease.ownerId := by
  unfold markDeleted
  split <;> rfl

@[simp] theorem markDeleted_generation (lease : LeaseAcquisition) :
    (markDeleted leaseKey lease).generation = lease.generation := by
  unfold markDeleted
  split <;> rfl

variable {lease : LeaseAcquisition} {generation : ℤ} {leases' : MonitorLeases}
  {fault : Option StoreFailure}

theorem markDeleted_live :
    (markDeleted leaseKey lease).rowDeleted = false ↔
      lease.leaseKey ≠ leaseKey ∧ lease.rowDeleted = false := by
  unfold markDeleted
  split <;> simp_all

theorem Fenced.delete (h : Fenced leases)
    (hany : (leases.rows.any fun row => row.holds leaseKey ownerId generation) = true) :
    Fenced { leases with
      rows := leases.rows.filter fun row => !row.holds leaseKey ownerId generation
      acquisitions := leases.acquisitions.map (markDeleted leaseKey) } := by
  obtain ⟨held, hheld, hholds⟩ := List.any_eq_true.mp hany
  have hheldKey : held.leaseKey = leaseKey := by
    simp only [MonitorLeaseRow.holds, Bool.and_eq_true, decide_eq_true_eq] at hholds
    exact hholds.1.1
  have hgone : ∀ row ∈ leases.rows.filter fun row => !row.holds leaseKey ownerId generation,
      row.leaseKey ≠ leaseKey := by
    intro row hrow hkey
    obtain ⟨hmem, hkept⟩ := List.mem_filter.mp hrow
    rw [h.uniqueRows.eq_of_mem hmem hheld (hkey.trans hheldKey.symm), hholds] at hkept
    cases hkept
  constructor
  · exact h.uniqueRows.delete _
  · intro lease hlease hlive
    obtain ⟨old, hold, rfl⟩ := List.mem_map.mp hlease
    obtain ⟨hkey, hlive⟩ := markDeleted_live.mp hlive
    obtain ⟨row, hrow, hrowKey, hle⟩ := h.current old hold hlive
    refine ⟨row, List.mem_filter.mpr ⟨hrow, ?_⟩, by simpa using hrowKey, by simpa using hle⟩
    rw [← hrowKey] at hkey
    simp [MonitorLeaseRow.holds, hkey]
  · intro row hrow
    obtain ⟨lease, hlease, hlive, hkey, howner, hgeneration⟩ :=
      h.acquired row (List.mem_filter.mp hrow).1
    refine ⟨_, List.mem_map_of_mem hlease, ?_⟩
    rw [markDeleted_live, markDeleted_leaseKey, markDeleted_ownerId, markDeleted_generation]
    exact ⟨⟨hkey ▸ hgone row hrow, hlive⟩, hkey, howner, hgeneration⟩
  · intro lease hlease other hother hdeleted hlive hkey
    obtain ⟨old, hold, rfl⟩ := List.mem_map.mp hlease
    obtain ⟨oldOther, holdOther, rfl⟩ := List.mem_map.mp hother
    obtain ⟨hotherKey, hlive⟩ := markDeleted_live.mp hlive
    rw [markDeleted_leaseKey, markDeleted_leaseKey] at hkey
    rw [markDeleted_ownerId, markDeleted_ownerId]
    apply h.apart old hold oldOther holdOther _ hlive hkey
    by_contra hlive
    have hlive' : (markDeleted leaseKey old).rowDeleted = false :=
      markDeleted_live.mpr ⟨hkey ▸ hotherKey, by simpa using hlive⟩
    rw [hdeleted] at hlive'
    cases hlive'
  · rw [List.pairwise_map]
    apply h.ordered.imp
    intro lease later hordered hkey hlive
    rw [markDeleted_leaseKey, markDeleted_leaseKey] at hkey
    obtain ⟨hleaseKey, hlive⟩ := markDeleted_live.mp hlive
    obtain ⟨hlater, hlt⟩ := hordered hkey hlive
    rw [markDeleted_live, markDeleted_generation, markDeleted_generation]
    exact ⟨⟨hkey ▸ hleaseKey, hlater⟩, hlt⟩
  · rw [List.pairwise_map]
    apply h.distinct.imp
    intro lease later hdistinct hkey
    rw [markDeleted_leaseKey, markDeleted_leaseKey] at hkey
    rw [markDeleted_ownerId, markDeleted_ownerId, markDeleted_generation, markDeleted_generation]
    exact hdistinct hkey

theorem Fenced.acquire (h : Fenced leases)
    (hnew : leases.free leaseKey now = true → ∀ lease ∈ leases.acquisitions,
      lease.leaseKey = leaseKey → lease.ownerId = ownerId → lease.rowDeleted = false)
    {generation : Option ℕ}
    (hrun : acquireStatement leaseKey ownerId now leases = .ok (generation, leases')) :
    Fenced leases' := by
  unfold acquireStatement at hrun
  cases hrow : leases.row leaseKey with
  | none =>
    simp only [hrow, Except.ok.injEq, Prod.mk.injEq] at hrun
    obtain ⟨-, rfl⟩ := hrun
    exact h.insert hrow (hnew (by simp [free, hrow])) _
  | some row =>
    by_cases hexpired : row.expiresAt ≤ now
    · by_cases hrange : row.leaseGeneration < maxDatabaseInteger
      · simp only [hrow, hexpired, hrange, if_true, Except.ok.injEq, Prod.mk.injEq] at hrun
        obtain ⟨-, rfl⟩ := hrun
        exact h.takeOver hrow (hnew (by simp [free, hrow, hexpired, hrange])) _
      · simp [hrow, hexpired, hrange] at hrun
    · simp only [hrow, hexpired, if_false, Except.ok.injEq, Prod.mk.injEq] at hrun
      obtain ⟨-, rfl⟩ := hrun
      exact h

theorem Fenced.release (h : Fenced leases)
    (hrun : releaseStatement leaseKey ownerId generation leases = .ok ((), leases')) :
    Fenced leases' := by
  unfold releaseStatement at hrun
  by_cases hvalid : isLeaseGeneration generation
  · rw [if_pos hvalid, deleteStatement] at hrun
    split at hrun
    · rename_i hany
      simp only [Except.ok.injEq, Prod.mk.injEq, true_and] at hrun
      exact hrun ▸ h.delete hany
    · simp only [Except.ok.injEq, Prod.mk.injEq, true_and] at hrun
      exact hrun ▸ h
  · rw [if_neg hvalid, Transaction.pure_eq_ok] at hrun
    exact hrun.2 ▸ h

/-- Where no key is reacquired after its row was deleted, the leases stay fenced. -/
theorem Fenced.step (h : Fenced leases) {event : MonitorLeaseEvent}
    (hevent : leases.NotReacquired event) : Fenced (leases.step event) := by
  cases event with
  | acquire leaseKey ownerId now fault =>
    have hmeets : Action.Meets (fun s => s = leases)
        (acquireMonitorLease leaseKey ownerId now fault) (fun _ => Fenced) Fenced := by
      apply Action.Meets.check_bind
      · rintro s rfl
        exact h
      · intro _ hidentity
        constructor
        · rintro s generation s' rfl hrun
          obtain ⟨hfault, hstatements⟩ := Transaction.atomically_eq_ok.mp hrun
          obtain ⟨_, _, hgate, hacquire⟩ := Transaction.bind_eq_ok.mp hstatements
          obtain ⟨hopen, rfl⟩ := Transaction.check_eq_ok.mp hgate
          refine h.acquire (fun hfree => hevent ?_) hacquire
          unfold answers
          rw [hidentity, hopen, hfault, hfree]
          rfl
        · rintro s error s' rfl hrun
          rw [Transaction.atomically_error hrun]
          exact h
    exact hmeets.final rfl
  | renew leaseKey ownerId generation now fault =>
    have hmeets : Action.Meets (fun s => s = leases)
        (renewMonitorLease leaseKey ownerId generation now fault) (fun _ => Fenced)
        Fenced := by
      apply Action.Meets.check_bind
      · rintro s rfl
        exact h
      · intro _ _
        apply Action.Meets.check_bind
        · rintro s rfl
          exact h
        · intro _ _
          apply Action.Meets.atomically
          · rintro s rfl
            exact h
          · rintro s answer s' rfl hrun
            obtain ⟨_, _, hgate, hrun⟩ := Transaction.bind_eq_ok.mp hrun
            obtain ⟨-, rfl⟩ := Transaction.check_eq_ok.mp hgate
            simp only [Except.ok.injEq, Prod.mk.injEq] at hrun
            rw [← hrun.2]
            exact h.renew _ _
    exact hmeets.final rfl
  | release leaseKey ownerId generation fault =>
    have hmeets : Action.Meets (fun s => s = leases)
        (releaseMonitorLease leaseKey ownerId generation fault) (fun _ => Fenced)
        Fenced := by
      apply Action.Meets.check_bind
      · rintro s rfl
        exact h
      · intro _ _
        apply Action.Meets.atomically
        · rintro s rfl
          exact h
        · rintro s answer s' rfl hrun
          exact h.release hrun
    exact hmeets.final rfl
  | gates service =>
    exact ⟨h.uniqueRows, h.current, h.acquired, h.apart, h.ordered, h.distinct⟩

theorem Fenced.not_holds (h : Fenced leases) {i : ℕ} (hlost : leases.Lost i lease) :
    ∀ row ∈ leases.rows, row.holds lease.leaseKey lease.ownerId lease.generation = false := by
  intro row hrow
  by_contra hholds
  simp only [MonitorLeaseRow.holds, Bool.not_eq_false, Bool.and_eq_true, decide_eq_true_eq,
    Int.natCast_inj] at hholds
  obtain ⟨⟨hkey, howner⟩, hgeneration⟩ := hholds
  obtain ⟨hlease, hend⟩ := hlost
  have hmem := List.mem_of_getElem? hlease
  obtain ⟨last, hlast, hlive, hlastKey, hlastOwner, hlastGeneration⟩ := h.acquired row hrow
  by_cases hdeleted : lease.rowDeleted = true
  · exact h.apart lease hmem last hlast hdeleted hlive (hkey.symm.trans hlastKey.symm)
      (howner.symm.trans hlastOwner.symm)
  · obtain ⟨j, later, hlt, hlater, hlaterKey⟩ := hend.resolve_left hdeleted
    obtain ⟨hi, rfl⟩ := List.getElem?_eq_some_iff.mp hlease
    obtain ⟨hj, rfl⟩ := List.getElem?_eq_some_iff.mp hlater
    have hordered := List.pairwise_iff_getElem.mp h.ordered i j hi hj hlt hlaterKey.symm
      (by simpa using hdeleted)
    obtain ⟨other, hother, hotherKey, hle⟩ := h.current _ (List.getElem_mem hj) hordered.1
    rw [h.uniqueRows.eq_of_mem hother hrow (hotherKey.trans (hlaterKey.trans hkey.symm)),
      hgeneration] at hle
    exact absurd hordered.2 (Nat.not_lt.mpr hle)

theorem any_eq_false {rows : List MonitorLeaseRow} {p : MonitorLeaseRow → Bool}
    (h : ∀ row ∈ rows, p row = false) : rows.any p = false := by
  apply List.any_eq_false.mpr
  intro row hrow
  simp [h row hrow]

theorem renew_of_not_holds
    (h : ∀ row ∈ leases.rows, row.holds leaseKey ownerId generation = false) :
    (renewMonitorLease leaseKey ownerId generation now fault leases).1 ≠ .ok true ∧
      (renewMonitorLease leaseKey ownerId generation now fault leases).2 = leases := by
  have hmeets : Action.Meets (fun s => s = leases)
      (renewMonitorLease leaseKey ownerId generation now fault)
      (fun answer s => answer = false ∧ s = leases) (fun s => s = leases) := by
    apply Action.Meets.check_bind (fun _ => id)
    intro _ _
    apply Action.Meets.check_bind (fun _ => id)
    intro _ _
    apply Action.Meets.atomically (fun _ => id)
    rintro s answer s' rfl hrun
    obtain ⟨_, _, hgate, hrun⟩ := Transaction.bind_eq_ok.mp hrun
    obtain ⟨-, rfl⟩ := Transaction.check_eq_ok.mp hgate
    have hnone : Table.changes s.rows (renewed leaseKey ownerId generation now) = 0 := by
      apply List.countP_eq_zero.mpr
      intro row hrow
      simp [renewed, h row hrow]
    simp only [hnone, Table.update_of_changes_eq_zero hnone, Except.ok.injEq, Prod.mk.injEq] at hrun
    exact ⟨hrun.1.symm, hrun.2.symm⟩
  constructor
  · intro htrue
    exact absurd (hmeets.returns leases true _ rfl (Prod.ext htrue rfl)).1 (by decide)
  · exact (hmeets.weaken (fun _ => id) (fun _ _ => And.right) (fun _ => id)).final rfl

theorem release_of_not_holds
    (h : ∀ row ∈ leases.rows, row.holds leaseKey ownerId generation = false) :
    (releaseMonitorLease leaseKey ownerId generation fault leases).2 = leases := by
  have hmeets : Action.Meets (fun s => s = leases)
      (releaseMonitorLease leaseKey ownerId generation fault)
      (fun _ s => s = leases) (fun s => s = leases) := by
    apply Action.Meets.check_bind (fun _ => id)
    intro _ _
    apply Action.Meets.atomically (fun _ => id)
    rintro s answer s' rfl hrun
    unfold releaseStatement at hrun
    split at hrun
    · rw [deleteStatement, any_eq_false h] at hrun
      simp only [Bool.false_eq_true, if_false, Except.ok.injEq, Prod.mk.injEq] at hrun
      exact hrun.2.symm
    · exact (Transaction.pure_eq_ok.mp hrun).2.symm
  exact hmeets.final rfl

theorem egressAuthorized_of_not_holds {fence : RuntimeEgressFence} (h : ∀ row ∈ leases.rows,
      row.holds fence.leaseKey fence.ownerId fence.generation = false) :
    leases.egressAuthorized fence now = false := by
  apply any_eq_false
  intro row hrow
  simp [h row hrow]

theorem fenced_run (service : ServiceState) (events : List MonitorLeaseEvent)
    (hevents : Along step NotReacquired (initial service) events) :
    Fenced (run step (initial service) events) :=
  run_invariant_along (fun _ _ hfenced hevent => hfenced.step hevent)
    (fenced_initial service) hevents

end

/-- No two acquisitions of a key have the same token, and a token that has been released
or taken over renews, releases and authorizes nothing. -/
theorem lease_tokens_unique (service : ServiceState) (events : List MonitorLeaseEvent)
    (hevents : Along step NotReacquired (initial service) events) :
    (∀ (i j : ℕ) (lease later : LeaseAcquisition), i < j →
      (run step (initial service) events).acquisitions[i]? = some lease →
      (run step (initial service) events).acquisitions[j]? = some later →
      lease.leaseKey = later.leaseKey →
        (lease.ownerId, lease.generation) ≠ (later.ownerId, later.generation)) ∧
    ∀ (i : ℕ) (lease : LeaseAcquisition),
      (run step (initial service) events).Lost i lease →
        (∀ now fault, (renewMonitorLease lease.leaseKey lease.ownerId lease.generation now fault
            (run step (initial service) events)).1 ≠ .ok true ∧
          (renewMonitorLease lease.leaseKey lease.ownerId lease.generation now fault
            (run step (initial service) events)).2 = run step (initial service) events) ∧
        (∀ fault, (releaseMonitorLease lease.leaseKey lease.ownerId lease.generation fault
            (run step (initial service) events)).2 = run step (initial service) events) ∧
        ∀ now,
          (run step (initial service) events).egressAuthorized
            ⟨lease.leaseKey, lease.ownerId, lease.generation⟩ now = false := by
  have h := fenced_run service events hevents
  constructor
  · intro i j lease later hlt hlease hlater hkey
    obtain ⟨hi, rfl⟩ := List.getElem?_eq_some_iff.mp hlease
    obtain ⟨hj, rfl⟩ := List.getElem?_eq_some_iff.mp hlater
    exact List.pairwise_iff_getElem.mp h.distinct i j hi hj hlt hkey
  · intro i lease hlost
    have hholds := h.not_holds hlost
    exact ⟨fun now fault => renew_of_not_holds hholds, fun fault => release_of_not_holds hholds,
      fun now => egressAuthorized_of_not_holds hholds⟩

def serving : ServiceState := ⟨.contracted, .ready, 0, 0, true, true, true⟩

/-- A lease is released, a closed gate refuses to give it to its old owner, and another owner
has it until it expires and a third takes it over. -/
def takenOver : List MonitorLeaseEvent :=
  [.acquire "runtime:egress" "worker-a" 0 none, .release "runtime:egress" "worker-a" 1 none,
    .gates { serving with monitorsEnabled := false },
    .acquire "runtime:egress" "worker-a" 10 none, .gates serving,
    .acquire "runtime:egress" "worker-b" 20 none, .acquire "runtime:egress" "worker-c" 30020 none]

theorem lease_tokens_unique_takenOver :
    (∀ fault, (releaseMonitorLease "runtime:egress" "worker-b" 1 fault
        (run step (initial serving) takenOver)).2 = run step (initial serving) takenOver) ∧
    (run step (initial serving) takenOver).rows =
      [⟨"runtime:egress", "worker-c", 60020, 30020, 2⟩] :=
  ⟨((lease_tokens_unique serving takenOver (by decide)).2 1
      ⟨"runtime:egress", "worker-b", 1, false⟩ ⟨by decide,
        .inr ⟨2, ⟨"runtime:egress", "worker-c", 2, false⟩, by decide⟩⟩).2.1,
    by decide⟩

/-- An owner that released its lease and acquired the key again has its old token back. -/
theorem lease_token_reissued :
    (run step (initial serving) [.acquire "runtime:egress" "worker-a" 0 none,
        .release "runtime:egress" "worker-a" 1 none,
        .acquire "runtime:egress" "worker-a" 10 none]).acquisitions =
      [⟨"runtime:egress", "worker-a", 1, true⟩, ⟨"runtime:egress", "worker-a", 1, false⟩] ∧
    (renewMonitorLease "runtime:egress" "worker-a" 1 20 none
        (run step (initial serving) [.acquire "runtime:egress" "worker-a" 0 none,
          .release "runtime:egress" "worker-a" 1 none,
          .acquire "runtime:egress" "worker-a" 10 none])).1.toOption = some true ∧
    (run step (initial serving) [.acquire "runtime:egress" "worker-a" 0 none,
        .release "runtime:egress" "worker-a" 1 none,
        .acquire "runtime:egress" "worker-a" 10 none]).egressAuthorized
      ⟨"runtime:egress", "worker-a", 1⟩ 20 = true := by
  decide

end MonitorLeases

end HyperTrader
