import HyperTrader.Nonce.Calls

/-!
# The journal stays readable

Along any run of repository calls a record's state only moves along the allowed
transitions, a terminal record is never moved again and a set marker never
changes. Every row also reads back, but for one case: a claim or a renewal
writes `now + duration` as the lease expiry without reading the row back, and
within a minute of the largest safe integer that sum is no safe integer, so the
row it leaves can no longer be read. `journal_lawful_iff` says that this is the
only case.
-/

namespace HyperTrader

open Library

structure LifecycleKept (row row' : PreparedActionRecord) : Prop where
  state : row'.state = row.state ∨ row'.state ∈ row.state.allowedTransitions
  terminal : isTerminalJournalState row.state = true → row'.state = row.state
  marker : ∀ startedAt, row.submissionStartedAt = some startedAt →
    row'.submissionStartedAt = some startedAt

def LifecyclesKept (before after : Database) : Prop :=
  ∀ row ∈ before.actionJournal, ∃ row' ∈ after.actionJournal,
    row'.journalId = row.journalId ∧ LifecycleKept row row'

/-- What the journal promises of one call: lifecycles are kept, every stored row
passes its checks, and no record is unreadable. -/
structure LawfulStep (before after : Database) : Prop where
  lifecycles : LifecyclesKept before after
  stored : ∀ row ∈ after.actionJournal, assertStoredRecord row = .ok ()
  readable : ∀ journalId, ∃ found, after.getAction journalId = .ok found

/-- The call is accepted and writes a row, but the lease expiry it writes is no
safe integer. -/
def RepositoryCall.overflows (database : Database) : RepositoryCall → Prop
  | .claimReconciliationLease fault journalId owner now leaseDurationMs =>
    fault = none ∧ leaseOwnerPattern.test owner = true ∧
    (isSafeInteger now ∧ 0 ≤ now) ∧
    leaseDuration leaseDurationMs = .ok (leaseDurationMs.getD 30000) ∧
    (∃ row ∈ database.actionJournal, row.journalId = journalId ∧
      row.state.reconcilable = true ∧ row.leaseFree now = true) ∧
    maxSafeInteger < now + leaseDurationMs.getD 30000
  | .renewReconciliationLease fault lease now leaseDurationMs =>
    fault = none ∧ leaseOwnerPattern.test lease.owner = true ∧
    (isSafeInteger now ∧ 0 ≤ now) ∧
    leaseDuration leaseDurationMs = .ok (leaseDurationMs.getD 30000) ∧
    (∃ row ∈ database.actionJournal, row.holds lease = true ∧ now < lease.expiresAt) ∧
    maxSafeInteger < now + leaseDurationMs.getD 30000
  | _ => False

theorem LifecycleKept.refl (row : PreparedActionRecord) :
    LifecycleKept row row where
  state := .inl rfl
  terminal _ := rfl
  marker _ h := h

variable {row row' : PreparedActionRecord} {expiry : Option ℤ} {made : Option PreparedActionRecord}
  {before after : Database} {expiresAt : ℤ} {repository : Repository} {call : RepositoryCall}

theorem RowChange.lifecycleKept
    (h : RowChange row row') : LifecycleKept row row' where
  state := h.state
  terminal := h.terminal
  marker _ hmarker := h.marker hmarker

theorem JournalStep.rowChanges (h : JournalStep expiry made before after) :
    Table.Follows PreparedActionRecord.key (fun row row' => row' = row ∨ RowChange row row')
      (fun row => made = some row ∧ StoredRecord row ∧ row.state = .prepared)
      before.actionJournal after.actionJournal := by
  cases h with
  | kept journal =>
    rw [journal]
    refine Table.Follows.refl ?_ _
    exact fun _ => .inl rfl
  | changed change _ rewrite =>
    exact rewrite.rewrites.follows (fun _ => .inl rfl) before.uniqueIds
      after.uniqueIds (.inr change)
  | leaseWritten change _ _ _ rewrite =>
    exact rewrite.rewrites.follows (fun _ => .inl rfl) before.uniqueIds
      after.uniqueIds (.inr change)
  | recovered follows =>
    exact follows.mono (fun _ _ _ hstep => hstep.change.imp_right And.left)
      (fun _ _ h => h.elim)
  | @reserved binding input record allocation scope hmade reservation =>
    rw [reservation.journal]
    have hprepared : record.state = .prepared := by
      rw [reservation.row]
      rfl
    refine Table.follows_append ?_ _ ?_
    · exact fun _ => .inl rfl
    · exact ⟨hmade, reservation.stored, hprepared⟩

theorem lifecyclesKept_perform (viem : Viem) (repository : Repository) (call : RepositoryCall) :
    LifecyclesKept repository.database (perform viem repository call).database := by
  intro row hrow
  rcases perform_step viem repository call with hsame | hstep
  · rw [hsame]
    exact ⟨row, hrow, rfl, .refl row⟩
  · obtain ⟨row', hrow', hkey, hchange⟩ := hstep.rowChanges.forward row hrow
    refine ⟨row', hrow', hkey, ?_⟩
    rcases hchange with rfl | hchange
    · exact .refl _
    · exact hchange.lifecycleKept

def AllStored (database : Database) : Prop :=
  ∀ row ∈ database.actionJournal, StoredRecord row

theorem AllStored.rewrite (h : AllStored before) (hrewrite : JournalRewrite before after row row')
    (hstored : StoredRecord row → StoredRecord row') : AllStored after := by
  intro other hother
  by_cases hsame : other.journalId = row.journalId
  · obtain rfl := after.uniqueIds.eq_of_mem hother hrewrite.rewrites.mem_after
      (hsame.trans hrewrite.rewrites.key_eq.symm)
    exact hstored (h row hrewrite.rewrites.mem)
  · exact h other ((hrewrite.rewrites.others other hsame).mp hother)

theorem AllStored.step (h : AllStored before) (hstep : JournalStep expiry made before after)
    (hsafe : ∀ expiresAt ∈ expiry, isSafeInteger expiresAt) : AllStored after := by
  cases hstep with
  | kept journal =>
    unfold AllStored
    rw [journal]
    exact h
  | changed _ stored rewrite => exact h.rewrite rewrite stored
  | leaseWritten _ written _ stored rewrite =>
    exact h.rewrite rewrite fun hrow => stored hrow (hsafe _ written)
  | recovered follows =>
    refine follows.all (fun _ h => h.elim) ?_ h
    intro row row' hrow hrecovered
    rcases hrecovered.change with rfl | ⟨-, hstored⟩
    · exact hrow
    · exact hstored
  | reserved _ reservation =>
    intro row hrow
    rw [reservation.journal, List.mem_append, List.mem_singleton] at hrow
    rcases hrow with hold | rfl
    · exact h row hold
    · exact reservation.stored

theorem isSafeInteger_expiry {now : ℤ} {leaseDurationMs : Option ℤ} (hnow : 0 ≤ now)
    (hduration : leaseDuration leaseDurationMs = .ok (leaseDurationMs.getD 30000)) :
    isSafeInteger (addNumber now (leaseDurationMs.getD 30000)) ↔
      ¬ maxSafeInteger < now + leaseDurationMs.getD 30000 := by
  obtain ⟨-, -, hleast, -⟩ := leaseDuration_eq_ok hduration
  rw [isSafeInteger_addNumber, isSafeInteger_iff]
  unfold maxSafeInteger
  constructor
  · rintro ⟨-, hle⟩
    omega
  · intro hle
    constructor <;> omega

theorem overflows_of_not_safe (viem : Viem) (repository : Repository) (call : RepositoryCall)
    (hexpiry : call.leaseExpiry = some expiresAt) (hlarge : ¬ isSafeInteger expiresAt) :
    (perform viem repository call).database = repository.database ∨
      call.overflows repository.database := by
  -- the statement of the call is the effect, or it selected no row
  suffices h : (perform viem repository call).database = repository.database ∨
      ((perform viem repository call).database = repository.database ∨
        call.overflows repository.database) by
    exact h.elim .inl id
  cases call with
  | claimReconciliationLease fault journalId owner now leaseDurationMs =>
    cases hexpiry
    refine Effect.check_bind (r := fun before after => after = before ∨
      RepositoryCall.overflows before
        (.claimReconciliationLease fault journalId owner now leaseDurationMs))
      (fun _ howner => ?_) repository
    refine Effect.check_bind fun _ hnow => Effect.check_bind fun _ hduration => ?_
    cases fault with
    | some failure => exact Effect.immediate_fault
    | none =>
      refine Effect.immediate fun a before after h => ?_
      have hnow := assertTime_eq_ok.mp hnow
      rw [(leaseDuration_eq_ok hduration).1] at hduration
      rw [isSafeInteger_expiry hnow.2 hduration, not_not] at hlarge
      cases a with
      | none => exact .inl (claimStatement_none h)
      | some lease =>
        obtain ⟨-, row, hid, hstate, hfree, hrewrite⟩ := claimStatement_some h
        exact .inr ⟨rfl, assertLeaseOwner_eq_ok.mp howner, hnow, hduration,
          ⟨row, hrewrite.rewrites.mem, hid, hstate, hfree⟩, hlarge⟩
  | renewReconciliationLease fault lease now leaseDurationMs =>
    cases hexpiry
    refine Effect.check_bind (r := fun before after => after = before ∨
      RepositoryCall.overflows before (.renewReconciliationLease fault lease now leaseDurationMs))
      (fun _ howner => ?_) repository
    refine Effect.check_bind fun _ hnow => Effect.check_bind fun _ hduration => ?_
    cases fault with
    | some failure => exact Effect.immediate_fault
    | none =>
      refine Effect.immediate fun a before after h => ?_
      have hnow := assertTime_eq_ok.mp hnow
      rw [(leaseDuration_eq_ok hduration).1] at hduration
      rw [isSafeInteger_expiry hnow.2 hduration, not_not] at hlarge
      cases a with
      | none => exact .inl (renewStatement_none h)
      | some renewed =>
        obtain ⟨-, row, hholds, hlive, hrewrite⟩ := renewStatement_some h
        exact .inr ⟨rfl, assertLeaseOwner_eq_ok.mp howner, hnow, hduration,
          ⟨row, hrewrite.rewrites.mem, hholds, hlive⟩, hlarge⟩
  | _ => cases hexpiry

theorem AllStored.perform (viem : Viem) (h : AllStored repository.database)
    (hcall : ¬ call.overflows repository.database) :
    AllStored (perform viem repository call).database := by
  rcases perform_step viem repository call with hsame | hstep
  · rw [hsame]
    exact h
  · by_cases hsame :
        (HyperTrader.perform viem repository call).database = repository.database
    · rw [hsame]
      exact h
    · refine h.step hstep fun expiresAt hexpiry => ?_
      by_contra hlarge
      rcases overflows_of_not_safe viem repository call hexpiry hlarge with
        hsame' | hover
      · exact hsame hsame'
      · exact hcall hover

theorem not_storedRecord_of_not_safe {owner : String} (howner : row.leaseOwner = some owner)
    (hexpires : row.leaseExpiresAt = some expiresAt)
    (hlarge : ¬ isSafeInteger expiresAt) : ¬ StoredRecord row := by
  intro h
  have hlease := (h.lease.2 owner howner).2.1
  rw [hexpires] at hlease
  exact hlarge hlease.1

theorem not_allStored_of_overflows (viem : Viem) (h : call.overflows repository.database) :
    ¬ AllStored (perform viem repository call).database := by
  intro hstored
  cases call with
  | claimReconciliationLease fault journalId owner now leaseDurationMs =>
    obtain ⟨rfl, howner, hnow, hduration, ⟨row, hrow, hid, hstate, hfree⟩, hover⟩ := h
    obtain ⟨after, hclaim, hrewrite⟩ := claimStatement_succeeds owner
      (addNumber now (leaseDurationMs.getD 30000)) hrow hid hstate hfree
    have hafter : (HyperTrader.perform viem repository
        (.claimReconciliationLease none journalId owner now leaseDurationMs)).database = after := by
      simp [HyperTrader.perform, claimReconciliationLease, Action.bind_apply,
        require_of, assertLeaseOwner, assertTime, howner, hnow, hduration,
        immediate, Transaction.atomically, hclaim]
    rw [hafter] at hstored
    refine not_storedRecord_of_not_safe rfl rfl ?_
      (hstored _ hrewrite.rewrites.mem_after)
    rw [isSafeInteger_expiry hnow.2 hduration, not_not]
    exact hover
  | renewReconciliationLease fault lease now leaseDurationMs =>
    obtain ⟨rfl, howner, hnow, hduration, ⟨row, hrow, hholds, hlive⟩, hover⟩ := h
    obtain ⟨after, hrenew, hrewrite⟩ := renewStatement_succeeds
      (addNumber now (leaseDurationMs.getD 30000)) hrow hholds hlive
    have hafter : (HyperTrader.perform viem repository
        (.renewReconciliationLease none lease now leaseDurationMs)).database =
          after := by
      simp [HyperTrader.perform, renewReconciliationLease, Action.bind_apply,
        require_of, assertLeaseOwner, assertTime, howner, hnow, hduration,
        immediate, Transaction.atomically, hrenew]
    have hheld := (PreparedActionRecord.of_holds hholds).2.1
    rw [hafter] at hstored
    have hheld' : (row.renewed (addNumber now (leaseDurationMs.getD 30000))
        now).leaseOwner = some lease.owner := hheld
    refine not_storedRecord_of_not_safe hheld' rfl ?_
      (hstored _ hrewrite.rewrites.mem_after)
    rw [isSafeInteger_expiry hnow.2 hduration, not_not]
    exact hover
  | _ => exact h.elim

theorem lawful_iff_allStored (hlifecycles : LifecyclesKept before after) :
    LawfulStep before after ↔ AllStored after := by
  constructor
  · intro h row hrow
    obtain ⟨found, hfound⟩ := h.readable row.journalId
    cases found with
    | none => exact absurd rfl (Database.getAction_eq_none.mp hfound row hrow)
    | some record =>
      obtain ⟨hmem, hid, hstored⟩ := Database.getAction_eq_some.mp hfound
      obtain rfl := after.uniqueIds.eq_of_mem hmem hrow hid
      exact hstored
  · intro h
    refine ⟨hlifecycles, fun row hrow => ?_, Database.getAction_ok h⟩
    obtain ⟨text, htext⟩ := (h row hrow).captured.intent
    exact (assertStoredRecord_eq_ok htext).mpr (h row hrow)

theorem journal_lawful_from (viem : Viem) (repository : Repository)
    (calls : List RepositoryCall) (h : AllStored repository.database) :
    Along (perform viem) (fun before call =>
        LawfulStep before.database (perform viem before call).database)
      repository calls ↔
    Along (perform viem) (fun before call => ¬ call.overflows before.database)
      repository calls := by
  induction calls generalizing repository with
  | nil => simp
  | cons call calls ih =>
    rw [along_cons, along_cons, lawful_iff_allStored (lifecyclesKept_perform viem repository call)]
    by_cases hover : call.overflows repository.database
    · have hbroken := not_allStored_of_overflows viem hover
      simp [hover, hbroken]
    · have hstored := h.perform viem hover
      simp [hover, hstored, ih _ hstored]

/-- **The journal is lawful exactly while no lease expiry overflows.** In every
run of repository calls from a new installation, each call keeps the lifecycles
and leaves a journal whose rows all pass `assertStoredRecord` and read back, if
and only if no claim or renewal of the run writes a row at a time `now` with
`now + duration` above the largest safe integer. Lifecycles are kept in any
case. -/
theorem journal_lawful_iff (viem : Viem) (calls : List RepositoryCall) :
    (Along (perform viem) (fun before call =>
        LawfulStep before.database (perform viem before call).database) .initial calls ↔
    Along (perform viem) (fun before call => ¬ call.overflows before.database) .initial calls) ∧
    Along (perform viem) (fun before call =>
        LifecyclesKept before.database (perform viem before call).database) .initial calls := by
  constructor
  · refine journal_lawful_from viem .initial calls ?_
    intro row hrow
    simp [Repository.initial, Database.empty] at hrow
  · exact along_of_forall (lifecyclesKept_perform viem) _ _

/-- The functions of `viem` on the addresses and texts of the sample runs: an
address without letters is its own checksum, and the hash is the one of the
sample agent's retirement text. -/
def sampleViem : Viem where
  getAddress address :=
    if addressPattern.test address then some address else none
  keccak256 text :=
    if text = "hyper-trader-retired-agent/v1\x00" ++
        "0x3333333333333333333333333333333333333333" then
      "0xa35288bc729449e0303282ea8a902329897f5fb0c04db32e1a9af27f39625f9c"
    else emptyRetirementChainRoot
  keccak256Bytes _ := emptyRetirementChainRoot

theorem sampleViem_checksums : sampleViem.Checksums where
  getAddress_pattern address checksummed h := by
    simp only [sampleViem, Option.ite_none_right_eq_some, Option.some.injEq] at h
    exact h.2 ▸ h.1
  getAddress_case address checksummed h := by
    simp only [sampleViem, Option.ite_none_right_eq_some, Option.some.injEq] at h
    rw [h.2]

def sampleBinding : SignerBinding where
  network := .testnet
  masterAccount := "0x1111111111111111111111111111111111111111"
  targetAccount := "0x1111111111111111111111111111111111111111"
  agentAddress := "0x3333333333333333333333333333333333333333"
  generation := 1

def sampleClock (wallTimeMs : ℤ) : ClockGateInput where
  wallTimeMs := wallTimeMs
  monotonicTimeMs := 500
  serverTimeMs := wallTimeMs
  serverSampledAtMonotonicMs := 500
  lastObservedWallMs := none

def sampleAction : PreparedAction where
  journalId := "jrnl_00000000000000000000000000000001"
  correlationId := "act_00000000000000000000000000000001"
  actionType := .updateLeverage
  intentVersion := 1
  normalizedSecretFreeIntent := .object
    [("type", .string "update_leverage"), ("assetId", .number 0),
      ("leverage", .number 5), ("marginMode", .string "cross")]
  intentDigest :=
    "0x5847480f29115e8acf60b4f4ac9e67c579e35bcbde4faa6eb37d928f314eb537"
  equivalenceFingerprint :=
    "0x5847480f29115e8acf60b4f4ac9e67c579e35bcbde4faa6eb37d928f314eb537"
  cloid := none
  assetId := some 0
  targetOid := none
  reconciliationKey := "leverage:0:cross:5"

def sampleReservation : AtomicActionReservationInput where
  binding := sampleBinding
  capturedContextEpoch := 0
  clock := sampleClock 1000
  preparedAction := sampleAction

/-- A record is reserved and its submission started; then a reconciler claims it
at the largest time the methods accept. -/
def overflowingCalls : List RepositoryCall :=
  [.registerActiveSignerScope none ⟨sampleBinding, 1000⟩,
    .reservePreparedAction (fun _ _ => .ok ()) none sampleReservation,
    .markSubmissionStarted none sampleAction.journalId 1001,
    .claimReconciliationLease none sampleAction.journalId "reconciler" maxSafeInteger none]

theorem getAction_throws_after_claim :
    ((run (perform sampleViem) .initial overflowingCalls).database.getAction
        sampleAction.journalId).map (fun _ => ()) =
      .error (.typeError "leaseExpiresAt must be a non-negative safe integer.") := by
  decide

/-- A claim at the largest time writes a lease expiry that no read accepts. -/
theorem journal_not_lawful :
    ¬ Along (perform sampleViem) (fun before call =>
        LawfulStep before.database (perform sampleViem before call).database)
      .initial overflowingCalls := by
  rintro ⟨-, -, -, hclaim, -⟩
  obtain ⟨found, hfound⟩ := hclaim.readable sampleAction.journalId
  have hthrows := getAction_throws_after_claim
  simp only [overflowingCalls, run_cons, run_nil] at hthrows
  rw [hfound] at hthrows
  simp [Except.map] at hthrows

end HyperTrader
