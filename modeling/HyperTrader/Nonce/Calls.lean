import HyperTrader.Library.Machine
import HyperTrader.Nonce.Statements

/-!
# Runs of repository calls

A `RepositoryCall` is one call of a repository method with its arguments, the
failure the store raises during it, if any, or the end of the process. Whatever
the call, `perform_step` says what it did to the database: nothing to the
journal, one `RowChange`, the restart recovery, or one reservation.
-/

namespace HyperTrader

open Library

inductive RepositoryCall where
  | registerActiveSignerScope (fault : Option Failure)
      (input : SignerScopeRegistration)
  | reservePreparedAction (authority : ContextEpochAuthority)
      (fault : Option Failure) (input : AtomicActionReservationInput)
  | markSignerRetiring (fault : Option Failure) (binding : SignerBinding) (now : ℤ)
  | retireSignerScope (fault : Option Failure) (binding : SignerBinding)
      (input : RetiredSignerTombstoneInput)
  | markSubmissionStarted (fault : Option Failure) (journalId : String) (now : ℤ)
  | transitionAction (fault : Option Failure) (journalId : String)
      (next : JournalState) (resultClass : Option JournalResultClass) (now : ℤ)
  | claimReconciliationLease (fault : Option Failure) (journalId owner : String)
      (now : ℤ) (leaseDurationMs : Option ℤ)
  | claimNextReconciliation (fault : Option Failure) (owner : String) (now : ℤ)
      (leaseDurationMs : Option ℤ)
  | renewReconciliationLease (fault : Option Failure)
      (lease : ReconciliationLease) (now : ℤ) (leaseDurationMs : Option ℤ)
  | releaseReconciliationLease (fault : Option Failure)
      (lease : ReconciliationLease) (now : ℤ)
  | scheduleReconciliation (fault : Option Failure) (journalId owner : String)
      (now nextAttemptAt : ℤ)
  | recoverAfterRestart (fault : Option Failure) (now : ℤ)
  | restart

/-- A new process: the database is what it was, the reservations are gone. -/
def Repository.restart (repository : Repository) : Repository :=
  { repository with preparedInThisProcess := fun _ => none }

def perform (viem : Viem) (repository : Repository) : RepositoryCall → Repository
  | .registerActiveSignerScope fault input =>
    (registerActiveSignerScope viem fault input repository).2
  | .reservePreparedAction authority fault input =>
    (reservePreparedAction viem authority fault input repository).2
  | .markSignerRetiring fault binding now =>
    (markSignerRetiring viem fault binding now repository).2
  | .retireSignerScope fault binding input =>
    (retireSignerScope viem fault binding input repository).2
  | .markSubmissionStarted fault journalId now =>
    (markSubmissionStarted fault journalId now repository).2
  | .transitionAction fault journalId next resultClass now =>
    (transitionAction fault journalId next resultClass now repository).2
  | .claimReconciliationLease fault journalId owner now leaseDurationMs =>
    (claimReconciliationLease fault journalId owner now leaseDurationMs repository).2
  | .claimNextReconciliation fault owner now leaseDurationMs =>
    (claimNextReconciliation fault owner now leaseDurationMs repository).2
  | .renewReconciliationLease fault lease now leaseDurationMs =>
    (renewReconciliationLease fault lease now leaseDurationMs repository).2
  | .releaseReconciliationLease fault lease now =>
    (releaseReconciliationLease fault lease now repository).2
  | .scheduleReconciliation fault journalId owner now nextAttemptAt =>
    (scheduleReconciliation fault journalId owner now nextAttemptAt repository).2
  | .recoverAfterRestart fault now => (recoverAfterRestart fault now repository).2
  | .restart => repository.restart

def Repository.initial : Repository where
  database := .empty
  preparedInThisProcess := fun _ => none

variable {fault : Option Failure} {viem : Viem} {authority : ContextEpochAuthority}
  {input : AtomicActionReservationInput} {repository after : Repository}
  {row : PreparedActionRecord} {now expiresAt : ℤ}

theorem immediate_eq_ok {α : Type} {operation : Statement α} {s s' : Repository} {a : α} :
    immediate fault operation s = (.ok a, s') ↔
      fault = none ∧ ∃ database, operation s.database = .ok (a, database) ∧
        s' = { s with database := database } := by
  unfold immediate
  cases hrun : Transaction.atomically fault operation s.database with
  | mk result database =>
    simp only [Prod.mk.injEq]
    constructor
    · rintro ⟨rfl, rfl⟩
      obtain ⟨hfault, hop⟩ := Transaction.atomically_eq_ok.mp hrun
      exact ⟨hfault, database, hop, rfl⟩
    · rintro ⟨rfl, database', hop, rfl⟩
      rw [Transaction.atomically_eq_ok.mpr ⟨rfl, hop⟩] at hrun
      obtain ⟨rfl, rfl⟩ := Prod.mk.inj hrun
      exact ⟨rfl, rfl⟩

/-- Whatever the outcome of the method, it left the database as it was or
changed it along `r`. -/
def Effect {α : Type} (r : Database → Database → Prop) (m : Method α) : Prop :=
  ∀ s, (m s).2.database = s.database ∨ r s.database (m s).2.database

namespace Effect

variable {α β : Type} {r : Database → Database → Prop} {f : α → Method β} {fault : Option Failure}
  {operation : Statement α}

theorem check_bind {result : Outcome α} (h : ∀ a, result = .ok a → Effect r (f a)) :
    Effect r (Action.check result >>= f) := by
  intro s
  rw [Action.bind_apply]
  cases hresult : result with
  | error e => exact .inl rfl
  | ok a => exact h a hresult s

theorem get_bind {f : Repository → Method β} (h : ∀ s, Effect r (f s)) :
    Effect r (Action.get >>= f) :=
  fun s => h s s

theorem modify_bind {g : Repository → Repository} {f : Unit → Method β}
    (hg : ∀ s, (g s).database = s.database) (h : Effect r (f ())) :
    Effect r (Action.modify g >>= f) := by
  intro s
  have hs := h (g s)
  rw [hg] at hs
  exact hs

theorem immediate (h : ∀ a before after, operation before = .ok (a, after) → r before after) :
    Effect r (HyperTrader.immediate fault operation) := by
  intro s
  rcases Transaction.atomically_cases fault operation s.database with
    hsame | ⟨a, after, hop, hrun⟩
  · exact .inl hsame
  · right
    have hafter : (HyperTrader.immediate fault operation s).2.database = after := by
      simp [HyperTrader.immediate, hrun]
    rw [hafter]
    exact h a _ _ hop

theorem immediate_fault {failure : Failure} :
    Effect r (HyperTrader.immediate (some failure) operation) :=
  fun _ => .inl rfl

theorem immediate_bind (h : ∀ a before after, operation before = .ok (a, after) → r before after)
    (hf : ∀ a s, (f a s).2.database = s.database) :
    Effect r (HyperTrader.immediate fault operation >>= f) := by
  intro s
  have hs : (HyperTrader.immediate fault operation s).2.database = s.database ∨
      r s.database (HyperTrader.immediate fault operation s).2.database :=
    Effect.immediate h s
  rw [Action.bind_apply]
  cases hrun : HyperTrader.immediate fault operation s with
  | mk result t =>
    rw [hrun] at hs
    cases result with
    | error e => exact hs
    | ok a =>
      simp only [hf]
      exact hs

end Effect

def FailsClean {α : Type} (m : Method α) : Prop :=
  ∀ s s' failure, m s = (.error failure, s') → s' = s

namespace FailsClean

variable {α β : Type} {f : α → Method β}

theorem check_bind {result : Outcome α}
    (h : ∀ a, FailsClean (f a)) : FailsClean (Action.check result >>= f) := by
  intro s s' failure hrun
  cases hresult : result with
  | error e =>
    rw [hresult, Action.bind_apply] at hrun
    exact (Prod.mk.inj hrun).2.symm
  | ok a =>
    rw [hresult] at hrun
    exact h a s s' failure hrun

theorem immediate (fault : Option Failure) (operation : Statement α) :
    FailsClean (HyperTrader.immediate fault operation) := by
  intro s s' failure h
  unfold HyperTrader.immediate at h
  cases hrun : Transaction.atomically fault operation s.database with
  | mk result database =>
    simp only [hrun, Prod.mk.injEq] at h
    obtain ⟨rfl, rfl⟩ := h
    rw [Transaction.atomically_error hrun]

theorem bind {m : Method α} (h : FailsClean m)
    (hf : ∀ a s failure s', f a s ≠ (.error failure, s')) : FailsClean (m >>= f) := by
  intro s s' failure hrun
  rcases Action.bind_eq_error.mp hrun with herror | ⟨a, t, -, hrest⟩
  · exact h s s' failure herror
  · exact absurd hrest (hf a t failure s')

end FailsClean

def committedReservation (viem : Viem) (repository : Repository) :
    RepositoryCall → Option PreparedActionRecord
  | .reservePreparedAction authority fault input =>
    (reservePreparedAction viem authority fault input repository).1.toOption
  | _ => none

/-- A reservation that is answered has written its record and its nonce together. -/
theorem reservePreparedAction_ok {record : PreparedActionRecord}
    (h : reservePreparedAction viem authority fault input repository = (.ok record, after)) :
    ∃ binding allocation scope,
      normalizeSignerBinding viem input.binding = .ok binding ∧
      Reserved binding input repository.database after.database record allocation scope := by
  unfold reservePreparedAction at h
  simp only [Action.bind_eq_ok, Action.check_apply, Action.modify_apply,
    Action.pure_apply, Prod.mk.injEq] at h
  obtain ⟨binding, _, ⟨hbinding, rfl⟩, _, _, ⟨-, rfl⟩, _, _, ⟨-, rfl⟩, _, _,
    ⟨-, rfl⟩, _, _, ⟨-, rfl⟩, made, mid, himmediate, _, _, ⟨-, rfl⟩, hmade, rfl⟩ := h
  cases hmade
  obtain ⟨-, database, hrun, rfl⟩ := immediate_eq_ok.mp himmediate
  obtain ⟨allocation, scope, hreserved⟩ := reserveStatement_spec hrun
  exact ⟨binding, allocation, scope, hbinding, hreserved⟩

theorem reservePreparedAction_error {failure : Failure}
    (h : reservePreparedAction viem authority fault input repository =
      (.error failure, after)) : after = repository := by
  have hclean : FailsClean (reservePreparedAction viem authority fault input) := by
    unfold reservePreparedAction
    refine .check_bind fun _ => .check_bind fun _ => .check_bind fun _ => ?_
    refine .check_bind fun _ => .check_bind fun _ => .bind (.immediate _ _) ?_
    intro record s failure s' hrun
    simp [Action.bind_apply] at hrun
  exact hclean repository after failure h

def RepositoryCall.leaseExpiry : RepositoryCall → Option ℤ
  | .claimReconciliationLease _ _ _ now leaseDurationMs =>
    some (addNumber now (leaseDurationMs.getD 30000))
  | .renewReconciliationLease _ _ now leaseDurationMs =>
    some (addNumber now (leaseDurationMs.getD 30000))
  | _ => none

/-- What a call did to the database. `expiry` is the lease expiry the call
writes without reading the row back, if it is such a call, and `made` the
reservation it committed, if it did. -/
inductive JournalStep (expiry : Option ℤ) (made : Option PreparedActionRecord)
    (before after : Database) : Prop
  | kept (journal : after.actionJournal = before.actionJournal)
      (scopes : ScopesKept before after)
  | changed {row row' : PreparedActionRecord} (change : RowChange row row')
      (stored : StoredRecord row → StoredRecord row')
      (rewrite : JournalRewrite before after row row')
  | leaseWritten {row row' : PreparedActionRecord} {expiresAt : ℤ}
      (change : RowChange row row') (written : expiry = some expiresAt)
      (lease : row'.leaseExpiresAt = some expiresAt)
      (stored : StoredRecord row → isSafeInteger expiresAt → StoredRecord row')
      (rewrite : JournalRewrite before after row row')
  | recovered (follows : Table.Follows PreparedActionRecord.key Recovered
        (fun _ => False) before.actionJournal after.actionJournal)
      (scopes : after.signerScopes = before.signerScopes)
  | reserved {binding : SignerBinding} {input : AtomicActionReservationInput}
      {record : PreparedActionRecord} {allocation : NonceAllocation}
      {scope : SignerScopeRow} (committed : made = some record)
      (reservation : Reserved binding input before after record allocation scope)

theorem leaseDuration_eq_ok {value : Option ℤ} {duration : ℤ}
    (h : leaseDuration value = .ok duration) :
    duration = value.getD 30000 ∧ isSafeInteger duration ∧ 1000 ≤ duration ∧
      duration ≤ 60000 := by
  unfold leaseDuration at h
  simp only [except_bind_eq_ok, require_eq_ok, pure, Except.pure, Except.ok.injEq] at h
  obtain ⟨_, hbounds, rfl⟩ := h
  exact ⟨rfl, hbounds⟩

theorem StoredRecord.withLease (h : StoredRecord row) {owner : Option String} {expiresAt : Option ℤ}
    (hnow : isSafeInteger now ∧ 0 ≤ now)
    (hlease : LeaseColumns { row with
      leaseOwner := owner, leaseExpiresAt := expiresAt, updatedAt := now }) :
    StoredRecord { row with
      leaseOwner := owner, leaseExpiresAt := expiresAt, updatedAt := now } where
  captured := h.captured
  numbers := by
    have hnumbers := h.numbers
    simp only [PreparedActionRecord.numbers, List.forall_mem_cons]
      at hnumbers ⊢
    obtain ⟨h1, h2, h3, h4, h5, h6, h7, h8, -, h10⟩ := hnumbers
    exact ⟨h1, h2, h3, h4, h5, h6, h7, h8, hnow, h10⟩
  resultClass := h.resultClass
  marker := h.marker
  lease := hlease

theorem StoredRecord.leased (h : StoredRecord row)
    {owner : String} (hstate : row.state.reconcilable = true)
    (howner : leaseOwnerPattern.test owner = true)
    (hnow : isSafeInteger now ∧ 0 ≤ now) (hpast : 0 ≤ expiresAt) (hsafe : isSafeInteger expiresAt) :
    StoredRecord (row.leased owner expiresAt now) := by
  refine h.withLease hnow ⟨rfl, ?_⟩
  rintro _ ⟨⟩
  exact ⟨howner, ⟨hsafe, hpast⟩, hstate⟩

theorem StoredRecord.renewed (h : StoredRecord row) {lease : ReconciliationLease}
    (hholds : row.holds lease = true) (hnow : isSafeInteger now ∧ 0 ≤ now)
    (hpast : 0 ≤ expiresAt) (hsafe : isSafeInteger expiresAt) :
    StoredRecord (row.renewed expiresAt now) := by
  have howner := (PreparedActionRecord.of_holds hholds).2.1
  refine h.withLease hnow ⟨by simp [howner], ?_⟩
  intro owner howner'
  have hold := h.lease.2 owner howner'
  exact ⟨hold.1, ⟨hsafe, hpast⟩, hold.2.2⟩

theorem StoredRecord.released (h : StoredRecord row) (hnow : isSafeInteger now ∧ 0 ≤ now) :
    StoredRecord (row.released now) :=
  h.withLease hnow ⟨rfl, by rintro _ ⟨⟩⟩

/-- A repository call that commits anything is one lawful step of the journal. -/
theorem perform_step (viem : Viem) (repository : Repository) (call : RepositoryCall) :
    (perform viem repository call).database = repository.database ∨
      JournalStep call.leaseExpiry (committedReservation viem repository call)
        repository.database (perform viem repository call).database := by
  cases call with
  | registerActiveSignerScope fault input =>
    refine Effect.check_bind (fun binding _ => ?_) repository
    refine Effect.check_bind fun _ _ => Effect.check_bind fun _ _ => ?_
    refine Effect.immediate fun a before after h => ?_
    obtain ⟨hscopes, hjournal⟩ := registerStatement_spec h
    exact .kept hjournal hscopes
  | reservePreparedAction authority fault input =>
    cases hrun : reservePreparedAction viem authority fault input repository with
    | mk result after =>
      simp only [perform, committedReservation, hrun]
      cases result with
      | error failure =>
        rw [reservePreparedAction_error hrun]
        exact .inl rfl
      | ok record =>
        obtain ⟨binding, allocation, scope, -, hreserved⟩ :=
          reservePreparedAction_ok hrun
        exact .inr (.reserved rfl hreserved)
  | markSignerRetiring fault binding now =>
    refine Effect.check_bind (fun binding _ => ?_) repository
    refine Effect.check_bind fun _ _ => ?_
    refine Effect.immediate fun a before after h => ?_
    obtain ⟨hscopes, hjournal⟩ := markRetiringStatement_spec h
    exact .kept hjournal hscopes
  | retireSignerScope fault binding input =>
    refine Effect.check_bind (fun binding _ => ?_) repository
    refine Effect.immediate fun a before after h => ?_
    obtain ⟨hscopes, hjournal⟩ := retireStatement_spec h
    exact .kept hjournal hscopes
  | markSubmissionStarted fault journalId now =>
    refine Effect.check_bind (fun _ _ => ?_) repository
    refine Effect.get_bind fun s => Effect.check_bind fun expiry _ => ?_
    refine Effect.modify_bind (fun s => ?_) ?_
    · split <;> rfl
    · refine Effect.immediate_bind (fun a before after h => ?_) fun _ _ => rfl
      obtain ⟨row, -, -, hmay, rfl, hstored, hrewrite⟩ := markStatement_spec h
      exact .changed (.mark hmay) (fun _ => hstored) hrewrite
  | transitionAction fault journalId next resultClass now =>
    refine Effect.check_bind (fun _ _ => ?_) repository
    refine Effect.immediate_bind (fun a before after h => ?_) fun _ _ => rfl
    obtain ⟨row, -, -, hallowed, rfl, rfl, hstored, hrewrite⟩ :=
      transitionStatement_spec h
    exact .changed (.transition hallowed) (fun _ => hstored) hrewrite
  | claimReconciliationLease fault journalId owner now leaseDurationMs =>
    refine Effect.check_bind (fun _ howner => ?_) repository
    refine Effect.check_bind fun _ hnow => Effect.check_bind fun _ hduration => ?_
    refine Effect.immediate fun a before after h => ?_
    obtain ⟨rfl, -, hleast, -⟩ := leaseDuration_eq_ok hduration
    have hnow := assertTime_eq_ok.mp hnow
    cases a with
    | none =>
      rw [claimStatement_none h]
      exact .kept rfl (ScopesKept.of_eq rfl)
    | some lease =>
      obtain ⟨-, row, -, hstate, hfree, hrewrite⟩ := claimStatement_some h
      refine .leaseWritten (.claim hstate hfree) rfl rfl ?_ hrewrite
      intro hstored hsafe
      exact hstored.leased hstate (assertLeaseOwner_eq_ok.mp howner) hnow
        (addNumber_nonneg hnow.2 (by omega)) hsafe
  | claimNextReconciliation fault owner now leaseDurationMs =>
    refine Effect.check_bind (fun _ _ => ?_) repository
    refine Effect.check_bind fun _ _ => Effect.check_bind fun _ _ => ?_
    refine Effect.immediate fun a before after h => ?_
    cases a with
    | none =>
      rw [claimNextStatement_none h]
      exact .kept rfl (ScopesKept.of_eq rfl)
    | some claimed =>
      obtain ⟨record, lease⟩ := claimed
      obtain ⟨-, hstored, row, hstate, hfree, rfl, hrewrite⟩ :=
        claimNextStatement_some h
      exact .changed (.claim hstate hfree) (fun _ => hstored) hrewrite
  | renewReconciliationLease fault lease now leaseDurationMs =>
    refine Effect.check_bind (fun _ _ => ?_) repository
    refine Effect.check_bind fun _ hnow => Effect.check_bind fun _ hduration => ?_
    refine Effect.immediate fun a before after h => ?_
    obtain ⟨rfl, -, hleast, -⟩ := leaseDuration_eq_ok hduration
    have hnow := assertTime_eq_ok.mp hnow
    cases a with
    | none =>
      rw [renewStatement_none h]
      exact .kept rfl (ScopesKept.of_eq rfl)
    | some renewed =>
      obtain ⟨-, row, hholds, hlive, hrewrite⟩ := renewStatement_some h
      refine .leaseWritten (.renew hholds hlive) rfl rfl ?_ hrewrite
      intro hstored hsafe
      exact hstored.renewed hholds hnow
        (addNumber_nonneg hnow.2 (by omega)) hsafe
  | releaseReconciliationLease fault lease now =>
    refine Effect.check_bind (fun _ _ => ?_) repository
    refine Effect.check_bind fun _ hnow => ?_
    refine Effect.immediate fun a before after h => ?_
    have hnow := assertTime_eq_ok.mp hnow
    cases a with
    | false =>
      rw [releaseStatement_false h]
      exact .kept rfl (ScopesKept.of_eq rfl)
    | true =>
      obtain ⟨row, hholds, hrewrite⟩ := releaseStatement_true h
      exact .changed (.release hholds) (fun hstored => hstored.released hnow)
        hrewrite
  | scheduleReconciliation fault journalId owner now nextAttemptAt =>
    refine Effect.check_bind (fun _ _ => ?_) repository
    refine Effect.check_bind fun _ _ => Effect.check_bind fun _ _ => ?_
    refine Effect.check_bind fun _ _ => ?_
    refine Effect.immediate fun a before after h => ?_
    obtain ⟨row, -, hrow, hleased, rfl, hstored, hrewrite⟩ :=
      scheduleStatement_spec h
    have howner : row.leaseOwner = some owner := by
      simp [PreparedActionRecord.leasedBy] at hleased
      exact hleased.1
    exact .changed (.schedule hleased (hrow.reconcilable_of_lease howner))
      (fun _ => hstored) hrewrite
  | recoverAfterRestart fault now =>
    refine Effect.check_bind (fun _ _ => ?_) repository
    refine Effect.modify_bind (fun _ => rfl) ?_
    refine Effect.immediate fun a before after h => ?_
    obtain ⟨hfollows, hscopes⟩ := recoverStatement_spec h
    exact .recovered hfollows hscopes
  | restart => exact .inl rfl

end HyperTrader
