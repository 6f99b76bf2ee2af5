import HyperTrader.Reconciliation.Reconciler

/-!
# Reconcilers over one journal

Any number of reconcilers, with any owners, share a journal and a clock that
never goes back. A call is cut at its await, so between its claim and its
decision the clock may pass the expiry, other calls may claim, renew and settle,
the process may end, and the writers that touch no lease may run. What a call
has claimed is its handle; `claims` and `commits` list what was handed out and
what was written under it.

The invariant is that the handle of a run is on its row while it is live, so two
live handles of one record are of one run.
-/

namespace HyperTrader

open Library

structure ReconcilerRun where
  owner : String
  record : PreparedActionRecord
  lease : ReconciliationLease

/-- A decision a call wrote: the lease it had renewed, and the row as it was
right before the write. -/
structure ReconcilerCommit where
  run : ℕ
  decision : ReconciliationDecision
  renewed : ReconciliationLease
  row : Option PreparedActionRecord
  time : ℤ

structure Reconcilers where
  repository : Repository
  now : ℤ
  runs : ℕ → Option ReconcilerRun
  claims : List ReconciliationLease
  commits : List ReconcilerCommit

def RepositoryCall.leavesLeases : RepositoryCall → Bool
  | .registerActiveSignerScope _ _ => true
  | .reservePreparedAction _ _ _ => true
  | .markSignerRetiring _ _ _ => true
  | .retireSignerScope _ _ _ => true
  | .markSubmissionStarted _ _ _ => true
  | .recoverAfterRestart _ _ => true
  | .restart => true
  | .transitionAction _ _ _ _ _ => false
  | .claimReconciliationLease _ _ _ _ _ => false
  | .claimNextReconciliation _ _ _ _ => false
  | .renewReconciliationLease _ _ _ _ => false
  | .releaseReconciliationLease _ _ _ => false
  | .scheduleReconciliation _ _ _ _ _ => false

inductive ReconcilerEvent where
  | tick (elapsed : ℕ)
  | reconcile (faults : ReconcilerFaults) (owner journalId : String)
  | reconcileNext (faults : ReconcilerFaults) (owner : String)
  | resume (run : ℕ) (faults : ReconcilerFaults)
      (evidence : Outcome ReconciliationEvidence)
  | other (call : RepositoryCall)
  | crash

namespace Reconcilers

def initial (repository : Repository) (now : ℤ) : Reconcilers where
  repository := repository
  now := now
  runs := fun _ => none
  claims := []
  commits := []

def await (world : Reconcilers) (repository : Repository) (owner : String)
    (record : PreparedActionRecord) (lease : ReconciliationLease) : Reconcilers :=
  { world with
    repository := repository
    runs := Function.update world.runs world.claims.length
      (some ⟨owner, record, lease⟩)
    claims := world.claims ++ [lease] }

def commitOf (world : Reconcilers) (i : ℕ) (run : ReconcilerRun) (faults : ReconcilerFaults) :
    Outcome ActionReconcilerResult → List ReconcilerCommit
  | .ok (.decided decision) =>
    match renewReconciliationLease faults.renew run.lease world.now none
      world.repository with
    | (.ok (some renewed), mid) =>
      [{ run := i
         decision := decision
         renewed := renewed
         row := mid.database.actionJournal.find? fun row =>
           row.journalId == run.record.journalId
         time := world.now }]
    | _ => []
  | _ => []

def step (viem : Viem) (world : Reconcilers) : ReconcilerEvent → Reconcilers
  | .tick elapsed => { world with now := world.now + elapsed }
  | .reconcile faults owner journalId =>
    match HyperTrader.reconcile faults owner world.now journalId
      world.repository with
    | (.ok (.claimed record lease), repository) =>
      world.await repository owner record lease
    | (_, repository) => { world with repository := repository }
  | .reconcileNext faults owner =>
    match HyperTrader.reconcileNext faults owner world.now
      world.repository with
    | (.ok (some (.claimed record lease)), repository) =>
      world.await repository owner record lease
    | (_, repository) => { world with repository := repository }
  | .resume i faults evidence =>
    match world.runs i with
    | none => world
    | some run =>
      let (result, repository) := reconcileClaim viem faults run.owner
        world.now run.record run.lease evidence world.repository
      { world with
        repository := repository
        runs := Function.update world.runs i none
        commits := world.commits ++ world.commitOf i run faults result }
  | .other call =>
    if call.leavesLeases then
      { world with repository := perform viem world.repository call }
    else world
  | .crash =>
    { world with
      repository := world.repository.restart
      runs := fun _ => none }

end Reconcilers

/-! ### The writers that touch no lease -/

def LeasesKept (before after : Database) : Prop :=
  Table.Follows PreparedActionRecord.key
    (fun row row' => row'.leaseOwner = row.leaseOwner ∧ row'.leaseExpiresAt = row.leaseExpiresAt)
    (fun _ => True) before.actionJournal after.actionJournal

variable {before after : Database} {row row' : PreparedActionRecord}

theorem LeasesKept.of_eq (h : after.actionJournal = before.actionJournal) :
    LeasesKept before after := by
  unfold LeasesKept
  rw [h]
  apply Table.Follows.refl
  intro row
  exact ⟨rfl, rfl⟩

theorem LeasesKept.of_rewrite (h : JournalRewrite before after row row')
    (hlease : row'.leaseOwner = row.leaseOwner ∧
      row'.leaseExpiresAt = row.leaseExpiresAt) : LeasesKept before after :=
  h.rewrites.follows (fun _ => ⟨rfl, rfl⟩) before.uniqueIds after.uniqueIds hlease

theorem Recovered.lease (h : Recovered row row') : row'.leaseOwner = row.leaseOwner ∧
      row'.leaseExpiresAt = row.leaseExpiresAt := by
  rcases h with rfl | ⟨state, now, -, -, rfl, -⟩
  · exact ⟨rfl, rfl⟩
  · exact ⟨rfl, rfl⟩

theorem perform_leasesKept {viem : Viem} {repository : Repository}
    {call : RepositoryCall} (h : call.leavesLeases = true) :
    LeasesKept repository.database (perform viem repository call).database := by
  have hsame : ∀ {database : Database}, database = repository.database →
      LeasesKept repository.database database := by
    rintro _ rfl
    exact .of_eq rfl
  have heffect : ∀ {α : Type} {m : Method α}, Effect LeasesKept m →
      LeasesKept repository.database (m repository).2.database := by
    intro α m hm
    exact (hm repository).elim hsame id
  cases call with
  | registerActiveSignerScope fault input =>
    apply heffect
    refine .check_bind fun _ _ => .check_bind fun _ _ => .check_bind fun _ _ => ?_
    refine Effect.immediate fun a before after hrun => ?_
    exact .of_eq (registerStatement_spec hrun).2
  | reservePreparedAction authority fault input =>
    cases hrun : reservePreparedAction viem authority fault input repository with
    | mk result after =>
      simp only [perform, hrun]
      cases result with
      | error failure => exact hsame (by rw [reservePreparedAction_error hrun])
      | ok record =>
        obtain ⟨binding, allocation, scope, -, hreserved⟩ :=
          reservePreparedAction_ok hrun
        unfold LeasesKept
        rw [hreserved.journal]
        exact Table.follows_append (fun _ => ⟨rfl, rfl⟩) _ trivial
  | markSignerRetiring fault binding now =>
    apply heffect
    refine .check_bind fun _ _ => .check_bind fun _ _ => ?_
    refine Effect.immediate fun a before after hrun => ?_
    exact .of_eq (markRetiringStatement_spec hrun).2
  | retireSignerScope fault binding input =>
    apply heffect
    refine .check_bind fun _ _ => ?_
    refine Effect.immediate fun a before after hrun => ?_
    exact .of_eq (retireStatement_spec hrun).2
  | markSubmissionStarted fault journalId now =>
    apply heffect
    refine .check_bind fun _ _ => .get_bind fun s => .check_bind fun expiry _ => ?_
    refine Effect.modify_bind (fun s => ?_) ?_
    · split <;> rfl
    · refine Effect.immediate_bind (fun a before after hrun => ?_) fun _ _ => rfl
      obtain ⟨row, -, -, -, rfl, -, hrewrite⟩ := markStatement_spec hrun
      exact .of_rewrite hrewrite ⟨rfl, rfl⟩
  | recoverAfterRestart fault now =>
    apply heffect
    refine .check_bind fun _ _ => Effect.modify_bind (fun _ => rfl) ?_
    refine Effect.immediate fun a before after hrun => ?_
    exact (recoverStatement_spec hrun).1.mono (fun _ _ _ hrow => hrow.lease)
      fun _ _ hfalse => hfalse.elim
  | restart => exact hsame rfl
  | _ => simp [RepositoryCall.leavesLeases] at h

/-! ### The invariant -/

theorem PreparedActionRecord.holds_iff {lease : ReconciliationLease} :
    row.holds lease = true ↔ row.journalId = lease.journalId ∧
      row.leaseOwner = some lease.owner ∧
      row.leaseExpiresAt = some lease.expiresAt := by
  simp [PreparedActionRecord.holds, and_assoc]

theorem PreparedActionRecord.not_holds_of_free
    {lease : ReconciliationLease} {now : ℤ} (hfree : row.leaseFree now = true)
    (hlive : now < lease.expiresAt) : ¬ row.holds lease = true := by
  intro hholds
  obtain ⟨-, howner, hexpires⟩ := PreparedActionRecord.holds_iff.mp hholds
  simp [PreparedActionRecord.leaseFree, howner, hexpires] at hfree
  omega

def Database.HoldsLease (database : Database) (lease : ReconciliationLease) : Prop :=
  ∃ row ∈ database.actionJournal, row.holds lease = true

theorem Database.HoldsLease.kept {lease : ReconciliationLease} (h : before.HoldsLease lease)
    (hkept : LeasesKept before after) : after.HoldsLease lease := by
  obtain ⟨row, hrow, hholds⟩ := h
  obtain ⟨row', hrow', hkey, howner, hexpires⟩ := hkept.forward row hrow
  refine ⟨row', hrow', ?_⟩
  rw [PreparedActionRecord.holds_iff] at hholds ⊢
  exact ⟨hkey.trans hholds.1, howner.trans hholds.2.1, hexpires.trans hholds.2.2⟩

theorem Database.HoldsLease.rewrite {lease : ReconciliationLease}
    (h : before.HoldsLease lease) (hrewrite : JournalRewrite before after row row')
    (hother : row.journalId ≠ lease.journalId) : after.HoldsLease lease := by
  obtain ⟨held, hheld, hholds⟩ := h
  have hid := (PreparedActionRecord.holds_iff.mp hholds).1
  refine ⟨held, ?_, hholds⟩
  refine (hrewrite.rewrites.others held ?_).mpr hheld
  intro hsame
  exact hother (hsame.symm.trans hid)

theorem Database.find_row (database : Database) (h : row ∈ database.actionJournal) :
    (database.actionJournal.find? fun other => other.journalId == row.journalId) = some row := by
  cases hfind : database.actionJournal.find? fun other =>
      other.journalId == row.journalId with
  | none =>
    have hnone := List.find?_eq_none.mp hfind row h
    simp at hnone
  | some found =>
    have hid : found.journalId = row.journalId := by
      simpa using List.find?_some hfind
    rw [database.uniqueIds.eq_of_mem (List.mem_of_find?_eq_some hfind) h hid]

/-- The commit was made under the lease its run had claimed and renewed, and
neither the claim nor the renewal had expired. -/
structure CommitLeased (claims : List ReconciliationLease)
    (commit : ReconcilerCommit) : Prop where
  claimed : ∃ lease, claims[commit.run]? = some lease ∧
    commit.time < lease.expiresAt ∧
    commit.renewed = { lease with expiresAt := commit.renewed.expiresAt }
  live : commit.time < commit.renewed.expiresAt
  held : ∃ row, commit.row = some row ∧ row.holds commit.renewed = true

/-- What holds in every world: live handles are on their rows, a live handle is
of one run, and every commit was made under its lease. -/
structure Reconcilers.Inv (world : Reconcilers) : Prop where
  claimed : ∀ i run, world.runs i = some run →
    world.claims[i]? = some run.lease ∧ run.lease.owner = run.owner ∧
      run.lease.journalId = run.record.journalId
  held : ∀ i run, world.runs i = some run → world.now < run.lease.expiresAt →
    world.repository.database.HoldsLease run.lease
  unique : ∀ i j a b, world.runs i = some a → world.runs j = some b →
    world.now < a.lease.expiresAt → world.now < b.lease.expiresAt →
    a.lease.journalId = b.lease.journalId → i = j
  commits : ∀ commit ∈ world.commits, CommitLeased world.claims commit

theorem CommitLeased.append {claims : List ReconciliationLease}
    {commit : ReconcilerCommit} (h : CommitLeased claims commit)
    (lease : ReconciliationLease) : CommitLeased (claims ++ [lease]) commit where
  claimed := by
    obtain ⟨claimed, hclaimed, hlive, hrenewed⟩ := h.claimed
    refine ⟨claimed, ?_, hlive, hrenewed⟩
    rw [List.getElem?_append_left (List.getElem?_eq_some_iff.mp hclaimed).1]
    exact hclaimed
  live := h.live
  held := h.held

namespace Reconcilers

variable {viem : Viem} {world : Reconcilers} {repository : Repository} {i : ℕ} {run : ReconcilerRun}

theorem Inv.kept (h : world.Inv)
    (hkept : LeasesKept world.repository.database repository.database) :
    Inv { world with repository := repository } where
  claimed := h.claimed
  held i run hrun hlive := (h.held i run hrun hlive).kept hkept
  unique := h.unique
  commits := h.commits

theorem Inv.await (h : world.Inv) {owner : String}
    {record : PreparedActionRecord} {lease : ReconciliationLease}
    (hclaimed : Claimed owner world.now world.repository.database
      repository.database record lease) : (world.await repository owner record lease).Inv := by
  obtain ⟨row, hrow, -, -, hfree, hrewrite⟩ := hclaimed.leased
  have hid : row.journalId = lease.journalId := by
    rw [hclaimed.journalId]
    exact congrArg PreparedActionInput.journalId hrow
  -- a live handle of the claimed record would be on the free row
  have hother : ∀ i run, world.runs i = some run →
      world.now < run.lease.expiresAt → row.journalId ≠ run.lease.journalId := by
    intro i run hrun hlive hsame
    obtain ⟨held, hheld, hholds⟩ := h.held i run hrun hlive
    have hkey := (PreparedActionRecord.holds_iff.mp hholds).1
    obtain rfl := hrewrite.eq_of_id hheld (hsame.trans hkey.symm)
    exact PreparedActionRecord.not_holds_of_free hfree hlive hholds
  have hbound : ∀ i run, world.runs i = some run → i < world.claims.length := by
    intro i run hrun
    exact (List.getElem?_eq_some_iff.mp (h.claimed i run hrun).1).1
  constructor
  · intro i run hrun
    simp only [Reconcilers.await, Function.update_apply] at hrun ⊢
    split at hrun
    · rename_i hi
      subst hi
      cases hrun
      exact ⟨by simp, hclaimed.owner_eq, hclaimed.journalId⟩
    · obtain ⟨hclaim, hrest⟩ := h.claimed i run hrun
      rw [List.getElem?_append_left (hbound i run hrun)]
      exact ⟨hclaim, hrest⟩
  · intro i run hrun hlive
    simp only [Reconcilers.await, Function.update_apply] at hrun hlive ⊢
    split at hrun
    · cases hrun
      refine ⟨_, hrewrite.rewrites.mem_after, ?_⟩
      rw [PreparedActionRecord.holds_iff]
      exact ⟨hid, congrArg some hclaimed.owner_eq.symm, rfl⟩
    · exact (h.held i run hrun hlive).rewrite hrewrite (hother i run hrun hlive)
  · intro i j a b ha hb hlivea hliveb hsame
    simp only [Reconcilers.await, Function.update_apply] at ha hb hlivea hliveb
    split at ha
    · rename_i hi
      split at hb
      · rename_i hj
        exact hi.trans hj.symm
      · cases ha
        exact absurd (hid.trans hsame) (hother j b hb hliveb)
    · split at hb
      · cases hb
        exact absurd (hid.trans hsame.symm) (hother i a ha hlivea)
      · exact h.unique i j a b ha hb hlivea hliveb hsame
  · intro commit hcommit
    exact (h.commits commit hcommit).append lease

theorem commitOf_eq_nil {faults : ReconcilerFaults} {result : Outcome ActionReconcilerResult}
    (h : ∀ decision, result ≠ .ok (.decided decision)) :
    world.commitOf i run faults result = [] := by
  cases result with
  | error failure => rfl
  | ok result =>
    cases result with
    | decided decision => exact absurd rfl (h decision)
    | _ => rfl

/-- A run that ends keeps the invariant when the other live handles stay on
their rows and what it committed was leased. -/
theorem Inv.finish (h : world.Inv) (i : ℕ) {commits : List ReconcilerCommit}
    (hheld : ∀ j other, j ≠ i → world.runs j = some other → world.now < other.lease.expiresAt →
        repository.database.HoldsLease other.lease)
    (hcommits : ∀ commit ∈ commits, CommitLeased world.claims commit) :
    Inv { world with
      repository := repository
      runs := Function.update world.runs i none
      commits := world.commits ++ commits } := by
  have hruns : ∀ j run, Function.update world.runs i none j = some run →
      j ≠ i ∧ world.runs j = some run := by
    intro j run hrun
    rw [Function.update_apply] at hrun
    split at hrun
    · cases hrun
    · rename_i hne
      exact ⟨hne, hrun⟩
  constructor
  · intro j run hrun
    exact h.claimed j run (hruns j run hrun).2
  · intro j run hrun hlive
    obtain ⟨hne, hrun⟩ := hruns j run hrun
    exact hheld j run hne hrun hlive
  · intro j k a b ha hb
    exact h.unique j k a b (hruns j a ha).2 (hruns k b hb).2
  · intro commit hcommit
    rcases List.mem_append.mp hcommit with hold | hnew
    · exact h.commits commit hold
    · exact hcommits commit hnew

theorem Inv.resume (h : world.Inv) (i : ℕ) (faults : ReconcilerFaults)
    (evidence : Outcome ReconciliationEvidence) :
    (step viem world (.resume i faults evidence)).Inv := by
  cases hrun : world.runs i with
  | none => simpa [step, hrun] using h
  | some run =>
    cases hclaim : reconcileClaim viem faults run.owner world.now run.record
        run.lease evidence world.repository with
    | mk result repository =>
      simp only [step, hrun, hclaim]
      obtain ⟨hclaimed, howner, hid⟩ := h.claimed i run hrun
      rcases reconcileClaim_spec hclaim with
        ⟨rfl, hnone⟩ | ⟨renewed, mid, hrenew, hrest⟩
      · rw [commitOf_eq_nil hnone]
        exact h.finish i (fun j other _ => h.held j other) (by simp)
      obtain ⟨row, hholds, hlive, hrenewed, hlive', hrewrite⟩ :=
        renewReconciliationLease_some hrenew
      have hrow := PreparedActionRecord.holds_iff.mp hholds
      -- the handles of the other runs are of other records
      have hother : ∀ j other, j ≠ i → world.runs j = some other →
          world.now < other.lease.expiresAt →
          run.lease.journalId ≠ other.lease.journalId := by
        intro j other hne hj hlivej hsame
        exact hne (h.unique j i other run hj hrun hlivej hlive hsame.symm)
      have hmid : ∀ j other, j ≠ i → world.runs j = some other →
          world.now < other.lease.expiresAt →
          mid.database.HoldsLease other.lease := by
        intro j other hne hj hlivej
        refine (h.held j other hj hlivej).rewrite hrewrite ?_
        rw [hrow.1]
        exact hother j other hne hj hlivej
      rcases hrest with ⟨rfl, hnone⟩ | ⟨decision, written, rfl, -, hwrite⟩
      · rw [commitOf_eq_nil hnone]
        exact h.finish i hmid (by simp)
      obtain ⟨changed, hchanged, -, -, -, hrewrite'⟩ :=
        recordDecision_ok hwrite
      refine h.finish i ?_ ?_
      · intro j other hne hj hlivej
        refine (hmid j other hne hj hlivej).rewrite hrewrite' ?_
        rw [hchanged, ← hid]
        exact hother j other hne hj hlivej
      · have hfind : (mid.database.actionJournal.find? fun row =>
            row.journalId == run.record.journalId) =
            some (row.renewed renewed.expiresAt world.now) := by
          rw [← hid, ← hrow.1]
          exact mid.database.find_row hrewrite.rewrites.mem_after
        simp only [commitOf, hrenew, hfind, List.mem_singleton]
        rintro commit rfl
        refine ⟨⟨run.lease, hclaimed, hlive, hrenewed⟩, hlive', _, rfl, ?_⟩
        rw [PreparedActionRecord.holds_iff, hrenewed]
        exact ⟨hrow.1, hrow.2.1, rfl⟩

/-- Whatever the reconcilers do, an unexpired lease of an action stays with one of them. -/
theorem Inv.step (h : world.Inv) (event : ReconcilerEvent) : (step viem world event).Inv := by
  cases event with
  | tick elapsed =>
    have hlive : ∀ {at_ : ℤ}, world.now + elapsed < at_ → world.now < at_ := by
      intro at_ hat
      omega
    constructor
    · exact h.claimed
    · intro i run hrun hat
      exact h.held i run hrun (hlive hat)
    · intro i j a b ha hb hlivea hliveb
      exact h.unique i j a b ha hb (hlive hlivea) (hlive hliveb)
    · exact h.commits
  | reconcile faults owner journalId =>
    cases hrun : HyperTrader.reconcile faults owner world.now journalId
        world.repository with
    | mk result repository =>
      rcases reconcile_spec hrun with
        ⟨rfl, hnone⟩ | ⟨record, lease, rfl, -, hclaimed⟩
      · simp only [Reconcilers.step, hrun]
        exact h
      · simp only [Reconcilers.step, hrun]
        exact h.await hclaimed
  | reconcileNext faults owner =>
    cases hrun : HyperTrader.reconcileNext faults owner world.now
        world.repository with
    | mk result repository =>
      rcases reconcileNext_spec hrun with
        ⟨rfl, hnone⟩ | ⟨record, lease, rfl, hclaimed⟩
      · simp only [Reconcilers.step, hrun]
        exact h
      · simp only [Reconcilers.step, hrun]
        exact h.await hclaimed
  | resume i faults evidence => exact h.resume i faults evidence
  | other call =>
    simp only [Reconcilers.step]
    split
    · rename_i hleaves
      exact h.kept (perform_leasesKept hleaves)
    · exact h
  | crash =>
    constructor
    · intro i run hrun
      cases hrun
    · intro i run hrun
      cases hrun
    · intro i j a b ha
      cases ha
    · exact h.commits

theorem Inv.initial (repository : Repository) (now : ℤ) :
    (Reconcilers.initial repository now).Inv := by
  constructor
  · intro i run hrun
    cases hrun
  · intro i run hrun
    cases hrun
  · intro i j a b ha
    cases ha
  · intro commit hcommit
    cases hcommit

theorem resume_of_lost (hrun : world.runs i = some run) (hlost : run.lease.expiresAt ≤ world.now ∨
      ¬ world.repository.database.HoldsLease run.lease)
    (faults : ReconcilerFaults) (evidence : Outcome ReconciliationEvidence) :
    (step viem world (.resume i faults evidence)).repository = world.repository := by
  cases hclaim : reconcileClaim viem faults run.owner world.now run.record
      run.lease evidence world.repository with
  | mk result repository =>
    simp only [step, hrun, hclaim]
    rcases reconcileClaim_spec hclaim with
      ⟨rfl, -⟩ | ⟨renewed, mid, hrenew, -⟩
    · rfl
    · obtain ⟨row, hholds, hlive, -, -, hrewrite⟩ :=
        renewReconciliationLease_some hrenew
      rcases hlost with hexpired | hmissing
      · exact absurd hlive (not_lt.mpr hexpired)
      · exact absurd ⟨row, hrewrite.rewrites.mem, hholds⟩ hmissing

theorem resume_of_no_commit (hrun : world.runs i = some run) (faults : ReconcilerFaults)
    (evidence : Outcome ReconciliationEvidence)
    (hnone : (step viem world (.resume i faults evidence)).commits = world.commits) :
    (step viem world (.resume i faults evidence)).repository =
        world.repository ∨
      (step viem world (.resume i faults evidence)).repository =
        (renewReconciliationLease faults.renew run.lease world.now none world.repository).2 := by
  cases hclaim : reconcileClaim viem faults run.owner world.now run.record
      run.lease evidence world.repository with
  | mk result repository =>
    simp only [step, hrun, hclaim] at hnone ⊢
    rcases reconcileClaim_spec hclaim with
      ⟨rfl, -⟩ | ⟨renewed, mid, hrenew, ⟨rfl, -⟩ | ⟨decision, written, rfl, -⟩⟩
    · exact .inl rfl
    · exact .inr (by rw [hrenew])
    · simp [commitOf, hrenew] at hnone

end Reconcilers

/-- **Lease exclusivity.** Whatever the reconcilers, their owners, the order of
their steps, the evidence they get and the failures of the store: a handle that
is live is on its row and of one run; every decision was written under a live
lease that the same run had claimed and renewed and that the row held; and a
call whose lease was lost changes nothing. -/
theorem reconciliation_leases_exclusive (viem : Viem) (repository : Repository)
    (now : ℤ) (events : List ReconcilerEvent) :
    let world := run (Reconcilers.step viem) (.initial repository now) events
    (∀ i a, world.runs i = some a → world.now < a.lease.expiresAt →
      world.repository.database.HoldsLease a.lease ∧
      ∀ j b, world.runs j = some b → world.now < b.lease.expiresAt →
        a.lease.journalId = b.lease.journalId → i = j) ∧
    (∀ commit ∈ world.commits, CommitLeased world.claims commit) ∧
    (∀ i a faults evidence, world.runs i = some a →
      let after := Reconcilers.step viem world (.resume i faults evidence)
      ((a.lease.expiresAt ≤ world.now ∨ ¬ world.repository.database.HoldsLease a.lease) →
        after.repository = world.repository) ∧
      (after.commits = world.commits → after.repository = world.repository ∨
        after.repository = (renewReconciliationLease faults.renew a.lease
          world.now none world.repository).2)) := by
  intro world
  have hinv : world.Inv := run_invariant (fun _ event h => h.step event)
    (Reconcilers.Inv.initial repository now) events
  refine ⟨?_, hinv.commits, ?_⟩
  · intro i a ha hlive
    refine ⟨hinv.held i a ha hlive, ?_⟩
    intro j b hb hlive' hsame
    exact hinv.unique i j a b ha hb hlive hlive' hsame
  · intro i a faults evidence ha
    constructor
    · intro hlost
      exact Reconcilers.resume_of_lost ha hlost faults evidence
    · intro hnone
      exact Reconcilers.resume_of_no_commit ha faults evidence hnone

end HyperTrader
