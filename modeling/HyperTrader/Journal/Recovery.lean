import HyperTrader.Journal.Statements

/-!
# The journal after a restart

A restart leaves no record between its preparation and an answer: one that may have been
sent becomes unresolved, one that was not is abandoned, and every other stays as it is.
-/

namespace HyperTrader

open Library

variable {now : ℤ} {before after : Database} {row : PreparedActionRecord}
  {rows changed : List PreparedActionRecord}

def PreparedActionRecord.afterRestart (row : PreparedActionRecord) (now : ℤ) :
    PreparedActionRecord :=
  match restartRecoveryDecision row with
  | .unchanged => row
  | .transition state => row.recovered state now

theorem PreparedActionRecord.journalId_afterRestart (row : PreparedActionRecord) (now : ℤ) :
    (row.afterRestart now).journalId = row.journalId := by
  unfold afterRestart
  split <;> rfl

theorem PreparedActionRecord.afterRestart_of_not_selected
    (h : (row.state == .prepared || row.state.reconcilable) = false) :
    row.afterRestart now = row := by
  have hterminal : isTerminalJournalState row.state = true := by
    revert h
    cases row.state <;> decide
  unfold afterRestart restartRecoveryDecision
  rw [if_pos (.inl hterminal)]

theorem PreparedActionRecord.state_afterRestart (row : PreparedActionRecord) (now : ℤ) :
    isTerminalJournalState (row.afterRestart now).state = true ∨
      (row.afterRestart now).state = .unresolved := by
  unfold afterRestart
  cases hdecision : restartRecoveryDecision row with
  | transition state =>
    rcases (restartRecoveryDecision_cases hdecision).2 with rfl | ⟨rfl, -⟩
    · exact .inr rfl
    · exact .inl rfl
  | unchanged =>
    unfold restartRecoveryDecision at hdecision
    split at hdecision
    · assumption
    · split at hdecision
      · cases hdecision
      · split at hdecision
        · cases hdecision
        · rename_i hmarker hprepared
          rw [not_or] at hmarker
          revert hmarker hprepared
          dsimp only
          cases row.state <;> simp [isTerminalJournalState, JournalState.terminalValues]

theorem recoverRow_image {record : Option PreparedActionRecord} (hrow : row ∈ before.actionJournal)
    (h : recoverRow now row before = .ok (record, after)) :
    row.afterRestart now ∈ after.actionJournal ∧ ∀ other : PreparedActionRecord,
      other.journalId ≠ row.journalId →
        (other ∈ after.actionJournal ↔ other ∈ before.actionJournal) := by
  unfold PreparedActionRecord.afterRestart
  rcases recoverRow_spec h with
    ⟨hdecision, rfl⟩ | ⟨state, old, hdecision, -, hid, -, -, hrewrite⟩
  · rw [hdecision]
    exact ⟨hrow, fun _ _ => Iff.rfl⟩
  · obtain rfl := before.uniqueIds.eq_of_mem hrewrite.rewrites.mem hrow hid
    rw [hdecision]
    exact ⟨hrewrite.rewrites.mem_after, hrewrite.rewrites.others⟩

theorem mem_recoverRow {record : Option PreparedActionRecord} (hrow : row ∈ before.actionJournal)
    (h : recoverRow now row before = .ok (record, after)) (other : PreparedActionRecord) :
    other ∈ after.actionJournal ↔
      (other ∈ before.actionJournal ∧ other.journalId ≠ row.journalId) ∨
        other = row.afterRestart now := by
  obtain ⟨himage, hothers⟩ := recoverRow_image hrow h
  constructor
  · intro hother
    by_cases hkey : other.journalId = row.journalId
    · exact .inr (after.uniqueIds.eq_of_mem hother himage
        (hkey.trans (row.journalId_afterRestart now).symm))
    · exact .inl ⟨(hothers other hkey).mp hother, hkey⟩
  · rintro (⟨hother, hkey⟩ | rfl)
    · exact (hothers other hkey).mpr hother
    · exact himage

theorem mem_recoverRows (hunique : Table.UniqueKeys PreparedActionRecord.key rows)
    (hrows : ∀ row ∈ rows, row ∈ before.actionJournal)
    (h : recoverRows now rows before = .ok (changed, after)) (other : PreparedActionRecord) :
    other ∈ after.actionJournal ↔
      (other ∈ before.actionJournal ∧ ∀ row ∈ rows, other.journalId ≠ row.journalId) ∨
        ∃ row ∈ rows, other = row.afterRestart now := by
  induction rows generalizing before changed with
  | nil =>
    simp only [recoverRows, Transaction.pure_eq_ok] at h
    obtain ⟨-, rfl⟩ := h
    simp
  | cons row rows ih =>
    simp only [recoverRows, Transaction.bind_eq_ok] at h
    obtain ⟨record, mid, hrow, later, last, hlater, hresult⟩ := h
    obtain ⟨-, rfl⟩ := Transaction.pure_eq_ok.mp hresult
    obtain ⟨hhead, htail⟩ := List.pairwise_cons.mp hunique
    have hmid := mem_recoverRow (hrows row List.mem_cons_self) hrow
    have hlast := ih htail (fun later hmem => (hmid later).mpr
      (.inl ⟨hrows later (List.mem_cons_of_mem _ hmem), (hhead later hmem).symm⟩)) hlater
    rw [hlast, hmid]
    simp only [List.mem_cons, forall_eq_or_imp, exists_eq_or_imp]
    constructor
    · rintro (⟨⟨hother, hkey⟩ | rfl, hkeys⟩ | himage)
      · exact .inl ⟨hother, hkey, hkeys⟩
      · exact .inr (.inl rfl)
      · exact .inr (.inr himage)
    · rintro (⟨hother, hkey, hkeys⟩ | rfl | himage)
      · exact .inl ⟨.inl ⟨hother, hkey⟩, hkeys⟩
      · refine .inl ⟨.inr rfl, fun later hmem => ?_⟩
        rw [row.journalId_afterRestart now]
        exact hhead later hmem
      · exact .inr himage

theorem mem_recoverStatement (h : recoverStatement now before = .ok (changed, after))
    (other : PreparedActionRecord) :
    other ∈ after.actionJournal ↔
      ∃ row ∈ before.actionJournal, other = row.afterRestart now := by
  unfold recoverStatement at h
  simp only [Transaction.bind_eq_ok, Transaction.read_eq_ok] at h
  obtain ⟨_, _, ⟨rfl, rfl⟩, h⟩ := h
  have hselected : ∀ row, row ∈ (before.actionJournal.filter fun row =>
      row.state == .prepared || row.state.reconcilable).insertionSort preparedOrder ↔
        row ∈ before.actionJournal ∧ (row.state == .prepared || row.state.reconcilable) = true := by
    intro row
    rw [List.mem_insertionSort, List.mem_filter]
  have hunique := (before.uniqueIds.filter fun row =>
    row.state == .prepared || row.state.reconcilable)
  rw [← (List.perm_insertionSort preparedOrder _).pairwise_iff fun h => Ne.symm h] at hunique
  rw [mem_recoverRows hunique (fun row hrow => ((hselected row).mp hrow).1) h]
  constructor
  · rintro (⟨hother, hkeys⟩ | ⟨row, hrow, himage⟩)
    · refine ⟨other, hother, (PreparedActionRecord.afterRestart_of_not_selected ?_).symm⟩
      rw [← Bool.not_eq_true]
      exact fun hstate => hkeys other ((hselected other).mpr ⟨hother, hstate⟩) rfl
    · exact ⟨row, ((hselected row).mp hrow).1, himage⟩
  · rintro ⟨row, hrow, rfl⟩
    by_cases hstate : (row.state == .prepared || row.state.reconcilable) = true
    · exact .inr ⟨row, (hselected row).mpr ⟨hrow, hstate⟩, rfl⟩
    · rw [PreparedActionRecord.afterRestart_of_not_selected (by simpa using hstate)]
      refine .inl ⟨hrow, fun later hmem hkey => hstate ?_⟩
      obtain ⟨hlater, hselects⟩ := (hselected later).mp hmem
      rwa [before.uniqueIds.eq_of_mem hrow hlater hkey]

/-- **The restart settles the journal.** A recovery that fails leaves the database as it was.
Otherwise every record is replaced by what the recovery makes of it, so that each is terminal
or unresolved, and the scopes of the signers stay. -/
theorem restart_settles_journal (fault : Option Failure) (now : ℤ) (repository : Repository) :
    let recovery := recoverAfterRestart fault now repository
    recovery.2.database = repository.database ∧ (∃ failure, recovery.1 = .error failure) ∨
      (∀ row, row ∈ recovery.2.database.actionJournal ↔
        ∃ old ∈ repository.database.actionJournal, row = old.afterRestart now) ∧
      (∀ row ∈ recovery.2.database.actionJournal,
        isTerminalJournalState row.state = true ∨ row.state = .unresolved) ∧
      recovery.2.database.signerScopes = repository.database.signerScopes := by
  intro recovery
  have hrecovery : recovery = recoverAfterRestart fault now repository := rfl
  unfold recoverAfterRestart at hrecovery
  cases htime : assertTime now "now" with
  | error failure =>
    rw [htime] at hrecovery
    rw [hrecovery]
    exact .inl ⟨rfl, failure, rfl⟩
  | ok _ =>
    rw [htime] at hrecovery
    change recovery = immediate fault (recoverStatement now) _ at hrecovery
    rw [hrecovery]
    unfold immediate
    cases hrun : Transaction.atomically fault (recoverStatement now) repository.database with
    | mk result database =>
      cases result with
      | error failure => exact .inl ⟨Transaction.atomically_error hrun, failure, rfl⟩
      | ok changed =>
        have hstatement := (Transaction.atomically_eq_ok.mp hrun).2
        have hmem := mem_recoverStatement hstatement
        refine .inr ⟨hmem, fun row hrow => ?_, (recoverStatement_spec hstatement).2⟩
        obtain ⟨old, -, rfl⟩ := (hmem row).mp hrow
        exact old.state_afterRestart now

end HyperTrader
