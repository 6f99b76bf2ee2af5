import HyperTrader.Journal.Repository

/-!
# What the journal statements do

One lemma for each transaction of the journal says what it did when it
committed: which row it rewrote, to what, and what it had checked. `RowChange`
collects the ways a row may change; it never leads back to `prepared`, never
leaves a terminal state and never touches a marker that is set.
-/

namespace HyperTrader

open Library

theorem Database.ext_tables {a b : Database} (h : a.toTables = b.toTables) : a = b := by
  cases a
  cases b
  cases h
  rfl

theorem Database.uniqueIds (database : Database) :
    Table.UniqueKeys PreparedActionRecord.key database.actionJournal :=
  database.consistent.recordKeys.imp fun h heq => h (.inl heq)

variable {database before after : Database} {journalId : String} {record : PreparedActionRecord}

theorem Database.getAction_eq_some :
    database.getAction journalId = .ok (some record) ↔
      record ∈ database.actionJournal ∧ record.journalId = journalId ∧
        StoredRecord record := by
  unfold Database.getAction
  cases hfind : database.actionJournal.find? fun row =>
      row.journalId == journalId with
  | none =>
    have hnone := List.find?_eq_none.mp hfind
    simp only [pure, Except.pure, Except.ok.injEq, reduceCtorEq, false_iff]
    rintro ⟨hmem, hid, -⟩
    exact hnone record hmem (by simpa using hid)
  | some row =>
    have hrow := List.mem_of_find?_eq_some hfind
    have hid : row.journalId = journalId := by
      simpa using List.find?_some hfind
    simp only [except_bind_eq_ok, fromRow_eq_ok, pure, Except.pure,
      Except.ok.injEq, Option.some.injEq]
    constructor
    · rintro ⟨_, ⟨rfl, hstored⟩, rfl⟩
      exact ⟨hrow, hid, hstored⟩
    · rintro ⟨hmem, hid', hstored⟩
      obtain rfl := database.uniqueIds.eq_of_mem hmem hrow
        (hid'.trans hid.symm)
      exact ⟨record, ⟨rfl, hstored⟩, rfl⟩

theorem Database.getAction_eq_none :
    database.getAction journalId = .ok none ↔
      ∀ row ∈ database.actionJournal, row.journalId ≠ journalId := by
  unfold Database.getAction
  cases hfind : database.actionJournal.find? fun row =>
      row.journalId == journalId with
  | none =>
    have hnone := List.find?_eq_none.mp hfind
    simp only [pure, Except.pure, true_iff]
    intro row hrow hid
    exact hnone row hrow (by simpa using hid)
  | some row =>
    have hrow := List.mem_of_find?_eq_some hfind
    have hid : row.journalId = journalId := by
      simpa using List.find?_some hfind
    simp only [except_bind_eq_ok, pure, Except.pure, Except.ok.injEq,
      reduceCtorEq, and_false, exists_false, false_iff]
    intro h
    exact h row hrow hid

theorem Database.getAction_ok (h : ∀ row ∈ database.actionJournal, StoredRecord row)
    (journalId : String) : ∃ found, database.getAction journalId = .ok found := by
  by_cases hid : ∃ row ∈ database.actionJournal, row.journalId = journalId
  · obtain ⟨row, hrow, hid⟩ := hid
    exact ⟨some row, Database.getAction_eq_some.mpr ⟨hrow, hid, h row hrow⟩⟩
  · push Not at hid
    exact ⟨none, Database.getAction_eq_none.mpr hid⟩

theorem requireAction_eq_ok :
    requireAction journalId before = .ok (record, after) ↔
      (record ∈ before.actionJournal ∧ record.journalId = journalId ∧
        StoredRecord record) ∧ before = after := by
  unfold requireAction
  rw [Transaction.check_eq_ok, ← Database.getAction_eq_some, except_bind_eq_ok]
  constructor
  · rintro ⟨⟨found, hfound, h⟩, rfl⟩
    cases found with
    | none => cases h
    | some other =>
      cases h
      exact ⟨hfound, rfl⟩
  · rintro ⟨h, rfl⟩
    exact ⟨⟨some record, h, rfl⟩, rfl⟩

/-- The statement rewrote the row `row` of the journal to `row'` and left every
other row and table. -/
structure JournalRewrite (before after : Database)
    (row row' : PreparedActionRecord) : Prop where
  rewrites : Table.Rewrites PreparedActionRecord.key before.actionJournal
    after.actionJournal row row'
  scopes : after.signerScopes = before.signerScopes
  tombstones : after.retiredSignerTombstones = before.retiredSignerTombstones

theorem updateJournal_cases {wher : PreparedActionRecord → Bool}
    {set : PreparedActionRecord → PreparedActionRecord} {changes : ℕ} (journalId : String)
    (h : updateJournal wher set before = .ok (changes, after))
    (hwher : ∀ row, wher row = true → row.journalId = journalId)
    (hset : ∀ row, (set row).journalId = row.journalId) :
    (changes = 0 ∧ after = before) ∨
      (changes = 1 ∧ ∃ row, wher row = true ∧ JournalRewrite before after row (set row)) := by
  obtain ⟨rfl, hafter⟩ := updateJournal_eq_ok.mp h
  rcases Table.update_cases before.uniqueIds (fun row _ => hwher row) hset with
    ⟨hzero, hsame⟩ | ⟨hone, row, hsel, hrewrites⟩
  · left
    refine ⟨hzero, Database.ext_tables ?_⟩
    rw [hafter, hsame]
  · right
    refine ⟨hone, row, hsel, ?_⟩
    constructor
    · rw [hafter]
      exact hrewrites
    · rw [hafter]
    · rw [hafter]

theorem PreparedActionRecord.clash_congr {a a' b b' : PreparedActionRecord}
    (ha : a'.toPreparedActionInput = a.toPreparedActionInput) (hastate : a'.state = a.state)
    (hb : b'.toPreparedActionInput = b.toPreparedActionInput)
    (hbstate : b'.state = b.state) : a'.clash b' ↔ a.clash b := by
  unfold PreparedActionRecord.clash PreparedActionRecord.sameFingerprint
  rw [ha, hastate, hb, hbstate]

theorem updateJournal_succeeds (wher : PreparedActionRecord → Bool)
    (set : PreparedActionRecord → PreparedActionRecord)
    (hset : ∀ row, (set row).toPreparedActionInput = row.toPreparedActionInput ∧
      (set row).state = row.state) (before : Database) :
    ∃ after, updateJournal wher set before =
      .ok (Table.changes before.actionJournal wher, after) := by
  have hkept : ∀ row, (if wher row then set row else row).toPreparedActionInput =
      row.toPreparedActionInput ∧
      (if wher row then set row else row).state = row.state := by
    intro row
    split
    · exact hset row
    · exact ⟨rfl, rfl⟩
  obtain ⟨h1, h2, h3, h4, hchecks, hkeys, hscope⟩ := before.consistent
  have hconsistent : Tables.Consistent { before.toTables with
      actionJournal := Table.update before.actionJournal wher set } := by
    refine ⟨h1, h2, h3, h4, ?_, ?_, ?_⟩
    · intro row hrow
      obtain ⟨old, hold, rfl⟩ := List.mem_map.mp hrow
      unfold PreparedActionRecord.checks
      rw [(hkept old).1]
      exact hchecks old hold
    · refine List.pairwise_map.mpr (hkeys.imp fun {a b} hab => ?_)
      rwa [PreparedActionRecord.clash_congr (hkept a).1 (hkept a).2 (hkept b).1 (hkept b).2]
    · intro row hrow
      obtain ⟨old, hold, rfl⟩ := List.mem_map.mp hrow
      rw [(hkept old).1]
      exact hscope old hold
  exact ⟨⟨_, hconsistent⟩, updateJournal_eq_ok.mpr ⟨rfl, rfl⟩⟩

theorem JournalRewrite.required {last : Database} {row row' : PreparedActionRecord}
    (h : JournalRewrite before after row row')
    (hread : requireAction row.journalId after = .ok (record, last)) :
    record = row' ∧ StoredRecord row' ∧ last = after := by
  obtain ⟨⟨hmem, hid, hstored⟩, rfl⟩ := requireAction_eq_ok.mp hread
  obtain rfl := after.uniqueIds.eq_of_mem hmem h.rewrites.mem_after
    (hid.trans h.rewrites.key_eq.symm)
  exact ⟨rfl, hstored, rfl⟩

theorem JournalRewrite.eq_of_id {row row' : PreparedActionRecord}
    (h : JournalRewrite before after row row') (hmem : record ∈ before.actionJournal)
    (hid : row.journalId = record.journalId) : row = record :=
  before.uniqueIds.eq_of_mem h.rewrites.mem hmem hid

inductive RowChange : PreparedActionRecord → PreparedActionRecord → Prop
  | mark {row : PreparedActionRecord} {now : ℤ}
      (h : mayMarkSubmissionStarted row now) : RowChange row (row.marked now)
  | transition {row : PreparedActionRecord} {next : JournalState} {now : ℤ}
      (h : next ∈ row.state.allowedTransitions) :
      RowChange row (row.transitioned next (resultForState next) now)
  | claim {row : PreparedActionRecord} {owner : String} {expiresAt now : ℤ}
      (hstate : row.state.reconcilable = true) (hfree : row.leaseFree now = true) :
      RowChange row (row.leased owner expiresAt now)
  | renew {row : PreparedActionRecord} {lease : ReconciliationLease}
      {expiresAt now : ℤ} (hholds : row.holds lease = true)
      (hlive : now < lease.expiresAt) : RowChange row (row.renewed expiresAt now)
  | release {row : PreparedActionRecord} {lease : ReconciliationLease} {now : ℤ}
      (hholds : row.holds lease = true) : RowChange row (row.released now)
  | schedule {row : PreparedActionRecord} {owner : String}
      {now nextAttemptAt : ℤ} (hleased : row.leasedBy owner now = true)
      (hstate : row.state.reconcilable = true) :
      RowChange row (row.scheduled now nextAttemptAt)
  | recover {row : PreparedActionRecord} {state : JournalState} {now : ℤ}
      (h : restartRecoveryDecision row = .transition state)
      (hallowed : state ∈ row.state.allowedTransitions) :
      RowChange row (row.recovered state now)

theorem restartRecoveryDecision_cases {row : PreparedActionRecord}
    {state : JournalState} (h : restartRecoveryDecision row = .transition state) :
    (isTerminalJournalState row.state = false ∧ row.state ≠ .unresolved) ∧
      (state = .unresolved ∨ (state = .abandonedBeforeSubmission ∧ row.state = .prepared ∧
          row.submissionStartedAt = none)) := by
  unfold restartRecoveryDecision at h
  split at h
  · cases h
  · rename_i hlive
    rw [not_or] at hlive
    refine ⟨⟨by simpa using hlive.1, hlive.2⟩, ?_⟩
    split at h
    · cases h
      exact .inl rfl
    · rename_i hstarted
      rw [not_or] at hstarted
      split at h
      · rename_i hprepared
        cases h
        exact .inr ⟨rfl, hprepared, by simpa using hstarted.1⟩
      · cases h

theorem restartRecoveryDecision_allowed {row : PreparedActionRecord}
    (hrow : StoredRecord row) {state : JournalState}
    (h : restartRecoveryDecision row = .transition state) :
    state ∈ row.state.allowedTransitions := by
  obtain ⟨⟨hlive, hunresolved⟩, rfl | ⟨rfl, hprepared, -⟩⟩ :=
    restartRecoveryDecision_cases h
  · have hmarker := hrow.marker.2
    unfold restartRecoveryDecision at h
    cases hs : row.state <;>
      simp_all [isTerminalJournalState, JournalState.terminalValues,
        JournalState.allowedTransitions]
  · simp [hprepared, JournalState.allowedTransitions]

namespace RowChange

variable {row row' : PreparedActionRecord}

theorem captured (h : RowChange row row') :
    row'.toPreparedActionInput = row.toPreparedActionInput := by
  cases h <;> rfl

theorem marker (h : RowChange row row') {startedAt : ℤ}
    (hmarker : row.submissionStartedAt = some startedAt) :
    row'.submissionStartedAt = some startedAt := by
  cases h with
  | mark h => simp [h.2.1] at hmarker
  | _ => exact hmarker

theorem state (h : RowChange row row') :
    row'.state = row.state ∨ row'.state ∈ row.state.allowedTransitions := by
  cases h with
  | mark h =>
    right
    simp [PreparedActionRecord.marked, h.1, JournalState.allowedTransitions]
  | transition h => exact .inr h
  | claim => exact .inl rfl
  | renew => exact .inl rfl
  | release => exact .inl rfl
  | schedule hleased hstate =>
    cases hs : row.state <;>
      simp_all [PreparedActionRecord.scheduled, JournalState.reconcilable,
        JournalState.allowedTransitions]
  | recover _ hallowed => exact .inr hallowed

theorem prepared (h : RowChange row row') (hprepared : row'.state = .prepared) :
    row.state = .prepared := by
  cases h with
  | mark h => exact h.1
  | transition h => exact absurd hprepared (ne_prepared_of_mem_allowedTransitions h)
  | claim => exact hprepared
  | renew => exact hprepared
  | release => exact hprepared
  | schedule => simp [PreparedActionRecord.scheduled] at hprepared
  | recover h =>
    rcases (restartRecoveryDecision_cases h).2 with rfl | ⟨rfl, h, -⟩
    · simp [PreparedActionRecord.recovered] at hprepared
    · exact h

theorem terminal (h : RowChange row row') (hterminal : isTerminalJournalState row.state = true) :
    row'.state = row.state := by
  rcases h.state with hsame | hallowed
  · exact hsame
  · rw [(isTerminalJournalState_iff row.state).mp hterminal] at hallowed
    simp at hallowed

end RowChange

end HyperTrader
