import HyperTrader.Journal.Lifecycle

/-!
# The statements of the journal, one by one

Each lemma inverts one committed transaction: the row it found, the checks that
row had passed, and the row it left in its place.
-/

namespace HyperTrader

open Library

variable {journalId owner : String} {now expiresAt : ℤ} {before after : Database}
  {record row : PreparedActionRecord} {lease : ReconciliationLease}

/-- A row that holds a lease is the one the lease names. -/
theorem PreparedActionRecord.of_holds (h : row.holds lease = true) :
    row.journalId = lease.journalId ∧ row.leaseOwner = some lease.owner ∧
      row.leaseExpiresAt = some lease.expiresAt := by
  simpa only [holds, Bool.and_eq_true, beq_iff_eq, and_assoc] using h

theorem markStatement_spec (h : markStatement journalId now before = .ok (record, after)) :
    ∃ row, row.journalId = journalId ∧ StoredRecord row ∧
      mayMarkSubmissionStarted row now ∧ record = row.marked now ∧
      StoredRecord record ∧ JournalRewrite before after row record := by
  unfold markStatement at h
  simp only [Transaction.bind_eq_ok, Transaction.ensure_eq_ok, requireAction_eq_ok] at h
  obtain ⟨current, _, ⟨⟨hmem, hid, hstored⟩, rfl⟩, _, _, ⟨hmay, rfl⟩, changes,
    mid, hupdate, _, _, ⟨hone, rfl⟩, hread⟩ := h
  rcases updateJournal_cases journalId hupdate
    (fun row hrow => by simp at hrow; exact hrow.1.1) (fun row => rfl) with
    ⟨hzero, -⟩ | ⟨-, row, hsel, hrewrite⟩
  · simp [hzero] at hone
  · have hrow : row.journalId = journalId := by simp at hsel; exact hsel.1.1
    obtain rfl := hrewrite.eq_of_id hmem (hrow.trans hid.symm)
    obtain ⟨rfl, hrecord, rfl⟩ :=
      hrewrite.required (by rw [hrow]; exact requireAction_eq_ok.mpr hread)
    exact ⟨row, hrow, hstored, hmay, rfl, hrecord, hrewrite⟩

theorem transitionStatement_spec {next : JournalState} {resultClass : Option JournalResultClass}
    (h : transitionStatement journalId next resultClass now before = .ok (record, after)) :
    ∃ row, row.journalId = journalId ∧ StoredRecord row ∧
      next ∈ row.state.allowedTransitions ∧
      resultClass = resultForState next ∧
      record = row.transitioned next resultClass now ∧
      StoredRecord record ∧ JournalRewrite before after row record := by
  unfold transitionStatement at h
  simp only [Transaction.bind_eq_ok, Transaction.ensure_eq_ok,
    Transaction.check_eq_ok, assertJournalTransition_eq_ok,
    assertJournalResultClass_eq_ok, requireAction_eq_ok] at h
  obtain ⟨current, _, ⟨⟨hmem, hid, hstored⟩, rfl⟩, _, _, ⟨hallowed, rfl⟩, _, _,
    ⟨hclass, rfl⟩, changes, mid, hupdate, _, _, ⟨hone, rfl⟩, hread⟩ := h
  rcases updateJournal_cases journalId hupdate
    (fun row hrow => by simp at hrow; exact hrow.1) (fun row => rfl) with
    ⟨hzero, -⟩ | ⟨-, row, hsel, hrewrite⟩
  · simp [hzero] at hone
  · have hrow : row.journalId = journalId := by simp at hsel; exact hsel.1
    obtain rfl := hrewrite.eq_of_id hmem (hrow.trans hid.symm)
    obtain ⟨rfl, hrecord, rfl⟩ :=
      hrewrite.required (by rw [hrow]; exact requireAction_eq_ok.mpr hread)
    exact ⟨row, hrow, hstored, hallowed, hclass, rfl, hrecord, hrewrite⟩

theorem claimStatement_none (h : claimStatement journalId owner now expiresAt before =
      .ok (none, after)) : after = before := by
  unfold claimStatement at h
  simp only [Transaction.bind_eq_ok, Transaction.pure_eq_ok] at h
  obtain ⟨changes, mid, hupdate, hresult, rfl⟩ := h
  rcases updateJournal_cases journalId hupdate
    (fun row hrow => by simp at hrow; exact hrow.1.1) (fun row => rfl) with
    ⟨-, hsame⟩ | ⟨hone, -⟩
  · exact hsame
  · simp [hone] at hresult

theorem claimStatement_some (h : claimStatement journalId owner now expiresAt before =
      .ok (some lease, after)) :
    lease = ⟨journalId, owner, expiresAt⟩ ∧
      ∃ row, row.journalId = journalId ∧ row.state.reconcilable = true ∧
        row.leaseFree now = true ∧
        JournalRewrite before after row (row.leased owner expiresAt now) := by
  unfold claimStatement at h
  simp only [Transaction.bind_eq_ok, Transaction.pure_eq_ok] at h
  obtain ⟨changes, mid, hupdate, hresult, rfl⟩ := h
  rcases updateJournal_cases journalId hupdate
    (fun row hrow => by simp at hrow; exact hrow.1.1) (fun row => rfl) with
    ⟨hzero, -⟩ | ⟨hone, row, hsel, hrewrite⟩
  · simp [hzero] at hresult
  · simp only [hone, if_true, Option.some.injEq] at hresult
    simp at hsel
    exact ⟨hresult.symm, row, hsel.1.1, hsel.1.2, hsel.2, hrewrite⟩

theorem claimStatement_succeeds (owner : String) (expiresAt : ℤ)
    (hrow : row ∈ before.actionJournal) (hid : row.journalId = journalId)
    (hstate : row.state.reconcilable = true) (hfree : row.leaseFree now = true) :
    ∃ after, claimStatement journalId owner now expiresAt before =
      .ok (some ⟨journalId, owner, expiresAt⟩, after) ∧
      JournalRewrite before after row (row.leased owner expiresAt now) := by
  obtain ⟨after, hupdate⟩ := updateJournal_succeeds
    (fun row => row.journalId == journalId && row.state.reconcilable && row.leaseFree now)
    (PreparedActionRecord.leased owner expiresAt now) (fun row => ⟨rfl, rfl⟩)
    before
  have hpos : 0 < Table.changes before.actionJournal fun row =>
      row.journalId == journalId && row.state.reconcilable && row.leaseFree now :=
    List.countP_pos_iff.mpr ⟨row, hrow, by simp [hid, hstate, hfree]⟩
  rcases updateJournal_cases journalId hupdate
    (fun row hrow => by simp at hrow; exact hrow.1.1) (fun row => rfl) with
    ⟨hzero, -⟩ | ⟨hone, other, hsel, hrewrite⟩
  · omega
  · simp at hsel
    obtain rfl := hrewrite.eq_of_id hrow (hsel.1.1.trans hid.symm)
    refine ⟨after, ?_, hrewrite⟩
    unfold claimStatement
    refine Transaction.bind_eq_ok.mpr ⟨_, after, hupdate, ?_⟩
    rw [hone]
    rfl

theorem Database.nextCandidate_mem {database : Database} {candidate : PreparedActionRecord}
    (h : database.nextCandidate now = some candidate) :
    candidate ∈ database.actionJournal ∧ candidate.state.reconcilable = true ∧
      candidate.nextReconciliationAt ≤ now ∧ candidate.leaseFree now = true := by
  unfold Database.nextCandidate at h
  have hmem := List.mem_of_mem_head? h
  rw [List.mem_insertionSort, List.mem_filter] at hmem
  obtain ⟨hmem, hsel⟩ := hmem
  simp at hsel
  exact ⟨hmem, hsel.1.1, hsel.1.2, hsel.2⟩

theorem claimNextStatement_none
    (h : claimNextStatement owner now expiresAt before = .ok (none, after)) : after = before := by
  unfold claimNextStatement at h
  simp only [Transaction.bind_eq_ok, Transaction.read_eq_ok] at h
  obtain ⟨_, _, ⟨rfl, rfl⟩, h⟩ := h
  cases hcandidate : before.nextCandidate now with
  | none =>
    simp only [hcandidate, Transaction.pure_eq_ok] at h
    exact h.2.symm
  | some candidate =>
    simp only [hcandidate, Transaction.bind_eq_ok] at h
    obtain ⟨changes, mid, hupdate, h⟩ := h
    rcases updateJournal_cases candidate.journalId hupdate
      (fun row hrow => by simp at hrow; exact hrow.1) (fun row => rfl) with
      ⟨hzero, hsame⟩ | ⟨hone, -⟩
    · simp [hzero] at h
      exact h.symm.trans hsame
    · simp [hone] at h

theorem claimNextStatement_some (h : claimNextStatement owner now expiresAt before =
      .ok (some (record, lease), after)) :
    lease = ⟨record.journalId, owner, expiresAt⟩ ∧ StoredRecord record ∧
      ∃ row, row.state.reconcilable = true ∧ row.leaseFree now = true ∧
        record = row.leased owner expiresAt now ∧
        JournalRewrite before after row record := by
  unfold claimNextStatement at h
  simp only [Transaction.bind_eq_ok, Transaction.read_eq_ok] at h
  obtain ⟨_, _, ⟨rfl, rfl⟩, h⟩ := h
  cases hcandidate : before.nextCandidate now with
  | none =>
    simp [hcandidate] at h
  | some candidate =>
    obtain ⟨hmem, hstate, -, hfree⟩ := Database.nextCandidate_mem hcandidate
    simp only [hcandidate, Transaction.bind_eq_ok] at h
    obtain ⟨changes, mid, hupdate, h⟩ := h
    rcases updateJournal_cases candidate.journalId hupdate
      (fun row hrow => by simp at hrow; exact hrow.1) (fun row => rfl) with
      ⟨hzero, -⟩ | ⟨hone, row, hsel, hrewrite⟩
    · simp [hzero] at h
    · simp only [hone, if_true, Transaction.bind_eq_ok,
        Transaction.pure_eq_ok, Option.some.injEq, Prod.mk.injEq] at h
      obtain ⟨found, _, hread, ⟨rfl, rfl⟩, rfl⟩ := h
      have hid : row.journalId = candidate.journalId := by
        simp at hsel
        exact hsel.1
      obtain rfl := hrewrite.eq_of_id hmem hid
      obtain ⟨rfl, hstored, rfl⟩ := hrewrite.required hread
      exact ⟨rfl, hstored, row, hstate, hfree, rfl, hrewrite⟩

theorem renewStatement_none (h : renewStatement lease now expiresAt before = .ok (none, after)) :
    after = before := by
  unfold renewStatement at h
  simp only [Transaction.bind_eq_ok, Transaction.pure_eq_ok] at h
  obtain ⟨changes, mid, hupdate, hresult, rfl⟩ := h
  rcases updateJournal_cases lease.journalId hupdate
    (fun row hrow => (PreparedActionRecord.of_holds (Bool.and_eq_true_iff.mp hrow).1).1)
    (fun row => rfl) with ⟨-, hsame⟩ | ⟨hone, -⟩
  · exact hsame
  · simp [hone] at hresult

theorem renewStatement_some {renewed : ReconciliationLease}
    (h : renewStatement lease now expiresAt before = .ok (some renewed, after)) :
    renewed = { lease with expiresAt := expiresAt } ∧
      ∃ row, row.holds lease = true ∧ now < lease.expiresAt ∧
        JournalRewrite before after row (row.renewed expiresAt now) := by
  unfold renewStatement at h
  simp only [Transaction.bind_eq_ok, Transaction.pure_eq_ok] at h
  obtain ⟨changes, mid, hupdate, hresult, rfl⟩ := h
  rcases updateJournal_cases lease.journalId hupdate
    (fun row hrow => (PreparedActionRecord.of_holds (Bool.and_eq_true_iff.mp hrow).1).1)
    (fun row => rfl) with ⟨hzero, -⟩ | ⟨hone, row, hsel, hrewrite⟩
  · simp [hzero] at hresult
  · simp only [hone, if_true, Option.some.injEq] at hresult
    rw [Bool.and_eq_true] at hsel
    have hexpires := (PreparedActionRecord.of_holds hsel.1).2.2
    refine ⟨hresult.symm, row, hsel.1, ?_, hrewrite⟩
    simpa [hexpires] using hsel.2

theorem renewStatement_succeeds (expiresAt : ℤ)
    (hrow : row ∈ before.actionJournal) (hholds : row.holds lease = true)
    (hlive : now < lease.expiresAt) :
    ∃ after, renewStatement lease now expiresAt before =
      .ok (some { lease with expiresAt := expiresAt }, after) ∧
      JournalRewrite before after row (row.renewed expiresAt now) := by
  obtain ⟨hid, howner, hexpires⟩ := PreparedActionRecord.of_holds hholds
  obtain ⟨after, hupdate⟩ := updateJournal_succeeds
    (fun row => row.holds lease && row.leaseExpiresAt.any fun at_ => now < at_)
    (PreparedActionRecord.renewed expiresAt now) (fun row => ⟨rfl, rfl⟩) before
  have hpos : 0 < Table.changes before.actionJournal fun row =>
      row.holds lease && row.leaseExpiresAt.any fun at_ => now < at_ :=
    List.countP_pos_iff.mpr ⟨row, hrow, by simp [hholds, hexpires, hlive]⟩
  rcases updateJournal_cases lease.journalId hupdate
    (fun row hrow => (PreparedActionRecord.of_holds (Bool.and_eq_true_iff.mp hrow).1).1)
    (fun row => rfl) with ⟨hzero, -⟩ | ⟨hone, other, hsel, hrewrite⟩
  · omega
  · have hother := (PreparedActionRecord.of_holds (Bool.and_eq_true_iff.mp hsel).1).1
    obtain rfl := hrewrite.eq_of_id hrow (hother.trans hid.symm)
    refine ⟨after, ?_, hrewrite⟩
    unfold renewStatement
    refine Transaction.bind_eq_ok.mpr ⟨_, after, hupdate, ?_⟩
    rw [hone]
    rfl

theorem releaseStatement_false (h : releaseStatement lease now before = .ok (false, after)) :
    after = before := by
  unfold releaseStatement at h
  simp only [Transaction.bind_eq_ok, Transaction.pure_eq_ok] at h
  obtain ⟨changes, mid, hupdate, hresult, rfl⟩ := h
  rcases updateJournal_cases lease.journalId hupdate
    (fun row hrow => (PreparedActionRecord.of_holds hrow).1) (fun row => rfl) with ⟨-, hsame⟩ | ⟨hone, -⟩
  · exact hsame
  · simp [hone] at hresult

theorem releaseStatement_true (h : releaseStatement lease now before = .ok (true, after)) :
    ∃ row, row.holds lease = true ∧
      JournalRewrite before after row (row.released now) := by
  unfold releaseStatement at h
  simp only [Transaction.bind_eq_ok, Transaction.pure_eq_ok] at h
  obtain ⟨changes, mid, hupdate, hresult, rfl⟩ := h
  rcases updateJournal_cases lease.journalId hupdate
    (fun row hrow => (PreparedActionRecord.of_holds hrow).1) (fun row => rfl) with ⟨hzero, -⟩ | ⟨-, row, hsel, hrewrite⟩
  · simp [hzero] at hresult
  · exact ⟨row, hsel, hrewrite⟩

theorem scheduleStatement_spec {nextAttemptAt : ℤ}
    (h : scheduleStatement journalId owner now nextAttemptAt before = .ok (record, after)) :
    ∃ row, row.journalId = journalId ∧ StoredRecord row ∧
      row.leasedBy owner now = true ∧
      record = row.scheduled now nextAttemptAt ∧ StoredRecord record ∧
      JournalRewrite before after row record := by
  unfold scheduleStatement at h
  simp only [Transaction.bind_eq_ok, Transaction.ensure_eq_ok, requireAction_eq_ok] at h
  obtain ⟨current, _, ⟨⟨hmem, hid, hstored⟩, rfl⟩, _, _, ⟨hleased, rfl⟩,
    changes, mid, hupdate, _, _, ⟨hone, rfl⟩, hread⟩ := h
  rcases updateJournal_cases journalId hupdate
    (fun row hrow => by simp at hrow; exact hrow.1) (fun row => rfl) with
    ⟨hzero, -⟩ | ⟨-, row, hsel, hrewrite⟩
  · simp [hzero] at hone
  · have hrow : row.journalId = journalId := by simp at hsel; exact hsel.1
    obtain rfl := hrewrite.eq_of_id hmem (hrow.trans hid.symm)
    obtain ⟨rfl, hrecord, rfl⟩ :=
      hrewrite.required (by rw [hrow]; exact requireAction_eq_ok.mpr hread)
    exact ⟨row, hrow, hstored, hleased, rfl, hrecord, hrewrite⟩

/-- What the restart recovery makes of a row: itself, or the row its decision
leads to, which reads back. -/
def Recovered (row row' : PreparedActionRecord) : Prop :=
  row' = row ∨ ∃ state now, restartRecoveryDecision row = .transition state ∧
    state ∈ row.state.allowedTransitions ∧ row' = row.recovered state now ∧
    StoredRecord row'

theorem Recovered.change {row' : PreparedActionRecord} (h : Recovered row row') :
    row' = row ∨ RowChange row row' ∧ StoredRecord row' := by
  rcases h with rfl | ⟨state, now, hdecision, hallowed, rfl, hstored⟩
  · exact .inl rfl
  · exact .inr ⟨.recover hdecision hallowed, hstored⟩

theorem recoverRow_spec {changed : Option PreparedActionRecord}
    (h : recoverRow now row before = .ok (changed, after)) :
    restartRecoveryDecision row = .unchanged ∧ after = before ∨ ∃ state old,
      restartRecoveryDecision row = .transition state ∧
      state ∈ row.state.allowedTransitions ∧
      old.journalId = row.journalId ∧ old.state = row.state ∧
      StoredRecord (old.recovered state now) ∧
      JournalRewrite before after old (old.recovered state now) := by
  unfold recoverRow at h
  simp only [Transaction.bind_eq_ok, Transaction.check_eq_ok, fromRow_eq_ok] at h
  obtain ⟨current, _, ⟨⟨hcurrent, hrow⟩, rfl⟩, h⟩ := h
  rw [hcurrent] at h
  cases hdecision : restartRecoveryDecision row with
  | unchanged =>
    simp only [hdecision, Transaction.pure_eq_ok] at h
    exact .inl ⟨rfl, h.2.symm⟩
  | transition state =>
    right
    simp only [hdecision, Transaction.bind_eq_ok, Transaction.ensure_eq_ok,
      Transaction.pure_eq_ok] at h
    obtain ⟨changes, mid, hupdate, _, _, ⟨hone, rfl⟩, record, _, hread, -, rfl⟩ := h
    rcases updateJournal_cases row.journalId hupdate
      (fun row hrow => by simp at hrow; exact hrow.1) (fun row => rfl) with
      ⟨hzero, -⟩ | ⟨-, old, hsel, hrewrite⟩
    · simp [hzero] at hone
    · simp at hsel
      rw [← hsel.1] at hread
      obtain ⟨-, hstored, rfl⟩ := hrewrite.required hread
      exact ⟨state, old, rfl, restartRecoveryDecision_allowed hrow hdecision,
        hsel.1, hsel.2, hstored, hrewrite⟩

theorem recoverRows_spec {start : Database} :
    ∀ {rows : List PreparedActionRecord} {before after : Database}
      {changed : List PreparedActionRecord},
      (∀ row ∈ rows, row ∈ start.actionJournal) →
      Table.Follows PreparedActionRecord.key Recovered (fun _ => False)
        start.actionJournal before.actionJournal →
      before.signerScopes = start.signerScopes →
      recoverRows now rows before = .ok (changed, after) →
      Table.Follows PreparedActionRecord.key Recovered (fun _ => False)
        start.actionJournal after.actionJournal ∧
        after.signerScopes = start.signerScopes
  | [], before, after, changed, _, hfollows, hscopes, h => by
    simp only [recoverRows, Transaction.pure_eq_ok] at h
    obtain ⟨-, rfl⟩ := h
    exact ⟨hfollows, hscopes⟩
  | row :: rows, before, after, changed, hrows, hfollows, hscopes, h => by
    simp only [recoverRows, Transaction.bind_eq_ok] at h
    obtain ⟨first, mid, hrow, later, last, hlater, h⟩ := h
    obtain ⟨-, rfl⟩ := Transaction.pure_eq_ok.mp h
    have hrow_mem := hrows row List.mem_cons_self
    have hrows_mem : ∀ other ∈ rows, other ∈ start.actionJournal :=
      fun other hother => hrows other (List.mem_cons_of_mem _ hother)
    rcases recoverRow_spec hrow with
      ⟨-, rfl⟩ | ⟨state, old, hdecision, hallowed, hid, hstate, hstored, hrewrite⟩
    · exact recoverRows_spec hrows_mem hfollows hscopes hlater
    · -- the row rewritten here has not been recovered before
      obtain rfl : old = row := by
        rcases hfollows.backward old hrewrite.rewrites.mem with
          ⟨origin, horigin, hkey, hrecovered⟩ | hfalse
        · obtain rfl := start.uniqueIds.eq_of_mem horigin hrow_mem
            (hkey.symm.trans hid)
          rcases hrecovered with rfl | ⟨moved, _, -, hmoved, rfl, -⟩
          · rfl
          · have hsame : moved = origin.state := hstate
            have hrank := lifecycleRank_lt hmoved
            rw [hsame] at hrank
            exact absurd hrank (lt_irrefl _)
        · exact hfalse.elim
      refine recoverRows_spec hrows_mem ?_ (hrewrite.scopes.trans hscopes) hlater
      constructor
      · intro origin horigin
        obtain ⟨current, hcurrent, hkey, hstep⟩ := hfollows.forward origin horigin
        by_cases hsame : current.journalId = old.journalId
        · obtain rfl := start.uniqueIds.eq_of_mem horigin hrow_mem
            (hkey.symm.trans hsame)
          exact ⟨_, hrewrite.rewrites.mem_after, rfl,
            .inr ⟨state, now, hdecision, hallowed, rfl, hstored⟩⟩
        · exact ⟨current, (hrewrite.rewrites.others current hsame).mpr hcurrent, hkey, hstep⟩
      · intro current hcurrent
        by_cases hsame : current.journalId = old.journalId
        · obtain rfl := mid.uniqueIds.eq_of_mem hcurrent
            hrewrite.rewrites.mem_after hsame
          exact .inl ⟨old, hrow_mem, rfl, .inr ⟨state, now, hdecision, hallowed, rfl, hstored⟩⟩
        · exact hfollows.backward current
            ((hrewrite.rewrites.others current hsame).mp hcurrent)

theorem recoverStatement_spec {changed : List PreparedActionRecord}
    (h : recoverStatement now before = .ok (changed, after)) :
    Table.Follows PreparedActionRecord.key Recovered (fun _ => False)
      before.actionJournal after.actionJournal ∧
      after.signerScopes = before.signerScopes := by
  unfold recoverStatement at h
  simp only [Transaction.bind_eq_ok, Transaction.read_eq_ok] at h
  obtain ⟨_, _, ⟨rfl, rfl⟩, h⟩ := h
  refine recoverRows_spec ?_ (Table.Follows.refl (fun row => .inl rfl) _) rfl h
  intro row hrow
  rw [List.mem_insertionSort] at hrow
  exact List.mem_of_mem_filter hrow

end HyperTrader
