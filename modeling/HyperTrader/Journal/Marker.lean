import HyperTrader.Journal.WellFormed
import HyperTrader.Library.Triple

/-!
# The submission marker

Only `markSubmissionStarted` sets the marker of a row, and only on a row that is
`prepared`. Every other call keeps the markers as they are, and keeps them in
agreement with the states: a row without a marker is `prepared` or abandoned.
-/

namespace HyperTrader

open Library

def PreparedActionRecord.MarkerAgrees (row : PreparedActionRecord) : Prop :=
  row.submissionStartedAt = none ↔
    row.state = .prepared ∨ row.state = .abandonedBeforeSubmission

theorem StoredRecord.markerAgrees {row : PreparedActionRecord}
    (h : StoredRecord row) : row.MarkerAgrees := h.marker.2

structure MarkerKept (row row' : PreparedActionRecord) : Prop where
  captured : row'.toPreparedActionInput = row.toPreparedActionInput
  marker : row'.submissionStartedAt = row.submissionStartedAt
  lifecycle : LifecycleKept row row'
  agrees : row.MarkerAgrees → row'.MarkerAgrees

namespace MarkerKept

theorem refl (row : PreparedActionRecord) : MarkerKept row row :=
  ⟨rfl, rfl, .refl row, id⟩

theorem of_state_eq {row row' : PreparedActionRecord} (h : RowChange row row')
    (hmarker : row'.submissionStartedAt = row.submissionStartedAt)
    (hstate : row'.state = row.state) : MarkerKept row row' where
  captured := h.captured
  marker := hmarker
  lifecycle := h.lifecycleKept
  agrees hagrees := by
    unfold PreparedActionRecord.MarkerAgrees
    rw [hmarker, hstate]
    exact hagrees

variable {now : ℤ}

theorem transition {row : PreparedActionRecord} {next : JournalState}
    (hallowed : next ∈ row.state.allowedTransitions)
    (hstored : StoredRecord (row.transitioned next (resultForState next) now)) :
    MarkerKept row (row.transitioned next (resultForState next) now) where
  captured := rfl
  marker := rfl
  lifecycle := (RowChange.transition hallowed).lifecycleKept
  agrees _ := hstored.markerAgrees

theorem schedule {row : PreparedActionRecord} {owner : String}
    {nextAttemptAt : ℤ} (hleased : row.leasedBy owner now = true)
    (hstate : row.state.reconcilable = true)
    (hstored : StoredRecord (row.scheduled now nextAttemptAt)) :
    MarkerKept row (row.scheduled now nextAttemptAt) where
  captured := rfl
  marker := rfl
  lifecycle := (RowChange.schedule hleased hstate).lifecycleKept
  agrees _ := hstored.markerAgrees

theorem recovered {row row' : PreparedActionRecord} (h : Recovered row row') :
    MarkerKept row row' := by
  rcases h with rfl | ⟨state, now, hdecision, hallowed, rfl, hstored⟩
  · exact refl _
  · exact ⟨rfl, rfl, (RowChange.recover hdecision hallowed).lifecycleKept,
      fun _ => hstored.markerAgrees⟩

end MarkerKept

def MarkersKept (before after : Database) : Prop :=
  Table.Follows PreparedActionRecord.key MarkerKept (fun _ => False)
    before.actionJournal after.actionJournal

namespace MarkersKept

theorem of_eq {before after : Database} (h : after.actionJournal = before.actionJournal) :
    MarkersKept before after := by
  unfold MarkersKept
  rw [h]
  exact Table.Follows.refl MarkerKept.refl _

theorem of_rewrite {before after : Database} {row row' : PreparedActionRecord}
    (hrewrite : JournalRewrite before after row row') (h : MarkerKept row row') :
    MarkersKept before after :=
  hrewrite.rewrites.follows MarkerKept.refl before.uniqueIds after.uniqueIds h

end MarkersKept

def RepositoryCall.keepsMarkers : RepositoryCall → Bool
  | .reservePreparedAction _ _ _ => false
  | .markSubmissionStarted _ _ _ => false
  | _ => true

variable {fault : Option Failure} {journalId : String} {now : ℤ} {s s' : Repository}
  {record : PreparedActionRecord}

theorem transitionAction_ok {next : JournalState} {resultClass : Option JournalResultClass}
    (h : transitionAction fault journalId next resultClass now s = (.ok record, s')) :
    record.journalId = journalId ∧ record.state = next ∧ StoredRecord record ∧
      ∃ row, MarkerKept row record ∧
        JournalRewrite s.database s'.database row record := by
  unfold transitionAction at h
  simp only [Action.bind_eq_ok, Action.check_apply, Prod.mk.injEq,
    immediate_eq_ok, Action.modify_apply, Action.pure_apply, Except.ok.injEq] at h
  obtain ⟨_, _, ⟨-, rfl⟩, made, _, ⟨-, database, htransition, rfl⟩, _, _, ⟨-, rfl⟩, hmade, rfl⟩ := h
  obtain ⟨row, hid, -, hallowed, rfl, hwritten, hstored, hrewrite⟩ :=
    transitionStatement_spec htransition
  subst hmade
  subst hwritten
  exact ⟨hid, rfl, hstored, row, .transition hallowed hstored, hrewrite⟩

/-- Only a reservation and the start of a submission write a marker. -/
theorem perform_markersKept {viem : Viem} {repository : Repository}
    {call : RepositoryCall} (h : call.keepsMarkers = true) :
    MarkersKept repository.database (perform viem repository call).database := by
  have hsame : ∀ {database : Database}, database = repository.database →
      MarkersKept repository.database database := by
    rintro _ rfl
    exact .of_eq rfl
  have heffect : ∀ {α : Type} {m : Method α}, Effect MarkersKept m →
      MarkersKept repository.database (m repository).2.database := by
    intro α m hm
    exact (hm repository).elim hsame id
  cases call with
  | registerActiveSignerScope fault input =>
    apply heffect
    refine .check_bind fun _ _ => .check_bind fun _ _ => .check_bind fun _ _ => ?_
    refine Effect.immediate fun a before after hrun => ?_
    exact .of_eq (registerStatement_spec hrun).2
  | markSignerRetiring fault binding now =>
    apply heffect
    refine .check_bind fun _ _ => .check_bind fun _ _ => ?_
    refine Effect.immediate fun a before after hrun => ?_
    exact .of_eq (markRetiringStatement_spec hrun).2
  | retireSignerScope fault binding input =>
    apply heffect
    refine .check_bind fun _ _ => ?_
    refine Effect.immediate fun a before after hrun => ?_
    exact .of_eq (retireStatement_spec hrun).2
  | transitionAction fault journalId next resultClass now =>
    apply heffect
    refine .check_bind fun _ _ => ?_
    refine Effect.immediate_bind (fun a before after hrun => ?_) fun _ _ => rfl
    obtain ⟨row, -, -, hallowed, rfl, rfl, hstored, hrewrite⟩ :=
      transitionStatement_spec hrun
    exact .of_rewrite hrewrite (.transition hallowed hstored)
  | claimReconciliationLease fault journalId owner now leaseDurationMs =>
    apply heffect
    refine .check_bind fun _ _ => .check_bind fun _ _ => .check_bind fun _ _ => ?_
    refine Effect.immediate fun a before after hrun => ?_
    cases a with
    | none => exact .of_eq (by rw [claimStatement_none hrun])
    | some lease =>
      obtain ⟨-, row, -, hstate, hfree, hrewrite⟩ := claimStatement_some hrun
      exact .of_rewrite hrewrite
        (.of_state_eq (.claim hstate hfree) rfl rfl)
  | claimNextReconciliation fault owner now leaseDurationMs =>
    apply heffect
    refine .check_bind fun _ _ => .check_bind fun _ _ => .check_bind fun _ _ => ?_
    refine Effect.immediate fun a before after hrun => ?_
    cases a with
    | none => exact .of_eq (by rw [claimNextStatement_none hrun])
    | some claimed =>
      obtain ⟨record, lease⟩ := claimed
      obtain ⟨-, -, row, hstate, hfree, rfl, hrewrite⟩ :=
        claimNextStatement_some hrun
      exact .of_rewrite hrewrite
        (.of_state_eq (.claim hstate hfree) rfl rfl)
  | renewReconciliationLease fault lease now leaseDurationMs =>
    apply heffect
    refine .check_bind fun _ _ => .check_bind fun _ _ => .check_bind fun _ _ => ?_
    refine Effect.immediate fun a before after hrun => ?_
    cases a with
    | none => exact .of_eq (by rw [renewStatement_none hrun])
    | some renewed =>
      obtain ⟨-, row, hholds, hlive, hrewrite⟩ := renewStatement_some hrun
      exact .of_rewrite hrewrite
        (.of_state_eq (.renew hholds hlive) rfl rfl)
  | releaseReconciliationLease fault lease now =>
    apply heffect
    refine .check_bind fun _ _ => .check_bind fun _ _ => ?_
    refine Effect.immediate fun a before after hrun => ?_
    cases a with
    | false => exact .of_eq (by rw [releaseStatement_false hrun])
    | true =>
      obtain ⟨row, hholds, hrewrite⟩ := releaseStatement_true hrun
      exact .of_rewrite hrewrite (.of_state_eq (.release hholds) rfl rfl)
  | scheduleReconciliation fault journalId owner now nextAttemptAt =>
    apply heffect
    refine .check_bind fun _ _ => .check_bind fun _ _ => .check_bind fun _ _ => ?_
    refine .check_bind fun _ _ => ?_
    refine Effect.immediate fun a before after hrun => ?_
    obtain ⟨row, -, hrow, hleased, rfl, hstored, hrewrite⟩ :=
      scheduleStatement_spec hrun
    have howner : row.leaseOwner = some owner := by
      simp [PreparedActionRecord.leasedBy] at hleased
      exact hleased.1
    exact .of_rewrite hrewrite
      (.schedule hleased (hrow.reconcilable_of_lease howner) hstored)
  | recoverAfterRestart fault now =>
    apply heffect
    refine .check_bind fun _ _ => Effect.modify_bind (fun _ => rfl) ?_
    refine Effect.immediate fun a before after hrun => ?_
    exact (recoverStatement_spec hrun).1.mono
      (fun _ _ _ hrow => .recovered hrow) fun _ _ hfalse => hfalse.elim
  | restart => exact hsame rfl
  | reservePreparedAction => simp [RepositoryCall.keepsMarkers] at h
  | markSubmissionStarted => simp [RepositoryCall.keepsMarkers] at h

theorem markSubmissionStarted_ok {receipt : SubmissionStartReceipt}
    (h : markSubmissionStarted fault journalId now s = (.ok receipt, s')) :
    receipt.transportPermit = createTransportWritePermit journalId ∧
      ∃ row, row.journalId = journalId ∧ mayMarkSubmissionStarted row now ∧
        StoredRecord (row.marked now) ∧
        JournalRewrite s.database s'.database row (row.marked now) := by
  unfold markSubmissionStarted at h
  simp only [Action.bind_eq_ok, Action.check_apply, Action.get_apply,
    Action.modify_apply, Action.pure_apply, Prod.mk.injEq, immediate_eq_ok, Except.ok.injEq] at h
  obtain ⟨_, _, ⟨-, rfl⟩, _, _, ⟨-, rfl⟩, expiry, _, ⟨-, rfl⟩, _, mid, ⟨-, rfl⟩,
    record, _, ⟨-, database, hmark, rfl⟩, _, _, ⟨-, rfl⟩, rfl, rfl⟩ := h
  obtain ⟨row, hid, -, hmay, rfl, hstored, hrewrite⟩ := markStatement_spec hmark
  refine ⟨rfl, row, hid, hmay, hstored, ?_⟩
  have hdatabase : (if expiry ≤ now then s.forget journalId else s).database =
      s.database := by
    split <;> rfl
  rwa [hdatabase] at hrewrite

theorem immediate_meets {α : Type} {pre : Repository → Prop} {operation : Statement α} :
    Action.Meets pre (immediate fault operation) (fun _ _ => True) pre where
  returns _ _ _ _ _ := trivial
  throws s e s' hs hrun := by
    rwa [FailsClean.immediate fault operation s s' e hrun]

theorem markSubmissionStarted_error {failure : Failure}
    (h : markSubmissionStarted fault journalId now s = (.error failure, s')) :
    s'.database = s.database := by
  let kept : Repository → Prop := fun t => t.database = s.database
  have hforget : ∀ forget : Repository → Repository,
      (∀ t, (forget t).database = t.database) → Action.Meets kept
        (Action.modify forget : Method Unit) (fun _ => kept) kept :=
    fun forget hforget => .modify fun t ht => (hforget t).trans ht
  have hdone : ∀ forget : Repository → Repository, Action.Meets (fun _ => True)
      (Action.modify forget : Method Unit) (fun _ _ => True) kept :=
    fun _ => .modify fun _ _ => trivial
  have hmeets : Action.Meets kept (markSubmissionStarted fault journalId now)
      (fun _ _ => True) kept := by
    unfold markSubmissionStarted
    refine .check_bind (fun _ ht => ht) fun _ _ => ?_
    refine .get_bind fun t => .weaken ?_ (fun _ ht => ht.2) (fun _ _ h => h)
      fun _ h => h
    refine .check_bind (fun _ ht => ht) fun expiry _ => ?_
    refine .bind (hforget _ fun t => ?_) fun _ => ?_
    · split <;> rfl
    -- only the transaction may throw from here on
    refine .bind immediate_meets fun _ => ?_
    exact .bind (hdone _) fun _ => .pure fun _ _ => trivial
  exact hmeets.throws s failure s' rfl h

theorem Reserved.fresh {binding : SignerBinding}
    {input : AtomicActionReservationInput} {before after : Database} {allocation : NonceAllocation}
    {scope : SignerScopeRow} (h : Reserved binding input before after record allocation scope) :
    ∀ row ∈ before.actionJournal, row.journalId ≠ record.journalId := by
  intro row hrow
  have hunique : Table.UniqueKeys PreparedActionRecord.key
      (before.actionJournal ++ [record]) := h.journal ▸ after.uniqueIds
  exact (List.pairwise_append.mp hunique).2.2 row hrow record List.mem_cons_self

/-- What happens to a row along any run: it captures what it captured, it does not
leave a terminal state or come back to `prepared`, and it keeps its marker. -/
structure RowAged (row row' : PreparedActionRecord) : Prop where
  captured : row'.toPreparedActionInput = row.toPreparedActionInput
  terminal : isTerminalJournalState row.state = true → row'.state = row.state
  prepared : row'.state = .prepared → row.state = .prepared
  started : row.submissionStartedAt.isSome = true →
    row'.submissionStartedAt = row.submissionStartedAt
  agrees : row.MarkerAgrees → row'.MarkerAgrees

theorem RowAged.refl (row : PreparedActionRecord) : RowAged row row :=
  ⟨rfl, fun _ => rfl, id, fun _ => rfl, id⟩

theorem RowAged.trans {row row' row'' : PreparedActionRecord}
    (h : RowAged row row') (h' : RowAged row' row'') : RowAged row row'' where
  captured := h'.captured.trans h.captured
  terminal hterminal := by
    have hstate := h.terminal hterminal
    exact (h'.terminal (hstate ▸ hterminal)).trans hstate
  prepared hprepared := h.prepared (h'.prepared hprepared)
  started hstarted := by
    have hmarker := h.started hstarted
    exact (h'.started (hmarker ▸ hstarted)).trans hmarker
  agrees hagrees := h'.agrees (h.agrees hagrees)

structure RowKept (marked : Option String) (row row' : PreparedActionRecord) :
    Prop extends RowAged row row' where
  marker : some row.journalId ≠ marked →
    row'.submissionStartedAt = row.submissionStartedAt

namespace RowKept

variable {marked : Option String} {row row' : PreparedActionRecord}

theorem refl (row : PreparedActionRecord) : RowKept marked row row :=
  ⟨.refl row, fun _ => rfl⟩

theorem trans {row'' : PreparedActionRecord} (h : RowKept marked row row')
    (h' : RowKept marked row' row'') : RowKept marked row row'' where
  toRowAged := h.toRowAged.trans h'.toRowAged
  marker hid := by
    have hsame : row'.journalId = row.journalId := by rw [h.captured]
    exact (h'.marker (hsame.symm ▸ hid)).trans (h.marker hid)

theorem of_markerKept (h : MarkerKept row row') : RowKept marked row row' where
  captured := h.captured
  terminal := h.lifecycle.terminal
  prepared hprepared := by
    rcases h.lifecycle.state with hsame | hallowed
    · rw [← hsame]
      exact hprepared
    · exact absurd hprepared (ne_prepared_of_mem_allowedTransitions hallowed)
  started _ := h.marker
  agrees := h.agrees
  marker _ := h.marker

theorem marking {now : ℤ} (h : mayMarkSubmissionStarted row now)
    (hstored : StoredRecord (row.marked now)) :
    RowKept (some row.journalId) row (row.marked now) where
  captured := rfl
  terminal := (RowChange.mark h).terminal
  prepared := (RowChange.mark h).prepared
  started hstarted := by simp [h.2.1] at hstarted
  agrees _ := hstored.markerAgrees
  marker hid := absurd rfl hid

end RowKept

def RowsAged (before after : Database) : Prop :=
  Table.Follows PreparedActionRecord.key RowAged PreparedActionRecord.MarkerAgrees
    before.actionJournal after.actionJournal

theorem RowsAged.refl (database : Database) : RowsAged database database :=
  Table.Follows.refl RowAged.refl _

theorem RowsAged.trans {before mid after : Database} (h : RowsAged before mid)
    (h' : RowsAged mid after) : RowsAged before after :=
  Table.Follows.trans (fun _ _ _ hab hbc => hab.trans hbc)
    (fun _ _ hagrees hkept => hkept.agrees hagrees) h h'

/-- Every row lives on, and only the record `marked` may have got its marker. -/
def RowsKept (marked : Option String) (before after : Database) : Prop :=
  Table.Follows PreparedActionRecord.key (RowKept marked)
    PreparedActionRecord.MarkerAgrees before.actionJournal after.actionJournal

namespace RowsKept

variable {marked : Option String} {before after : Database}

theorem refl (database : Database) : RowsKept marked database database :=
  Table.Follows.refl RowKept.refl _

theorem of_eq (h : after = before) : RowsKept marked before after := by
  rw [h]
  exact .refl before

theorem trans {last : Database} (h : RowsKept marked before after)
    (h' : RowsKept marked after last) : RowsKept marked before last :=
  Table.Follows.trans (fun _ _ _ hab hbc => hab.trans hbc)
    (fun _ _ hagrees hkept => hkept.agrees hagrees) h h'

theorem aged (h : RowsKept marked before after) : RowsAged before after :=
  Table.Follows.mono h (fun _ _ _ => RowKept.toRowAged) fun _ _ => id

theorem of_markersKept (h : MarkersKept before after) : RowsKept marked before after :=
  Table.Follows.mono h (fun _ _ _ => RowKept.of_markerKept) fun _ _ h => h.elim

theorem of_rewrite {row row' : PreparedActionRecord}
    (h : JournalRewrite before after row row') (hkept : RowKept marked row row') :
    RowsKept marked before after :=
  h.rewrites.follows RowKept.refl before.uniqueIds after.uniqueIds hkept

theorem of_reserved {binding : SignerBinding} {input : AtomicActionReservationInput}
    {record : PreparedActionRecord} {allocation : NonceAllocation} {scope : SignerScopeRow}
    (h : Reserved binding input before after record allocation scope) :
    RowsKept marked before after := by
  unfold RowsKept
  rw [h.journal]
  exact Table.follows_append RowKept.refl _ h.stored.markerAgrees

end RowsKept

end HyperTrader
