import HyperTrader.Orchestrator.Machine

/-!
# What the parts of a confirmation do

Each part is given a precondition and two postconditions, for its return and for
what it leaves when it throws. While a confirmation is under way its flow shows
no result; a part that publishes one has the record in the state the result names.
A part of an older generation changes no flow, whatever it does to the journal.
-/

namespace HyperTrader

open Library

def Database.Holds (database : Database) (journalId : String)
    (p : PreparedActionRecord → Prop) : Prop :=
  ∃ row ∈ database.actionJournal, row.journalId = journalId ∧ p row

variable {journalId : String} {phase : ReconciledActionPhase}

theorem Database.Holds.kept {before after : Database}
    {marked : Option String} {p q : PreparedActionRecord → Prop}
    (h : before.Holds journalId p) (hrows : RowsKept marked before after)
    (hp : ∀ row row', row.journalId = journalId → RowKept marked row row' →
      p row → q row') : after.Holds journalId q := by
  obtain ⟨row, hrow, hid, hholds⟩ := h
  obtain ⟨row', hrow', hid', hkept⟩ := hrows.forward row hrow
  exact ⟨row', hrow', hid'.trans hid, hp row row' hid hkept hholds⟩

def ActionFlowPhase.isResult (phase : ActionFlowPhase) : Bool :=
  phase == .accepted || phase == .rejected || phase == .expired ||
    phase == .ambiguous || phase == .failedBeforeSubmission

theorem nextPhase_isResult {phase next : ActionFlowPhase}
    (h : nextPhase phase = some next) : next.isResult = false := by
  cases phase with
  | refreshing => cases h; rfl
  | unlocking => cases h; rfl
  | reserving => cases h; rfl
  | signing => cases h; rfl
  | submissionStart => cases h; rfl
  | _ => cases h

theorem ReconciledActionPhase.isResult (phase : ReconciledActionPhase) :
    phase.phase.isResult = true := by
  cases phase <;> rfl

theorem ReconciledActionPhase.phase_injective {a b : ReconciledActionPhase}
    (h : a.phase = b.phase) : a = b := by
  cases a <;> cases b <;> first | rfl | cases h

theorem ReconciledActionPhase.phase_ne_failed (phase : ReconciledActionPhase) :
    phase.phase ≠ .failedBeforeSubmission := by
  cases phase <;> intro h <;> cases h

theorem terminalPhase_isTerminal {state : JournalState}
    (h : Confirming.terminalPhase state = some phase) : isTerminalJournalState state = true := by
  cases state with
  | accepted => rfl
  | rejected => rfl
  | expired => rfl
  | reconciledAmbiguous => rfl
  | _ => cases h

def Shows (phase : ReconciledActionPhase) (row : PreparedActionRecord) : Prop :=
  Confirming.terminalPhase row.state = some phase

theorem Shows.kept {marked : Option String} {row row' : PreparedActionRecord} (h : Shows phase row)
    (hkept : RowKept marked row row') : Shows phase row' := by
  unfold Shows
  rw [hkept.terminal (terminalPhase_isTerminal h)]
  exact h

namespace ConfirmState

/-- What a part of generation `generation` that began in `start` keeps, in any
state it passes: the rows of the journal, the flow of another generation, and the
links between the flow, the confirmation and the journal. -/
structure Linked (generation : ℤ) (marked : Option String) (start s : ConfirmState) :
    Prop where
  rows : RowsKept marked start.repository.database s.repository.database
  stale : start.flow.generation ≠ generation → s.flow = start.flow
  same : s.flow.generation = start.flow.generation
  reserved : ∀ journalId, s.journalId = some journalId →
    s.repository.database.Holds journalId fun _ => True
  journalId : s.flow.generation = generation → ∀ journalId,
    s.flow.journalId = some journalId → s.journalId = some journalId
  fresh : s.journalId = start.journalId ∨ start.journalId = none ∧ ∀ journalId,
    s.journalId = some journalId → ∀ row ∈ start.repository.database.actionJournal,
      row.journalId ≠ journalId

structure Underway (generation : ℤ) (marked : Option String)
    (start s : ConfirmState) : Prop extends Linked generation marked start s where
  undecided : s.flow.generation = generation → s.flow.phase.isResult = false

structure Agrees (generation : ℤ) (marked : Option String)
    (start s : ConfirmState) : Prop extends Linked generation marked start s where
  terminal : s.flow.generation = generation → ∀ phase : ReconciledActionPhase,
    s.flow.phase = phase.phase → ∃ journalId, s.journalId = some journalId ∧
      s.repository.database.Holds journalId (Shows phase)
  failed : s.flow.generation = generation →
    s.flow.phase = .failedBeforeSubmission → ∀ journalId,
      s.journalId = some journalId → s.repository.database.Holds journalId
        fun row => row.submissionStartedAt = none

variable {generation : ℤ} {marked : Option String} {start s : ConfirmState}

theorem Underway.agrees (h : Underway generation marked start s) :
    Agrees generation marked start s where
  toLinked := h.toLinked
  terminal hcurrent phase hphase := by
    have hresult := h.undecided hcurrent
    rw [hphase, phase.isResult] at hresult
    cases hresult
  failed hcurrent hphase := by
    have hresult := h.undecided hcurrent
    rw [hphase] at hresult
    cases hresult

/-! ### The journal changes -/

variable {repository : Repository} {journalId : String}

theorem Linked.onRepository (h : Linked generation marked start s)
    (hrows : RowsKept marked s.repository.database repository.database) :
    Linked generation marked start { s with repository := repository } where
  rows := h.rows.trans hrows
  stale := h.stale
  same := h.same
  reserved journalId hid := (h.reserved journalId hid).kept hrows fun _ _ _ _ _ =>
    trivial
  journalId := h.journalId
  fresh := h.fresh

theorem Underway.onRepository (h : Underway generation marked start s)
    (hrows : RowsKept marked s.repository.database repository.database) :
    Underway generation marked start { s with repository := repository } where
  toLinked := h.toLinked.onRepository hrows
  undecided := h.undecided

theorem Agrees.onRepository (h : Agrees generation none start s)
    (hrows : RowsKept none s.repository.database repository.database) :
    Agrees generation none start { s with repository := repository } where
  toLinked := h.toLinked.onRepository hrows
  terminal hcurrent phase hphase := by
    obtain ⟨journalId, hid, hholds⟩ := h.terminal hcurrent phase hphase
    exact ⟨journalId, hid, hholds.kept hrows fun _ _ _ hkept hshows => hshows.kept hkept⟩
  failed hcurrent hphase journalId hid := by
    refine (h.failed hcurrent hphase journalId hid).kept hrows ?_
    intro row row' _ hkept hmarker
    exact (hkept.marker (by simp)).trans hmarker

/-! ### The flow changes -/

theorem Linked.dispatch (h : Linked generation marked start s)
    {action : ActionFlowAction} (haction : action.generation = some generation) (hid : ∀ journalId,
      (reduceActionFlow s.flow action).journalId = some journalId →
        s.flow.generation = generation → s.journalId = some journalId) :
    Linked generation marked start
      { s with flow := reduceActionFlow s.flow action } where
  rows := h.rows
  stale hstale := by
    have hflow := h.stale hstale
    have hother : s.flow.generation ≠ generation := by rwa [hflow]
    exact (reduceActionFlow_of_stale haction hother).trans hflow
  same := (reduceActionFlow_generation haction).trans h.same
  reserved := h.reserved
  journalId hcurrent journalId hflow := by
    rw [reduceActionFlow_generation haction] at hcurrent
    exact hid journalId hflow hcurrent
  fresh := h.fresh

theorem Underway.advance (h : Underway generation marked start s)
    {phase : ActionFlowPhase} {journalId : Option String}
    (hid : ∀ id, journalId = some id → s.journalId = some id) :
    Underway generation marked start
      { s with
        flow := reduceActionFlow s.flow (.advance generation phase journalId) } := by
  by_cases hgo : s.flow.generation = generation ∧ nextPhase s.flow.phase = some phase
  · refine ⟨h.toLinked.dispatch rfl ?_, fun _ => ?_⟩
    · intro id hflow hcurrent
      simp only [reduceActionFlow, hgo, and_self, if_true] at hflow
      cases journalId with
      | none => exact h.journalId hcurrent id hflow
      | some own => exact hid id hflow
    · simp only [reduceActionFlow, hgo, and_self, if_true]
      exact nextPhase_isResult hgo.2
  · have hsame : reduceActionFlow s.flow (.advance generation phase journalId) =
        s.flow := by
      simp only [reduceActionFlow, if_neg hgo]
    rw [hsame]
    exact h

theorem Underway.unresolved (h : Underway generation marked start s)
    (hid : s.journalId = some journalId) :
    Underway generation marked start
      { s with
        flow := reduceActionFlow s.flow (.unresolved generation journalId) } := by
  by_cases hgo : s.flow.generation = generation ∧ s.flow.phase = .submitting
  · refine ⟨h.toLinked.dispatch rfl ?_, fun _ => ?_⟩
    · intro id hflow _
      simp only [reduceActionFlow, hgo, and_self, if_true] at hflow
      rw [hid, hflow]
    · simp only [reduceActionFlow, hgo, and_self, if_true]
      rfl
  · have hsame : reduceActionFlow s.flow (.unresolved generation journalId) =
        s.flow := by
      simp only [reduceActionFlow, if_neg hgo]
    rw [hsame]
    exact h

theorem Underway.reserve (h : Underway generation marked start s) (hnone : s.journalId = none)
    (hrow : s.repository.database.Holds journalId fun _ => True)
    (hfresh : ∀ row ∈ start.repository.database.actionJournal, row.journalId ≠ journalId) :
    Underway generation marked start { s with journalId := some journalId } where
  rows := h.rows
  stale := h.stale
  same := h.same
  reserved id hid := by
    cases hid
    exact hrow
  journalId hcurrent id hflow := by
    have hid := h.journalId hcurrent id hflow
    rw [hnone] at hid
    cases hid
  fresh := by
    refine .inr ⟨?_, fun id hid => ?_⟩
    · rcases h.fresh with hsame | ⟨hstart, -⟩
      · rw [← hsame, hnone]
      · exact hstart
    · cases hid
      exact hfresh
  undecided := h.undecided

theorem Agrees.publish (h : Agrees generation marked start s)
    {phase : ReconciledActionPhase} {message : Option String}
    (hid : s.flow.generation = generation → s.journalId = some journalId)
    (hshows : s.repository.database.Holds journalId (Shows phase)) :
    Agrees generation marked start
      { s with
        flow := reduceActionFlow s.flow
          (.terminal generation journalId phase message) } := by
  by_cases hgo : s.flow.generation = generation ∧
      (s.flow.phase = .submitting ∨ s.flow.phase = .reconciling)
  · have hflow : reduceActionFlow s.flow
        (.terminal generation journalId phase message) =
          { s.flow with
            phase := phase.phase
            journalId := some journalId
            message := message } := by
      simp only [reduceActionFlow, hgo, and_self, if_true]
    refine ⟨h.toLinked.dispatch rfl ?_, ?_, ?_⟩
    · intro id hnext hcurrent
      rw [hflow] at hnext
      rw [hid hcurrent, ← hnext]
    · rw [hflow]
      intro hcurrent shown hshown
      rw [← phase.phase_injective hshown]
      exact ⟨journalId, hid hcurrent, hshows⟩
    · rw [hflow]
      intro _ hfailed
      exact absurd hfailed phase.phase_ne_failed
  · have hsame : reduceActionFlow s.flow
        (.terminal generation journalId phase message) = s.flow := by
      simp only [reduceActionFlow, if_neg hgo]
    rw [hsame]
    exact h

theorem Underway.fail (h : Underway generation marked start s)
    {journalId : Option String} {message : String}
    (hid : ∀ id, journalId = some id → s.journalId = some id)
    (hmarker : ∀ id, s.journalId = some id →
      s.repository.database.Holds id fun row => row.submissionStartedAt = none) :
    Agrees generation marked start
      { s with
        flow := reduceActionFlow s.flow
          (.failBeforeSubmission generation journalId message) } := by
  by_cases hgo : s.flow.generation = generation ∧
      s.flow.phase.beforeSubmission = true
  · have hflow : reduceActionFlow s.flow
        (.failBeforeSubmission generation journalId message) =
          { s.flow with
            phase := .failedBeforeSubmission
            journalId := journalId.or s.flow.journalId
            message := some message } := by
      simp only [reduceActionFlow, hgo, and_self, if_true]
    refine ⟨h.toLinked.dispatch rfl ?_, ?_, ?_⟩
    · intro id hnext hcurrent
      rw [hflow] at hnext
      cases journalId with
      | none => exact h.journalId hcurrent id hnext
      | some own => exact hid id hnext
    · rw [hflow]
      intro _ phase hphase
      exact absurd hphase.symm phase.phase_ne_failed
    · intro _ _
      exact hmarker
  · have hsame : reduceActionFlow s.flow
        (.failBeforeSubmission generation journalId message) = s.flow := by
      simp only [reduceActionFlow, if_neg hgo]
    rw [hsame]
    exact h.agrees

end ConfirmState

/-! ### The calls of the repository -/

theorem getAction_ok {fault : Option Failure}
    {found : Option PreparedActionRecord} {s s' : Repository}
    (h : getAction fault journalId s = (.ok found, s')) :
    s' = s ∧ s.database.getAction journalId = .ok found := by
  obtain ⟨-, database, hread, rfl⟩ := immediate_eq_ok.mp h
  obtain ⟨hrow, rfl⟩ := Transaction.check_eq_ok.mp hread
  exact ⟨rfl, hrow⟩

theorem getAction_failsClean (fault : Option Failure) (journalId : String) :
    FailsClean (getAction fault journalId) := .immediate _ _

namespace Confirming

open ConfirmState

variable {P raises : ConfirmState → Prop} {α : Type}

theorem onRepository_meets {method : Method α} {post : α → ConfirmState → Prop}
    (hok : ∀ s a repository, P s → method s.repository = (.ok a, repository) →
      post a { s with repository := repository }) (herror : ∀ s e repository, P s →
      method s.repository = (.error e, repository) → raises { s with repository := repository }) :
    Action.Meets P (onRepository method) post raises where
  returns s a s' hs hrun := by
    obtain ⟨hresult, rfl⟩ := Prod.mk.inj hrun
    exact hok s a _ hs (Prod.ext hresult rfl)
  throws s e s' hs hrun := by
    obtain ⟨hresult, rfl⟩ := Prod.mk.inj hrun
    exact herror s e _ hs (Prod.ext hresult rfl)

theorem onRepository_clean {method : Method α}
    {post : α → ConfirmState → Prop} (hclean : FailsClean method)
    (hok : ∀ s a repository, P s → method s.repository = (.ok a, repository) →
      post a { s with repository := repository }) :
    Action.Meets P (onRepository method) post P := by
  refine onRepository_meets hok ?_
  intro s e repository hs hrun
  rwa [hclean s.repository repository e hrun]

theorem read_meets (fault : Option Failure) (journalId : String) :
    Action.Meets P (onRepository (getAction fault journalId)) (fun found s => P s ∧
        s.repository.database.getAction journalId = .ok found) P := by
  refine onRepository_clean (getAction_failsClean fault journalId) ?_
  intro s found repository hs hrun
  obtain ⟨rfl, hfound⟩ := getAction_ok hrun
  exact ⟨hs, hfound⟩

structure Settled (journalId : String) (state : JournalState)
    (record : PreparedActionRecord) (database : Database) : Prop where
  mem : record ∈ database.actionJournal
  journalId : record.journalId = journalId
  state : record.state = state
  stored : StoredRecord record

theorem transition_meets (fault : Option Failure) (journalId : String)
    (next : JournalState) (resultClass : Option JournalResultClass) (now : ℤ)
    (hP : ∀ s repository, P s → RowsKept none s.repository.database repository.database →
        P { s with repository := repository }) :
    Action.Meets P (onRepository (transitionAction fault journalId next resultClass now))
      (fun record s => P s ∧ Settled journalId next record s.repository.database) P := by
  refine onRepository_clean (transitionAction_failsClean _ _ _ _ _) ?_
  intro s record repository hs hrun
  obtain ⟨hid, hstate, hstored, row, hkept, hrewrite⟩ := transitionAction_ok hrun
  refine ⟨hP s repository hs (.of_markersKept (.of_rewrite hrewrite hkept)), ?_⟩
  exact ⟨hrewrite.rewrites.mem_after, hid, hstate, hstored⟩

theorem requireCurrent_meets (current : Outcome Bool) (hraises : ∀ s, P s → raises s) :
    Action.Meets P (requireCurrent current) (fun _ => P) raises :=
  .check_bind hraises fun _ _ => .check hraises fun _ _ _ h => h

/-! ### `confirm` -/

section

variable {generation : ℤ} {marked own : Option String} {start : ConfirmState}
  {phase : ActionFlowPhase} {journalId : Option String} {q : ConfirmState → Prop}
  {record : PreparedActionRecord}

theorem advance_meets (hid : ∀ id, journalId = some id → own = some id) :
    Action.Meets (fun s => Underway generation marked start s ∧ s.journalId = own)
      (advance generation phase journalId)
      (fun _ s => Underway generation marked start s ∧ s.journalId = own) raises := by
  refine .modify fun s hs => ⟨hs.1.advance fun id h => ?_, hs.2⟩
  exact hs.2.trans (hid id h)

theorem advance_frame (hq : ∀ s flow, q s → q { s with flow := flow })
    (hid : ∀ id, journalId = some id → own = some id) :
    Action.Meets (fun s => (Underway generation marked start s ∧ s.journalId = own) ∧ q s)
      (advance generation phase journalId)
      (fun _ s => (Underway generation marked start s ∧ s.journalId = own) ∧ q s) raises := by
  refine .modify fun s hs => ⟨⟨hs.1.1.advance fun id h => ?_, hs.1.2⟩, hq s _ hs.2⟩
  exact hs.1.2.trans (hid id h)

theorem refreshed_meets (viem : Viem) (review : ActionReviewSnapshot)
    (result : Outcome TradingActionValidationInput) (current : Outcome Bool) :
    Action.Meets (fun s => Underway generation none start s ∧ s.journalId = none)
      (refreshed viem review generation result current)
      (fun r s => checkRefreshed viem review r.1 = .ok r.2 ∧
        Underway generation none start s ∧ s.journalId = none)
      (fun s => Underway generation none start s) := by
  unfold refreshed
  refine .check_bind (fun _ hs => hs.1) fun refreshedInput _ => ?_
  refine .bind (requireCurrent_meets current fun _ hs => hs.1) fun _ => ?_
  refine .check_bind (fun _ hs => hs.1) fun refreshed hrefreshed => ?_
  refine .bind (advance_meets fun id h => ?_) fun _ => ?_
  · cases h
  · exact .pure fun s hs => ⟨hrefreshed, hs⟩

/-- What `signed` submits was prepared from the refreshed action, and is signed
with what was reviewed. -/
structure Prepares (viem : Viem) (encode : MessagePack)
    (review : ActionReviewSnapshot) (refreshedInput : TradingActionValidationInput)
    (refreshed : ValidatedTradingAction) (prepared : PreparedSubmission) : Prop where
  fromInput : prepared.refreshedInput = refreshedInput
  fromAction : prepared.refreshed = refreshed
  action : buildExchangeAction refreshed.intent = .ok prepared.action
  encoded : encodeL1Action viem encode
    { action := prepared.action.toJson
      nonce := prepared.record.nonce
      vaultAddress := review.vaultAddress
      expiresAfter := some prepared.record.expiresAfterMs } = .ok prepared.encoded
  signing : prepared.signing =
    { expectedBinding := review.binding
      payload := buildL1TypedData review.binding.network prepared.encoded
      capturedContextEpoch := review.validation.context.capturedContextEpoch }

def Reserves (start : ConfirmState) (journalId : String) (s : ConfirmState) : Prop :=
  (∀ row ∈ start.repository.database.actionJournal, row.journalId ≠ journalId) ∧
    s.repository.database.Holds journalId fun _ => True

theorem reserve_meets (viem : Viem) (authority : ContextEpochAuthority)
    (fault : Option Failure) (input : AtomicActionReservationInput) :
    Action.Meets (fun s => Underway generation marked start s ∧ s.journalId = own)
      (onRepository (reservePreparedAction viem authority fault input))
      (fun record s => (Underway generation marked start s ∧ s.journalId = own) ∧
        Reserves start record.journalId s) (fun s => Underway generation marked start s) := by
  refine onRepository_meets ?_ ?_
  · intro s record repository hs hrun
    obtain ⟨binding, allocation, scope, -, hreserved⟩ := reservePreparedAction_ok hrun
    refine ⟨⟨hs.1.onRepository (.of_reserved hreserved), hs.2⟩, ?_, record, ?_, rfl, trivial⟩
    · intro row hrow hid
      obtain ⟨row', hrow', hid', -⟩ := hs.1.rows.forward row hrow
      exact hreserved.fresh row' hrow' (hid'.trans hid)
    · rw [hreserved.journal]
      exact List.mem_append_right _ List.mem_cons_self
  · intro s e repository hs hrun
    rw [reservePreparedAction_error hrun]
    exact hs.1

theorem unlocked_meets (viem : Viem) (encode : MessagePack)
    (review : ActionReviewSnapshot) (refreshedInput : TradingActionValidationInput)
    (refreshed : ValidatedTradingAction) (answers : UnlockAnswers) :
    Action.Meets (fun s => Underway generation none start s ∧ s.journalId = none)
      (unlocked viem encode review generation refreshedInput refreshed answers) (fun prepared s =>
        Prepares viem encode review refreshedInput refreshed prepared ∧
          Underway generation none start s ∧ s.journalId = some prepared.record.journalId)
      (fun s => Underway generation none start s) := by
  unfold unlocked
  refine .check_bind (fun _ hs => hs.1) fun _ _ => ?_
  refine .bind (requireCurrent_meets _ fun _ hs => hs.1) fun _ => ?_
  refine .bind (advance_meets fun id h => ?_) fun _ => ?_
  · cases h
  refine .check_bind (fun _ hs => hs.1) fun identity _ => ?_
  refine .check_bind (fun _ hs => hs.1) fun clock _ => ?_
  refine .check_bind (fun _ hs => hs.1) fun journalId _ => ?_
  refine .check_bind (fun _ hs => hs.1) fun correlationId _ => ?_
  refine .check_bind (fun _ hs => hs.1) fun preparedAction _ => ?_
  refine .bind (reserve_meets viem _ _ _) fun record => ?_
  -- from here on the confirmation has a record, also when it throws
  have hreserve : Action.Meets
      (fun s => (Underway generation none start s ∧ s.journalId = none) ∧
        Reserves start record.journalId s)
      (Action.modify fun s => { s with journalId := some record.journalId } : Confirming Unit)
      (fun _ s => Underway generation none start s ∧ s.journalId = some record.journalId)
      (fun s => Underway generation none start s) :=
    .modify fun s hs => ⟨hs.1.1.reserve hs.1.2 hs.2.2 hs.2.1, rfl⟩
  refine .bind hreserve fun _ => ?_
  refine .bind (requireCurrent_meets _ fun _ hs => hs.1) fun _ => ?_
  refine .bind (advance_meets fun id h => h) fun _ => ?_
  refine .check_bind (fun _ hs => hs.1) fun action haction => ?_
  refine .check_bind (fun _ hs => hs.1) fun encoded hencoded => ?_
  exact .pure fun s hs => ⟨⟨rfl, rfl, haction, hencoded, rfl⟩, hs⟩

/-- What a mark did: the record was prepared, and now has its marker. -/
def Marked (start : ConfirmState) (journalId : String) (s : ConfirmState) : Prop :=
  start.repository.database.Holds journalId (fun row =>
      row.state = .prepared ∧ row.submissionStartedAt = none) ∧
    s.repository.database.Holds journalId (fun row =>
      row.state = .submissionStarted ∧ row.submissionStartedAt.isSome = true)

theorem mark_meets (fault : Option Failure) (journalId : String) (now : ℤ) :
    Action.Meets (fun s => (Underway generation (some journalId) start s ∧
        s.journalId = own) ∧ s.repository = start.repository)
      (onRepository (markSubmissionStarted fault journalId now))
      (fun receipt s => (Underway generation (some journalId) start s ∧
        s.journalId = own) ∧ Marked start journalId s ∧
          receipt.transportPermit = createTransportWritePermit journalId)
      (fun s => Underway generation (some journalId) start s) := by
  refine onRepository_meets ?_ ?_
  · rintro s receipt repository ⟨hs, hsame⟩ hrun
    obtain ⟨hpermit, row, rfl, hmay, hstored, hrewrite⟩ :=
      markSubmissionStarted_ok hrun
    refine ⟨⟨hs.1.onRepository (.of_rewrite hrewrite (.marking hmay hstored)), hs.2⟩,
      ⟨⟨row, ?_, rfl, hmay.1, hmay.2.1⟩, row.marked now,
        hrewrite.rewrites.mem_after, rfl, rfl, rfl⟩, hpermit⟩
    rw [← hsame]
    exact hrewrite.rewrites.mem
  · rintro s e repository ⟨hs, -⟩ hrun
    exact hs.1.onRepository (.of_eq (markSubmissionStarted_error hrun))

theorem signed_meets (review : ActionReviewSnapshot) (prepared : PreparedSubmission)
    (answers : SignAnswers) :
    Action.Meets (fun s => (Underway generation (some prepared.record.journalId) start s ∧
        s.journalId = some prepared.record.journalId) ∧ s.repository = start.repository)
      (signed review generation prepared answers)
      (fun r s => (Underway generation (some prepared.record.journalId) start s ∧
        s.journalId = some prepared.record.journalId) ∧ Marked start prepared.record.journalId s ∧
          r.2 = createTransportWritePermit prepared.record.journalId)
      (fun s => Underway generation (some prepared.record.journalId) start s) := by
  unfold signed
  refine .check_bind (fun _ hs => hs.1.1) fun signature _ => ?_
  refine .bind (requireCurrent_meets _ fun _ hs => hs.1.1) fun _ => ?_
  refine .bind (advance_frame (fun _ _ hs => hs) fun id h => h) fun _ => ?_
  refine .check_bind (fun _ hs => hs.1.1) fun _ _ => ?_
  refine .check_bind (fun _ hs => hs.1.1) fun now _ => ?_
  refine .bind (mark_meets _ _ _) fun receipt => ?_
  refine .bind (advance_frame (fun _ _ hs => hs) fun id h => h) fun _ => ?_
  exact .pure fun s hs => hs

theorem settled_meets (prepared : PreparedSubmission) (answers : SubmitAnswers)
    (state : JournalState) (resultClass : JournalResultClass)
    (phase : ReconciledActionPhase) (message : Option String)
    (hphase : terminalPhase state = some phase) :
    Action.Meets (fun s => Underway generation none start s ∧
        s.journalId = some prepared.record.journalId)
      (settled generation prepared answers state resultClass phase message)
      (fun _ s => Agrees generation none start s ∧ s.journalId = some prepared.record.journalId)
      (fun s => Underway generation none start s ∧
        s.journalId = some prepared.record.journalId) := by
  unfold settled
  refine .check_bind (fun _ hs => hs) fun now _ => ?_
  refine .bind (transition_meets _ _ _ _ _ fun s repository hs hrows =>
    ⟨hs.1.onRepository hrows, hs.2⟩) fun record => ?_
  refine .modify fun s hs => ⟨hs.1.1.agrees.publish (fun _ => hs.1.2) ?_, hs.1.2⟩
  refine ⟨record, hs.2.mem, hs.2.journalId, ?_⟩
  rw [Shows, hs.2.state]
  exact hphase

theorem unresolved_meets {journalId : String} :
    Action.Meets (fun s => (Underway generation marked start s ∧
        s.journalId = some journalId) ∧ q s) (dispatch (.unresolved generation journalId))
      (fun _ s => Underway generation marked start s ∧ s.journalId = some journalId) raises :=
  .modify fun _ hs => ⟨hs.1.1.unresolved hs.1.2, hs.1.2⟩

theorem submitted_meets (prepared : PreparedSubmission) (answers : SubmitAnswers) :
    Action.Meets (fun s => Underway generation none start s ∧
        s.journalId = some prepared.record.journalId) (submitted generation prepared answers)
      (fun _ s => Agrees generation none start s ∧ s.journalId = some prepared.record.journalId)
      (fun s => Underway generation none start s ∧
        s.journalId = some prepared.record.journalId) := by
  unfold submitted
  refine .check_bind (fun _ hs => hs) fun result _ => ?_
  cases result with
  | unresolved reason =>
    refine .check_bind (fun _ hs => hs) fun now _ => ?_
    refine .bind (transition_meets _ _ _ _ _ fun s repository hs hrows =>
      ⟨hs.1.onRepository hrows, hs.2⟩) fun record => ?_
    exact .bind unresolved_meets fun _ => .pure fun s hs => ⟨hs.1.agrees, hs.2⟩
  | accepted ids =>
    exact .bind (settled_meets prepared answers _ _ _ _ rfl) fun _ =>
      .pure fun s hs => hs
  | rejected reason =>
    exact .bind (settled_meets prepared answers _ _ _ _ rfl) fun _ =>
      .pure fun s hs => hs
  | expired =>
    exact .bind (settled_meets prepared answers _ _ _ _ rfl) fun _ =>
      .pure fun s hs => hs

/-! ### `reconcileFailure` -/

structure Reads (generation : ℤ) (start : ConfirmState)
    (record : PreparedActionRecord) (s : ConfirmState) : Prop where
  underway : Underway generation none start s
  journalId : s.journalId = some record.journalId
  mem : record ∈ s.repository.database.actionJournal
  stored : StoredRecord record

theorem Reads.onFlow {s : ConfirmState}
    (h : Reads generation start record s) {flow : ActionFlowState}
    (hunderway : Underway generation none start { s with flow := flow }) :
    Reads generation start record { s with flow := flow } :=
  ⟨hunderway, h.journalId, h.mem, h.stored⟩

theorem Reads.fail {s : ConfirmState} (h : Reads generation start record s)
    (hstate : record.state = .prepared ∨ record.state = .abandonedBeforeSubmission)
    (message : String) :
    Agrees generation none start
      { s with
        flow := reduceActionFlow s.flow
          (.failBeforeSubmission generation (some record.journalId) message) } := by
  refine h.underway.fail (fun id hid => hid ▸ h.journalId) ?_
  intro id hid
  rw [h.journalId] at hid
  cases hid
  exact ⟨record, h.mem, rfl, h.stored.markerAgrees.mpr hstate⟩

theorem showDurable_meets (record : PreparedActionRecord) :
    Action.Meets (Reads generation start record) (if record.state.reconcilable then
        dispatch (.unresolved generation record.journalId) else
        match terminalPhase record.state with
        | none => pure ()
        | some phase => dispatch (.terminal generation record.journalId phase none) :
          Confirming Unit) (fun _ s => Agrees generation none start s)
      (fun s => Agrees generation none start s) := by
  split
  · exact .modify fun t ht => (ht.underway.unresolved ht.journalId).agrees
  · split
    · exact .pure fun t ht => ht.underway.agrees
    · rename_i phase hphase
      refine .modify fun t ht => ht.underway.agrees.publish (fun _ => ht.journalId) ?_
      exact ⟨record, ht.mem, rfl, hphase⟩

theorem reflectDurable_meets (record : PreparedActionRecord) :
    Action.Meets (Reads generation start record) (reflectDurable generation record)
      (fun _ s => Agrees generation none start s) (fun s => Agrees generation none start s) := by
  unfold reflectDurable
  refine .get_bind fun s => .weaken ?_ (fun _ hs => hs.2) (fun _ _ h => h)
    fun _ h => h
  have hadvance : Action.Meets (Reads generation start record)
      (advance generation .submitting (some record.journalId))
      (fun _ s => Reads generation start record s)
      (fun s => Agrees generation none start s) :=
    .modify fun t ht => ht.onFlow (ht.underway.advance fun id hid => hid ▸ ht.journalId)
  dsimp only
  split
  · exact .bind hadvance fun _ => showDurable_meets record
  · exact showDurable_meets record

theorem reread_meets (fault : Option Failure) (record : PreparedActionRecord) :
    Action.Meets (fun s => Underway generation none start s ∧ s.journalId = some record.journalId)
      (reread fault record) (fun found s => Reads generation start found s)
      (fun s => Agrees generation none start s) := by
  unfold reread
  refine .bind (.weaken (read_meets fault record.journalId) (fun _ h => h)
    (fun _ _ h => h) fun _ hs => hs.1.agrees) fun found => ?_
  refine .pure fun s hs => ?_
  obtain ⟨⟨hunderway, hid⟩, hfound⟩ := hs
  cases found with
  | none =>
    obtain ⟨row, hrow, hrowid, -⟩ := hunderway.reserved _ hid
    exact absurd hrowid (Database.getAction_eq_none.mp hfound row hrow)
  | some other =>
    obtain ⟨hmem, hother, hstored⟩ := Database.getAction_eq_some.mp hfound
    exact ⟨hunderway, hother ▸ hid, hmem, hstored⟩

theorem settleOrReread_meets (answers : RecoveryAnswers)
    (record : PreparedActionRecord) (next : JournalState)
    (resultClass : Option JournalResultClass) :
    Action.Meets (Reads generation start record) (settleOrReread answers record next resultClass)
      (fun r s => Reads generation start r.1 s ∧ (r.2 = true → r.1.state = next))
      (fun s => Agrees generation none start s) := by
  unfold settleOrReread
  have htransition : Action.Meets
      (fun s => Underway generation none start s ∧ s.journalId = some record.journalId)
      (do
        let now ← Action.check answers.now
        let record ← onRepository (transitionAction answers.write record.journalId
          next resultClass now)
        pure (record, true))
      (fun r s => Reads generation start r.1 s ∧ (r.2 = true → r.1.state = next))
      (fun s => Underway generation none start s ∧ s.journalId = some record.journalId) := by
    refine .check_bind (fun _ hs => hs) fun now _ => ?_
    refine .bind (transition_meets _ _ _ _ _ fun s repository hs hrows =>
      ⟨hs.1.onRepository hrows, hs.2⟩) fun settled => ?_
    refine .pure fun s hs => ?_
    obtain ⟨⟨hunderway, hid⟩, hsettled⟩ := hs
    exact ⟨⟨hunderway, hsettled.journalId ▸ hid, hsettled.mem, hsettled.stored⟩,
      fun _ => hsettled.state⟩
  have hreread : Action.Meets
      (fun s => Underway generation none start s ∧ s.journalId = some record.journalId)
      (do
        let record ← reread answers.reread record
        pure (record, false))
      (fun r s => Reads generation start r.1 s ∧ (r.2 = true → r.1.state = next))
      (fun s => Agrees generation none start s) := by
    refine .bind (reread_meets answers.reread record) fun found => ?_
    exact .pure fun s hs => ⟨hs, fun h => by cases h⟩
  exact .weaken (.handle htransition hreread)
    (fun _ hs => ⟨hs.underway, hs.journalId⟩) (fun _ _ h => h) fun _ h => h

theorem failBeforeSubmission_meets {error : Failure} {pre : ConfirmState → Prop}
    (h : ∀ s message, pre s → Agrees generation none start
      { s with
        flow := reduceActionFlow s.flow
          (.failBeforeSubmission generation journalId message) }) :
    Action.Meets pre (failBeforeSubmission generation journalId error)
      (fun _ s => Agrees generation none start s) (fun s => Agrees generation none start s) :=
  .get_bind fun _ => .modify fun s hs => h s _ hs.2

theorem reconcileRecord_meets (error : Failure) (answers : RecoveryAnswers)
    (record : PreparedActionRecord) :
    Action.Meets (Reads generation start record) (reconcileRecord generation error answers record)
      (fun _ s => Agrees generation none start s) (fun s => Agrees generation none start s) := by
  unfold reconcileRecord
  split
  · refine .bind (settleOrReread_meets answers record _ _) fun r => ?_
    exact .weaken (reflectDurable_meets r.1) (fun _ hs => hs.1) (fun _ _ h => h)
      fun _ h => h
  · exact reflectDurable_meets record
  · exact reflectDurable_meets record
  · exact reflectDurable_meets record
  · exact reflectDurable_meets record
  · exact reflectDurable_meets record
  · refine .bind (settleOrReread_meets answers record _ _) fun r => ?_
    obtain ⟨found, settled⟩ := r
    dsimp only
    split
    · exact .weaken (reflectDurable_meets found) (fun _ hs => hs.1) (fun _ _ h => h)
        fun _ h => h
    · rename_i hshown
      refine failBeforeSubmission_meets fun s message hs => hs.1.fail ?_ message
      cases settled with
      | true => exact .inr (hs.2 rfl)
      | false => exact .inl (by_contra fun hstate => hshown (.inl ⟨rfl, hstate⟩))
  · rename_i hstate
    exact failBeforeSubmission_meets fun s message hs => hs.fail (.inr hstate) message

theorem reconcileFailure_meets (error : Failure) (answers : RecoveryAnswers) :
    Action.Meets (fun s => Underway generation none start s)
      (reconcileFailure generation error answers) (fun _ s => Agrees generation none start s)
      (fun s => Agrees generation none start s) := by
  unfold reconcileFailure
  refine .get_bind fun s => ?_
  split
  · rename_i hnone
    refine failBeforeSubmission_meets fun t message ht => ?_
    obtain ⟨rfl, hunderway⟩ := ht
    refine hunderway.fail (fun id hid => by cases hid) ?_
    intro id hid
    rw [hnone] at hid
    cases hid
  · rename_i journalId hid
    have hread : Action.Meets
        (fun t => t = s ∧ Underway generation none start t)
        (onRepository (getAction answers.read journalId))
        (fun found t => (Underway generation none start t ∧ t.journalId = some journalId) ∧
            t.repository.database.getAction journalId = .ok found)
        (fun t => Agrees generation none start t) := by
      refine .weaken (read_meets answers.read journalId) ?_ (fun _ _ h => h)
        fun _ hs => hs.1.agrees
      rintro t ⟨rfl, hunderway⟩
      exact ⟨hunderway, hid⟩
    refine .bind hread fun found => ?_
    cases found with
    | none =>
      refine failBeforeSubmission_meets fun t message ht => ?_
      obtain ⟨⟨hunderway, hid⟩, hnone⟩ := ht
      obtain ⟨row, hrow, hrowid, -⟩ := hunderway.reserved _ hid
      exact absurd hrowid (Database.getAction_eq_none.mp hnone row hrow)
    | some record =>
      refine .weaken (reconcileRecord_meets error answers record) ?_
        (fun _ _ h => h) fun _ h => h
      rintro t ⟨⟨hunderway, hid⟩, hfound⟩
      obtain ⟨hmem, rfl, hstored⟩ := Database.getAction_eq_some.mp hfound
      exact ⟨hunderway, hid, hmem, hstored⟩

end

end Confirming

end HyperTrader
