import HyperTrader.Orchestrator.Reviewed

/-!
# Equivalent intents

The journal keeps two nonterminal records of one target apart by the fingerprint of
their actions. The fingerprint leaves the client order ID out, but not the price
that is derived again at every confirmation, nor the name of the market: a
confirmation of a reviewed intent whose first record is still nonterminal is refused
where the two derived prices, and the two names, are the same.
-/

namespace HyperTrader

open Library ConfirmState

/-! ### The same reviewed intent -/

def TradingActionIntent.withCloid (cloid : String) :
    TradingActionIntent → TradingActionIntent
  | .marketOrder intent => .marketOrder { intent with cloid := cloid }
  | .limitOrder intent => .limitOrder { intent with cloid := cloid }
  | .reduceOnlyClose intent => .reduceOnlyClose { intent with cloid := cloid }
  | .positionTpsl intent => .positionTpsl { intent with cloid := cloid }
  | intent => intent

/-- What `sameReviewedIntent` compares of an intent, but for the client order
ID. -/
def TradingActionIntent.compared (intent : TradingActionIntent) :
    TradingActionIntent := (intent.withCloid "").withAggressiveLimitPrice ""

theorem withoutCloid_eq_of_compared {a b : TradingActionIntent} (h : a.compared = b.compared)
    (hprice : a.aggressiveLimitPrice = b.aggressiveLimitPrice) :
    a.type = b.type ∧ withoutCloid a = withoutCloid b := by
  cases a with
  | marketOrder a =>
    cases b <;> try (cases h)
    case marketOrder b =>
      simp only [TradingActionIntent.compared, TradingActionIntent.withCloid,
        TradingActionIntent.withAggressiveLimitPrice,
        TradingActionIntent.marketOrder.injEq, MarketOrderIntent.mk.injEq] at h
      simp only [TradingActionIntent.aggressiveLimitPrice, Option.some.injEq] at hprice
      simp [withoutCloid, TradingActionIntent.type, TradingActionIntent.fields, h, hprice]
  | limitOrder a =>
    cases b <;> try (cases h)
    case limitOrder b =>
      simp only [TradingActionIntent.compared, TradingActionIntent.withCloid,
        TradingActionIntent.withAggressiveLimitPrice,
        TradingActionIntent.limitOrder.injEq, LimitOrderIntent.mk.injEq] at h
      simp [withoutCloid, TradingActionIntent.type, TradingActionIntent.fields, h]
  | reduceOnlyClose a =>
    cases b <;> try (cases h)
    case reduceOnlyClose b =>
      simp only [TradingActionIntent.compared, TradingActionIntent.withCloid,
        TradingActionIntent.withAggressiveLimitPrice, TradingActionIntent.reduceOnlyClose.injEq,
        ReduceOnlyCloseIntent.mk.injEq] at h
      simp only [TradingActionIntent.aggressiveLimitPrice, Option.some.injEq] at hprice
      simp [withoutCloid, TradingActionIntent.type, TradingActionIntent.fields, h, hprice]
  | positionTpsl a =>
    cases b <;> try (cases h)
    case positionTpsl b =>
      simp only [TradingActionIntent.compared, TradingActionIntent.withCloid,
        TradingActionIntent.withAggressiveLimitPrice,
        TradingActionIntent.positionTpsl.injEq, PositionTpslIntent.mk.injEq] at h
      simp [withoutCloid, TradingActionIntent.type, TradingActionIntent.fields, h]
  | cancel a =>
    cases b <;> cases h
    exact ⟨rfl, rfl⟩
  | bulkCancel a =>
    cases b <;> cases h
    exact ⟨rfl, rfl⟩
  | updateLeverage a =>
    cases b <;> cases h
    exact ⟨rfl, rfl⟩

variable {refreshedInput : TradingActionValidationInput} {run : ConfirmRun}
  {reservation : Reservation}

theorem ReviewedIntent.compared {review : ActionReviewSnapshot} {intent : TradingActionIntent}
    (h : ReviewedIntent review refreshedInput intent) :
    intent.compared = review.validated.intent.compared := by
  rcases h with rfl | ⟨side, slippageBps, referencePrice, price, -, -, -, -, rfl⟩
  · rfl
  · cases review.validated.intent <;> rfl

/-- Two reviews are of one intent: the same action on the same target. -/
structure ActionReviewSnapshot.Equivalent (a b : ActionReviewSnapshot) : Prop where
  network : a.binding.network = b.binding.network
  masterAccount : a.binding.masterAccount = b.binding.masterAccount
  targetAccount : a.binding.targetAccount = b.binding.targetAccount
  intent : a.validated.intent.compared = b.validated.intent.compared

/-! ### What a reservation writes -/

structure RecordedRow (viem : Viem) (review : ActionReviewSnapshot)
    (refreshed : ValidatedTradingAction) (row : PreparedActionRecord) : Prop where
  network : row.network = review.binding.network
  masterAccount : normalizeAddress viem review.binding.masterAccount =
    .ok row.masterAccount
  targetAccount : normalizeAddress viem review.binding.targetAccount =
    .ok row.targetAccount
  actionType : row.actionType = refreshed.intent.type
  fingerprint : digest viem (fingerprintSource refreshed) =
    .ok row.equivalenceFingerprint

def Confirming.Recorded (viem : Viem) (review : ActionReviewSnapshot)
    (refreshed : ValidatedTradingAction) (start s : ConfirmState) : Prop :=
  ∃ record, s.journalId = some record.journalId ∧ record.state = .prepared ∧
    RecordedRow viem review refreshed record ∧
    s.repository.database.actionJournal =
      start.repository.database.actionJournal ++ [record]

theorem preparedAction_spec {viem : Viem} {journalId correlationId : String}
    {refreshed : ValidatedTradingAction} {identity : IdentityFields} {action : PreparedAction}
    (h : preparedAction viem journalId correlationId refreshed refreshedInput
      identity = .ok action) :
    action.actionType = refreshed.intent.type ∧
      digest viem (fingerprintSource refreshed) = .ok action.equivalenceFingerprint := by
  simp only [preparedAction, except_bind_eq_ok, pure, Except.pure, Except.ok.injEq] at h
  obtain ⟨_, -, fingerprint, hfingerprint, rfl⟩ := h
  exact ⟨rfl, hfingerprint⟩

namespace Confirming

/-- A part of a confirmation that has no record yet has one when it throws or
returns, or the journal is as it was. -/
def Records (viem : Viem) (review : ActionReviewSnapshot)
    (refreshed : ValidatedTradingAction) (start s : ConfirmState) : Prop :=
  s.journalId = none ∨ Recorded viem review refreshed start s

theorem unlocked_records (viem : Viem) (encode : MessagePack)
    (review : ActionReviewSnapshot) (generation : ℤ) (refreshedInput : TradingActionValidationInput)
    (refreshed : ValidatedTradingAction) (answers : UnlockAnswers) (start : ConfirmState) :
    Action.Meets (fun s => s.repository = start.repository ∧ s.journalId = none)
      (unlocked viem encode review generation refreshedInput refreshed answers)
      (fun _ s => Records viem review refreshed start s)
      (fun s => Records viem review refreshed start s) := by
  have hnone : ∀ s : ConfirmState,
      s.repository = start.repository ∧ s.journalId = none →
        Records viem review refreshed start s := fun _ hs => .inl hs.2
  unfold unlocked
  refine .check_bind hnone fun _ _ => ?_
  refine .bind (requireCurrent_meets _ hnone) fun _ => ?_
  have hadvance : Action.Meets
      (fun s : ConfirmState => s.repository = start.repository ∧ s.journalId = none)
      (advance generation .reserving none)
      (fun _ s => s.repository = start.repository ∧ s.journalId = none)
      (fun s => Records viem review refreshed start s) := .modify fun _ hs => hs
  refine .bind hadvance fun _ => ?_
  refine .check_bind hnone fun identity _ => ?_
  refine .check_bind hnone fun clock _ => ?_
  refine .check_bind hnone fun journalId _ => ?_
  refine .check_bind hnone fun correlationId _ => ?_
  refine .check_bind hnone fun action haction => ?_
  have hreserve : Action.Meets
      (fun s : ConfirmState => s.repository = start.repository ∧ s.journalId = none)
      (onRepository (reservePreparedAction viem answers.authority answers.fault
        { binding := review.binding
          capturedContextEpoch := review.validation.context.capturedContextEpoch
          clock := clock
          preparedAction := action }))
      (fun record s => Recorded viem review refreshed start
        { s with journalId := some record.journalId })
      (fun s => Records viem review refreshed start s) := by
    refine onRepository_meets ?_ fun s e repository hs _ => .inl hs.2
    intro s record repository hs hrun
    obtain ⟨binding, allocation, scope, hbinding, hreserved⟩ :=
      reservePreparedAction_ok hrun
    obtain ⟨-, hnetwork, -, hmaster, htarget, -⟩ :=
      normalizeSignerBinding_eq_ok.mp hbinding
    obtain ⟨htype, hfingerprint⟩ := preparedAction_spec haction
    have hrow := hreserved.row
    refine ⟨record, rfl, by rw [hrow]; rfl, ?_, ?_⟩
    · rw [hrow]
      exact ⟨hnetwork, hmaster, htarget, htype, hfingerprint⟩
    · rw [← hs.1]
      exact hreserved.journal
  refine .bind hreserve fun record => ?_
  have hrecorded : Action.Meets
      (fun s => Recorded viem review refreshed start { s with journalId := some record.journalId })
      (Action.modify fun s => { s with journalId := some record.journalId } : Confirming Unit)
      (fun _ s => Recorded viem review refreshed start s)
      (fun s => Records viem review refreshed start s) := .modify fun _ hs => hs
  refine .bind hrecorded fun _ => ?_
  refine .bind (requireCurrent_meets _ fun _ hs => .inr hs) fun _ => ?_
  have hsigning : Action.Meets (fun s => Recorded viem review refreshed start s)
      (advance generation .signing (some record.journalId))
      (fun _ s => Recorded viem review refreshed start s)
      (fun s => Records viem review refreshed start s) := .modify fun _ hs => hs
  refine .bind hsigning fun _ => ?_
  refine .check_bind (fun _ hs => .inr hs) fun _ _ => ?_
  refine .check_bind (fun _ hs => .inr hs) fun _ _ => ?_
  exact .pure fun _ hs => .inr hs

end Confirming

/-! ### The reservations of a run -/

theorem ConfirmStage.after_snd {α : Type} (next : α → ConfirmStage)
    (p : Outcome α × ConfirmState) : (ConfirmStage.after next p).2 = p.2 := by
  obtain ⟨result, s⟩ := p
  cases result <;> rfl

theorem ConfirmRun.reservation_eq_some {before : Database} {journalId : Option String}
    (h : run.reservation before journalId = some reservation) :
    run.stage = .unlocking reservation.refreshedInput reservation.refreshed ∧
      run.journalId = none ∧ journalId = some reservation.journalId ∧
      reservation.review = run.review ∧ reservation.before = before := by
  unfold ConfirmRun.reservation at h
  split at h
  · rename_i hstage hnone
    cases h
    exact ⟨hstage, hnone, rfl, rfl, rfl⟩
  · cases h

theorem ConfirmRun.reserved_of_proceed {viem : Viem} {encode : MessagePack}
    {s : ConfirmState} {answer : ConfirmAnswer} (hid : s.journalId = run.journalId)
    (h : run.reservation s.repository.database
      (run.proceed viem encode s answer).2.journalId = some reservation) :
    (∃ answers, answer = .unlocked answers) ∧
      Confirming.Recorded viem run.review reservation.refreshed s
        (run.proceed viem encode s answer).2 := by
  obtain ⟨hstage, hnone, hsome, -, -⟩ := ConfirmRun.reservation_eq_some h
  rw [← hid] at hnone
  cases answer with
  | unlocked answers =>
    refine ⟨⟨answers, rfl⟩, ?_⟩
    have hmeets := (Confirming.unlocked_records viem encode run.review
      run.generation reservation.refreshedInput reservation.refreshed answers s).final ⟨rfl, hnone⟩
    simp only [ConfirmRun.proceed, hstage, ConfirmStage.after_snd] at hsome ⊢
    exact hmeets.resolve_left fun hnone' => by
      rw [hnone'] at hsome
      cases hsome
  | _ =>
    simp only [ConfirmRun.proceed, hstage] at hsome
    rw [hnone] at hsome
    cases hsome

namespace OrchestratorWorld

structure Recording (viem : Viem) (world : OrchestratorWorld) : Prop where
  compared : ∀ reservation ∈ world.reserved,
    checkRefreshed viem reservation.review reservation.refreshedInput =
      .ok reservation.refreshed
  rows : ∀ reservation ∈ world.reserved, world.database.Holds reservation.journalId
    (RecordedRow viem reservation.review reservation.refreshed)
  before : ∀ reservation ∈ world.reserved,
    RowsAged reservation.before world.database

/-- Whenever a reservation was made, every earlier record of the same reviewed
intent was terminal. -/
def BlocksEquivalent (world : OrchestratorWorld) : Prop :=
  ∀ later ∈ world.reserved, ∀ earlier ∈ world.reserved,
    earlier.review.Equivalent later.review →
      ∀ row ∈ later.before.actionJournal, row.journalId = earlier.journalId →
        isTerminalJournalState row.state = true

/-- A confirmation that goes on to its reservation while a record of the same
reviewed intent is nonterminal has derived the same price as it, in a market of the
same name. -/
def SamePrice (world : OrchestratorWorld) (event : OrchestratorEvent) : Prop :=
  ∀ i answers run refreshedInput refreshed,
    event = .answer i (.unlocked answers) → world.runs[i]? = some run →
    run.stage = .unlocking refreshedInput refreshed →
      ∀ earlier ∈ world.reserved, earlier.review.Equivalent run.review →
        (∃ row ∈ world.database.actionJournal, row.journalId = earlier.journalId ∧
          isTerminalJournalState row.state = false) →
            earlier.refreshed.intent.aggressiveLimitPrice =
                refreshed.intent.aggressiveLimitPrice ∧
              earlier.refreshed.marketCanonicalId = refreshed.marketCanonicalId

variable {viem : Viem} {encode : MessagePack} {world : OrchestratorWorld}
  {review : ActionReviewSnapshot} {refreshed : ValidatedTradingAction} {row : PreparedActionRecord}

theorem RecordedRow.aged {row' : PreparedActionRecord}
    (haging : RowAged row row') (h : RecordedRow viem review refreshed row) :
    RecordedRow viem review refreshed row' := by
  obtain ⟨hnetwork, hmaster, htarget, htype, hfingerprint⟩ := h
  constructor <;> rw [haging.captured] <;> assumption

theorem Recording.aged {database : Database}
    (h : world.Recording viem) (haged : RowsAged world.database database)
    {reservation : Reservation} (hmem : reservation ∈ world.reserved) :
    database.Holds reservation.journalId
      (RecordedRow viem reservation.review reservation.refreshed) :=
  (h.rows reservation hmem).aged haged fun _ _ haging hrow =>
    RecordedRow.aged haging hrow

theorem reserved_step (viem : Viem) (encode : MessagePack)
    (world : OrchestratorWorld) (event : OrchestratorEvent) :
    (world.step viem encode event).reserved = world.reserved ∨
      ∃ i run answers reservation, event = .answer i (.unlocked answers) ∧
        world.runs[i]? = some run ∧
        run.stage = .unlocking reservation.refreshedInput reservation.refreshed ∧
        reservation.review = run.review ∧ reservation.before = world.database ∧
        (world.step viem encode event).reserved = world.reserved ++ [reservation] ∧
        ∃ record ∈ (world.step viem encode event).database.actionJournal,
          record.journalId = reservation.journalId ∧ record.state = .prepared ∧
          RecordedRow viem run.review reservation.refreshed record ∧
          (world.step viem encode event).database.actionJournal =
            world.database.actionJournal ++ [record] := by
  cases event with
  | confirm orchestrator repository attempts input current =>
    left
    simp only [step, confirm]
    split <;> rfl
  | reset orchestrator => exact .inl rfl
  | call repository call =>
    left
    simp only [step, OrchestratorWorld.call]
    split <;> rfl
  | crash => exact .inl rfl
  | answer i answer =>
    cases hrun : world.runs[i]? with
    | none => exact .inl (by simp only [step, hrun])
    | some run =>
      cases hreservation : run.reservation world.database
          (run.proceed viem encode (world.view run) answer).2.journalId with
      | none => exact .inl (by simp [step, hrun, goOn, hreservation])
      | some reservation =>
        right
        obtain ⟨hstage, -, hsome, hreview, hbefore⟩ :=
          ConfirmRun.reservation_eq_some hreservation
        obtain ⟨⟨answers, rfl⟩, record, hid, hstate, hrow, hjournal⟩ :=
          ConfirmRun.reserved_of_proceed rfl hreservation
        refine ⟨i, run, answers, reservation, rfl, hrun, hstage, hreview,
          hbefore, by simp [step, hrun, goOn, hreservation], record, ?_, ?_,
          hstate, hrow, ?_⟩
        · simp only [step, hrun, goOn]
          rw [hjournal]
          exact List.mem_append_right _ List.mem_cons_self
        · rw [hid] at hsome
          exact Option.some.inj hsome
        · simp only [step, hrun, goOn]
          exact hjournal

theorem terminal_of_reserved (hrecording : world.Recording viem)
    {earlier : Reservation} (hearlier : earlier ∈ world.reserved)
    (hequivalent : earlier.review.Equivalent review) {refreshedInput : TradingActionValidationInput}
    (hcompared : checkRefreshed viem review refreshedInput = .ok refreshed)
    (hsame : earlier.refreshed.intent.aggressiveLimitPrice = refreshed.intent.aggressiveLimitPrice ∧
      earlier.refreshed.marketCanonicalId = refreshed.marketCanonicalId)
    {after : Database} {record : PreparedActionRecord}
    (hrecord : RecordedRow viem review refreshed record) (hstate : record.state = .prepared)
    (hjournal : after.actionJournal = world.database.actionJournal ++ [record])
    (hrow : row ∈ world.database.actionJournal) (hid : row.journalId = earlier.journalId) :
    isTerminalJournalState row.state = true := by
  obtain ⟨found, hfound, hfoundid, hfoundrow⟩ := hrecording.rows earlier hearlier
  obtain rfl := world.database.uniqueIds.eq_of_mem hrow hfound
    (hid.trans hfoundid.symm)
  have hintents : earlier.refreshed.intent.compared = refreshed.intent.compared := by
    have hfirst := (checkRefreshed_eq_ok (hrecording.compared earlier hearlier)).intent.compared
    have hsecond := (checkRefreshed_eq_ok hcompared).intent.compared
    rw [hfirst, hsecond]
    exact hequivalent.intent
  obtain ⟨htype, haction⟩ := withoutCloid_eq_of_compared hintents hsame.1
  have hsource : fingerprintSource earlier.refreshed = fingerprintSource refreshed := by
    rw [fingerprintSource, fingerprintSource, haction, hsame.2]
  have hfingerprint : row.sameFingerprint record := by
    have hmaster := hfoundrow.masterAccount
    have htarget := hfoundrow.targetAccount
    have hdigest := hfoundrow.fingerprint
    rw [hequivalent.masterAccount, hrecord.masterAccount] at hmaster
    rw [hequivalent.targetAccount, hrecord.targetAccount] at htarget
    rw [hsource, hrecord.fingerprint] at hdigest
    refine ⟨?_, ?_, ?_, ?_, ?_⟩
    · rw [hfoundrow.network, hrecord.network, hequivalent.network]
    · exact (Except.ok.inj hmaster).symm
    · exact (Except.ok.inj htarget).symm
    · rw [hfoundrow.actionType, hrecord.actionType, htype]
    · exact (Except.ok.inj hdigest).symm
  have hkeys : (world.database.actionJournal ++ [record]).Pairwise
      fun a b => ¬ a.clash b := hjournal ▸ after.consistent.recordKeys
  have hfree := (List.pairwise_append.mp hkeys).2.2 row hrow record
    List.mem_cons_self
  by_contra hopen
  refine hfree (.inr (.inr (.inr (.inr ⟨?_, ?_, hfingerprint⟩))))
  · simpa using hopen
  · rw [hstate]
    rfl

/-- With its price unchanged, a live record goes on blocking what is equivalent to it. -/
theorem blocks_step (hrecording : world.Recording viem)
    (hblocks : world.BlocksEquivalent) (hagreeing : world.Agreeing)
    (hfaithful : world.Faithful viem encode) {event : OrchestratorEvent}
    (hprice : world.SamePrice event) :
    (world.step viem encode event).Recording viem ∧
      (world.step viem encode event).BlocksEquivalent := by
  have haged := hagreeing.aged (stepped_step viem encode world event)
  rcases reserved_step viem encode world event with
    hsame | ⟨i, run, answers, reservation, rfl, hrun, hstage, hreview, hbefore, hnew,
      record, hmem, hid, hstate, hrow, hjournal⟩
  · constructor
    · constructor
      · rw [hsame]
        exact hrecording.compared
      · rw [hsame]
        exact fun reservation hmem => hrecording.aged haged hmem
      · rw [hsame]
        exact fun reservation hmem => (hrecording.before reservation hmem).trans haged
    · unfold BlocksEquivalent
      rw [hsame]
      exact hblocks
  · have hfresh : ∀ row ∈ world.database.actionJournal,
        row.journalId ≠ reservation.journalId := by
      intro row hold
      have hunique : Table.UniqueKeys PreparedActionRecord.key
          (world.database.actionJournal ++ [record]) :=
        hjournal ▸ Database.uniqueIds _
      rw [← hid]
      exact (List.pairwise_append.mp hunique).2.2 row hold record List.mem_cons_self
    have hcompared : checkRefreshed viem run.review reservation.refreshedInput =
        .ok reservation.refreshed := by
      have hcarried := hfaithful.compared i run hrun
      rw [hstage] at hcarried
      exact hcarried
    constructor
    · constructor
      · rw [hnew]
        intro other hother
        rcases List.mem_append.mp hother with hold | hlast
        · exact hrecording.compared other hold
        · rw [List.mem_singleton.mp hlast, hreview]
          exact hcompared
      · rw [hnew]
        intro other hother
        rcases List.mem_append.mp hother with hold | hlast
        · exact hrecording.aged haged hold
        · rw [List.mem_singleton.mp hlast, hreview]
          exact ⟨record, hmem, hid, hrow⟩
      · rw [hnew]
        intro other hother
        rcases List.mem_append.mp hother with hold | hlast
        · exact (hrecording.before other hold).trans haged
        · rw [List.mem_singleton.mp hlast, hbefore]
          exact haged
    · unfold BlocksEquivalent
      rw [hnew]
      intro later hlater earlier hearlier hequivalent row hrowmem hrowid
      rcases List.mem_append.mp hlater with holdlater | hlast
      · rcases List.mem_append.mp hearlier with holdearlier | hlast
        · exact hblocks later holdlater earlier holdearlier hequivalent row hrowmem
            hrowid
        · obtain rfl := List.mem_singleton.mp hlast
          obtain ⟨row', hrow', hkey, -⟩ :=
            (hrecording.before later holdlater).forward row hrowmem
          exact absurd (hkey.trans hrowid) (hfresh row' hrow')
      · obtain rfl := List.mem_singleton.mp hlast
        rw [hbefore] at hrowmem
        rw [hreview] at hequivalent
        rcases List.mem_append.mp hearlier with holdearlier | hlast
        · by_contra hopen
          have hsame := hprice i answers run later.refreshedInput later.refreshed rfl
            hrun hstage earlier holdearlier hequivalent
            ⟨row, hrowmem, hrowid, by simpa using hopen⟩
          exact hopen (terminal_of_reserved hrecording holdearlier hequivalent
            hcompared hsame hrow hstate hjournal hrowmem hrowid)
        · obtain rfl := List.mem_singleton.mp hlast
          exact absurd hrowid (hfresh row hrowmem)

instance (a b : ActionReviewSnapshot) : Decidable (a.Equivalent b) :=
  decidable_of_iff
    (a.binding.network = b.binding.network ∧ a.binding.masterAccount = b.binding.masterAccount ∧
      a.binding.targetAccount = b.binding.targetAccount ∧
      a.validated.intent.compared = b.validated.intent.compared)
    ⟨fun h => ⟨h.1, h.2.1, h.2.2.1, h.2.2.2⟩,
      fun h => ⟨h.network, h.masterAccount, h.targetAccount, h.intent⟩⟩

/-- The purchase is reserved, the flow is reset, and the same purchase is confirmed again
up to its refresh, which finds the market where it was. -/
def buyAgainRefreshed : List OrchestratorEvent :=
  buyReservation ++
    [.reset 0, buyConfirm secondCloid,
    .answer 1 (.refreshed (.ok (buyInput "60000" "60300" secondCloid)) (.ok true))]

def buyAgainUnlocked : OrchestratorEvent :=
  .answer 1 (.unlocked (buyUnlocked "jrnl_00000000000000000000000000000002"
    "act_00000000000000000000000000000002" 1100))

def buyAgain : List OrchestratorEvent := buyAgainRefreshed ++ [buyAgainUnlocked]

def derivedPrice (refreshed : ValidatedTradingAction) : Option String × String :=
  (refreshed.intent.aggressiveLimitPrice, refreshed.marketCanonicalId)

/-- The price, and the market, of the action a confirmation is about to reserve. -/
def reservingPrice (run : ConfirmRun) : Option (Option String × String) :=
  match run.stage with
  | .unlocking _ refreshed => some (derivedPrice refreshed)
  | _ => none

theorem samePrice_of_reserving {i : ℕ} {answers : Confirming.UnlockAnswers}
    {price : Option String × String}
    (hreserved : (world.reserved.all fun earlier =>
      decide (derivedPrice earlier.refreshed = price)) = true)
    (hreserving : world.runs[i]?.bind reservingPrice = some price) :
    world.SamePrice (.answer i (.unlocked answers)) := by
  rintro j other run refreshedInput refreshed hevent hrun hstage earlier hearlier - -
  cases hevent
  have hprice : derivedPrice refreshed = price := by
    rw [hrun, Option.bind_some, reservingPrice, hstage] at hreserving
    exact Option.some.inj hreserving
  have hearlierPrice : derivedPrice earlier.refreshed = price := by
    simpa using List.all_eq_true.mp hreserved earlier hearlier
  rw [← hprice] at hearlierPrice
  exact Prod.mk.inj hearlierPrice

theorem along_samePrice {events : List OrchestratorEvent}
    (hevents : ∀ event ∈ events, ∀ i answers, event ≠ .answer i (.unlocked answers)) :
    Along (step viem encode) SamePrice world events := by
  induction events generalizing world with
  | nil => trivial
  | cons event events ih =>
    refine ⟨?_, ih fun other hother => hevents other (List.mem_cons_of_mem _ hother)⟩
    intro i answers run refreshedInput refreshed hevent
    exact absurd hevent (hevents event List.mem_cons_self i answers)

theorem buyRefreshed_reserving :
    ((Library.run (step buyViem Json.messagePack) create buyRefreshed).reserved.all fun earlier =>
        decide (derivedPrice earlier.refreshed = (some "60300", "BTC"))) = true ∧
      (Library.run (step buyViem Json.messagePack) create buyRefreshed).runs[0]?.bind
        reservingPrice = some (some "60300", "BTC") := by
  decide +kernel

theorem buyAgainRefreshed_reserving :
    ((Library.run (step buyViem Json.messagePack) create
        buyAgainRefreshed).reserved.all fun earlier =>
          decide (derivedPrice earlier.refreshed = (some "60300", "BTC"))) = true ∧
      (Library.run (step buyViem Json.messagePack) create buyAgainRefreshed).runs[1]?.bind
        reservingPrice = some (some "60300", "BTC") ∧
      (((Library.run (step buyViem Json.messagePack) create buyAgainRefreshed).step buyViem
        Json.messagePack buyAgainUnlocked).reserved.map fun reservation =>
          reservation.journalId) = ["jrnl_00000000000000000000000000000001"] := by
  decide +kernel

theorem samePrice_buyAgain :
    Along (step buyViem Json.messagePack) SamePrice create buyAgain := by
  have hfirst : Along (step buyViem Json.messagePack) SamePrice create buyRefreshed := by
    refine along_samePrice ?_
    simp [buyRefreshed, buyConfirm]
  have hreservation : Along (step buyViem Json.messagePack) SamePrice create buyReservation := by
    refine (along_append _ _ _ _ _).mpr ⟨hfirst, ?_, trivial⟩
    exact samePrice_of_reserving buyRefreshed_reserving.1 buyRefreshed_reserving.2
  have hsecond : Along (step buyViem Json.messagePack) SamePrice create buyAgainRefreshed := by
    refine (along_append _ _ _ _ _).mpr ⟨hreservation, along_samePrice ?_⟩
    simp [buyConfirm]
  refine (along_append _ _ _ _ _).mpr ⟨hsecond, ?_, trivial⟩
  exact samePrice_of_reserving buyAgainRefreshed_reserving.1 buyAgainRefreshed_reserving.2.1

/-- The purchase is reserved, the flow is reset, and the same purchase is confirmed
after the market has moved. -/
def buyTwice : List OrchestratorEvent :=
  buyReservation ++
    [.reset 0, buyConfirm secondCloid,
    .answer 1 (.refreshed (.ok (buyInput "60100" "60400" secondCloid)) (.ok true)),
    .answer 1 (.unlocked (buyUnlocked "jrnl_00000000000000000000000000000002"
      "act_00000000000000000000000000000002" 1100))]

theorem buyTwice_reserved :
    ((Library.run (step buyViem Json.messagePack) create buyTwice).reserved.any fun later =>
        (Library.run (step buyViem Json.messagePack) create buyTwice).reserved.any fun earlier =>
            decide (earlier.review.Equivalent later.review) &&
              later.before.actionJournal.any fun row =>
                decide (row.journalId = earlier.journalId) &&
                  !isTerminalJournalState row.state) = true := by
  decide +kernel

end OrchestratorWorld

end HyperTrader
