import HyperTrader.Actions.Classification
import HyperTrader.Nonce.Refusal
import HyperTrader.Reconciliation.Evidence

/-!
# What a reconciliation decision rests on

Every terminal verdict needs a complete bundle of the record's own context. An accepted
and a rejected verdict rest on exact evidence, an expiry on the authoritative server
time and on the absence of exact evidence, and what the bundle says about another order
changes nothing. A cancel is accepted on the order's own final status, whatever the open
orders say.
-/

namespace HyperTrader

open Library

structure OwnEvidence (viem : Viem) (record : PreparedActionRecord)
    (evidence : ReconciliationEvidence) : Prop where
  complete : evidence.complete = true
  readable : evidence.order ≠ .malformed
  network : record.network = evidence.context.network
  master : ∃ address, viem.getAddress record.masterAccount = some address ∧
    ∃ other, viem.getAddress evidence.context.masterAccount = some other ∧
      asciiLower address = asciiLower other
  target : ∃ address, viem.getAddress record.targetAccount = some address ∧
    ∃ other, viem.getAddress evidence.context.targetAccount = some other ∧
      asciiLower address = asciiLower other
  asset : record.assetId = evidence.context.assetId

def ObservedOrderStatus.final : ObservedOrderStatus → Bool
  | .canceled => true
  | .filled => true
  | .triggered => true
  | .open => false
  | .rejected => false

/-- The leverage that was observed, where it is of the record's asset and as it asks. -/
def observedLeverage (record : PreparedActionRecord) (evidence : ReconciliationEvidence) :
    Option ObservedLeverageEvidence :=
  (reviewedLeverage record.normalizedSecretFreeIntent).bind fun reviewed =>
    evidence.leverage.filter fun observed => record.assetId == some observed.assetId &&
      observed.leverage == reviewed.1 && observed.marginMode == reviewed.2.1

/-- The evidence shows that the action itself was accepted: a leverage that is as the record
asks only where it is attributed to it. -/
def exactAcceptance (record : PreparedActionRecord) (evidence : ReconciliationEvidence) : Bool :=
  match record.actionType with
  | .cancel => (exactObservedOrder record evidence.order).any ObservedOrderStatus.final
  | .updateLeverage => (observedLeverage record evidence).any (·.causallyAttributed)
  | .bulkCancel => false
  | .marketOrder | .limitOrder | .positionTpsl | .reduceOnlyClose =>
    hasAcceptance record evidence

def exactRejection (record : PreparedActionRecord) (evidence : ReconciliationEvidence) : Bool :=
  if record.actionType.createsOrder then hasRejection record evidence
  else evidence.definitiveRejection

/-- The target of a cancel had been observed and is gone. -/
structure AbsentTarget (record : PreparedActionRecord) (evidence : ReconciliationEvidence) :
    Prop where
  cancel : record.actionType = .cancel
  observed : record.normalizedSecretFreeIntent.flag "targetObservedBeforeSubmission" =
    some true
  unknown : evidence.order = .unknown
  closed : evidence.openOrders.any (sameIdentity record) = false

def ReconciliationEvidence.only (evidence : ReconciliationEvidence)
    (record : PreparedActionRecord) : ReconciliationEvidence :=
  { evidence with
    openOrders := evidence.openOrders.filter (sameIdentity record)
    fills := evidence.fills.filter (sameIdentity record) }

structure SoundDecision (viem : Viem) (record : PreparedActionRecord)
    (evidence : ReconciliationEvidence) : Prop where
  /-- A terminal verdict needs the record's own evidence. -/
  own : ∀ state, decideReconciliation viem record evidence = .ok (.terminal state) →
    OwnEvidence viem record evidence
  /-- An acceptance rests on exact evidence, or on the absence of an observed target. -/
  accepted : decideReconciliation viem record evidence = .ok (.terminal .accepted) →
    exactAcceptance record evidence = true ∨ AbsentTarget record evidence
  rejected : decideReconciliation viem record evidence = .ok (.terminal .rejected) →
    exactRejection record evidence = true
  expired : decideReconciliation viem record evidence = .ok (.terminal .expired) →
    record.expiresAfterMs < evidence.serverTimeMs ∧
      (exactAcceptance record evidence = false ∧ exactRejection record evidence = false) ∧
      (record.actionType = .updateLeverage → observedLeverage record evidence = none)
  /-- Contradictory evidence about an order of the record's own is ambiguous. -/
  ambiguous : record.actionType.createsOrder = true → hasAcceptance record evidence = true →
    hasRejection record evidence = true → ∀ decision,
      decideReconciliation viem record evidence = .ok decision →
        evidence.complete = true → evidence.order ≠ .malformed →
          decision = .terminal .reconciledAmbiguous
  /-- A cancel of an order that is still open is accepted on its final status only. -/
  open_cancel : record.actionType = .cancel →
    evidence.openOrders.any (sameIdentity record) = true →
      decideReconciliation viem record evidence = .ok (.terminal .accepted) →
        ∃ status, exactObservedOrder record evidence.order = some status ∧
          status.final = true
  /-- Other orders of the lists change nothing. -/
  lists : decideReconciliation viem record (evidence.only record) =
    decideReconciliation viem record evidence
  /-- An observed order that is another one counts as any other such. -/
  other : ∀ identity status, evidence.order = .order identity status →
    sameIdentity record identity = false →
      ∀ identity' status', sameIdentity record identity' = false →
        decideReconciliation viem record
            { evidence with order := .order identity' status' } =
          decideReconciliation viem record evidence

section

variable {viem : Viem} {record : PreparedActionRecord} {evidence : ReconciliationEvidence}
  {decision : ReconciliationDecision}

/-! ### The decision for each kind of action -/

theorem decideCreate_eq_ok : decideCreate record evidence = .ok decision ↔
    record.cloid.isSome = true ∧ decision =
      if hasAcceptance record evidence && hasRejection record evidence then
        .terminal .reconciledAmbiguous
      else if hasRejection record evidence then .terminal .rejected
      else if hasAcceptance record evidence then .terminal .accepted
      else if !atOrAfterExpiry record evidence then .unresolved .beforeExpiry
      else .terminal .expired := by
  unfold decideCreate
  simp only [except_bind_eq_ok, require_eq_ok]
  constructor
  · rintro ⟨-, hcloid, h⟩
    refine ⟨hcloid, ?_⟩
    split_ifs at h ⊢ <;> exact (Except.ok.inj h).symm
  · rintro ⟨hcloid, rfl⟩
    refine ⟨(), hcloid, ?_⟩
    split_ifs <;> rfl

theorem decideCreate_accepted (h : decideCreate record evidence = .ok (.terminal .accepted)) :
    hasAcceptance record evidence = true := by
  obtain ⟨-, h⟩ := decideCreate_eq_ok.mp h
  cases haccepted : hasAcceptance record evidence with
  | true => rfl
  | false =>
    cases hrejected : hasRejection record evidence with
    | true => simp [haccepted, hrejected] at h
    | false => cases hexpired : atOrAfterExpiry record evidence <;>
        simp [haccepted, hrejected, hexpired] at h

theorem decideCreate_rejected (h : decideCreate record evidence = .ok (.terminal .rejected)) :
    hasRejection record evidence = true := by
  obtain ⟨-, h⟩ := decideCreate_eq_ok.mp h
  cases hrejected : hasRejection record evidence with
  | true => rfl
  | false =>
    cases haccepted : hasAcceptance record evidence with
    | true => simp [haccepted, hrejected] at h
    | false => cases hexpired : atOrAfterExpiry record evidence <;>
        simp [haccepted, hrejected, hexpired] at h

theorem decideCreate_ambiguous (haccepted : hasAcceptance record evidence = true)
    (hrejected : hasRejection record evidence = true)
    (h : decideCreate record evidence = .ok decision) :
    decision = .terminal .reconciledAmbiguous := by
  obtain ⟨-, rfl⟩ := decideCreate_eq_ok.mp h
  simp [haccepted, hrejected]

theorem decideClose_cases (h : decideClose record evidence = .ok decision) :
    decideCreate record evidence = .ok decision ∨
      decision = .terminal .reconciledAmbiguous := by
  unfold decideClose at h
  obtain ⟨order, horder, h⟩ := except_bind_eq_ok.mp h
  split at h
  · cases h
    exact .inl horder
  · split at h
    · cases h
      exact .inr rfl
    · cases h
      exact .inl horder

theorem decideClose_ambiguous (haccepted : hasAcceptance record evidence = true)
    (hrejected : hasRejection record evidence = true)
    (h : decideClose record evidence = .ok decision) :
    decision = .terminal .reconciledAmbiguous := by
  rcases decideClose_cases h with horder | hambiguous
  · exact decideCreate_ambiguous haccepted hrejected horder
  · exact hambiguous

theorem decideCancel_cases (h : decideCancel record evidence = .ok decision) :
    (evidence.definitiveRejection = true ∧ decision = .terminal .rejected) ∨
    (evidence.definitiveRejection = false ∧
      (((exactObservedOrder record evidence.order).any ObservedOrderStatus.final = true ∧
          decision = .terminal .accepted) ∨
      ((exactObservedOrder record evidence.order).any ObservedOrderStatus.final = false ∧
        ((evidence.openOrders.any (sameIdentity record) = true ∧
            (decision = .terminal .expired ∧ atOrAfterExpiry record evidence = true ∨
              decision = .unresolved .actionStillPending)) ∨
        (evidence.openOrders.any (sameIdentity record) = false ∧
          ((record.normalizedSecretFreeIntent.flag "targetObservedBeforeSubmission" =
                some true ∧ evidence.order = .unknown ∧ decision = .terminal .accepted) ∨
            decision = .terminal .reconciledAmbiguous ∨
            decision = .unresolved .beforeExpiry)))))) := by
  have hfinal (status : Option ObservedOrderStatus) :
      (status == some .canceled || status == some .filled || status == some .triggered) =
        status.any ObservedOrderStatus.final := by
    rcases status with _ | _ | _ | _ | _ | _ <;> rfl
  unfold decideCancel at h
  obtain ⟨-, -, h⟩ := except_bind_eq_ok.mp h
  simp only [hfinal] at h
  split at h
  · rename_i hrejected
    cases h
    exact .inl ⟨hrejected, rfl⟩
  · rename_i hrejected
    refine .inr ⟨by simpa using hrejected, ?_⟩
    split at h
    · rename_i hstatus
      cases h
      exact .inl ⟨hstatus, rfl⟩
    · rename_i hstatus
      refine .inr ⟨by simpa using hstatus, ?_⟩
      split at h
      · rename_i hopen
        refine .inl ⟨hopen, ?_⟩
        split at h
        · rename_i hexpired
          cases h
          exact .inl ⟨rfl, hexpired⟩
        · cases h
          exact .inr rfl
      · rename_i hclosed
        refine .inr ⟨by simpa using hclosed, ?_⟩
        split at h
        · rename_i habsent
          cases h
          obtain ⟨hobserved, hunknown⟩ := (Bool.and_eq_true _ _).mp habsent
          exact .inl ⟨eq_of_beq hobserved, eq_of_beq hunknown, rfl⟩
        · split at h
          · cases h
            exact .inr (.inl rfl)
          · cases h
            exact .inr (.inr rfl)

theorem decideLeverage_cases :
    (evidence.definitiveRejection = true ∧ decideLeverage record evidence = .terminal .rejected) ∨
    (evidence.definitiveRejection = false ∧
      ((∃ observed, observedLeverage record evidence = some observed ∧
        decideLeverage record evidence =
          .terminal (if observed.causallyAttributed then .accepted else .reconciledAmbiguous)) ∨
      (observedLeverage record evidence = none ∧
        ((decideLeverage record evidence = .terminal .expired ∧
            atOrAfterExpiry record evidence = true) ∨
          ∃ reason, decideLeverage record evidence = .unresolved reason)))) := by
  unfold decideLeverage observedLeverage
  cases hrejected : evidence.definitiveRejection with
  | true => exact .inl ⟨rfl, rfl⟩
  | false =>
    refine .inr ⟨rfl, ?_⟩
    simp only [Bool.false_eq_true, if_false]
    cases reviewedLeverage record.normalizedSecretFreeIntent with
    | none => exact .inr ⟨rfl, .inr ⟨_, rfl⟩⟩
    | some reviewed =>
      obtain ⟨leverage, marginMode, stateVersion⟩ := reviewed
      rw [Option.bind_some]
      dsimp only
      cases Option.filter (fun observed : ObservedLeverageEvidence =>
          record.assetId == some observed.assetId && observed.leverage == leverage &&
            observed.marginMode == marginMode) evidence.leverage with
      | some observed =>
        refine .inl ⟨observed, rfl, ?_⟩
        cases hattributed : observed.causallyAttributed with
        | true => simp [hattributed]
        | false => simp [hattributed]
      | none =>
        refine .inr ⟨rfl, ?_⟩
        cases hexpired : atOrAfterExpiry record evidence with
        | false => exact .inr ⟨_, rfl⟩
        | true =>
          by_cases hnewer : stateVersion < evidence.stateVersion
          · exact .inl ⟨by simp [hnewer], rfl⟩
          · exact .inr ⟨.incompleteEvidence, by simp [hnewer]⟩

/-! ### Every decision -/

theorem decideReconciliation_cases (h : decideReconciliation viem record evidence = .ok decision) :
    assertContext viem record evidence = .ok () ∧
      (((evidence.complete = false ∨ evidence.order = .malformed) ∧
          decision = .unresolved .incompleteEvidence) ∨
      (evidence.complete = true ∧ evidence.order ≠ .malformed ∧
        ((record.actionType.createsOrder = true ∧ (decideCreate record evidence = .ok decision ∨
              record.actionType = .reduceOnlyClose ∧ decideClose record evidence = .ok decision)) ∨
          (record.actionType = .cancel ∧ decideCancel record evidence = .ok decision) ∨
          (record.actionType = .updateLeverage ∧ decision = decideLeverage record evidence)))) := by
  unfold decideReconciliation at h
  obtain ⟨_, hcontext, h⟩ := except_bind_eq_ok.mp h
  refine ⟨hcontext, ?_⟩
  split at h
  · rename_i hunreadable
    cases h
    simp only [Bool.or_eq_true, Bool.not_eq_true', beq_iff_eq] at hunreadable
    exact .inl ⟨hunreadable, rfl⟩
  · rename_i hreadable
    simp only [Bool.or_eq_true, Bool.not_eq_true', beq_iff_eq, not_or] at hreadable
    refine .inr ⟨by simpa using hreadable.1, hreadable.2, ?_⟩
    cases htype : record.actionType with
    | marketOrder => exact .inl ⟨rfl, .inl (by simpa [htype] using h)⟩
    | limitOrder => exact .inl ⟨rfl, .inl (by simpa [htype] using h)⟩
    | positionTpsl => exact .inl ⟨rfl, .inl (by simpa [htype] using h)⟩
    | reduceOnlyClose => exact .inl ⟨rfl, .inr ⟨rfl, by simpa [htype] using h⟩⟩
    | cancel => exact .inr (.inl ⟨rfl, by simpa [htype] using h⟩)
    | updateLeverage =>
      simp only [htype, pure, Except.pure, Except.ok.injEq] at h
      exact .inr (.inr ⟨rfl, h.symm⟩)
    | bulkCancel => simp [htype, throw, throwThe, MonadExceptOf.throw] at h

theorem normalizeEvidenceAddress_eq_ok {value path address : String} :
    normalizeEvidenceAddress viem value path = .ok address ↔
      ∃ checksummed, viem.getAddress value = some checksummed ∧
        asciiLower checksummed = address := by
  unfold normalizeEvidenceAddress
  cases viem.getAddress value with
  | none => simp
  | some checksummed => simp

theorem ownEvidence_of_context (hcontext : assertContext viem record evidence = .ok ())
    (hcomplete : evidence.complete = true) (hreadable : evidence.order ≠ .malformed) :
    OwnEvidence viem record evidence := by
  unfold assertContext at hcontext
  simp only [except_bind_eq_ok, require_eq_ok, normalizeEvidenceAddress_eq_ok] at hcontext
  obtain ⟨-, hnetwork, _, ⟨master, hmaster, rfl⟩, _, ⟨otherMaster, hotherMaster, rfl⟩, -,
    hsameMaster, _, ⟨target, htarget, rfl⟩, _, ⟨otherTarget, hotherTarget, rfl⟩, -,
    hsameTarget, -, hasset, -⟩ := hcontext
  exact ⟨hcomplete, hreadable, hnetwork, ⟨master, hmaster, otherMaster, hotherMaster,
    hsameMaster⟩, ⟨target, htarget, otherTarget, hotherTarget, hsameTarget⟩, hasset⟩

theorem atOrAfterExpiry_iff : atOrAfterExpiry record evidence = true ↔
    record.expiresAfterMs < evidence.serverTimeMs := by
  simp [atOrAfterExpiry]

theorem exactAcceptance_of_creates (hcreates : record.actionType.createsOrder = true) :
    exactAcceptance record evidence = hasAcceptance record evidence := by
  unfold exactAcceptance
  cases htype : record.actionType with
  | cancel => simp [htype, JournalActionType.createsOrder] at hcreates
  | updateLeverage => simp [htype, JournalActionType.createsOrder] at hcreates
  | bulkCancel => simp [htype, JournalActionType.createsOrder] at hcreates
  | _ => rfl

theorem exactRejection_of_creates (hcreates : record.actionType.createsOrder = true) :
    exactRejection record evidence = hasRejection record evidence := if_pos hcreates

theorem accepted_rests (h : decideReconciliation viem record evidence = .ok (.terminal .accepted)) :
    exactAcceptance record evidence = true ∨ AbsentTarget record evidence := by
  obtain ⟨-, ⟨-, hnone⟩ | ⟨-, -, hcase⟩⟩ := decideReconciliation_cases h
  · cases hnone
  rcases hcase with ⟨hcreates, hcreate⟩ | ⟨htype, hcancel⟩ | ⟨htype, hleverage⟩
  · rw [exactAcceptance_of_creates hcreates]
    left
    rcases hcreate with hcreate | ⟨-, hclose⟩
    · exact decideCreate_accepted hcreate
    · exact (decideClose_cases hclose).elim decideCreate_accepted fun h => by cases h
  · rcases decideCancel_cases hcancel with ⟨-, hnone⟩ | ⟨-, ⟨hfinal, -⟩ |
      ⟨-, ⟨-, ⟨hnone, -⟩ | hnone⟩ | ⟨hclosed, ⟨hobserved, hunknown, -⟩ | hnone | hnone⟩⟩⟩
    · cases hnone
    · left
      unfold exactAcceptance
      rw [htype]
      exact hfinal
    · cases hnone
    · cases hnone
    · exact .inr ⟨htype, hobserved, hunknown, hclosed⟩
    · cases hnone
    · cases hnone
  · left
    unfold exactAcceptance
    rw [htype]
    rcases @decideLeverage_cases record evidence with ⟨-, hnone⟩ | ⟨-, ⟨observed, hobserved,
      hdecided⟩ | ⟨-, ⟨hnone, -⟩ | ⟨reason, hnone⟩⟩⟩
    · cases hleverage.trans hnone
    · rw [hobserved]
      cases hattributed : observed.causallyAttributed with
      | true => exact hattributed
      | false =>
        rw [hattributed] at hdecided
        cases hleverage.trans hdecided
    · cases hleverage.trans hnone
    · cases hleverage.trans hnone

theorem rejected_rests (h : decideReconciliation viem record evidence =
      .ok (.terminal .rejected)) : exactRejection record evidence = true := by
  obtain ⟨-, ⟨-, hnone⟩ | ⟨-, -, hcase⟩⟩ := decideReconciliation_cases h
  · cases hnone
  rcases hcase with ⟨hcreates, hcreate⟩ | ⟨htype, hcancel⟩ | ⟨htype, hleverage⟩
  · rw [exactRejection_of_creates hcreates]
    rcases hcreate with hcreate | ⟨-, hclose⟩
    · exact decideCreate_rejected hcreate
    · exact (decideClose_cases hclose).elim decideCreate_rejected fun h => by cases h
  · unfold exactRejection
    rw [htype]
    rcases decideCancel_cases hcancel with ⟨hrejected, -⟩ | ⟨-, ⟨-, hnone⟩ |
      ⟨-, ⟨-, ⟨hnone, -⟩ | hnone⟩ | ⟨-, ⟨-, -, hnone⟩ | hnone | hnone⟩⟩⟩
    · exact hrejected
    all_goals cases hnone
  · unfold exactRejection
    rw [htype]
    rcases @decideLeverage_cases record evidence with ⟨hrejected, -⟩ | ⟨-, ⟨observed, -,
      hnone⟩ | ⟨-, ⟨hnone, -⟩ | ⟨reason, hnone⟩⟩⟩
    · exact hrejected
    · cases hattributed : observed.causallyAttributed <;> rw [hattributed] at hnone <;>
        cases hleverage.trans hnone
    · cases hleverage.trans hnone
    · cases hleverage.trans hnone

theorem expired_rests (h : decideReconciliation viem record evidence = .ok (.terminal .expired)) :
    record.expiresAfterMs < evidence.serverTimeMs ∧
      (exactAcceptance record evidence = false ∧ exactRejection record evidence = false) ∧
      (record.actionType = .updateLeverage → observedLeverage record evidence = none) := by
  obtain ⟨-, ⟨-, hnone⟩ | ⟨-, -, hcase⟩⟩ := decideReconciliation_cases h
  · cases hnone
  rcases hcase with ⟨hcreates, hcreate⟩ | ⟨htype, hcancel⟩ | ⟨htype, hleverage⟩
  · obtain ⟨-, haccepted, hrejected, hlate⟩ := decideReconciliation_expired hcreates h
    rw [exactAcceptance_of_creates hcreates, exactRejection_of_creates hcreates]
    refine ⟨hlate, ⟨haccepted, hrejected⟩, fun htype => ?_⟩
    rw [htype] at hcreates
    cases hcreates
  · unfold exactAcceptance exactRejection
    rw [htype]
    rcases decideCancel_cases hcancel with ⟨-, hnone⟩ | ⟨hrejected, ⟨-, hnone⟩ |
      ⟨hfinal, ⟨-, ⟨-, hlate⟩ | hnone⟩ | ⟨-, ⟨-, -, hnone⟩ | hnone | hnone⟩⟩⟩
    · cases hnone
    · cases hnone
    · exact ⟨atOrAfterExpiry_iff.mp hlate, ⟨hfinal, hrejected⟩, fun hnone => by cases hnone⟩
    all_goals cases hnone
  · unfold exactAcceptance exactRejection
    rw [htype]
    rcases @decideLeverage_cases record evidence with ⟨-, hnone⟩ |
      ⟨hrejected, ⟨observed, -, hnone⟩ | ⟨hobserved, ⟨-, hlate⟩ | ⟨reason, hnone⟩⟩⟩
    · cases hleverage.trans hnone
    · cases hattributed : observed.causallyAttributed <;> rw [hattributed] at hnone <;>
        cases hleverage.trans hnone
    · refine ⟨atOrAfterExpiry_iff.mp hlate, ⟨?_, hrejected⟩, fun _ => hobserved⟩
      rw [hobserved]
      rfl
    · cases hleverage.trans hnone

theorem contradiction_ambiguous (hcreates : record.actionType.createsOrder = true)
    (haccepted : hasAcceptance record evidence = true)
    (hrejected : hasRejection record evidence = true)
    (h : decideReconciliation viem record evidence = .ok decision)
    (hcomplete : evidence.complete = true) (hreadable : evidence.order ≠ .malformed) :
    decision = .terminal .reconciledAmbiguous := by
  obtain ⟨-, ⟨hunreadable, -⟩ | ⟨-, -, hcase⟩⟩ := decideReconciliation_cases h
  · rcases hunreadable with hincomplete | hmalformed
    · rw [hcomplete] at hincomplete
      cases hincomplete
    · exact absurd hmalformed hreadable
  rcases hcase with ⟨-, hcreate | ⟨-, hclose⟩⟩ | ⟨htype, -⟩ | ⟨htype, -⟩
  · exact decideCreate_ambiguous haccepted hrejected hcreate
  · exact decideClose_ambiguous haccepted hrejected hclose
  · rw [htype] at hcreates
    cases hcreates
  · rw [htype] at hcreates
    cases hcreates

theorem open_cancel_final (htype : record.actionType = .cancel)
    (hopen : evidence.openOrders.any (sameIdentity record) = true)
    (h : decideReconciliation viem record evidence = .ok (.terminal .accepted)) :
    ∃ status, exactObservedOrder record evidence.order = some status ∧
      status.final = true := by
  rcases accepted_rests h with haccepted | habsent
  · unfold exactAcceptance at haccepted
    rw [htype] at haccepted
    exact (Option.any_eq_true _ _).mp haccepted
  · rw [habsent.closed] at hopen
    cases hopen

/-! ### Evidence about other orders -/

theorem any_filter_self {α : Type*} (p : α → Bool) (items : List α) :
    (items.filter p).any p = items.any p := by
  rw [List.any_filter]
  simp

theorem decideReconciliation_only :
    decideReconciliation viem record (evidence.only record) =
      decideReconciliation viem record evidence := by
  have haccepted : hasAcceptance record (evidence.only record) =
      hasAcceptance record evidence := by
    simp only [hasAcceptance, ReconciliationEvidence.only, any_filter_self]
  have hcreate : decideCreate record (evidence.only record) = decideCreate record evidence := by
    unfold decideCreate
    rw [haccepted]
    rfl
  have hclose : decideClose record (evidence.only record) = decideClose record evidence := by
    unfold decideClose
    rw [hcreate]
    rfl
  have hcancel : decideCancel record (evidence.only record) = decideCancel record evidence := by
    unfold decideCancel
    simp only [ReconciliationEvidence.only, any_filter_self]
    rfl
  unfold decideReconciliation
  rw [hcreate, hclose, hcancel]
  rfl

theorem decideReconciliation_other {identity identity' : ObservedOrderIdentity}
    {status status' : ObservedOrderStatus} (horder : evidence.order = .order identity status)
    (hother : sameIdentity record identity = false)
    (hother' : sameIdentity record identity' = false) :
    decideReconciliation viem record { evidence with order := .order identity' status' } =
      decideReconciliation viem record evidence := by
  have hexact : exactObservedOrder record evidence.order = none := by
    rw [horder]
    simp [exactObservedOrder, hother]
  have hexact' : exactObservedOrder record (.order identity' status') = none := by
    simp [exactObservedOrder, hother']
  have hmalformed : (evidence.order == .malformed) = false := by
    rw [horder]
    rfl
  have hunknown : (evidence.order == .unknown) = false := by
    rw [horder]
    rfl
  have hcreate : decideCreate record { evidence with order := .order identity' status' } =
      decideCreate record evidence := by
    unfold decideCreate hasAcceptance hasRejection
    simp only [hexact, hexact']
    rfl
  have hclose : decideClose record { evidence with order := .order identity' status' } =
      decideClose record evidence := by
    unfold decideClose
    rw [hcreate]
    rfl
  have hcancel : decideCancel record { evidence with order := .order identity' status' } =
      decideCancel record evidence := by
    unfold decideCancel
    simp only [hexact, hexact', hunknown]
    rfl
  unfold decideReconciliation
  rw [hcreate, hclose, hcancel]
  simp only [hmalformed]
  rfl

end

/-! ### The answer of `orderStatus` -/

/-- The answer with another coin of the order. -/
def recoined (coin : Json) : Json → Json :=
  mapField "order" (mapField "order" (mapField "coin" fun _ => coin))

theorem answeredOrder_recoined (coin raw : Json) :
    answeredOrder (recoined coin raw) = answeredOrder raw := by
  unfold answeredOrder recoined
  rw [field_mapField_self]
  cases raw.field "order" with
  | none => rfl
  | some wrapper =>
    rw [Option.map_some]
    change ((mapField "order" _ wrapper).field "order").bind _ = (wrapper.field "order").bind _
    rw [field_mapField_self]
    cases wrapper.field "order" with
    | none => rfl
    | some order =>
      have hoid : (mapField "coin" (fun _ => coin) order).integer "oid" = order.integer "oid" := by
        unfold Json.integer
        rw [field_mapField_of_ne (by decide)]
      have hcloid : answeredCloid (mapField "coin" (fun _ => coin) order) =
          answeredCloid order := by
        unfold answeredCloid
        rw [field_mapField_of_ne (by decide)]
      rw [Option.map_some, Option.bind_some, Option.bind_some, text_mapField_of_ne (by decide),
        hoid, hcloid]

theorem exactKeys_mapField (key : String) (change : Json → Json) (value : Json)
    (expected : List String) :
    exactKeys (mapField key change value) expected = exactKeys value expected := by
  have hsome : ∀ other, ((mapField key change value).field other).isSome =
      (value.field other).isSome := by
    intro other
    by_cases hother : other = key
    · rw [hother, field_mapField_self, Option.isSome_map]
    · rw [field_mapField_of_ne hother]
  cases value with
  | object fields =>
    unfold exactKeys
    simp only [mapField] at hsome ⊢
    simp only [hsome, List.length_map]
  | null | bool _ | number _ | string _ | array _ => rfl

structure SoundParse (raw : Json) (expected : ExpectedOrder) : Prop where
  /-- An order is the one that the answer names, and the expected one. -/
  order : ∀ identity status, parseAuthoritativeOrderStatus raw expected =
      .order identity status →
    answeredOrder raw = some (status, identity.oid, identity.cloid) ∧
      identity.assetId = expected.assetId ∧
      (∀ oid ∈ expected.oid, oid = identity.oid) ∧
      ∀ cloid ∈ expected.cloid, some (asciiLower cloid) = identity.cloid
  /-- An order is unknown where the answer says that and nothing else. -/
  unknown : parseAuthoritativeOrderStatus raw expected = .unknown →
    raw.text "status" = some "unknownOid" ∧ exactKeys raw ["status"] = true
  /-- The coin of the answer is not read: the asset of an order is the expected one. -/
  coin : ∀ coin, parseAuthoritativeOrderStatus (recoined coin raw) expected =
    parseAuthoritativeOrderStatus raw expected
  /-- An answer about another order is malformed. -/
  other : ∀ status oid cloid, answeredOrder raw = some (status, oid, cloid) →
    raw.text "status" = some "order" →
      ((∃ expectedOid ∈ expected.oid, expectedOid ≠ oid) ∨
        ∃ expectedCloid ∈ expected.cloid, some (asciiLower expectedCloid) ≠ cloid) →
        parseAuthoritativeOrderStatus raw expected = .malformed

theorem soundParse (raw : Json) (expected : ExpectedOrder) : SoundParse raw expected where
  order identity status h := by
    unfold parseAuthoritativeOrderStatus at h
    split_ifs at h
    split at h
    · cases h
    · rename_i answered oid cloid hanswer
      split_ifs at h with hexpected
      obtain ⟨rfl, rfl⟩ := ObservedOrderEvidence.order.inj h
      simp only [Bool.and_eq_true, Option.all_eq_true, beq_iff_eq] at hexpected
      exact ⟨hanswer, rfl, hexpected.1, hexpected.2⟩
  unknown h := by
    unfold parseAuthoritativeOrderStatus at h
    split_ifs at h with hformed hunknown hexact hnot
    · exact ⟨eq_of_beq hunknown, hexact⟩
    · split at h
      · cases h
      · split_ifs at h
  coin coin := by
    unfold parseAuthoritativeOrderStatus
    have hstatus : (recoined coin raw).text "status" = raw.text "status" :=
      text_mapField_of_ne (by decide)
    rw [hstatus, answeredOrder_recoined]
    simp only [recoined, exactKeys_mapField]
  other status oid cloid hanswer horder hother := by
    unfold parseAuthoritativeOrderStatus
    rw [horder, hanswer]
    have hdiffers : (expected.oid.all (fun expectedOid => expectedOid == oid) &&
        expected.cloid.all fun expectedCloid =>
          some (asciiLower expectedCloid) == cloid) = false := by
      rw [Bool.and_eq_false_iff]
      rcases hother with ⟨expectedOid, hoid, hne⟩ | ⟨expectedCloid, hcloid, hne⟩
      · left
        rw [Option.mem_def.mp hoid]
        simpa using hne
      · right
        rw [Option.mem_def.mp hcloid]
        simpa using hne
    simp [hdiffers]

/-- **The decision rests on exact evidence of the record's own**, for every record and
every bundle, and the parse makes none of an answer about another order. -/
theorem reconciliation_sound (viem : Viem) :
    (∀ record evidence, SoundDecision viem record evidence) ∧
      ∀ raw expected, SoundParse raw expected := by
  refine ⟨fun record evidence => ?_, soundParse⟩
  constructor
  · intro state h
    obtain ⟨hcontext, ⟨-, hnone⟩ | ⟨hcomplete, hreadable, -⟩⟩ := decideReconciliation_cases h
    · cases hnone
    · exact ownEvidence_of_context hcontext hcomplete hreadable
  · exact accepted_rests
  · exact rejected_rests
  · exact expired_rests
  · intro hcreates haccepted hrejected decision h hcomplete hreadable
    exact contradiction_ambiguous hcreates haccepted hrejected h hcomplete hreadable
  · exact open_cancel_final
  · exact decideReconciliation_only
  · intro identity status horder hother identity' status' hother'
    exact decideReconciliation_other horder hother hother'

/-! ### A cancel of an order that is still open -/

/-- The functions of `viem` on addresses of digits only, which are their own checksums. -/
def evidenceViem : Viem where
  getAddress address := some address
  keccak256 _ := ""
  keccak256Bytes _ := ""

def cancelByOidRow : PreparedActionRecord :=
  { acceptedOrderRow with
    masterAccount := "0x1111111111111111111111111111111111111111"
    targetAccount := "0x2222222222222222222222222222222222222222"
    actionType := .cancel
    normalizedSecretFreeIntent := .object []
    expiresAfterMs := 2000
    cloid := none
    targetOid := some 77
    state := .unresolved }

def createRow : PreparedActionRecord :=
  { cancelByOidRow with
    actionType := .limitOrder
    cloid := some "0x00000000000000000000000000000002"
    targetOid := none }

def bundle (serverTimeMs : ℤ) (order : ObservedOrderEvidence)
    (openOrders : List ObservedOrderIdentity) : ReconciliationEvidence :=
  { baseEvidence cancelByOidRow serverTimeMs order with openOrders := openOrders }

/-- An answer about an open order of another coin, under the client order ID of the record. -/
def answerOfOtherCoin : Json :=
  .object [("status", .string "order"), ("order", .object [("order", .object
    [("coin", .string "ETH"), ("oid", .number 78),
      ("cloid", .string "0x00000000000000000000000000000002")]),
    ("status", .string "open")])]

/-- A canceled order that the open orders still list has its cancel accepted, an order expires
on an answer about another one, and an answer about another coin counts as one about the
expected asset. -/
theorem reconciliation_unsound :
    decideReconciliation evidenceViem cancelByOidRow
        (bundle 1500 (.order ⟨0, 77, none⟩ .canceled) [⟨0, 77, none⟩]) =
      .ok (.terminal .accepted) ∧
    decideReconciliation evidenceViem createRow
        (bundle 2001 (.order ⟨0, 78, some "0x00000000000000000000000000000003"⟩ .filled) []) =
      .ok (.terminal .expired) ∧
    parseAuthoritativeOrderStatus answerOfOtherCoin ⟨0, none, createRow.cloid⟩ =
      .order ⟨0, 78, createRow.cloid⟩ .open ∧
    ¬ ∀ record evidence, record.actionType = .cancel →
      evidence.openOrders.any (sameIdentity record) = true →
        decideReconciliation evidenceViem record evidence ≠ .ok (.terminal .accepted) := by
  have haccepted : decideReconciliation evidenceViem cancelByOidRow
      (bundle 1500 (.order ⟨0, 77, none⟩ .canceled) [⟨0, 77, none⟩]) =
        .ok (.terminal .accepted) := by
    decide
  refine ⟨haccepted, by decide, by decide, fun h => ?_⟩
  exact h cancelByOidRow _ rfl (by decide) haccepted

end HyperTrader
