import HyperTrader.Actions.AggressivePrice
import HyperTrader.Library.MessagePack
import HyperTrader.Orchestrator.Transport

/-!
# What is submitted is what was reviewed

The texts that a confirmation compares determine the intents and the controls they
were made of, so a refreshed action that passes the comparison is the reviewed one,
up to the price of an order that is executed at once. A submission carries the
action of the record it was prepared with, and nothing between the comparison and
the submission replaces either.
-/

namespace HyperTrader

open Library ConfirmState

theorem TriggerDirection.text_injective {a b : TriggerDirection} (h : a.text = b.text) : a = b := by
  revert h
  cases a <;> cases b <;> decide

theorem ActionControls.toJson_injective {a b : ActionControls}
    (h : a.toJson = b.toJson) : a = b := by
  obtain ⟨slippage, trigger⟩ := a
  obtain ⟨slippage', trigger'⟩ := b
  simp only [ActionControls.toJson, Json.object.injEq, List.cons.injEq,
    Prod.mk.injEq, true_and, and_true] at h
  obtain ⟨hslippage, htrigger⟩ := h
  obtain rfl := optionalNumber_injective hslippage
  cases trigger with
  | none =>
    cases trigger' with
    | none => rfl
    | some trigger' => cases htrigger
  | some trigger =>
    cases trigger' with
    | none => cases htrigger
    | some trigger' =>
      obtain ⟨price, direction⟩ := trigger
      obtain ⟨price', direction'⟩ := trigger'
      simp only [Option.elim_some, Json.object.injEq, List.cons.injEq,
        Prod.mk.injEq, Json.string.injEq, true_and, and_true] at htrigger
      obtain ⟨rfl, hdirection⟩ := htrigger
      rw [TriggerDirection.text_injective hdirection]

/-! ### What the comparisons establish -/

theorem sameSerialization_eq_true {left right : TradingActionIntent}
    (h : sameSerialization left right = .ok true) : left = right := by
  simp only [sameSerialization, except_bind_eq_ok, pure, Except.pure,
    Except.ok.injEq, beq_iff_eq] at h
  obtain ⟨text, hleft, text', hright, rfl⟩ := h
  exact TradingActionIntent.toJson_injective
    (serializeSecretFreeIntent_injective hleft hright)

variable {review : ActionReviewSnapshot} {refreshedInput : TradingActionValidationInput} {α : Type}
  {s : ConfirmState}

theorem sameReviewedControls_eq_true (h : sameReviewedControls review refreshedInput = .ok true) :
    refreshedInput.controls = review.validation.controls := by
  simp only [sameReviewedControls, except_bind_eq_ok, pure, Except.pure,
    Except.ok.injEq, beq_iff_eq] at h
  obtain ⟨text, hreviewed, text', hrefreshed, rfl⟩ := h
  exact (ActionControls.toJson_injective
    (serializeSecretFreeIntent_injective hreviewed hrefreshed)).symm

/-- The intent is the reviewed one, but for a price derived again from the
refreshed reference and within the reviewed slippage. -/
def ReviewedIntent (review : ActionReviewSnapshot) (refreshedInput : TradingActionValidationInput)
    (intent : TradingActionIntent) : Prop :=
  intent = review.validated.intent ∨
    ∃ side slippageBps referencePrice price,
      review.validated.intent.executionSide = some side ∧
      review.validation.controls.slippageBps = some slippageBps ∧
      refreshedInput.market.referencePrice = some referencePrice ∧
      WithinSlippage price referencePrice side slippageBps ∧
      intent = review.validated.intent.withAggressiveLimitPrice price

theorem refreshedPrice_eq_ok {side : OrderSide} {price : String}
    (h : refreshedPrice refreshedInput side = .ok price) :
    ∃ slippageBps precision referencePrice,
      refreshedInput.controls.slippageBps = some slippageBps ∧
      refreshedInput.market.pricePrecision = some precision ∧
      refreshedInput.market.referencePrice = some referencePrice ∧
      aggressiveOrderPrice referencePrice side slippageBps precision = .ok price := by
  have hsome : ∀ {α : Type} {value : Option α} {message : String} {a : α},
      (value.elim (.error (.error message)) .ok : Outcome α) = .ok a →
        value = some a := by
    intro α value message a hvalue
    cases value with
    | none => cases hvalue
    | some b =>
      cases hvalue
      rfl
  simp only [refreshedPrice, except_bind_eq_ok] at h
  obtain ⟨slippageBps, hslippage, precision, hprecision, referencePrice, hreference, hprice⟩ := h
  exact ⟨slippageBps, precision, referencePrice, hsome hslippage, hsome hprecision,
    hsome hreference, hprice⟩

theorem sameReviewedIntent_eq_true {intent : TradingActionIntent}
    (hcontrols : refreshedInput.controls = review.validation.controls)
    (h : sameReviewedIntent review.validated.intent intent refreshedInput =
      .ok true) : ReviewedIntent review refreshedInput intent := by
  unfold sameReviewedIntent at h
  split at h
  · cases h
  · split at h
    · exact .inl (sameSerialization_eq_true h).symm
    · rename_i side hside
      cases hcompared : (do
          let price ← refreshedPrice refreshedInput side
          sameSerialization
            (review.validated.intent.withAggressiveLimitPrice price) intent) with
      | error failure =>
        rw [hcompared] at h
        cases h
      | ok same =>
        rw [hcompared] at h
        cases h
        simp only [except_bind_eq_ok] at hcompared
        obtain ⟨price, hprice, hsame⟩ := hcompared
        obtain ⟨slippageBps, precision, referencePrice, hslippage, -, hreference,
          hderived⟩ := refreshedPrice_eq_ok hprice
        rw [hcontrols] at hslippage
        exact .inr ⟨side, slippageBps, referencePrice, price, hside, hslippage,
          hreference, aggressiveOrderPrice_within hderived, (sameSerialization_eq_true hsame).symm⟩

/-- What a refreshed action that is let through has in common with the review. -/
structure SameAsReviewed (viem : Viem) (review : ActionReviewSnapshot)
    (refreshedInput : TradingActionValidationInput)
    (refreshed : ValidatedTradingAction) : Prop where
  validated : validateTradingAction viem refreshedInput = .ok refreshed
  intent : ReviewedIntent review refreshedInput refreshed.intent
  controls : refreshedInput.controls = review.validation.controls
  binding : ∃ normal, normalizeSignerBinding viem review.binding = .ok normal ∧
    normalizeSignerBinding viem (currentBinding review refreshedInput) = .ok normal
  network : refreshedInput.context.network = review.binding.network
  contextEpoch : refreshedInput.context.capturedContextEpoch =
    review.validation.context.capturedContextEpoch
  market : refreshed.marketCanonicalId = review.validation.market.canonicalId
  metadata : refreshedInput.market.metadataFingerprint =
    review.validation.market.metadataFingerprint
  account : refreshed.accountStateVersion = review.validated.accountStateVersion

theorem checkRefreshed_eq_ok {viem : Viem} {refreshed : ValidatedTradingAction}
    (h : checkRefreshed viem review refreshedInput = .ok refreshed) :
    SameAsReviewed viem review refreshedInput refreshed := by
  simp only [checkRefreshed, except_bind_eq_ok, require_eq_ok, pure, Except.pure,
    Except.ok.injEq] at h
  obtain ⟨made, hmade, _, hbinding, _, ⟨hepoch, hmarket, hmetadata, haccount⟩,
    same, hcontrols, _, rfl, same', hintent, _, rfl, rfl⟩ := h
  obtain ⟨normal, hreviewed, hcurrent⟩ := assertSignerBinding_eq_ok.mp hbinding
  have hcontrols := sameReviewedControls_eq_true hcontrols
  refine ⟨hmade, sameReviewedIntent_eq_true hcontrols hintent, hcontrols,
    ⟨normal, hreviewed, hcurrent⟩, ?_, hepoch, hmarket, hmetadata, haccount⟩
  have hnetwork := (normalizeSignerBinding_eq_ok.mp hreviewed).2.1
  have hnetwork' := (normalizeSignerBinding_eq_ok.mp hcurrent).2.1
  exact hnetwork'.symm.trans hnetwork

/-! ### From the comparison to the submission -/

/-- A submission was prepared from a refreshed action that passed the
comparison. -/
def PreparedSubmission.Compared (viem : Viem) (encode : MessagePack)
    (review : ActionReviewSnapshot) (prepared : PreparedSubmission) : Prop :=
  checkRefreshed viem review prepared.refreshedInput = .ok prepared.refreshed ∧
    Confirming.Prepares viem encode review prepared.refreshedInput
      prepared.refreshed prepared

def ConfirmStage.Compared (viem : Viem) (encode : MessagePack)
    (review : ActionReviewSnapshot) : ConfirmStage → Prop
  | .unlocking refreshedInput refreshed =>
    checkRefreshed viem review refreshedInput = .ok refreshed
  | .signing prepared => prepared.Compared viem encode review
  | .permitted prepared _ _ => prepared.Compared viem encode review
  | _ => True

theorem ConfirmStage.compared_after {viem : Viem} {encode : MessagePack} {x : Confirming α}
    {pre raises : ConfirmState → Prop} {post : α → ConfirmState → Prop} {next : α → ConfirmStage}
    (hx : Action.Meets pre x post raises) (hpre : pre s)
    (hpost : ∀ a t, post a t → (next a).Compared viem encode review) :
    (ConfirmStage.after next (x s)).1.Compared viem encode review := by
  rcases ConfirmStage.after_cases next (x s) with
    ⟨a, hresult, hafter⟩ | ⟨error, -, hafter⟩
  · rw [hafter]
    exact hpost a _ (hx.returns s a _ hpre (Prod.ext hresult rfl))
  · rw [hafter]
    trivial

theorem ConfirmStage.Reconciles.compared {viem : Viem} {encode : MessagePack}
    {stage : ConfirmStage} (h : stage.Reconciles) : stage.Compared viem encode review := by
  rcases h with rfl | ⟨journalId, port, rfl⟩
  · trivial
  · trivial

theorem ConfirmStage.compared_of_forall {viem : Viem} {encode : MessagePack}
    {next : α → ConfirmStage} (p : Outcome α × ConfirmState)
    (h : ∀ a, (next a).Compared viem encode review) :
    (ConfirmStage.after next p).1.Compared viem encode review := by
  rcases ConfirmStage.after_cases next p with ⟨a, -, hafter⟩ | ⟨error, -, hafter⟩
  · rw [hafter]
    exact h a
  · rw [hafter]
    trivial

theorem ConfirmRun.Proceeded.compared {viem : Viem} {encode : MessagePack}
    {run : ConfirmRun} {p : ConfirmStage × ConfirmState}
    (h : run.Proceeded viem encode s p) (hsound : run.Sound s)
    (hcompared : run.stage.Compared viem encode run.review) :
    p.1.Compared viem encode run.review := by
  have hfits := hsound.fits
  cases h with
  | ignored => exact hcompared
  | refreshed result current hstage =>
    rw [hstage] at hfits
    refine ConfirmStage.compared_after
      (Confirming.refreshed_meets viem run.review result current)
      ⟨hsound.agrees.underway hfits.2 none, hfits.1⟩ ?_
    rintro r t ⟨hchecked, -⟩
    exact hchecked
  | unlocked refreshedInput refreshed answers hstage =>
    rw [hstage] at hfits hcompared
    refine ConfirmStage.compared_after
      (Confirming.unlocked_meets viem encode run.review refreshedInput refreshed answers)
      ⟨hsound.agrees.underway hfits.2 none, hfits.1⟩ ?_
    rintro prepared t ⟨hprepares, -⟩
    obtain ⟨rfl, rfl, -⟩ := id hprepares
    exact ⟨hcompared, hprepares⟩
  | signed prepared answers hstage =>
    rw [hstage] at hcompared
    exact ConfirmStage.compared_of_forall _ fun _ => hcompared
  | consumed prepared signature permit hstage =>
    exact ConfirmStage.compared_of_forall _ fun _ => trivial
  | answered prepared answers hstage =>
    refine ConfirmStage.compared_of_forall _ fun unresolved => ?_
    cases unresolved <;> trivial
  | recovered error answers hstage =>
    exact (ConfirmStage.afterRecovery_reconciles _ _).compared
  | ported journalId port method hstage hport =>
    exact (ConfirmStage.afterPort_reconciles _ _).compared
  | published journalId phase hstage =>
    exact ConfirmStage.compared_of_forall _ fun _ => trivial

/-- What was submitted is what was reviewed, signed with what was reviewed. -/
structure Submission.Reviewed (viem : Viem) (encode : MessagePack)
    (submission : Submission) : Prop where
  review : ∃ input, createActionReview viem input = .ok submission.review
  same : SameAsReviewed viem submission.review submission.prepared.refreshedInput
    submission.prepared.refreshed
  built : buildExchangeAction submission.prepared.refreshed.intent =
    .ok submission.prepared.action
  submitted : submission.request.action = submission.prepared.action.toJson
  encoded : encodeL1Action viem encode
    { action := submission.request.action
      nonce := submission.request.nonce
      vaultAddress := submission.review.vaultAddress
      expiresAfter := some submission.request.expiresAfter } =
    .ok submission.prepared.encoded
  vaultAddress : normalizeVaultAddress viem submission.review.vaultAddress =
    .ok submission.request.vaultAddress
  signing : submission.prepared.signing =
    { expectedBinding := submission.review.binding
      payload := buildL1TypedData submission.review.binding.network
        submission.prepared.encoded
      capturedContextEpoch :=
        submission.review.validation.context.capturedContextEpoch }

theorem encodeL1Action_vaultAddress {viem : Viem} {encode : MessagePack}
    {input : L1ActionEncodingInput} {encoded : EncodedL1Action}
    (h : encodeL1Action viem encode input = .ok encoded) :
    normalizeVaultAddress viem input.vaultAddress = .ok encoded.vaultAddress := by
  simp only [encodeL1Action, l1Preimage, except_bind_eq_ok, pure, Except.pure, Except.ok.injEq] at h
  obtain ⟨⟨preimage, actionBytes, vaultAddress, expiresAfter⟩, ⟨_, -, action, -,
    vault, hvault, _, -, _, -, hparts⟩, rfl⟩ := h
  cases hparts
  exact hvault

theorem PreparedSubmission.Compared.reviewed {viem : Viem} {encode : MessagePack}
    {prepared : PreparedSubmission} (h : prepared.Compared viem encode review)
    (hreview : ∃ input, createActionReview viem input = .ok review) (signature : Eip712Signature) :
    Submission.Reviewed viem encode
      { review := review
        prepared := prepared
        request := Confirming.signedRequest prepared signature } where
  review := hreview
  same := checkRefreshed_eq_ok h.1
  built := h.2.action
  submitted := rfl
  encoded := h.2.encoded
  vaultAddress := encodeL1Action_vaultAddress h.2.encoded
  signing := h.2.signing

namespace OrchestratorWorld

/-- Every confirmation carries what it compared, and what was submitted was
reviewed. -/
structure Faithful (viem : Viem) (encode : MessagePack) (world : OrchestratorWorld) :
    Prop where
  reviews : ∀ (i : ℕ) (run : ConfirmRun), world.runs[i]? = some run →
    ∃ input, createActionReview viem input = .ok run.review
  compared : ∀ (i : ℕ) (run : ConfirmRun), world.runs[i]? = some run →
    run.stage.Compared viem encode run.review
  submissions : ∀ submission ∈ world.submissions, submission.Reviewed viem encode

namespace Faithful

variable {viem : Viem} {encode : MessagePack} {world : OrchestratorWorld}

theorem create : Faithful viem encode create where
  reviews _ _ hrun := by cases hrun
  compared _ _ hrun := by cases hrun
  submissions _ hmem := absurd hmem List.not_mem_nil

theorem stepped {next : OrchestratorWorld} (h : world.Faithful viem encode)
    (hagreeing : world.Agreeing) (hstep : world.Stepped viem encode next) :
    next.Faithful viem encode := by
  cases hstep with
  | nothing => exact h
  | confirmed orchestrator repository attempts input review stage hreview _ hstage =>
    refine { h with reviews := ?_, compared := ?_ }
    · intro j other hother
      rcases getElem?_append_cases hother with hold | ⟨-, rfl⟩
      · exact h.reviews j other hold
      · exact ⟨input, hreview⟩
    · intro j other hother
      rcases getElem?_append_cases hother with hold | ⟨-, rfl⟩
      · exact h.compared j other hold
      · rcases hstage with rfl | ⟨error, rfl⟩
        · trivial
        · trivial
  | answered i run stage s hrun hproceeded =>
    have hsound := hagreeing.sound i run hrun
    refine ⟨?_, ?_, ?_⟩
    · intro j other hother
      rcases getElem?_set_cases hother with ⟨rfl, rfl⟩ | ⟨-, hold⟩
      · exact h.reviews j run hrun
      · exact h.reviews j other hold
    · intro j other hother
      rcases getElem?_set_cases hother with ⟨rfl, rfl⟩ | ⟨-, hold⟩
      · exact hproceeded.compared hsound (h.compared j run hrun)
      · exact h.compared j other hold
    · intro submission hmem
      rcases List.mem_append.mp hmem with hold | hnew
      · exact h.submissions submission hold
      · cases hproceeded.transported hsound with
        | quiet _ _ hsubmission _ =>
          rw [hsubmission] at hnew
          cases hnew
        | obtained prepared signature _ hstage _ =>
          rw [hstage] at hnew
          cases hnew
        | used prepared signature permit hstage =>
          have hcompared := h.compared i run hrun
          rw [hstage] at hnew hcompared
          obtain rfl := List.mem_singleton.mp hnew
          exact hcompared.reviewed (h.reviews i run hrun) signature
  | reset => exact { h with }
  | called => exact { h with }
  | crashed =>
    exact { h with
      reviews := fun _ _ hrun => by cases hrun
      compared := fun _ _ hrun => by cases hrun }

theorem run (viem : Viem) (encode : MessagePack) (events : List OrchestratorEvent) :
    Faithful viem encode (Library.run (OrchestratorWorld.step viem encode) .create events) := by
  have hstep : ∀ (world : OrchestratorWorld) (event : OrchestratorEvent),
      world.Agreeing ∧ world.Faithful viem encode →
        (world.step viem encode event).Agreeing ∧
          (world.step viem encode event).Faithful viem encode := by
    intro world event h
    have hstepped := stepped_step viem encode world event
    exact ⟨h.1.stepped hstepped, h.2.stepped h.1 hstepped⟩
  exact (run_invariant hstep ⟨.create, create⟩ events).2

end Faithful

/-- In every run, whatever the refreshed markets and accounts, every submission is
of the action that was reviewed. -/
theorem submissions_reviewed (viem : Viem) (encode : MessagePack)
    (events : List OrchestratorEvent) :
    ∀ submission ∈ (Library.run (step viem encode) create events).submissions,
      submission.Reviewed viem encode :=
  (Faithful.run viem encode events).submissions

/-! ### One market order, submitted -/

def buyInput (referencePrice price cloid : String) : TradingActionValidationInput where
  context :=
    { network := .testnet
      masterAccount := sampleBinding.masterAccount
      targetAccount := sampleBinding.targetAccount
      capturedContextEpoch := 1
      currentContextEpoch := 1
      currentNetwork := .testnet
      currentMasterAccount := sampleBinding.masterAccount
      currentTargetAccount := sampleBinding.targetAccount
      reviewedAtMs := 1000
      reviewExpiresAtMs := 2000
      nowMs := 1500 }
  market :=
    { canonicalId := "BTC"
      metadataFingerprint := "perp:3"
      orderAssetId := 3
      family := .perp
      lifecycle := .active
      orderAvailability := .enabled
      sizeDecimals := some 5
      pricePrecision := some ⟨5, 1⟩
      maxLeverage := some 40
      onlyIsolated := none
      referencePrice := some referencePrice
      minimumNotional := some "10" }
  account :=
    { availableMargin := "1000"
      leverage := some 10
      marginMode := some .cross
      positionSize := none
      openOrders := none
      version := 1 }
  controls := { slippageBps := some 50, trigger := none }
  intent := .marketOrder
    { assetId := 3
      side := .buy
      size := "0.01"
      aggressiveLimitPrice := price
      cloid := cloid }

def firstCloid : String := "0x00000000000000000000000000000001"

def secondCloid : String := "0x00000000000000000000000000000002"

/-- What is hashed of the purchases: the stored intents, and what their fingerprints are
taken of. -/
def buyDigests : List (String × String) :=
  let size := "\x7b\"type\":\"market_order\",\"assetId\":3,\"side\":\"buy\",\"size\":\"0.01\",\"aggressiveLimitPrice\":"
  let market := "\"marketCanonicalId\":\"BTC\""
  [(size ++ "\"60300\",\"cloid\":\"0x00000000000000000000000000000001\"," ++ market ++
      ",\"reviewedAccountStateVersion\":1\x7d",
    "0xed4e5827e7f1a56c244b2b8d344a7f578d0e17f5a981f12ac6b3f3fe5b726fb3"),
  ("\x7b\"action\":" ++ size ++ "\"60300\"\x7d," ++ market ++ "\x7d",
    "0x7127d93b1b5e18975446dbb2d0bb4ec0a09f9d7ee909468abb16b3e55d7d3e33"),
  (size ++ "\"60300\",\"cloid\":\"0x00000000000000000000000000000002\"," ++ market ++
      ",\"reviewedAccountStateVersion\":1\x7d",
    "0x6f03f0a33f9496c7d859c6842694d6309b76034f79f991462279a29e1df1b456"),
  (size ++ "\"60400\",\"cloid\":\"0x00000000000000000000000000000002\"," ++ market ++
      ",\"reviewedAccountStateVersion\":1\x7d",
    "0x6801902104f0ce91ae474304417fdf3e5842a3d5f220e07172612a2883df37aa"),
  ("\x7b\"action\":" ++ size ++ "\"60400\"\x7d," ++ market ++ "\x7d",
    "0x736cd6e11577eeae66bebbab70fdfbfac66abd66e3406d120dc40dac5b4ca671")]

def buyViem : Viem where
  getAddress := sampleViem.getAddress
  keccak256 text :=
    ((buyDigests.find? fun entry => entry.1 == text).map Prod.snd).getD
      (sampleViem.keccak256 text)
  keccak256Bytes _ :=
    "0xbc535ae7bc949fc27a8237c3f0982344e7ea37fb690487650353e7af99db1b27"

def buyConfirm (cloid : String) : OrchestratorEvent :=
  .confirm 0 0 0
    { binding := sampleBinding
      capturedContextEpoch := 1
      validation := buyInput "60000" "60300" cloid
      vaultAddress := none }
    (.ok true)

def buyUnlocked (journalId correlationId : String) (now : ℤ) :
    Confirming.UnlockAnswers where
  unlocked := .ok ()
  current := .ok true
  clock := .ok (sampleClock now)
  journalId := .ok journalId
  correlationId := .ok correlationId
  authority := fun _ _ => .ok ()
  fault := none
  stillCurrent := .ok true

def buyRefreshed : List OrchestratorEvent :=
  [.call 0 (.registerActiveSignerScope none ⟨sampleBinding, 1000⟩), buyConfirm firstCloid,
    .answer 0 (.refreshed (.ok (buyInput "60000" "60300" firstCloid)) (.ok true))]

def buyReservation : List OrchestratorEvent :=
  buyRefreshed ++
    [.answer 0 (.unlocked (buyUnlocked "jrnl_00000000000000000000000000000001"
      "act_00000000000000000000000000000001" 1000))]

def buySubmission : List OrchestratorEvent :=
  buyReservation ++
    [.answer 0 (.signed
      { signature := .ok
          { r := "0x1111111111111111111111111111111111111111111111111111111111111111"
            s := "0x2222222222222222222222222222222222222222222222222222222222222222"
            v := 27 }
        current := .ok true
        now := .ok 1001
        fault := none }), .answer 0 .consumed]

theorem submissions_reviewed_buy :
    ∃ submission ∈ (Library.run (step buyViem Json.messagePack) create buySubmission).submissions,
      submission.journalId = "jrnl_00000000000000000000000000000001" ∧
        submission.Reviewed buyViem Json.messagePack := by
  have hsubmitted : (Library.run (step buyViem Json.messagePack) create
      buySubmission).submitted = ["jrnl_00000000000000000000000000000001"] := by
    decide +kernel
  have hmem : "jrnl_00000000000000000000000000000001" ∈
      (Library.run (step buyViem Json.messagePack) create buySubmission).submitted := by
    rw [hsubmitted]
    exact List.mem_cons_self
  obtain ⟨submission, hsubmission, hid⟩ := List.mem_map.mp hmem
  exact ⟨submission, hsubmission, hid,
    submissions_reviewed buyViem Json.messagePack buySubmission submission hsubmission⟩

end OrchestratorWorld

end HyperTrader
