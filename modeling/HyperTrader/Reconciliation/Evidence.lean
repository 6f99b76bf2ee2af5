import HyperTrader.Nonce.Allocation
import HyperTrader.Reconciliation.Policy

/-!
# Reconciliation evidence

How evidence is gathered: one or two requests for each action type, the parse of
the documented `orderStatus` answer, and the authoritative server clock, which
keeps the `Date` of the last answer of any request and adds the monotonic time
that has passed since. A load is cut at its awaits: `load` runs up to the first
request, and each `resume` runs from an answer to the next request or to the
evidence.
-/

namespace HyperTrader

open Library

def canceledOrderStatuses : List String :=
  ["canceled", "marginCanceled", "vaultWithdrawalCanceled",
    "openInterestCapCanceled", "selfTradeCanceled", "reduceOnlyCanceled",
    "siblingFilledCanceled", "delistedCanceled", "liquidatedCanceled", "scheduledCancel"]

def rejectedOrderStatuses : List String :=
  ["rejected", "tickRejected", "minTradeNtlRejected", "perpMarginRejected",
    "reduceOnlyRejected", "badAloPxRejected", "iocCancelRejected",
    "badTriggerPxRejected", "marketOrderNoLiquidityRejected",
    "positionIncreaseAtOpenInterestCapRejected", "positionFlipAtOpenInterestCapRejected",
    "tooAggressiveAtOpenInterestCapRejected", "openInterestIncreaseRejected",
    "insufficientSpotBalanceRejected", "oracleRejected", "perpMaxPositionRejected"]

def lifecycle (status : String) : Option ObservedOrderStatus :=
  if status = "open" then some .open
  else if status = "filled" then some .filled
  else if status = "triggered" then some .triggered
  else if canceledOrderStatuses.contains status then some .canceled
  else if rejectedOrderStatuses.contains status then some .rejected
  else none

def exactKeys (value : Json) (expected : List String) : Bool :=
  match value with
  | .object fields =>
    fields.length == expected.length &&
      expected.all fun key => (value.field key).isSome
  | _ => false

structure ExpectedOrder where
  assetId : ℤ
  oid : Option ℤ
  cloid : Option String

def ExpectedOrder.wellFormed (expected : ExpectedOrder) : Bool :=
  expected.oid.isNone != expected.cloid.isNone &&
    expected.oid.all (fun oid => decide (isSafeInteger oid ∧ 0 ≤ oid)) &&
    expected.cloid.all cloidPattern.test

def answeredCloid (order : Json) : Option (Option String) :=
  match order.field "cloid" with
  | none => some none
  | some .null => some none
  | some (.string cloid) =>
    if cloidPattern.test cloid then some (some (asciiLower cloid)) else none
  | some _ => none

def answeredOrder (root : Json) :
    Option (ObservedOrderStatus × ℤ × Option String) := do
  let wrapper ← root.field "order"
  let order ← wrapper.field "order"
  let status ← (wrapper.text "status").bind lifecycle
  let oid ← order.integer "oid"
  guard (isSafeInteger oid ∧ 0 ≤ oid)
  let cloid ← answeredCloid order
  pure (status, oid, cloid)

def parseAuthoritativeOrderStatus (payload : Json) (expected : ExpectedOrder) :
    ObservedOrderEvidence :=
  if !expected.wellFormed then .malformed
  else if payload.text "status" == some "unknownOid" then
    if exactKeys payload ["status"] then .unknown else .malformed
  else if payload.text "status" != some "order" ||
      !exactKeys payload ["status", "order"] then .malformed
  else
    match answeredOrder payload with
    | none => .malformed
    | some (status, oid, cloid) =>
      if expected.oid.all (fun expectedOid => expectedOid == oid) &&
          expected.cloid.all fun expectedCloid =>
            some (asciiLower expectedCloid) == cloid then
        .order ⟨expected.assetId, oid, cloid⟩ status
      else .malformed

structure ServerSample where
  serverTimeMs : ℤ
  sampledAtMonotonicMs : ℤ

def clockMilliseconds (value : ℤ) (label : String) : Outcome ℤ := do
  require (isSafeInteger value ∧ 0 ≤ value) (.error (label ++ " is unavailable."))
  pure value

def timedFetch (serverDate : Option ℤ) (monotonicNow : ℤ)
    (sample : Option ServerSample) : Outcome (Option ServerSample) :=
  match serverDate with
  | none => pure sample
  | some parsed =>
    if isSafeInteger parsed ∧ 0 ≤ parsed then do
      let sampledAt ← clockMilliseconds monotonicNow "The monotonic clock"
      pure (some ⟨parsed, sampledAt⟩)
    else pure sample

/-- `AuthoritativeServerClock.read` -/
def readServerClock (wallNow monotonicNow : ℤ) (sample : Option ServerSample) :
    Outcome ClockGateInput := do
  let sample ← sample.elim
    (.error (.error "Hyperliquid server time is unavailable. Refresh before signing."))
    .ok
  let wallTimeMs ← clockMilliseconds wallNow "The device clock"
  let monotonicTimeMs ← clockMilliseconds monotonicNow "The monotonic clock"
  pure
    { wallTimeMs := wallTimeMs
      monotonicTimeMs := monotonicTimeMs
      serverTimeMs := sample.serverTimeMs
      serverSampledAtMonotonicMs := sample.sampledAtMonotonicMs
      lastObservedWallMs := none }

def currentServerTime (clock : Outcome ClockGateInput) : Outcome ℤ := do
  let sample ← clock
  let elapsed := sample.monotonicTimeMs - sample.serverSampledAtMonotonicMs
  let current := addNumber sample.serverTimeMs elapsed
  require (isSafeInteger sample.serverTimeMs ∧ 0 ≤ sample.serverTimeMs ∧
      isSafeInteger sample.monotonicTimeMs ∧ isSafeInteger sample.serverSampledAtMonotonicMs ∧
      0 ≤ sample.serverSampledAtMonotonicMs ∧ 0 ≤ elapsed ∧ isSafeInteger current ∧ 0 ≤ current)
    (.error "Hyperliquid server time is unavailable for reconciliation.")
  pure current

theorem currentServerTime_eq_ok {wallNow monotonicNow current : ℤ} {sample : Option ServerSample}
    (h : currentServerTime (readServerClock wallNow monotonicNow sample) = .ok current) :
    ∃ taken, sample = some taken ∧
      current = taken.serverTimeMs + (monotonicNow - taken.sampledAtMonotonicMs) := by
  cases sample with
  | none => simp [currentServerTime, readServerClock] at h
  | some taken =>
    simp only [currentServerTime, readServerClock, clockMilliseconds,
      Option.elim_some, except_bind_eq_ok, require_eq_ok, pure, Except.pure, Except.ok.injEq] at h
    obtain ⟨_, ⟨_, rfl, _, ⟨_, _, rfl⟩, _, ⟨_, _, rfl⟩, rfl⟩, _, hgate, rfl⟩ := h
    exact ⟨taken, rfl, addNumber_of_isSafeInteger (isSafeInteger_addNumber.mp hgate.2.2.2.2.2.2.1)⟩

/-- A market of the catalog, as far as the evidence needs it. -/
structure CatalogMarket where
  perp : Bool
  canonicalId : String
  orderAssetId : ℤ
  coin : String

inductive EvidenceLoad where
  /-- for `orderStatus` -/
  | orderStatus
  /-- for the market and the clearinghouse state, with the order's evidence -/
  | position (evidence : ReconciliationEvidence)
  /-- for the market and the active asset data -/
  | leverage

def baseEvidence (record : PreparedActionRecord) (serverTimeMs : ℤ)
    (order : ObservedOrderEvidence) : ReconciliationEvidence where
  context :=
    { network := record.network
      masterAccount := record.masterAccount
      targetAccount := record.targetAccount
      assetId := record.assetId }
  serverTimeMs := serverTimeMs
  complete := true
  order := order
  openOrders := []
  fills := []
  position := none
  leverage := none
  stateVersion := serverTimeMs
  definitiveRejection := false

def loadOrderEvidence (record : PreparedActionRecord) : Outcome EvidenceLoad := do
  require (record.assetId.isSome = true)
    (.error "Order reconciliation requires an asset ID.")
  require (record.cloid.isSome = true ∨ record.targetOid.isSome = true)
    (.error "Order reconciliation requires an order identity.")
  pure .orderStatus

def loadPerpMarket (record : PreparedActionRecord) : Outcome Unit :=
  require (record.assetId.isSome = true ∧
      (record.normalizedSecretFreeIntent.text "marketCanonicalId").isSome = true)
    (.error "Reconciliation requires an exact perpetual market.")

def loadEvidence (clientNetwork : HyperliquidNetwork)
    (record : PreparedActionRecord) : Outcome EvidenceLoad := do
  require (clientNetwork = record.network)
    (.error "The reconciliation client must match the journal network.")
  match record.actionType with
  | .marketOrder => loadOrderEvidence record
  | .limitOrder => loadOrderEvidence record
  | .positionTpsl => loadOrderEvidence record
  | .cancel => loadOrderEvidence record
  | .reduceOnlyClose => loadOrderEvidence record
  | .updateLeverage => do
      loadPerpMarket record
      pure .leverage
  | .bulkCancel => throw (.error "Bulk cancel reconciliation is unavailable.")

def orderEvidence (clock : Outcome ClockGateInput)
    (record : PreparedActionRecord) (answer : Outcome Json) :
    Outcome ReconciliationEvidence := do
  let raw ← answer
  let serverTimeMs ← currentServerTime clock
  let order := parseAuthoritativeOrderStatus raw
    ⟨record.assetId.getD 0, record.targetOid, record.cloid⟩
  let base := baseEvidence record serverTimeMs order
  match order with
  | .order identity .open => pure { base with openOrders := [identity] }
  | _ => pure base

/-- The load from the answer of `orderStatus` on: the evidence, or for a close
whose order is unknown and past its expiry, the request for the position. -/
def resumeOrderStatus (clock : Outcome ClockGateInput)
    (record : PreparedActionRecord) (answer : Outcome Json) :
    Outcome (ReconciliationEvidence ⊕ EvidenceLoad) := do
  let evidence ← orderEvidence clock record answer
  if record.actionType = .reduceOnlyClose ∧ evidence.order = .unknown ∧
      record.expiresAfterMs < evidence.serverTimeMs then do
    loadPerpMarket record
    pure (.inr (.position evidence))
  else pure (.inl evidence)

def perpMarket (record : PreparedActionRecord) (catalog : List CatalogMarket) :
    Outcome CatalogMarket :=
  match catalog.filter fun market => market.perp &&
      record.normalizedSecretFreeIntent.text "marketCanonicalId" ==
        some market.canonicalId &&
      record.assetId == some market.orderAssetId with
  | [market] => pure market
  | _ => throw (.error "The perpetual market is unavailable for reconciliation.")

def resumePosition (clock : Outcome ClockGateInput)
    (record : PreparedActionRecord) (evidence : ReconciliationEvidence)
    (catalog : Outcome (List CatalogMarket)) (positions : Outcome (List (String × String))) :
    Outcome ReconciliationEvidence := do
  let market ← perpMarket record (← catalog)
  let position := (← positions).find? fun entry => entry.1 == market.coin
  let serverTimeMs ← currentServerTime clock
  pure { evidence with
    serverTimeMs := serverTimeMs
    position := some ⟨market.orderAssetId, (position.map Prod.snd).getD "0"⟩
    stateVersion := serverTimeMs }

def resumeLeverage (clock : Outcome ClockGateInput)
    (record : PreparedActionRecord) (catalog : Outcome (List CatalogMarket))
    (activeAsset : Outcome (ℤ × MarginMode)) :
    Outcome ReconciliationEvidence := do
  let market ← perpMarket record (← catalog)
  let (leverage, marginMode) ← activeAsset
  let serverTimeMs ← currentServerTime clock
  pure { baseEvidence record serverTimeMs .unknown with
    leverage := some
      { assetId := market.orderAssetId
        leverage := leverage
        marginMode := marginMode
        causallyAttributed := false } }

theorem sameIdentity_of_parse {record : PreparedActionRecord} {raw : Json}
    {identity : ObservedOrderIdentity} {status : ObservedOrderStatus}
    (hasset : record.assetId.isSome = true) (h : parseAuthoritativeOrderStatus raw
      ⟨record.assetId.getD 0, record.targetOid, record.cloid⟩ = .order identity status) :
    sameIdentity record identity = true := by
  unfold parseAuthoritativeOrderStatus at h
  split_ifs at h with hformed hunknown hexact hnot
  split at h
  · cases h
  · rename_i answered oid cloid hanswer
    split_ifs at h with hexpected
    obtain ⟨rfl, rfl⟩ := ObservedOrderEvidence.order.inj h
    obtain ⟨asset, hasset⟩ := Option.isSome_iff_exists.mp hasset
    simp only [Bool.and_eq_true, Option.all_eq_true, beq_iff_eq] at hexpected
    unfold sameIdentity
    cases hcloid : record.cloid with
    | some expected =>
      have hsame := hexpected.2 expected hcloid
      simp [hasset, ← hsame]
    | none =>
      cases hoid : record.targetOid with
      | some expected => simp [hasset, hexpected.1 expected hoid]
      | none => simp [ExpectedOrder.wellFormed, hcloid, hoid] at hformed

end HyperTrader
