import HyperTrader.Library.Ascii
import HyperTrader.Rules.Updates

/-!
# The crossings of a threshold

A rule about a metric alerts at exactly those deltas whose value is no longer on the near
side of its threshold while the last value before it was. Updates without a readable
value change nothing, and between two alerts the metric was on the near side again.
-/

namespace HyperTrader

open Library

namespace RuleUpdates

/-! ### Rules about a metric -/

def crossingDirection : Notifications.NotificationEventType → Option RuleDirection
  | .priceAbove | .fundingAbove | .marginRisk => some .above
  | .priceBelow | .fundingBelow | .liquidationRisk => some .below
  | .fill | .cancellation | .rejection => none

structure CrossingRule where
  record : NotificationRuleRecord
  valid : validRule record = true
  direction : RuleDirection
  crosses : crossingDirection record.eventType = some direction
  threshold : DecimalString
  reads : decimalString record.threshold = some threshold

/-- The value is strictly on the near side of the threshold: neither at it nor beyond. -/
def Near (direction : RuleDirection) (threshold value : ℚ) : Prop :=
  match direction with
  | .above => value < threshold
  | .below => threshold < value

def metricOf (rule : NotificationRuleRecord) : MonitorUpdate Payload → Option DecimalString
  | .baseline payload => metricFromBaseline rule payload
  | .delta (.streamDelta _ message coinToMarketId) =>
    (metricFromDelta rule message coinToMarketId).map Prod.snd
  | .delta _ => none

def isDelta : MonitorUpdate Payload → Bool
  | .baseline _ => false
  | .delta _ => true

def lastMetric (rule : NotificationRuleRecord) (updates : List (MonitorUpdate Payload)) :
    Option DecimalString :=
  (updates.filterMap (metricOf rule)).getLast?

/-- At this position the metric leaves the near side of the threshold. -/
def CrossesAt (rule : CrossingRule) (updates : List (MonitorUpdate Payload)) (i : ℕ) : Prop :=
  ∃ update previous current, updates[i]? = some update ∧ isDelta update = true ∧
    lastMetric rule.record (updates.take i) = some previous ∧
    metricOf rule.record update = some current ∧
    Near rule.direction rule.threshold.value previous.value ∧
    ¬ Near rule.direction rule.threshold.value current.value

/-! ### What is retained -/

variable {rule : NotificationRuleRecord} {direction : RuleDirection} {channel : String}

theorem executionEvents_of_crossing (h : crossingDirection rule.eventType = some direction)
    (message : PublicWebSocketEnvelope) (coinToMarketId : CoinMap) :
    executionEvents rule message coinToMarketId = [] := by
  unfold executionEvents
  cases heventType : rule.eventType <;> rw [heventType] at h <;>
    first | rfl | cases h

theorem retained_normalizeRuleUpdate (h : crossingDirection rule.eventType = some direction)
    (retained : Option DecimalString) (update : MonitorUpdate Payload) :
    (normalizeRuleUpdate rule retained update).1 = (metricOf rule update).or retained := by
  cases update with
  | baseline payload => rfl
  | delta payload =>
    cases payload with
    | streamDelta receivedAt message coinToMarketId =>
      unfold normalizeRuleUpdate metricOf
      dsimp only
      rw [executionEvents_of_crossing h, if_neg (not_not.mpr rfl)]
      cases metricFromDelta rule message coinToMarketId with
      | none => rfl
      | some metric => rfl
    | marketSnapshot market => rfl
    | accountSnapshot snapshots coinToMarketId => rfl
    | unknown => rfl

theorem lastMetric_append_singleton (updates : List (MonitorUpdate Payload))
    (update : MonitorUpdate Payload) :
    lastMetric rule (updates ++ [update]) =
      (metricOf rule update).or (lastMetric rule updates) := by
  unfold lastMetric
  rw [List.filterMap_append]
  cases hmetric : metricOf rule update with
  | none => simp [hmetric]
  | some value => simp [hmetric]

theorem retainedAfter_append_singleton (retained : Option DecimalString)
    (updates : List (MonitorUpdate Payload)) (update : MonitorUpdate Payload) :
    retainedAfter rule retained (updates ++ [update]) =
      (normalizeRuleUpdate rule (retainedAfter rule retained updates) update).1 := by
  simp [retainedAfter]

theorem retainedAfter_eq (h : crossingDirection rule.eventType = some direction)
    (updates : List (MonitorUpdate Payload)) :
    retainedAfter rule none updates = lastMetric rule updates := by
  induction updates using List.reverseRecOn with
  | nil => rfl
  | append_singleton updates update ih =>
    rw [retainedAfter_append_singleton, retained_normalizeRuleUpdate h, ih,
      lastMetric_append_singleton]

theorem getElem?_matchesOf (sha256Hex : String → String) (retained : Option DecimalString)
    (updates : List (MonitorUpdate Payload)) (i : ℕ) :
    (matchesOf sha256Hex rule retained updates)[i]? = (updates[i]?).map fun update =>
      (handleUpdate sha256Hex rule (retainedAfter rule retained (updates.take i)) update).2 := by
  induction updates generalizing retained i with
  | nil => simp [matchesOf]
  | cons update updates ih =>
    cases i with
    | zero => rfl
    | succ i =>
      rw [matchesOf]
      simp only [List.getElem?_cons_succ, List.take_succ_cons]
      rw [ih]
      rfl

/-! ### The event of a new value -/

theorem sourceIdPattern_test {source : String}
    (hchars : ∀ c ∈ source.toList, 33 ≤ c.toNat ∧ c.toNat ≤ 126)
    (hpos : source.toList ≠ []) (hlength : source.toList.length ≤ 256) :
    sourceIdPattern.test source = true := by
  have hbytes : textBytes source = source.toList.map fun c => UInt8.ofNat c.toNat := by
    rw [textBytes_eq, List.map_eq_flatMap]
    apply List.flatMap_congr
    intro c hc
    have hrange := hchars c hc
    exact utf8EncodeChar_ascii (by omega)
  refine TextPattern.test_iff.mpr
    ⟨textBytes source, by simp [sourceIdPattern, textBytes], ?_, ?_, ?_⟩
  · rw [hbytes, List.length_map]
    exact List.length_pos_iff.mpr hpos
  · rw [hbytes, List.length_map]
    exact hlength
  · rw [hbytes]
    intro byte hbyte
    obtain ⟨c, hc, rfl⟩ := List.mem_map.mp hbyte
    have hrange := hchars c hc
    refine inRange_iff.mpr ?_
    rw [UInt8.toNat_ofNat']
    have hmod : c.toNat % 2 ^ 8 = c.toNat := Nat.mod_eq_of_lt (by omega)
    rw [hmod]
    exact hrange

def metricChannels : List String :=
  ["activeAssetCtx", "userFundings", "allDexsClearinghouseState"]

theorem channel_of_metricFromDelta {message : PublicWebSocketEnvelope}
    {coinToMarketId : CoinMap} {metric : RuleMetric × DecimalString}
    (h : metricFromDelta rule message coinToMarketId = some metric) :
    message.channel ∈ metricChannels ∧
      ruleDirection rule.eventType metric.1 = crossingDirection rule.eventType := by
  unfold metricFromDelta at h
  split at h
  iterate 4
    rename_i heventType hchannel
    obtain ⟨value, -, rfl⟩ := Option.map_eq_some_iff.mp h
    rw [heventType, hchannel]
    exact ⟨by decide, rfl⟩
  · rename_i heventType hchannel
    obtain ⟨found, -, hfound⟩ := Option.bind_eq_some_iff.mp h
    obtain ⟨value, -, rfl⟩ := Option.map_eq_some_iff.mp hfound
    rw [heventType, hchannel]
    exact ⟨by decide, rfl⟩
  · rename_i heventType hchannel
    obtain ⟨found, -, hfound⟩ := Option.bind_eq_some_iff.mp h
    obtain ⟨value, -, rfl⟩ := Option.map_eq_some_iff.mp hfound
    rw [heventType, hchannel]
    exact ⟨by decide, rfl⟩
  · cases h

theorem sourceIdPattern_metricSource (h : channel ∈ metricChannels) (receivedAt : Fin (2 ^ 53)) :
    sourceIdPattern.test (channel ++ ":" ++ toString receivedAt.val) = true := by
  have hchannel : ∀ channel ∈ metricChannels,
      (channel.toList.all fun c => decide (33 ≤ c.toNat ∧ c.toNat ≤ 126)) = true ∧
        channel.toList ≠ [] ∧ channel.toList.length ≤ 25 := by decide
  obtain ⟨hall, hne, hlength⟩ := hchannel channel h
  have hchars : ∀ c ∈ channel.toList, 33 ≤ c.toNat ∧ c.toNat ≤ 126 :=
    fun c hc => of_decide_eq_true (List.all_eq_true.mp hall c hc)
  have hdigits : (toString receivedAt.val).toList = Nat.toDigits 10 receivedAt.val :=
    Nat.toList_repr
  have hshort : (Nat.toDigits 10 receivedAt.val).length ≤ 16 :=
    (Nat.length_toDigits_le_iff (by decide) (by decide)).mpr
      (Nat.lt_trans receivedAt.isLt (by decide))
  have hlist : (channel ++ ":" ++ toString receivedAt.val).toList =
      channel.toList ++ ':' :: Nat.toDigits 10 receivedAt.val := by
    rw [String.toList_append, String.toList_append, hdigits]
    simp
  apply sourceIdPattern_test
  · rw [hlist]
    intro c hc
    rcases List.mem_append.mp hc with hc | hc
    · exact hchars c hc
    · rcases List.mem_cons.mp hc with rfl | hc
      · decide
      · have hrange := isDigit_iff_toNat.mp
          (Nat.isDigit_of_mem_toDigits (by decide) (by decide) hc)
        omega
  · rw [hlist]
    simp
  · rw [hlist, List.length_append, List.length_cons]
    omega

theorem validRule_iff : validRule rule = true ↔
    hex128Pattern.test rule.ruleId = true ∧ hex256Pattern.test rule.identityDigest = true ∧
      hex128Pattern.test rule.installationId = true ∧ canonicalMarket rule.marketId = true ∧
        (readDecimal rule.threshold).isSome = true ∧ validRuleLink rule = true := by
  simp [validRule, and_assoc]

theorem accountLinkId_of_validRuleLink (h : validRuleLink rule = true) :
    rule.accountLinkId.filter (· ≠ "") = rule.accountLinkId ∧
      rule.accountLinkId.all hex128Pattern.test = true := by
  unfold validRuleLink at h
  cases hlink : rule.accountLinkId with
  | none => exact ⟨rfl, rfl⟩
  | some link =>
    cases hscope : rule.scope with
    | price =>
      rw [hscope, hlink] at h
      cases h
    | account =>
      rw [hscope, hlink] at h
      have hne : link ≠ "" := by
        rintro rfl
        exact absurd h (by decide)
      exact ⟨by simp [hne], h⟩

theorem evaluate_metricEvent (sha256Hex : String → String) (h : validRule rule = true)
    (hchannel : channel ∈ metricChannels) (previous : Option DecimalString)
    (receivedAt : Fin (2 ^ 53)) (metric : RuleMetric × DecimalString) :
    evaluateNotificationRule sha256Hex rule (metricEvent rule previous receivedAt channel metric) =
      .ok (((decimalString rule.threshold).bind fun threshold => eventCategory rule threshold
          (metricEvent rule previous receivedAt channel metric)).map fun category =>
        ⟨sha256Hex (eventKeyText rule (metricEvent rule previous receivedAt channel metric)),
          category.1, category.2⟩) := by
  obtain ⟨-, -, -, hmarket, -, hlink⟩ := validRule_iff.mp h
  obtain ⟨hfilter, hhex⟩ := accountLinkId_of_validRuleLink hlink
  have hevent : validEvent (metricEvent rule previous receivedAt channel metric) = true := by
    simp only [validEvent, metricEvent, NotificationRuleEvent.marketId,
      NotificationRuleEvent.sourceId, NotificationRuleEvent.accountLinkId, hmarket, hfilter, hhex,
      sourceIdPattern_metricSource hchannel receivedAt, Bool.and_self]
  have hscope : inScope rule (metricEvent rule previous receivedAt channel metric) = true := by
    simp only [inScope, metricEvent, NotificationRuleEvent.network,
      NotificationRuleEvent.marketId, NotificationRuleEvent.accountLinkId, hfilter,
      beq_self_eq_true, Bool.true_and]
    unfold validRuleLink at hlink
    cases hkind : rule.scope with
    | account => dsimp only
    | price =>
      rw [hkind] at hlink
      exact hlink
  rw [evaluateNotificationRule, if_neg (by rw [h]; decide), if_neg (by rw [hevent]; decide),
    if_neg (by rw [hscope]; decide)]

/-! ### Crossings -/

theorem crossed_iff (direction : RuleDirection) (threshold previous current : DecimalString) :
    crossed (compareExactDecimals previous threshold) (compareExactDecimals current threshold)
        direction = true ↔
      Near direction threshold.value previous.value ∧
        ¬ Near direction threshold.value current.value := by
  rw [compareExactDecimals_eq, compareExactDecimals_eq]
  cases direction with
  | above =>
    simp only [crossed, Near, Bool.and_eq_true, beq_iff_eq, bne_iff_ne, ne_eq, compare_lt_iff_lt]
  | below =>
    simp only [crossed, Near, Bool.and_eq_true, beq_iff_eq, bne_iff_ne, ne_eq, compare_gt_iff_gt]

namespace CrossingRule

variable (rule : CrossingRule) (sha256Hex : String → String)
  (updates : List (MonitorUpdate Payload))

theorem evaluated_metricEvent {channel : String} (hchannel : channel ∈ metricChannels)
    (retained : Option DecimalString) (receivedAt : Fin (2 ^ 53))
    {metric : RuleMetric × DecimalString}
    (hdirection : ruleDirection rule.record.eventType metric.1 = some rule.direction) :
    evaluated sha256Hex rule.record
        [metricEvent rule.record retained receivedAt channel metric] ≠ [] ↔
      ∃ previous, retained = some previous ∧
        Near rule.direction rule.threshold.value previous.value ∧
          ¬ Near rule.direction rule.threshold.value metric.2.value := by
  unfold evaluated
  rw [List.filterMap_cons, List.filterMap_nil, evaluate_metricEvent sha256Hex rule.valid hchannel]
  simp only [rule.reads, Option.bind_some, eventCategory, metricEvent, hdirection]
  cases retained with
  | none => simp
  | some previous =>
    simp only [Option.some.injEq, exists_eq_left']
    rw [← crossed_iff rule.direction rule.threshold previous metric.2]
    cases hc : crossed (compareExactDecimals previous rule.threshold)
        (compareExactDecimals metric.2 rule.threshold) rule.direction with
    | true => simp
    | false => simp

theorem handleUpdate_ne_nil (retained : Option DecimalString) (update : MonitorUpdate Payload) :
    (handleUpdate sha256Hex rule.record retained update).2 ≠ [] ↔
      isDelta update = true ∧ ∃ previous current, retained = some previous ∧
        metricOf rule.record update = some current ∧
          Near rule.direction rule.threshold.value previous.value ∧
            ¬ Near rule.direction rule.threshold.value current.value := by
  cases update with
  | baseline payload => simp [handleUpdate, normalizeRuleUpdate, evaluated, isDelta]
  | delta payload =>
    cases payload with
    | streamDelta receivedAt message coinToMarketId =>
      unfold handleUpdate normalizeRuleUpdate metricOf isDelta
      dsimp only
      rw [executionEvents_of_crossing rule.crosses, if_neg (not_not.mpr rfl)]
      cases hmetric : metricFromDelta rule.record message coinToMarketId with
      | none => simp [evaluated]
      | some metric =>
        obtain ⟨hchannel, hdirection⟩ := channel_of_metricFromDelta hmetric
        rw [rule.crosses] at hdirection
        simp only [Option.map_some, Option.some.injEq, exists_and_left, exists_eq_left', true_and]
        exact rule.evaluated_metricEvent sha256Hex hchannel retained receivedAt hdirection
    | marketSnapshot market => simp [handleUpdate, normalizeRuleUpdate, evaluated, metricOf]
    | accountSnapshot snapshots coinToMarketId =>
      simp [handleUpdate, normalizeRuleUpdate, evaluated, metricOf]
    | unknown => simp [handleUpdate, normalizeRuleUpdate, evaluated, metricOf]

theorem length_handleUpdate_le (retained : Option DecimalString) (update : MonitorUpdate Payload) :
    (handleUpdate sha256Hex rule.record retained update).2.length ≤ 1 := by
  refine Nat.le_trans (List.length_filterMap_le _ _) ?_
  cases update with
  | baseline payload => exact Nat.zero_le 1
  | delta payload =>
    cases payload with
    | streamDelta receivedAt message coinToMarketId =>
      unfold normalizeRuleUpdate
      dsimp only
      rw [executionEvents_of_crossing rule.crosses, if_neg (not_not.mpr rfl)]
      cases metricFromDelta rule.record message coinToMarketId with
      | none => exact Nat.zero_le 1
      | some metric => exact Nat.le_refl 1
    | marketSnapshot market => exact Nat.zero_le 1
    | accountSnapshot snapshots coinToMarketId => exact Nat.zero_le 1
    | unknown => exact Nat.zero_le 1

theorem matched_iff (i : ℕ) :
    (∃ matched, (matchesOf sha256Hex rule.record none updates)[i]? = some matched ∧
      matched ≠ []) ↔ CrossesAt rule updates i := by
  rw [getElem?_matchesOf, retainedAfter_eq rule.crosses]
  unfold CrossesAt
  cases updates[i]? with
  | none => simp
  | some update =>
    simp only [Option.map_some, Option.some.injEq, exists_eq_left',
      rule.handleUpdate_ne_nil sha256Hex]
    constructor
    · rintro ⟨hdelta, previous, current, hlast, hcurrent, hcrosses⟩
      exact ⟨update, previous, current, rfl, hdelta, hlast, hcurrent, hcrosses⟩
    · rintro ⟨found, previous, current, hfound, hdelta, hlast, hcurrent, hcrosses⟩
      cases hfound
      exact ⟨hdelta, previous, current, hlast, hcurrent, hcrosses⟩

end CrossingRule

theorem exists_of_lastMetric {updates : List (MonitorUpdate Payload)} {value : DecimalString} :
    ∀ {j : ℕ}, lastMetric rule (updates.take j) = some value →
      ∃ k update, k < j ∧ updates[k]? = some update ∧ metricOf rule update = some value ∧
        ∀ i later, k < i → i < j → updates[i]? = some later → metricOf rule later = none := by
  intro j
  induction j with
  | zero =>
    intro h
    rw [List.take_zero] at h
    cases h
  | succ j ih =>
    intro h
    cases hupdate : updates[j]? with
    | none =>
      have hlength : updates.length ≤ j := List.getElem?_eq_none_iff.mp hupdate
      rw [List.take_of_length_le (by omega), ← List.take_of_length_le hlength] at h
      obtain ⟨k, update, hk, hfound, hvalue, hnone⟩ := ih h
      refine ⟨k, update, Nat.lt_succ_of_lt hk, hfound, hvalue, ?_⟩
      intro i later hki hi hlater
      have hlt : i < updates.length := (List.getElem?_eq_some_iff.mp hlater).1
      exact hnone i later hki (by omega) hlater
    | some update =>
      rw [List.take_add_one, hupdate, Option.toList_some, lastMetric_append_singleton] at h
      cases hmetric : metricOf rule update with
      | some other =>
        rw [hmetric, Option.some_or] at h
        cases h
        exact ⟨j, update, Nat.lt_succ_self j, hupdate, hmetric,
          fun i later hji hi => by omega⟩
      | none =>
        rw [hmetric, Option.none_or] at h
        obtain ⟨k, found, hk, hfound, hvalue, hnone⟩ := ih h
        refine ⟨k, found, Nat.lt_succ_of_lt hk, hfound, hvalue, ?_⟩
        intro i later hki hi hlater
        rcases Nat.lt_or_eq_of_le (Nat.lt_succ_iff.mp hi) with hlt | rfl
        · exact hnone i later hki hlt hlater
        · rw [hupdate] at hlater
          cases hlater
          exact hmetric

theorem CrossesAt.near_between {rule : CrossingRule} {updates : List (MonitorUpdate Payload)}
    {i j : ℕ} (hi : CrossesAt rule updates i) (hj : CrossesAt rule updates j) (hij : i < j) :
    ∃ k update value, i < k ∧ k < j ∧ updates[k]? = some update ∧
      metricOf rule.record update = some value ∧
        Near rule.direction rule.threshold.value value.value := by
  obtain ⟨first, -, current, hfirst, -, -, hcurrent, -, hbeyond⟩ := hi
  obtain ⟨-, previous, -, -, -, hlast, -, hnear, -⟩ := hj
  obtain ⟨k, update, hk, hupdate, hvalue, hnone⟩ := exists_of_lastMetric hlast
  rcases Nat.lt_trichotomy i k with hlt | rfl | hgt
  · exact ⟨k, update, previous, hlt, hk, hupdate, hvalue, hnear⟩
  · rw [hfirst] at hupdate
    cases hupdate
    rw [hcurrent] at hvalue
    cases hvalue
    exact absurd hnear hbeyond
  · have hmissing := hnone i first hgt hij hfirst
    rw [hcurrent] at hmissing
    cases hmissing

theorem flatten_matchesOf_filter (rule : CrossingRule) (sha256Hex : String → String)
    (retained : Option DecimalString) (updates : List (MonitorUpdate Payload)) :
    (matchesOf sha256Hex rule.record retained
        (updates.filter fun update => (metricOf rule.record update).isSome)).flatten =
      (matchesOf sha256Hex rule.record retained updates).flatten := by
  induction updates generalizing retained with
  | nil => rfl
  | cons update updates ih =>
    have hretained := retained_normalizeRuleUpdate rule.crosses retained update
    have hmatched := rule.handleUpdate_ne_nil sha256Hex retained update
    cases hmetric : metricOf rule.record update with
    | some value =>
      rw [List.filter_cons_of_pos (by rw [hmetric]; rfl), matchesOf, matchesOf,
        List.flatten_cons, List.flatten_cons, ih]
    | none =>
      have hnil : (handleUpdate sha256Hex rule.record retained update).2 = [] := by
        by_contra hne
        obtain ⟨-, previous, current, -, hcurrent, -⟩ := hmatched.mp hne
        rw [hmetric] at hcurrent
        cases hcurrent
      have hkept : (handleUpdate sha256Hex rule.record retained update).1 = retained := by
        rw [hmetric, Option.none_or] at hretained
        exact hretained
      rw [List.filter_cons_of_neg (by rw [hmetric]; decide), matchesOf, List.flatten_cons,
        hnil, List.nil_append, hkept, ih]

/-- A rule about a metric is matched at exactly the deltas whose value is no longer strictly
on the near side of the threshold while the last value before it was, once each; between
two of them the metric was on the near side, and updates without a value change nothing. -/
theorem threshold_alerts (rule : CrossingRule) (sha256Hex : String → String)
    (updates : List (MonitorUpdate Payload)) :
    (∀ i, (∃ matched, (matchesOf sha256Hex rule.record none updates)[i]? = some matched ∧
        matched ≠ []) ↔ CrossesAt rule updates i) ∧
      (∀ matched ∈ matchesOf sha256Hex rule.record none updates, matched.length ≤ 1) ∧
      (∀ i j, i < j → CrossesAt rule updates i → CrossesAt rule updates j →
        ∃ k update value, i < k ∧ k < j ∧ updates[k]? = some update ∧
          metricOf rule.record update = some value ∧
            Near rule.direction rule.threshold.value value.value) ∧
      (matchesOf sha256Hex rule.record none
          (updates.filter fun update => (metricOf rule.record update).isSome)).flatten =
        (matchesOf sha256Hex rule.record none updates).flatten := by
  refine ⟨rule.matched_iff sha256Hex updates, ?_, ?_, flatten_matchesOf_filter rule sha256Hex
    none updates⟩
  · intro matched hmatched
    obtain ⟨i, hi⟩ := List.mem_iff_getElem?.mp hmatched
    rw [getElem?_matchesOf] at hi
    obtain ⟨update, -, rfl⟩ := Option.map_eq_some_iff.mp hi
    exact rule.length_handleUpdate_le sha256Hex _ update
  · intro i j hij hi hj
    exact hi.near_between hj hij

def Beyond (direction : RuleDirection) (threshold value : ℚ) : Prop :=
  match direction with
  | .above => threshold < value
  | .below => value < threshold

def priceAlert : CrossingRule where
  record :=
    { ruleId := "11111111111111111111111111111111"
      identityDigest := "1111111111111111111111111111111111111111111111111111111111111111"
      installationId := "22222222222222222222222222222222"
      accountLinkId := none
      scope := .price
      network := .testnet
      marketId := "perp:0:0"
      eventType := .priceAbove
      threshold := "100" }
  valid := by decide
  direction := .above
  crosses := rfl
  threshold := ⟨"100", ⟨false, ['1', '0', '0'], []⟩, by decide⟩
  reads := by decide

def priceReaches : List (MonitorUpdate Payload) :=
  [.baseline (.marketSnapshot (.object [("markPx", .string "99.5")])),
    .delta (.streamDelta 1 ⟨"activeAssetCtx", some (.object [("coin", .string "BTC"),
      ("ctx", .object [("markPx", .string "100")])])⟩ [("BTC", "perp:0:0")])]

/-- A price that reaches the threshold, and does not pass it, is matched. -/
theorem alert_at_threshold : ¬ ∀ (rule : CrossingRule) (sha256Hex : String → String)
    (updates : List (MonitorUpdate Payload)) (i : ℕ),
    (∃ matched, (matchesOf sha256Hex rule.record none updates)[i]? = some matched ∧ matched ≠ []) ↔
    ∃ update previous current, updates[i]? = some update ∧ isDelta update = true ∧
      lastMetric rule.record (updates.take i) = some previous ∧
      metricOf rule.record update = some current ∧
      ¬ Beyond rule.direction rule.threshold.value previous.value ∧
      Beyond rule.direction rule.threshold.value current.value := by
  intro h
  have hmatched : ∃ matched,
      (matchesOf id priceAlert.record none priceReaches)[1]? = some matched ∧ matched ≠ [] :=
    ⟨[⟨eventKeyText priceAlert.record (metricEvent priceAlert.record none 1 "activeAssetCtx"
      (.price, priceAlert.threshold)), .price, .trade⟩], by decide +kernel, by decide⟩
  obtain ⟨update, previous, current, hupdate, -, -, hcurrent, -, hbeyond⟩ :=
    (h priceAlert id priceReaches 1).mp hmatched
  cases hupdate
  have hvalue : metricOf priceAlert.record priceReaches[1] = some priceAlert.threshold := by
    decide
  have hsame := hvalue.symm.trans hcurrent
  cases hsame
  exact lt_irrefl _ hbeyond

end RuleUpdates

end HyperTrader
