import HyperTrader.Library.DigitOrder
import HyperTrader.Monitor.Registry
import HyperTrader.Notifications.Tables

/-!
# The evaluator of the notification rules

An event matches a rule of its scope: an execution of the rule's kind, or a metric whose
value crosses the threshold of the rule. Values are compared as texts, without the
program's numbers, and the comparison is that of the rational numbers that they denote
(`compareExactDecimals_eq`).
-/

namespace HyperTrader

open Library

structure DecimalString where
  text : String
  decimal : DecimalText
  reads : readDecimal text = some decimal
  deriving DecidableEq

def DecimalString.value (text : DecimalString) : ℚ := text.decimal.value

def decimalString (text : String) : Option DecimalString :=
  match h : readDecimal text with
  | none => none
  | some decimal => some ⟨text, decimal, h⟩

structure ExactDecimal where
  sign : Ordering
  integer : List Char
  fraction : List Char

def parseExactDecimal (value : DecimalString) : ExactDecimal :=
  let integer := dropLeadingZeros value.decimal.whole
  let fraction := stripZeros value.decimal.fraction
  let zero := integer = ['0'] ∧ fraction = []
  { sign := if zero then .eq else if value.decimal.negative then .lt else .gt
    integer := integer
    fraction := fraction }

def ExactDecimal.digits (decimal : ExactDecimal) (scale : ℕ) : List Char :=
  decimal.integer ++ (decimal.fraction ++ List.replicate (scale - decimal.fraction.length) '0')

def compareExactDecimals (left right : DecimalString) : Ordering :=
  let first := parseExactDecimal left
  let second := parseExactDecimal right
  if first.sign ≠ second.sign then compare first.sign second.sign
  else if first.sign = .eq then .eq
  else
    let scale := max first.fraction.length second.fraction.length
    let magnitude := compareDigits (first.digits scale) (second.digits scale)
    if first.sign = .gt then magnitude else magnitude.swap

structure NotificationRuleRecord where
  ruleId : String
  identityDigest : String
  installationId : String
  accountLinkId : Option String
  scope : Notifications.RuleScope
  network : NotificationNetwork
  marketId : String
  eventType : Notifications.NotificationEventType
  threshold : String

inductive RuleMetric where
  | price
  | funding
  | marginRisk
  | liquidationRisk

inductive NotificationRuleEvent where
  | execution (eventType : Notifications.NotificationEventType)
      (network : NotificationNetwork) (marketId accountLinkId sourceId : String)
  | metric (metric : RuleMetric) (network : NotificationNetwork) (marketId : String)
      (accountLinkId : Option String) (previous : Option DecimalString)
      (current : DecimalString) (sourceId : String)

namespace NotificationRuleEvent

def network : NotificationRuleEvent → NotificationNetwork
  | execution _ network _ _ _ | metric _ network _ _ _ _ _ => network

def marketId : NotificationRuleEvent → String
  | execution _ _ marketId _ _ | metric _ _ marketId _ _ _ _ => marketId

def accountLinkId : NotificationRuleEvent → Option String
  | execution _ _ _ accountLinkId _ => some accountLinkId
  | metric _ _ _ accountLinkId _ _ _ => accountLinkId

def sourceId : NotificationRuleEvent → String
  | execution _ _ _ _ sourceId | metric _ _ _ _ _ _ sourceId => sourceId

end NotificationRuleEvent

structure NotificationRuleMatch where
  eventKey : String
  category : Notifications.AlertCategory
  routeHint : Notifications.AlertRoute
  deriving DecidableEq

def hex128Pattern : TextPattern where
  lead := ""
  digit := isLowerHexDigit
  least := 32
  most := 32

def hex256Pattern : TextPattern where
  lead := ""
  digit := isLowerHexDigit
  least := 64
  most := 64

def sourceIdPattern : TextPattern where
  lead := ""
  digit := inRange '!' '~'
  least := 1
  most := 256

def canonicalMarket (marketId : String) : Bool :=
  match (marketId.toList.splitOn ':').map String.ofList with
  | ["perp", dex, asset] => isCanonicalNatural dex && isCanonicalNatural asset
  | ["spot", asset] => isCanonicalNatural asset
  | ["outcome", question, side] =>
    isCanonicalNatural question && (side == "0" || side == "1")
  | _ => false

def validRuleLink (rule : NotificationRuleRecord) : Bool :=
  match rule.scope with
  | .account => rule.accountLinkId.any hex128Pattern.test
  | .price => rule.accountLinkId.isNone

/-- `validateRule` does not throw. -/
def validRule (rule : NotificationRuleRecord) : Bool :=
  hex128Pattern.test rule.ruleId && hex256Pattern.test rule.identityDigest &&
    hex128Pattern.test rule.installationId && canonicalMarket rule.marketId &&
    (readDecimal rule.threshold).isSome && validRuleLink rule

/-- `validateEvent` does not throw. -/
def validEvent (event : NotificationRuleEvent) : Bool :=
  canonicalMarket event.marketId && sourceIdPattern.test event.sourceId &&
    event.accountLinkId.all hex128Pattern.test

inductive RuleDirection where
  | above
  | below

def ruleDirection :
    Notifications.NotificationEventType → RuleMetric → Option RuleDirection
  | .priceAbove, .price => some .above
  | .priceBelow, .price => some .below
  | .fundingAbove, .funding => some .above
  | .fundingBelow, .funding => some .below
  | .marginRisk, .marginRisk => some .above
  | .liquidationRisk, .liquidationRisk => some .below
  | _, _ => none

def crossed (previous current : Ordering) : RuleDirection → Bool
  | .above => previous == .lt && current != .lt
  | .below => previous == .gt && current != .gt

def metricCategory : RuleMetric → Notifications.AlertCategory × Notifications.AlertRoute
  | .price => (.price, .trade)
  | .funding => (.funding, .portfolio)
  | .marginRisk | .liquidationRisk => (.risk, .portfolio)

/-- The network, the market and the account of the event are those of the rule. -/
def inScope (rule : NotificationRuleRecord) (event : NotificationRuleEvent) : Bool :=
  rule.network == event.network && rule.marketId == event.marketId &&
    match rule.scope with
    | .account => rule.accountLinkId == event.accountLinkId
    | .price => event.accountLinkId.isNone

def eventCategory (rule : NotificationRuleRecord) (threshold : DecimalString) :
    NotificationRuleEvent → Option (Notifications.AlertCategory × Notifications.AlertRoute)
  | .execution eventType _ _ _ _ =>
    if rule.eventType = eventType then some (.execution, .portfolio) else none
  | .metric metric _ _ _ previous current _ =>
    match previous, ruleDirection rule.eventType metric with
    | some previous, some direction =>
      if crossed (compareExactDecimals previous threshold)
          (compareExactDecimals current threshold) direction then
        some (metricCategory metric)
      else none
    | _, _ => none

def eventKeyText (rule : NotificationRuleRecord) (event : NotificationRuleEvent) : String :=
  "|".intercalate
    ["notification-event/v1", rule.ruleId, rule.identityDigest, event.network.text,
      event.marketId, event.accountLinkId.getD "public", event.sourceId]

/-- `evaluateNotificationRule`; `sha256Hex` is a function of the notifications package. -/
def evaluateNotificationRule (sha256Hex : String → String) (rule : NotificationRuleRecord)
    (event : NotificationRuleEvent) : Outcome (Option NotificationRuleMatch) :=
  if validRule rule = false then .error (.error "notification rule is invalid")
  else if validEvent event = false then .error (.error "notification event is invalid")
  else if inScope rule event = false then .ok none
  else
    .ok <| ((decimalString rule.threshold).bind fun threshold =>
      eventCategory rule threshold event).map fun category =>
        ⟨sha256Hex (eventKeyText rule event), category.1, category.2⟩

namespace DecimalString

variable (text : DecimalString)

theorem digits : Digits text.decimal.whole ∧ Digits text.decimal.fraction ∧
    text.decimal.whole ≠ [] := by
  obtain ⟨hwhole, hfraction⟩ := readDecimal_digits text.reads
  obtain ⟨hne, hdigits, -⟩ := isWholePart_iff.mp hwhole
  exact ⟨hdigits, hfraction, hne⟩

theorem dropLeadingZeros_whole : dropLeadingZeros text.decimal.whole = text.decimal.whole := by
  obtain ⟨-, hdigits, hhead⟩ := isWholePart_iff.mp (readDecimal_digits text.reads).1
  cases hwhole : text.decimal.whole with
  | nil => rfl
  | cons c rest =>
    cases rest with
    | nil =>
      by_cases hc : c = '0'
      · subst hc
        rfl
      · exact dropLeadingZeros.eq_2 _ fun _ _ h => by cases h
    | cons d rest =>
      apply dropLeadingZeros.eq_2
      intro d' rest' heq
      rw [hwhole] at hhead
      cases heq
      simp at hhead

end DecimalString

theorem digits_digits (text : DecimalString) (scale : ℕ) :
    Digits ((parseExactDecimal text).digits scale) := by
  obtain ⟨hwhole, hfraction, -⟩ := text.digits
  exact hwhole.dropLeadingZeros.append
    (hfraction.stripZeros.append (digits_replicate_zero _))

theorem digits_ne_nil (text : DecimalString) (scale : ℕ) :
    (parseExactDecimal text).digits scale ≠ [] := by
  intro hnil
  exact dropLeadingZeros_ne_nil text.digits.2.2 (List.append_eq_nil_iff.mp hnil).1

theorem digitsValue_digits (text : DecimalString) {scale : ℕ}
    (hscale : (parseExactDecimal text).fraction.length ≤ scale) :
    (digitsValue ((parseExactDecimal text).digits scale) : ℚ) =
      |text.value| * 10 ^ scale := by
  have hvalue : |text.value| = (digitsValue (text.decimal.whole ++
      stripZeros text.decimal.fraction) : ℚ) /
        10 ^ (stripZeros text.decimal.fraction).length := by
    have hstrip := value_stripZeros text.decimal.whole text.decimal.fraction
    simp only [DecimalText.value, DecimalText.coefficient, Bool.false_eq_true, if_false,
      one_mul] at hstrip
    rw [hstrip, DecimalString.value, DecimalText.value, DecimalText.coefficient, abs_div,
      abs_mul, abs_of_nonneg (by positivity : (0 : ℚ) ≤ 10 ^ text.decimal.fraction.length),
      Nat.abs_cast]
    split <;> simp
  have hpad : (parseExactDecimal text).digits scale =
      (text.decimal.whole ++ stripZeros text.decimal.fraction) ++
        List.replicate (scale - (stripZeros text.decimal.fraction).length) '0' := by
    simp only [ExactDecimal.digits, parseExactDecimal, text.dropLeadingZeros_whole,
      List.append_assoc]
  have hsum : (stripZeros text.decimal.fraction).length +
      (scale - (stripZeros text.decimal.fraction).length) = scale := Nat.add_sub_of_le hscale
  rw [hpad, digitsValue_append, digitsValue_replicate_zero, Nat.add_zero,
    List.length_replicate, hvalue]
  conv_rhs => rw [← hsum, pow_add]
  push_cast
  field_simp

theorem coefficient_eq_zero (text : DecimalString) :
    text.decimal.coefficient = 0 ↔ dropLeadingZeros text.decimal.whole = ['0'] ∧
      stripZeros text.decimal.fraction = [] := by
  obtain ⟨hwhole, hfraction, hne⟩ := text.digits
  obtain ⟨-, -, hhead⟩ := isWholePart_iff.mp (readDecimal_digits text.reads).1
  rw [text.dropLeadingZeros_whole, DecimalText.coefficient,
    digitsValue_eq_zero (hwhole.append hfraction)]
  constructor
  · intro hzeros
    refine ⟨?_, stripZeros_eq_nil fun c hc => hzeros c (List.mem_append_right _ hc)⟩
    cases hlist : text.decimal.whole with
    | nil => exact absurd hlist hne
    | cons c rest =>
      rw [hlist] at hzeros hhead
      have hc : c = '0' := hzeros c List.mem_cons_self
      rcases hhead with hlength | hhead
      · rw [hc, List.length_eq_zero_iff.mp (Nat.succ_inj.mp hlength)]
      · exact absurd (congrArg some hc) hhead
  · rintro ⟨hzero, hnil⟩ c hc
    obtain ⟨n, hn⟩ := stripZeros_append text.decimal.fraction
    rw [hzero, hn, hnil, List.nil_append] at hc
    rcases List.mem_append.mp hc with hc | hc
    · exact List.mem_singleton.mp hc
    · exact List.eq_of_mem_replicate hc

theorem sign_parseExactDecimal (text : DecimalString) :
    (parseExactDecimal text).sign = compare text.value 0 := by
  have hscale : (0 : ℚ) < 10 ^ text.decimal.fraction.length := by positivity
  unfold parseExactDecimal DecimalString.value DecimalText.value
  dsimp only
  simp only [← coefficient_eq_zero]
  split
  · rename_i hzero
    rw [hzero, Nat.cast_zero, mul_zero, zero_div]
    exact (compare_eq_iff_eq.mpr rfl).symm
  · rename_i hne
    have hpos : (0 : ℚ) < text.decimal.coefficient :=
      Nat.cast_pos.mpr (Nat.pos_of_ne_zero hne)
    cases text.decimal.negative with
    | true =>
      rw [if_pos rfl, if_pos rfl]
      refine (compare_lt_iff_lt.mpr (div_neg_of_neg_of_pos ?_ hscale)).symm
      rw [neg_one_mul]
      exact neg_neg_of_pos hpos
    | false =>
      rw [if_neg Bool.false_ne_true, if_neg Bool.false_ne_true, one_mul]
      exact (compare_gt_iff_gt.mpr (div_pos hpos hscale)).symm

theorem compareExactDecimals_eq (left right : DecimalString) :
    compareExactDecimals left right = compare left.value right.value := by
  have hleft := sign_parseExactDecimal left
  have hright := sign_parseExactDecimal right
  unfold compareExactDecimals
  dsimp only
  generalize hscale : max (parseExactDecimal left).fraction.length
    (parseExactDecimal right).fraction.length = scale
  have hfirst := digitsValue_digits left (hscale ▸ le_max_left _ _)
  have hsecond := digitsValue_digits right (hscale ▸ le_max_right _ _)
  have hpow : (0 : ℚ) < 10 ^ scale := by positivity
  have hmagnitude : compareDigits ((parseExactDecimal left).digits scale)
      ((parseExactDecimal right).digits scale) = compare |left.value| |right.value| := by
    rw [compareDigits_eq (digits_digits left scale) (digits_digits right scale)
      (digits_ne_nil left scale) (digits_ne_nil right scale)]
    apply compare_congr
    · rw [← Nat.cast_lt (α := ℚ), hfirst, hsecond, mul_lt_mul_iff_left₀ hpow]
    · rw [← Nat.cast_lt (α := ℚ), hfirst, hsecond, mul_lt_mul_iff_left₀ hpow]
  rw [hmagnitude, hleft, hright]
  rcases lt_trichotomy left.value 0 with hl | hl | hl
  · rw [compare_lt_iff_lt.mpr hl]
    rcases lt_trichotomy right.value 0 with hr | hr | hr
    · rw [compare_lt_iff_lt.mpr hr, abs_of_neg hl, abs_of_neg hr]
      have hswap : (compare (-left.value) (-right.value)).swap =
          compare left.value right.value := by
        rw [swap_compare]
        exact compare_congr neg_lt_neg_iff neg_lt_neg_iff
      exact hswap
    · rw [hr, compare_eq_iff_eq.mpr rfl, compare_lt_iff_lt.mpr hl]
      rfl
    · rw [compare_gt_iff_gt.mpr hr, compare_lt_iff_lt.mpr (hl.trans hr)]
      rfl
  · rw [hl, compare_eq_iff_eq.mpr rfl]
    rcases lt_trichotomy right.value 0 with hr | hr | hr
    · rw [compare_lt_iff_lt.mpr hr, compare_gt_iff_gt.mpr hr]
      rfl
    · rw [hr, compare_eq_iff_eq.mpr rfl]
      rfl
    · rw [compare_gt_iff_gt.mpr hr, compare_lt_iff_lt.mpr hr]
      rfl
  · rw [compare_gt_iff_gt.mpr hl]
    rcases lt_trichotomy right.value 0 with hr | hr | hr
    · rw [compare_lt_iff_lt.mpr hr, compare_gt_iff_gt.mpr (hr.trans hl)]
      rfl
    · rw [hr, compare_eq_iff_eq.mpr rfl, compare_gt_iff_gt.mpr hl]
      rfl
    · rw [compare_gt_iff_gt.mpr hr, abs_of_pos hl, abs_of_pos hr]
      rfl

end HyperTrader
