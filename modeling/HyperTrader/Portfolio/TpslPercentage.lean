import HyperTrader.Actions.RoundedPrice

/-!
# Protective prices from percentages

The price of a protective order is edited as a percentage of the entry price, and the
percentage of a price is shown rounded to four decimals. The price derived from a
percentage is the nearest price of the market to the exact target, on the side of the
entry that the order protects. The shown percentage leads back to the price where no
other price of the market is as near as its rounding.
-/

namespace HyperTrader

open Library

inductive PositionSide where
  | long
  | short
  deriving DecidableEq

structure DecimalParts where
  coefficient : ℕ
  scale : ℕ

def DecimalParts.value (parts : DecimalParts) : ℚ := parts.coefficient / 10 ^ parts.scale

def decimalParts (value : Option String) : Option DecimalParts := do
  let text ← value.bind readDecimal
  guard (text.negative = false)
  guard (0 < text.coefficient)
  pure ⟨text.coefficient, text.fraction.length⟩

/-- The text matches `/^(?:(?:0|[1-9]\d*)(?:\.\d*)?|\.\d+)$/`, in its two parts. -/
def isPercentageText (whole : List Char) (rest : List Char) : Bool :=
  if whole.isEmpty then
    match rest with
    | '.' :: fraction => !fraction.isEmpty && fraction.all Char.isDigit
    | _ => false
  else isWholePart whole && (rest.drop 1).all Char.isDigit

def percentageParts (value : String) : Option DecimalParts :=
  let whole := value.toList.takeWhile (· != '.')
  let rest := value.toList.dropWhile (· != '.')
  let coefficient := digitsValue (whole ++ rest.drop 1)
  if isPercentageText whole rest && decide (0 < coefficient) then
    some ⟨coefficient, (rest.drop 1).length⟩
  else none

def triggerIncreasesFromEntry (side : PositionSide) (kind : PositionTpslKind) : Bool :=
  (side == .long && kind == .takeProfit) || (side == .short && kind == .stopLoss)

def percentageDisplayDecimals : ℕ := 4

def wrongSide (increases : Bool) (trigger entry : ℕ) : Bool :=
  (increases && decide (trigger ≤ entry)) || (!increases && decide (entry ≤ trigger))

def positionTpslPercentageFromPrice (entryPrice : Option String) (kind : PositionTpslKind)
    (side : PositionSide) (triggerPrice : String) : Option String := do
  let entry ← decimalParts entryPrice
  let trigger ← decimalParts (some triggerPrice)
  let commonScale := max entry.scale trigger.scale
  let entryCoefficient := entry.coefficient * 10 ^ (commonScale - entry.scale)
  let triggerCoefficient := trigger.coefficient * 10 ^ (commonScale - trigger.scale)
  guard (wrongSide (triggerIncreasesFromEntry side kind) triggerCoefficient
    entryCoefficient = false)
  let difference :=
    if entryCoefficient < triggerCoefficient then triggerCoefficient - entryCoefficient
    else entryCoefficient - triggerCoefficient
  pure (formatScaled
    (nearestQuotient (difference * 100 * 10 ^ percentageDisplayDecimals) entryCoefficient)
    percentageDisplayDecimals)

def percentageFactor (increases : Bool) (base coefficient : ℕ) : ℕ :=
  if increases then base + coefficient else base - coefficient

def positionTpslPriceFromPercentage (entryPrice : Option String) (kind : PositionTpslKind)
    (percentage : String) (precision : Option PricePrecisionInputs) (side : PositionSide) :
    Option String := do
  let entry ← decimalParts entryPrice
  let percentage ← percentageParts percentage
  let precision ← precision
  let percentageBase := 100 * 10 ^ percentage.scale
  let increases := triggerIncreasesFromEntry side kind
  guard (increases = true ∨ percentage.coefficient < percentageBase)
  let unroundedPrice := formatScaled
    (entry.coefficient * percentageFactor increases percentageBase percentage.coefficient)
    (entry.scale + percentage.scale + 2)
  let roundedPrice ← roundedPriceInputValue (some unroundedPrice) (some precision)
  let _ ← positionTpslPercentageFromPrice entryPrice kind side roundedPrice
  pure roundedPrice

/-! ### The values of the parts -/

variable {price percentage : String}

theorem decimalParts_eq_some {value : ℚ} (h : IsPositiveDecimal price value) :
    ∃ parts, decimalParts (some price) = some parts ∧ 0 < parts.coefficient ∧
      parts.value = value := by
  obtain ⟨text, hread, hsign, hcoefficient, rfl⟩ := isPositiveDecimal_iff.mp h
  refine ⟨⟨text.coefficient, text.fraction.length⟩, ?_, hcoefficient, ?_⟩
  · simp [decimalParts, hread, hsign, hcoefficient, guard]
  · rw [DecimalText.value_of_not_negative hsign]
    rfl

theorem isPositiveDecimal_of_decimalParts {price : Option String} {parts : DecimalParts}
    (h : decimalParts price = some parts) :
    0 < parts.coefficient ∧ ∃ text, price = some text ∧ IsPositiveDecimal text parts.value := by
  cases price with
  | none => cases h
  | some text =>
    unfold decimalParts at h
    cases hread : readDecimal text with
    | none => simp [hread] at h
    | some read =>
      by_cases hsign : read.negative = false
      · by_cases hcoefficient : 0 < read.coefficient
        · simp only [hread, hsign, hcoefficient, guard, Option.bind_eq_bind,
            Option.bind_some, if_true, pure, Option.some.injEq] at h
          subst h
          refine ⟨hcoefficient, text, rfl, isPositiveDecimal_iff.mpr
            ⟨read, hread, hsign, hcoefficient, ?_⟩⟩
          rw [DecimalText.value_of_not_negative hsign]
          rfl
        · simp [hread, hsign, hcoefficient, guard] at h
      · simp [hread, hsign, guard] at h

theorem percentageParts_of_positive {value : ℚ} (h : IsPositiveDecimal percentage value) :
    ∃ parts, percentageParts percentage = some parts ∧ parts.value = value := by
  obtain ⟨text, hread, hsign, hcoefficient, rfl⟩ := isPositiveDecimal_iff.mp h
  obtain ⟨hwhole, hfraction⟩ := readDecimal_digits hread
  have hdigits := (isWholePart_iff.mp hwhole).2.1
  have hne := (isWholePart_iff.mp hwhole).1
  set rest : List Char := if text.fraction = [] then [] else '.' :: text.fraction with hrest
  have hchars : percentage.toList = text.whole ++ rest := by
    rw [toList_of_readDecimal hread, hsign, if_neg Bool.false_ne_true, List.nil_append]
  have hpoint : ∀ c ∈ text.whole, (c != '.') = true := fun c hc => by
    simpa using (isDigit_ne_point (hdigits c hc)).1
  have hhead : rest.takeWhile (· != '.') = [] ∧ rest.dropWhile (· != '.') = rest := by
    rw [hrest]
    split_ifs
    · exact ⟨rfl, rfl⟩
    · exact ⟨rfl, rfl⟩
  have htake : percentage.toList.takeWhile (· != '.') = text.whole := by
    rw [hchars, List.takeWhile_append_of_pos hpoint, hhead.1, List.append_nil]
  have hdrop : percentage.toList.dropWhile (· != '.') = rest := by
    rw [hchars, List.dropWhile_append_of_pos hpoint, hhead.2]
  have hone : rest.drop 1 = text.fraction := by
    rw [hrest]
    split_ifs with hnil
    · exact hnil.symm
    · rfl
  have hmatches : isPercentageText text.whole rest = true := by
    unfold isPercentageText
    rw [if_neg (by simpa using hne), hwhole, hone, List.all_eq_true.mpr hfraction, Bool.and_self]
  refine ⟨⟨text.coefficient, text.fraction.length⟩, ?_, ?_⟩
  · unfold percentageParts
    simp only [htake, hdrop, hone, hmatches, Bool.true_and, decide_eq_true_eq]
    exact if_pos hcoefficient
  · rw [DecimalText.value_of_not_negative hsign]
    rfl

/-! ### The percentage of a price -/

/-- The price is strictly on the side of the entry that the order protects. -/
def OnSide (increases : Bool) (entry price : ℚ) : Prop :=
  if increases then entry < price else price < entry

def exactPercentage (entry price : ℚ) : ℚ := 100 * |price - entry| / entry

def exactTarget (increases : Bool) (entry percentage : ℚ) : ℚ :=
  if increases then entry * (1 + percentage / 100) else entry * (1 - percentage / 100)

theorem exactTarget_exactPercentage {increases : Bool} {entry price : ℚ} (hentry : 0 < entry)
    (hside : OnSide increases entry price) :
    exactTarget increases entry (exactPercentage entry price) = price := by
  unfold exactTarget exactPercentage
  unfold OnSide at hside
  split_ifs at hside ⊢
  · rw [abs_of_pos (by linarith)]
    field_simp
    ring
  · rw [abs_of_neg (by linarith)]
    field_simp
    ring

theorem exactTarget_sub {increases : Bool} (entry p q : ℚ) :
    |exactTarget increases entry p - exactTarget increases entry q| =
      |entry| * |p - q| / 100 := by
  have hvalue : |entry * (p - q) / 100| = |entry| * |p - q| / 100 := by
    rw [abs_div, abs_mul, abs_of_pos (by norm_num : (0 : ℚ) < 100)]
  rw [← hvalue]
  unfold exactTarget
  split_ifs
  · congr 1
    ring
  · rw [← abs_neg]
    congr 1
    ring

theorem wrongSide_eq_false {increases : Bool} {trigger entry : ℕ} :
    wrongSide increases trigger entry = false ↔ OnSide increases entry trigger := by
  unfold wrongSide OnSide
  cases increases with
  | true => simp
  | false => simp

theorem DecimalParts.value_commonScale (parts : DecimalParts) {scale : ℕ}
    (h : parts.scale ≤ scale) :
    ((parts.coefficient * 10 ^ (scale - parts.scale) : ℕ) : ℚ) = parts.value * 10 ^ scale := by
  unfold DecimalParts.value
  rw [← Nat.add_sub_cancel' h, pow_add, Nat.add_sub_cancel_left]
  push_cast
  field_simp

variable {entryPrice triggerPrice : String} {kind : PositionTpslKind} {side : PositionSide}
  {entry trigger : ℚ}

theorem positionTpslPercentageFromPrice_eq (hentry : IsPositiveDecimal entryPrice entry)
    (htrigger : IsPositiveDecimal triggerPrice trigger) :
    ∃ coefficient : ℕ, (coefficient : ℚ) / 10 ^ percentageDisplayDecimals =
        roundNearest 10 percentageDisplayDecimals (exactPercentage entry trigger) ∧
      ∀ shown, positionTpslPercentageFromPrice (some entryPrice) kind side triggerPrice =
          some shown ↔
        OnSide (triggerIncreasesFromEntry side kind) entry trigger ∧
          shown = formatScaled coefficient percentageDisplayDecimals := by
  obtain ⟨entryParts, hentryParts, hentryPos, rfl⟩ := decimalParts_eq_some hentry
  obtain ⟨triggerParts, htriggerParts, -, rfl⟩ := decimalParts_eq_some htrigger
  set scale := max entryParts.scale triggerParts.scale with hscale
  have hentryScale : entryParts.scale ≤ scale := le_max_left _ _
  have htriggerScale : triggerParts.scale ≤ scale := le_max_right _ _
  have hentryScaled := entryParts.value_commonScale hentryScale
  have htriggerScaled := triggerParts.value_commonScale htriggerScale
  set e := entryParts.coefficient * 10 ^ (scale - entryParts.scale) with he
  set t := triggerParts.coefficient * 10 ^ (scale - triggerParts.scale) with ht
  have hepos : 0 < e := Nat.mul_pos hentryPos (by positivity)
  have hpow : (0 : ℚ) < 10 ^ scale := by positivity
  set difference := if e < t then t - e else e - t with hdifference
  have hcast : (difference : ℚ) = |triggerParts.value - entryParts.value| * 10 ^ scale := by
    rw [← abs_of_pos hpow, ← abs_mul, sub_mul, ← htriggerScaled, ← hentryScaled, hdifference]
    split_ifs with hlt
    · rw [Nat.cast_sub hlt.le, abs_of_nonneg (sub_nonneg.mpr (by exact_mod_cast hlt.le))]
    · rw [Nat.cast_sub (not_lt.mp hlt), abs_sub_comm,
        abs_of_nonneg (sub_nonneg.mpr (by exact_mod_cast not_lt.mp hlt))]
  have hside : wrongSide (triggerIncreasesFromEntry side kind) t e = false ↔
      OnSide (triggerIncreasesFromEntry side kind) entryParts.value triggerParts.value := by
    rw [wrongSide_eq_false, htriggerScaled, hentryScaled]
    unfold OnSide
    split_ifs
    · exact mul_lt_mul_iff_left₀ hpow
    · exact mul_lt_mul_iff_left₀ hpow
  refine ⟨nearestQuotient (difference * 100 * 10 ^ percentageDisplayDecimals) e, ?_, ?_⟩
  · rw [nearestQuotient_eq_floor _ hepos, roundNearest, exactPercentage]
    have hquotient : ((difference * 100 * 10 ^ percentageDisplayDecimals : ℕ) : ℚ) / e =
        100 * |triggerParts.value - entryParts.value| / entryParts.value *
          (10 : ℕ) ^ percentageDisplayDecimals := by
      push_cast
      rw [hentryScaled, hcast]
      field_simp
    rw [hquotient]
    push_cast
    rfl
  · intro shown
    rw [← hside]
    unfold positionTpslPercentageFromPrice
    simp only [hentryParts, htriggerParts, Option.bind_eq_bind, Option.bind_some, ← hscale,
      ← he, ← ht, ← hdifference]
    by_cases hwrong : wrongSide (triggerIncreasesFromEntry side kind) t e = false
    · simp [hwrong, guard, eq_comm]
    · simp [hwrong, guard]

/-! ### The price of a percentage -/

theorem unroundedPrice_value {increases : Bool} {entry percentage : DecimalParts}
    (hentry : 0 < entry.coefficient)
    (hfactor : increases = true ∨ percentage.coefficient < 100 * 10 ^ percentage.scale) :
    IsPositiveDecimal (formatScaled (entry.coefficient *
        percentageFactor increases (100 * 10 ^ percentage.scale) percentage.coefficient)
      (entry.scale + percentage.scale + 2))
      (exactTarget increases entry.value percentage.value) := by
  have hvalue : ((entry.coefficient * percentageFactor increases (100 * 10 ^ percentage.scale)
      percentage.coefficient : ℕ) : ℚ) / 10 ^ (entry.scale + percentage.scale + 2) =
        exactTarget increases entry.value percentage.value := by
    unfold exactTarget percentageFactor DecimalParts.value
    rw [pow_add, pow_add]
    cases increases with
    | true =>
      simp only [if_true]
      push_cast
      field_simp
      ring
    | false =>
      have hle : percentage.coefficient ≤ 100 * 10 ^ percentage.scale := by
        rcases hfactor with h | h
        · cases h
        · exact h.le
      simp only [Bool.false_eq_true, if_false]
      rw [Nat.cast_mul, Nat.cast_sub hle]
      push_cast
      field_simp
      ring
  rw [← hvalue]
  refine ⟨formatScaled_value _ _, ?_⟩
  have hpos : 0 < percentageFactor increases (100 * 10 ^ percentage.scale)
      percentage.coefficient := by
    unfold percentageFactor
    split_ifs with hincreases
    · positivity
    · have hlt := hfactor.resolve_left hincreases
      omega
  positivity

theorem positionTpslPriceFromPercentage_eq_some {entryPrice : Option String}
    {precision : Option PricePrecisionInputs} :
    positionTpslPriceFromPercentage entryPrice kind percentage precision side =
        some price ↔
      ∃ entry parts precision', decimalParts entryPrice = some entry ∧
        percentageParts percentage = some parts ∧ precision = some precision' ∧
        (triggerIncreasesFromEntry side kind = true ∨ parts.coefficient < 100 * 10 ^ parts.scale) ∧
        roundedPriceInputValue (some (formatScaled
          (entry.coefficient * percentageFactor (triggerIncreasesFromEntry side kind)
            (100 * 10 ^ parts.scale) parts.coefficient)
          (entry.scale + parts.scale + 2))) (some precision') = some price ∧
        ∃ shown, positionTpslPercentageFromPrice entryPrice kind side price = some shown := by
  unfold positionTpslPriceFromPercentage
  simp only [Option.bind_eq_bind, Option.bind_eq_some_iff, Option.guard_eq_some', pure,
    Option.some.injEq]
  constructor
  · rintro ⟨e, he, parts, hparts, precision', hprecision, -, hfactor, rounded, hrounded,
      shown, hshown, rfl⟩
    exact ⟨e, parts, precision', he, hparts, hprecision, hfactor, hrounded, shown, hshown⟩
  · rintro ⟨e, parts, precision', he, hparts, hprecision, hfactor, hrounded, shown, hshown⟩
    exact ⟨e, he, parts, hparts, precision', hprecision, (), hfactor, price, hrounded,
      shown, hshown, rfl⟩

def shownPercentage (entry price : ℚ) : ℚ :=
  roundNearest 10 percentageDisplayDecimals (exactPercentage entry price)

/-- The price is nearest to the target of its shown percentage, and something is left of
both. -/
def LeadsBack (precision : PricePrecisionInputs) (increases : Bool) (entry price : ℚ) : Prop :=
  0 < shownPercentage entry price ∧
    NearestPrice precision (exactTarget increases entry (shownPercentage entry price)) price ∧
    |price - exactTarget increases entry (shownPercentage entry price)| ≤
      exactTarget increases entry (shownPercentage entry price)

/-- No other price of the market is as near as the shown percentage can be off. -/
structure Apart (precision : PricePrecisionInputs) (entry price : ℚ) : Prop where
  fromEntry : entry / 2000000 ≤ |price - entry|
  fromZero : entry / 1000000 ≤ price
  fromOthers : ∀ other, ValidPrice precision other → other ≠ price →
    entry / 1000000 < |other - price|

structure StandsFor (precision : PricePrecisionInputs) (entryPrice : String)
    (kind : PositionTpslKind) (side : PositionSide) (entry percentage : ℚ) (price : String)
    (trigger : ℚ) : Prop where
  value : decimalValue price = some trigger
  valid : ValidPrice precision trigger
  onSide : OnSide (triggerIncreasesFromEntry side kind) entry trigger
  nearest : NearestPrice precision
    (exactTarget (triggerIncreasesFromEntry side kind) entry percentage) trigger
  /-- The percentage shown for the price, and when it leads back. -/
  back : ∃ shown, positionTpslPercentageFromPrice (some entryPrice) kind side price =
      some shown ∧ decimalValue shown = some (shownPercentage entry trigger) ∧
    (positionTpslPriceFromPercentage (some entryPrice) kind shown (some precision) side =
        some price ↔ LeadsBack precision (triggerIncreasesFromEntry side kind) entry trigger)
  apart : Apart precision entry trigger →
    LeadsBack precision (triggerIncreasesFromEntry side kind) entry trigger

section

variable {precision : PricePrecisionInputs} {increases : Bool}

theorem Apart.leadsBack (hentry : 0 < entry) (hvalid : ValidPrice precision trigger)
    (hside : OnSide increases entry trigger) (h : Apart precision entry trigger) :
    LeadsBack precision increases entry trigger := by
  have hexact : 0 ≤ exactPercentage entry trigger := by
    unfold exactPercentage
    positivity
  have hnear : |shownPercentage entry trigger - exactPercentage entry trigger| ≤ 1 / 20000 := by
    have hle : |shownPercentage entry trigger - exactPercentage entry trigger| ≤
        1 / 2 / ((10 : ℕ) : ℚ) ^ 4 := abs_roundNearest_sub_le (by decide) hexact
    norm_num at hle ⊢
    exact hle
  have htarget : |exactTarget increases entry (shownPercentage entry trigger) - trigger| ≤
      entry / 2000000 := by
    have hsub := @exactTarget_sub increases entry (shownPercentage entry trigger)
      (exactPercentage entry trigger)
    rw [exactTarget_exactPercentage hentry hside, abs_of_pos hentry] at hsub
    rw [hsub]
    calc entry * |shownPercentage entry trigger - exactPercentage entry trigger| / 100
        ≤ entry * (1 / 20000) / 100 := by gcongr
      _ = entry / 2000000 := by ring
  set target := exactTarget increases entry (shownPercentage entry trigger) with htargetDef
  obtain ⟨hlower, hupper⟩ := abs_le.mp htarget
  have hhalf : entry / 2000000 + entry / 2000000 = entry / 1000000 := by ring
  refine ⟨?_, ⟨hvalid, fun other hother => ?_⟩, ?_⟩
  · -- at least half of the last decimal shown
    have hshown : 1 / 2 ≤ exactPercentage entry trigger * 10 ^ 4 := by
      have hfar : entry ≤ |trigger - entry| * 2000000 := by
        have hle := h.fromEntry
        rwa [div_le_iff₀ (by norm_num)] at hle
      unfold exactPercentage
      rw [div_mul_eq_mul_div, le_div_iff₀ hentry]
      linarith
    have hfloor : 1 ≤ ⌊exactPercentage entry trigger * 10 ^ 4 + 1 / 2⌋₊ := by
      rw [Nat.le_floor_iff (by positivity)]
      push_cast
      linarith
    have hpositive : (0 : ℚ) < (⌊exactPercentage entry trigger * 10 ^ 4 + 1 / 2⌋₊ : ℕ) := by
      exact_mod_cast hfloor
    unfold shownPercentage roundNearest percentageDisplayDecimals
    push_cast
    positivity
  · by_cases heq : other = trigger
    · subst heq
      exact ⟨le_rfl, fun _ => le_rfl⟩
    · have hfar := h.fromOthers other hother heq
      have hsplit : |other - trigger| ≤ |other - target| + |target - trigger| :=
        abs_sub_le _ _ _
      have hless : |trigger - target| < |other - target| := by
        rw [abs_sub_comm trigger target]
        linarith
      exact ⟨hless.le, fun hsame => absurd hsame hless.ne⟩
  · rw [abs_sub_comm]
    have hzero := h.fromZero
    linarith

variable {coefficient scale : ℕ}

theorem rounded_eq_some_iff (hprecision : ValidPrecision precision) {text : String}
    {value : ℚ} (hvalue : IsPositiveDecimal text value) (hcoefficient : 0 < coefficient) :
    roundedPriceInputValue (some text) (some precision) =
        some (formatScaled coefficient scale) ↔
      NearestPrice precision value ((coefficient : ℚ) / 10 ^ scale) ∧
        |(coefficient : ℚ) / 10 ^ scale - value| ≤ value := by
  constructor
  · intro h
    obtain ⟨other, otherScale, hother, htext, -, hnearest⟩ :=
      rounded_nearest hprecision hvalue h
    have hsame : (coefficient : ℚ) / 10 ^ scale = (other : ℚ) / 10 ^ otherScale := by
      have hread := formatScaled_value coefficient scale
      rw [htext, formatScaled_value] at hread
      exact (Option.some.inj hread).symm
    rw [hsame]
    refine ⟨hnearest, ?_⟩
    by_contra hfar
    have hnone : roundedPriceInputValue (some text) (some precision) = none := by
      rw [rounded_eq_none_iff hprecision]
      intro value' hvalue' p hp
      rw [hvalue'.unique hvalue, zero_sub, abs_neg, abs_of_pos hvalue.2]
      exact (not_le.mp hfar).trans_le (hnearest.2 p hp).1
    rw [hnone] at h
    cases h
  · rintro ⟨hnearest, hle⟩
    cases hrounded : roundedPriceInputValue (some text) (some precision) with
    | none =>
      have hfar := (rounded_eq_none_iff hprecision).mp hrounded value hvalue _ hnearest.1
      rw [zero_sub, abs_neg, abs_of_pos hvalue.2] at hfar
      exact absurd hle hfar.not_ge
    | some rounded =>
      obtain ⟨other, otherScale, hother, rfl, -, hnearest'⟩ :=
        rounded_nearest hprecision hvalue hrounded
      rw [formatScaled_eq_of_value hcoefficient hother (hnearest.unique hnearest')]

/-- The percentage shown for a price leads back to it exactly where the price is nearest to
the target of what is shown. -/
theorem leadsBack_iff (hprecision : ValidPrecision precision) {shown : ℕ}
    (hentry : IsPositiveDecimal entryPrice entry) (hcoefficient : 0 < coefficient)
    (hback : positionTpslPercentageFromPrice (some entryPrice) kind side
      (formatScaled coefficient scale) = some (formatScaled shown percentageDisplayDecimals))
    (hshown : (shown : ℚ) / 10 ^ percentageDisplayDecimals =
      shownPercentage entry ((coefficient : ℚ) / 10 ^ scale)) :
    positionTpslPriceFromPercentage (some entryPrice) kind
        (formatScaled shown percentageDisplayDecimals) (some precision) side =
        some (formatScaled coefficient scale) ↔
      LeadsBack precision (triggerIncreasesFromEntry side kind) entry
        ((coefficient : ℚ) / 10 ^ scale) := by
  unfold LeadsBack
  rw [← hshown, positionTpslPriceFromPercentage_eq_some]
  rcases Nat.eq_zero_or_pos shown with rfl | hpositive
  · have hnone : percentageParts (formatScaled 0 percentageDisplayDecimals) = none := by
      decide
    rw [hnone, Nat.cast_zero, zero_div]
    constructor
    · rintro ⟨e, parts, precision', -, hparts, -⟩
      cases hparts
    · rintro ⟨hlt, -⟩
      exact absurd hlt (lt_irrefl _)
  · have hshownText : IsPositiveDecimal (formatScaled shown percentageDisplayDecimals)
        ((shown : ℚ) / 10 ^ percentageDisplayDecimals) :=
      ⟨formatScaled_value _ _, by positivity⟩
    obtain ⟨parts, hparts, hpartsValue⟩ := percentageParts_of_positive hshownText
    obtain ⟨entryParts, hentryParts, hentryPos, rfl⟩ := decimalParts_eq_some hentry
    rw [← hpartsValue]
    constructor
    · rintro ⟨e, parts', precision', he, hparts', hprecision', hfactor, hrounded, -⟩
      rw [hentryParts] at he
      rw [hparts] at hparts'
      cases he
      cases hparts'
      cases hprecision'
      refine ⟨hpartsValue ▸ hshownText.2, ?_⟩
      exact (rounded_eq_some_iff hprecision (unroundedPrice_value hentryPos hfactor)
        hcoefficient).mp hrounded
    · rintro ⟨hpos, hnearest, hle⟩
      have hfactor : triggerIncreasesFromEntry side kind = true ∨
          parts.coefficient < 100 * 10 ^ parts.scale := by
        cases hincreases : triggerIncreasesFromEntry side kind with
        | true => exact .inl rfl
        | false =>
          refine .inr (not_le.mp fun hall => ?_)
          -- a decrease by everything leaves no target
          have hwhole : 100 ≤ parts.value := by
            unfold DecimalParts.value
            rw [le_div_iff₀ (by positivity)]
            exact_mod_cast hall
          have hprice : (0 : ℚ) < coefficient / 10 ^ scale := by positivity
          have hsome := (abs_nonneg _).trans hle
          have hnone : exactTarget false entryParts.value parts.value ≤ 0 := by
            unfold exactTarget
            rw [if_neg (by decide)]
            exact mul_nonpos_of_nonneg_of_nonpos hentry.2.le (by linarith)
          rw [hincreases] at hle hsome
          rw [le_antisymm hnone hsome, sub_zero, abs_of_pos hprice] at hle
          exact absurd hle hprice.not_ge
      exact ⟨entryParts, parts, precision, hentryParts, hparts, rfl, hfactor,
        (rounded_eq_some_iff hprecision (unroundedPrice_value hentryPos hfactor)
          hcoefficient).mpr ⟨hnearest, hle⟩, _, hback⟩

/-- **A percentage of the entry stands for the nearest price of the market**, on the side
that the order protects, and the percentage shown for that price leads back to it where no
other price is as near as the shown percentage is rounded. -/
theorem price_from_percentage (hprecision : ValidPrecision precision)
    {entryPrice : Option String} {percentage price : String}
    (h : positionTpslPriceFromPercentage entryPrice kind percentage (some precision) side =
      some price) :
    ∃ entryText entry parts trigger, entryPrice = some entryText ∧
      IsPositiveDecimal entryText entry ∧ percentageParts percentage = some parts ∧
      StandsFor precision entryText kind side entry parts.value price trigger := by
  obtain ⟨entryParts, parts, precision', hentryParts, hparts, hsame, hfactor, hrounded,
    shown, hshown⟩ := positionTpslPriceFromPercentage_eq_some.mp h
  cases hsame
  obtain ⟨hentryPos, entryText, rfl, hentry⟩ := isPositiveDecimal_of_decimalParts hentryParts
  obtain ⟨coefficient, scale, hcoefficient, rfl, -, hnearest⟩ :=
    rounded_nearest hprecision (unroundedPrice_value hentryPos hfactor) hrounded
  have htrigger : IsPositiveDecimal (formatScaled coefficient scale)
      ((coefficient : ℚ) / 10 ^ scale) :=
    ⟨formatScaled_value _ _, by positivity⟩
  obtain ⟨shownCoefficient, hvalue, hiff⟩ :=
    @positionTpslPercentageFromPrice_eq _ _ kind side _ _ hentry htrigger
  obtain ⟨hside, rfl⟩ := (hiff shown).mp hshown
  refine ⟨entryText, entryParts.value, parts, _, rfl, hentry, hparts, formatScaled_value _ _,
    hnearest.1, hside, hnearest, ⟨_, hshown, ?_, ?_⟩, ?_⟩
  · rw [formatScaled_value, hvalue]
    rfl
  · exact leadsBack_iff hprecision hentry hcoefficient hshown hvalue
  · exact Apart.leadsBack hentry.2 hnearest.1 hside

/-- A little over five per cent above the entry of a long position: the exact target,
102.165973, lies between two prices. -/
theorem price_from_percentage_between : ∃ entryText entry parts trigger,
    some "97.3" = some entryText ∧ IsPositiveDecimal entryText entry ∧
      percentageParts "5.001" = some parts ∧
      StandsFor ⟨5, 4⟩ entryText .takeProfit .long entry parts.value "102.17" trigger :=
  price_from_percentage ⟨.perp, 2, ⟨5, 4⟩, rfl, by decide⟩ (by decide)

/-- A price so near the entry that its percentage is shown as zero. -/
theorem shown_percentage_lost :
    positionTpslPriceFromPercentage (some "100.0000001") .stopLoss "0.00001" (some ⟨5, 4⟩)
        .long = some "100" ∧
      positionTpslPercentageFromPrice (some "100.0000001") .stopLoss .long "100" =
        some "0" ∧
      positionTpslPriceFromPercentage (some "100.0000001") .stopLoss "0" (some ⟨5, 4⟩)
        .long = none := by
  decide

end

end HyperTrader
