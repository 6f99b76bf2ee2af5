import HyperTrader.Actions.Builders
import HyperTrader.Actions.Values

/-!
# Exact arithmetic on decimals

What is parsed or multiplied is reduced: no zero ends its fraction. A value has one reduced
decimal and so one text, which is read back to the decimal.
-/

namespace HyperTrader

open Library

variable {decimal left right parsed : ParsedDecimal} {value path text : String}

namespace ParsedDecimal

def Reduced (decimal : ParsedDecimal) : Prop :=
  Lowest decimal.coefficient.natAbs decimal.scale

theorem abs_value_eq_div (decimal : ParsedDecimal) :
    |decimal.value| = (decimal.coefficient.natAbs : ℚ) / 10 ^ decimal.scale := by
  rw [← decimal.abs_value, value, Int.cast_natCast]

theorem Reduced.eq_of_value (hleft : left.Reduced) (hright : right.Reduced)
    (h : left.value = right.value) : left = right := by
  obtain ⟨coefficient, scale⟩ := left
  have habs : |(⟨coefficient, scale⟩ : ParsedDecimal).value| = |right.value| := by rw [h]
  rw [abs_value_eq_div, abs_value_eq_div] at habs
  obtain rfl : scale = right.scale := (lowest_unique hleft hright habs).2
  have hcoefficient : coefficient = right.coefficient := by
    unfold value at h
    rwa [div_left_inj' (by positivity), Int.cast_inj] at h
  rw [hcoefficient]

end ParsedDecimal

theorem reduced_of_parse (h : parseDecimal value path = .ok parsed) : parsed.Reduced :=
  lowest_of_parseDecimal h

theorem dropTrailingZeros_reduced (coefficient : ℤ) (scale : ℕ) :
    (dropTrailingZeros coefficient scale).Reduced := by
  induction scale generalizing coefficient with
  | zero => exact fun h => absurd rfl h
  | succ scale ih =>
    unfold dropTrailingZeros
    split
    · exact ih _
    · rename_i hlast
      intro _
      dsimp only
      omega

theorem multiplyDecimal_reduced (left right : ParsedDecimal) :
    (multiplyDecimal left right).Reduced :=
  dropTrailingZeros_reduced _ _

theorem formatDecimal_eq (h : decimal.Reduced) :
    formatDecimal decimal = (if decimal.coefficient < 0 then "-" else "") ++
      formatScaled decimal.coefficient.natAbs decimal.scale := by
  rcases eq_or_ne decimal.coefficient 0 with hzero | hzero
  · have hscale : decimal.scale = 0 := by
      by_contra hscale
      have hmod := h hscale
      rw [hzero] at hmod
      exact hmod rfl
    rw [hscale, hzero]
    unfold formatDecimal
    rw [if_pos hzero]
    decide
  · have hpositive : (0 : ℤ) < decimal.coefficient.natAbs := by omega
    have habs := @formatDecimal_eq_formatScaled ⟨decimal.coefficient.natAbs, decimal.scale⟩
      hpositive fun hscale => by
        have hmod := h hscale
        change (decimal.coefficient.natAbs : ℤ) % 10 ≠ 0
        omega
    rw [Int.toNat_natCast] at habs
    rw [← habs]
    unfold formatDecimal
    rw [if_neg hzero, if_neg hpositive.ne']
    simp only [Int.natAbs_natCast, if_neg hpositive.not_gt, String.empty_append]
    split <;> rfl

theorem readUnsigned_true (chars : List Char) : readUnsigned true chars =
    (readUnsigned false chars).map fun parts => { parts with negative := true } := by
  unfold readUnsigned
  dsimp only
  split
  · split
    · rfl
    · split <;> rfl
  · rfl

theorem readDecimal_neg {parts : DecimalText} (h : readDecimal text = some parts)
    (hsign : parts.negative = false) :
    readDecimal ("-" ++ text) = some { parts with negative := true } := by
  have hunsigned : readUnsigned false text.toList = some parts := by
    unfold readDecimal at h
    split at h
    · rw [(toList_of_readUnsigned h).1] at hsign
      cases hsign
    · exact h
  have hchars : ("-" ++ text).toList = '-' :: text.toList := by
    rw [String.toList_append]
    rfl
  unfold readDecimal
  rw [hchars]
  change readUnsigned true text.toList = _
  rw [readUnsigned_true, hunsigned, Option.map_some]

theorem formatDecimal_value (h : decimal.Reduced) :
    decimalValue (formatDecimal decimal) = some decimal.value := by
  obtain ⟨parts, hread, hsign, -, hvalue⟩ :=
    exists_readDecimal_formatScaled decimal.coefficient.natAbs decimal.scale
  rw [← ParsedDecimal.abs_value_eq_div] at hvalue
  rw [formatDecimal_eq h]
  by_cases hnegative : decimal.coefficient < 0
  · have hbelow : decimal.value < 0 :=
      div_neg_of_neg_of_pos (Int.cast_lt_zero.mpr hnegative) (by positivity)
    rw [if_pos hnegative, decimalValue, readDecimal_neg hread hsign, Option.map_some,
      Option.some.injEq]
    rw [abs_of_neg hbelow, DecimalText.value_of_not_negative hsign] at hvalue
    have hturned : ({ parts with negative := true } : DecimalText).value =
        -(parts.coefficient / 10 ^ parts.fraction.length : ℚ) := by
      unfold DecimalText.value DecimalText.coefficient
      rw [if_pos rfl, neg_one_mul, neg_div]
    rw [hturned, hvalue, neg_neg]
  · have habove : 0 ≤ decimal.value :=
      div_nonneg (Int.cast_nonneg (not_lt.mp hnegative)) (by positivity)
    rw [if_neg hnegative, String.empty_append, decimalValue, hread, Option.map_some, hvalue,
      abs_of_nonneg habove]

theorem parseDecimal_formatDecimal (h : decimal.Reduced) (path : String)
    (hlength : utf16Length (formatDecimal decimal) ≤ maxDecimalInputLength) :
    parseDecimal (formatDecimal decimal) path = .ok decimal := by
  have hvalue := formatDecimal_value h
  obtain ⟨parts, hread, -⟩ := Option.map_eq_some_iff.mp hvalue
  obtain ⟨parsed, hparse⟩ : ∃ parsed, parseDecimal (formatDecimal decimal) path = .ok parsed :=
    ⟨_, parseDecimal_eq_ok.mpr ⟨hlength, parts, hread, rfl⟩⟩
  have hsame := Option.some.inj ((parseDecimal_value hparse).symm.trans hvalue)
  rw [hparse, (reduced_of_parse hparse).eq_of_value h hsame]

theorem utf16Length_append (first second : String) :
    utf16Length (first ++ second) = utf16Length first + utf16Length second := by
  unfold utf16Length
  rw [String.toList_append, List.map_append, List.sum_append]

theorem utf16Length_formatDecimal_le (h : parseDecimal value path = .ok parsed) :
    utf16Length (formatDecimal parsed) ≤ utf16Length value := by
  have hreduced := reduced_of_parse h
  obtain ⟨-, text, hread, hparsed⟩ := parseDecimal_eq_ok.mp h
  obtain ⟨hwhole, hfraction⟩ := readDecimal_digits hread
  have hdigits := isWholePart_iff.mp hwhole
  obtain ⟨zeros, hzeros⟩ := stripZeros_append text.fraction
  have hstripped : (stripZeros text.fraction).length ≤ text.fraction.length := by
    conv_rhs => rw [hzeros, List.length_append]
    exact Nat.le_add_right _ _
  have hpositive : 0 < text.whole.length := List.length_pos_iff.mpr hdigits.1
  have hnumber : (numberDigits parsed.coefficient.natAbs).length ≤
      text.whole.length + (stripZeros text.fraction).length := by
    rw [length_numberDigits_le_iff (by omega), ← List.length_append]
    have habs : parsed.coefficient.natAbs =
        digitsValue (text.whole ++ stripZeros text.fraction) := by
      rw [hparsed]
      cases text.negative <;> simp
    rw [habs]
    refine digitsValue_lt fun c hc => (List.mem_append.mp hc).elim (hdigits.2.1 c) fun hc => ?_
    refine hfraction c ?_
    rw [hzeros]
    exact List.mem_append_left _ hc
  have hscale : parsed.scale = (stripZeros text.fraction).length := by rw [hparsed]
  have hsign : parsed.coefficient < 0 → text.negative = true := by
    intro hnegative
    by_contra hfalse
    rw [hparsed] at hnegative
    dsimp only at hnegative
    rw [if_neg hfalse] at hnegative
    omega
  have hprefix : utf16Length (if parsed.coefficient < 0 then "-" else "") ≤
      if text.negative then 1 else 0 := by
    split
    · rename_i hnegative
      rw [if_pos (hsign hnegative)]
      decide
    · exact Nat.zero_le _
  rw [formatDecimal_eq hreduced, utf16Length_append, utf16Length_of_readDecimal hread]
  refine Nat.add_le_add hprefix ?_
  rcases eq_or_ne parsed.scale 0 with hwritten | hwritten
  · rw [hwritten, utf16Length_formatScaled_zero]
    omega
  · have hlength := utf16Length_formatScaled_le (n := parsed.coefficient.natAbs) hwritten
    have hne : text.fraction ≠ [] := by
      intro hnil
      rw [hscale, hnil] at hwritten
      exact hwritten rfl
    rw [if_neg hne]
    omega

/-- Parsing, comparing and multiplying are exact, and the texts that are formatted are the
canonical ones: one for each value, read back to the decimal, and positive where it is. -/
theorem decimal_arithmetic_exact {leftText rightText leftPath rightPath : String}
    {left right : ParsedDecimal} (hleft : parseDecimal leftText leftPath = .ok left)
    (hright : parseDecimal rightText rightPath = .ok right) :
    decimalValue leftText = some left.value ∧
    (∀ first second : ParsedDecimal,
      compareDecimal first second = compare first.value second.value ∧
      (multiplyDecimal first second).value = first.value * second.value ∧
      decimalValue (formatDecimal (multiplyDecimal first second)) =
        some (first.value * second.value)) ∧
    (formatDecimal left = formatDecimal right ↔ left.value = right.value) ∧
    (∀ path, parseDecimal (formatDecimal left) path = .ok left ∧
      normalizeDecimal (formatDecimal left) path = .ok (formatDecimal left)) ∧
    (0 < left.value → canonicalPositiveDecimal (formatDecimal left) = true) := by
  have hreduced := reduced_of_parse hleft
  refine ⟨parseDecimal_value hleft, fun first second => ⟨compareDecimal_eq first second,
    multiplyDecimal_value first second, ?_⟩, ⟨fun h => ?_, fun h => ?_⟩, fun path => ?_,
    fun hpositive => ?_⟩
  · rw [formatDecimal_value (multiplyDecimal_reduced first second), multiplyDecimal_value]
  · have hvalue := formatDecimal_value hreduced
    rw [h, formatDecimal_value (reduced_of_parse hright)] at hvalue
    exact (Option.some.inj hvalue).symm
  · rw [hreduced.eq_of_value (reduced_of_parse hright) h]
  · have hparse := parseDecimal_formatDecimal hreduced path
      ((utf16Length_formatDecimal_le hleft).trans (parseDecimal_eq_ok.mp hleft).1)
    refine ⟨hparse, ?_⟩
    rw [normalizeDecimal, hparse]
    rfl
  · rw [ParsedDecimal.value_pos_iff] at hpositive
    obtain ⟨parts, hread, hsign, hlast, -⟩ :=
      exists_readDecimal_formatScaled left.coefficient.natAbs left.scale
    rw [formatDecimal_eq hreduced, if_neg hpositive.not_gt, String.empty_append,
      canonicalPositiveDecimal, hread]
    simp [hsign, hlast]

/-- A price and its text with a zero more. -/
theorem decimal_arithmetic_exact_price :
    ∃ left right : ParsedDecimal, parseDecimal "0.50" "intent.price" = .ok left ∧
      parseDecimal "-12.5" "intent.size" = .ok right ∧
      formatDecimal left ≠ formatDecimal right ∧
      canonicalPositiveDecimal (formatDecimal left) = true := by
  have hleft : parseDecimal "0.50" "intent.price" = .ok ⟨5, 1⟩ := by decide
  have hright : parseDecimal "-12.5" "intent.size" = .ok ⟨-125, 1⟩ := by decide
  obtain ⟨-, -, hsame, -, hcanonical⟩ := decimal_arithmetic_exact hleft hright
  have hpositive : 0 < (⟨5, 1⟩ : ParsedDecimal).value :=
    ParsedDecimal.value_pos_iff.mpr (by decide)
  refine ⟨_, _, hleft, hright, fun h => ?_, hcanonical hpositive⟩
  have hvalue := hsame.mp h
  unfold ParsedDecimal.value at hvalue
  norm_num at hvalue

end HyperTrader
