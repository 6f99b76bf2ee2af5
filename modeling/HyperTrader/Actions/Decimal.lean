import HyperTrader.Basic
import HyperTrader.Library.LowestTerms

/-!
# Decimals of the action validator

A decimal is an integer coefficient and a scale; the validator compares and
multiplies decimals without rounding.
-/

namespace HyperTrader

open Library

structure ParsedDecimal where
  coefficient : ℤ
  scale : ℕ
  deriving DecidableEq

def maxDecimalInputLength : ℕ := 256

def parseDecimal (value path : String) : Outcome ParsedDecimal := do
  let invalid : Failure := .validation path "expected a canonical decimal string"
  require (utf16Length value ≤ maxDecimalInputLength) invalid
  let text ← (readDecimal value).elim (.error invalid) .ok
  let trimmedFraction := stripZeros text.fraction
  let coefficient : ℤ := digitsValue (text.whole ++ trimmedFraction)
  pure
    { coefficient := if text.negative then -coefficient else coefficient
      scale := trimmedFraction.length }

def formatDecimal (value : ParsedDecimal) : String :=
  let sign := if value.coefficient < 0 then "-" else ""
  let digits := numberDigits value.coefficient.natAbs
  if value.coefficient = 0 then "0"
  else if value.scale = 0 then sign ++ String.ofList digits
  else
    let padded := padZeros (value.scale + 1) digits
    let split := padded.length - value.scale
    sign ++ String.ofList (padded.take split ++ '.' :: padded.drop split)

def normalizeDecimal (value path : String) : Outcome String := do
  let parsed ← parseDecimal value path
  pure (formatDecimal parsed)

def compareDecimal (left right : ParsedDecimal) : Ordering :=
  let scale := max left.scale right.scale
  compare (left.coefficient * 10 ^ (scale - left.scale))
    (right.coefficient * 10 ^ (scale - right.scale))

/-- The loop of `multiplyDecimal`: a zero at the end is dropped from the
coefficient and the scale. -/
def dropTrailingZeros (coefficient : ℤ) : ℕ → ParsedDecimal
  | 0 => ⟨coefficient, 0⟩
  | scale + 1 =>
    if coefficient % 10 = 0 then dropTrailingZeros (coefficient / 10) scale
    else ⟨coefficient, scale + 1⟩

def multiplyDecimal (left right : ParsedDecimal) : ParsedDecimal :=
  dropTrailingZeros (left.coefficient * right.coefficient)
    (left.scale + right.scale)

def positiveDecimal (value path : String) : Outcome String := do
  let parsed ← parseDecimal value path
  require (0 < parsed.coefficient)
    (.validation path "expected a positive decimal value")
  pure (formatDecimal parsed)

def significantDigits (value : ParsedDecimal) : ℕ :=
  if value.coefficient = 0 then 0
  else (numberDigits value.coefficient.natAbs).length

variable {value path : String} {parsed : ParsedDecimal}

theorem parseDecimal_eq_ok : parseDecimal value path = .ok parsed ↔
    utf16Length value ≤ maxDecimalInputLength ∧ ∃ text, readDecimal value = some text ∧
      parsed = ⟨if text.negative then -(digitsValue (text.whole ++ stripZeros text.fraction) : ℤ)
        else digitsValue (text.whole ++ stripZeros text.fraction),
        (stripZeros text.fraction).length⟩ := by
  simp only [parseDecimal, except_bind_eq_ok, require_eq_ok]
  constructor
  · rintro ⟨-, hlength, text, hread, hparsed⟩
    cases hfound : readDecimal value with
    | none => simp [hfound] at hread
    | some found =>
      rw [hfound] at hread
      cases hread
      cases hparsed
      exact ⟨hlength, text, rfl, rfl⟩
  · rintro ⟨hlength, text, hread, rfl⟩
    exact ⟨(), hlength, text, by rw [hread]; rfl, rfl⟩

theorem strippedValue_mod_ten {parts : DecimalText} (h : readDecimal value = some parts)
    (hne : stripZeros parts.fraction ≠ []) :
    digitsValue (parts.whole ++ stripZeros parts.fraction) % 10 ≠ 0 := by
  obtain ⟨c, hc⟩ := List.getLast?_isSome.mpr hne |> Option.isSome_iff_exists.mp
  have hmem : c ∈ parts.fraction := by
    obtain ⟨n, hn⟩ := stripZeros_append parts.fraction
    rw [hn]
    exact List.mem_append_left _ (List.mem_of_getLast? hc)
  have hne' : c ≠ '0' := by
    rintro rfl
    exact getLast?_stripZeros parts.fraction hc
  refine digitsValue_mod_ten ?_ ((readDecimal_digits h).2 c hmem) hne'
  rw [List.getLast?_append, hc]
  rfl

theorem lowest_of_parseDecimal (h : parseDecimal value path = .ok parsed) :
    Lowest parsed.coefficient.natAbs parsed.scale := by
  obtain ⟨-, text, hread, rfl⟩ := parseDecimal_eq_ok.mp h
  intro hscale
  have hmod := strippedValue_mod_ten hread fun hnil => hscale (by rw [hnil]; rfl)
  cases hsign : text.negative with
  | true => simpa [hsign] using hmod
  | false => simpa [hsign] using hmod

theorem parseDecimal_lowest (h : parseDecimal value path = .ok parsed)
    (hpositive : 0 < parsed.coefficient) (hscale : parsed.scale ≠ 0) :
    parsed.coefficient % 10 ≠ 0 := by
  have hmod := lowest_of_parseDecimal h hscale
  omega

theorem formatDecimal_eq_formatScaled {value : ParsedDecimal} (hpositive : 0 < value.coefficient)
    (hlowest : value.scale ≠ 0 → value.coefficient % 10 ≠ 0) :
    formatDecimal value = formatScaled value.coefficient.toNat value.scale := by
  have hnat : value.coefficient.natAbs = value.coefficient.toNat := by omega
  have hzero : value.coefficient ≠ 0 := by omega
  have hsign : ¬ value.coefficient < 0 := by omega
  simp only [formatDecimal, formatScaled, hnat, if_neg hzero, if_neg hsign, String.empty_append]
  split
  · rfl
  · rename_i hscale
    set digits := padZeros (value.scale + 1)
      (numberDigits value.coefficient.toNat) with hdigits
    have hlength : value.scale + 1 ≤ digits.length := by
      simp only [hdigits, padZeros, List.length_append, List.length_replicate]
      omega
    have hlast : digits.getLast? ≠ some '0' := by
      rw [hdigits, padZeros, List.getLast?_append, getLast?_numberDigits]
      have hmod := hlowest hscale
      have hne := digitChar_ne_zero (Nat.mod_lt value.coefficient.toNat
        (by decide : 0 < 10)) (by omega)
      simpa using hne
    have hdrop : digits.drop (digits.length - value.scale) ≠ [] := by
      rw [Ne, List.drop_eq_nil_iff]
      omega
    have hstrip : stripZeros (digits.drop (digits.length - value.scale)) =
        digits.drop (digits.length - value.scale) := by
      apply stripZeros_of_getLast?
      rwa [List.getLast?_drop, if_neg (by omega)]
    have hempty : (digits.drop (digits.length - value.scale)).isEmpty = false := by
      rwa [List.isEmpty_eq_false_iff]
    simp only [hstrip, hempty, Bool.false_eq_true, if_false]

structure PositiveText (text : String) : Prop where
  read : ∃ parts, readDecimal text = some parts ∧ parts.negative = false ∧
    parts.fraction.getLast? ≠ some '0'
  value : ∃ value, decimalValue text = some value ∧ 0 < value

theorem positiveDecimal_spec {value path text : String}
    (h : positiveDecimal value path = .ok text) : PositiveText text := by
  simp only [positiveDecimal, except_bind_eq_ok, require_eq_ok] at h
  obtain ⟨parsed, hparsed, -, hpositive, hresult⟩ := h
  cases hresult
  rw [formatDecimal_eq_formatScaled hpositive (parseDecimal_lowest hparsed hpositive)]
  obtain ⟨parts, hread, hsign, hlast, -⟩ :=
    exists_readDecimal_formatScaled parsed.coefficient.toNat parsed.scale
  refine ⟨⟨parts, hread, hsign, hlast⟩, _, formatScaled_value _ _, ?_⟩
  have hcast : (0 : ℚ) < (parsed.coefficient.toNat : ℕ) := by
    exact_mod_cast (by omega : 0 < parsed.coefficient.toNat)
  positivity

end HyperTrader
