import HyperTrader.Actions.PriceGrid

/-!
# The exact values that the validator works with

What the validator parses has the value of its text, and the normal form of a positive
decimal is the one text of its value in lowest terms. The checks on sizes, prices and
funds are therefore statements about exact values.
-/

namespace HyperTrader

open Library

theorem ParsedDecimal.abs_value (parsed : ParsedDecimal) :
    (ParsedDecimal.mk (parsed.coefficient.natAbs : ℤ) parsed.scale).value = |parsed.value| := by
  unfold ParsedDecimal.value
  rw [abs_div, abs_of_pos (by positivity : (0 : ℚ) < 10 ^ parsed.scale)]
  congr 1
  rw [Int.natCast_natAbs, Int.cast_abs]

variable {value path normal : String} {parsed : ParsedDecimal}

theorem parseDecimal_value (h : parseDecimal value path = .ok parsed) :
    decimalValue value = some parsed.value := by
  obtain ⟨-, text, hread, rfl⟩ := parseDecimal_eq_ok.mp h
  rw [decimalValue, hread, Option.map_some, Option.some.injEq]
  have hstrip := value_stripZeros text.whole text.fraction
  simp only [DecimalText.value, DecimalText.coefficient, Bool.false_eq_true, if_false,
    one_mul] at hstrip
  unfold DecimalText.value DecimalText.coefficient ParsedDecimal.value
  rw [mul_div_assoc, ← hstrip]
  cases text.negative with
  | true =>
    simp only [if_true, Int.cast_neg, Int.cast_natCast]
    ring
  | false => simp

theorem ParsedDecimal.value_pos_iff : 0 < parsed.value ↔ 0 < parsed.coefficient := by
  unfold ParsedDecimal.value
  rw [div_pos_iff_of_pos_right (by positivity), Int.cast_pos]

theorem formatDecimal_of_parse (h : parseDecimal value path = .ok parsed)
    (hpositive : 0 < parsed.coefficient) :
    Lowest parsed.coefficient.toNat parsed.scale ∧
      formatDecimal parsed = formatScaled parsed.coefficient.toNat parsed.scale ∧
      parsed.value = (parsed.coefficient.toNat : ℚ) / 10 ^ parsed.scale := by
  have hlowest := parseDecimal_lowest h hpositive
  refine ⟨fun hscale => ?_, formatDecimal_eq_formatScaled hpositive hlowest, ?_⟩
  · have hmod := hlowest hscale
    omega
  · have hcast : ((parsed.coefficient.toNat : ℕ) : ℚ) = parsed.coefficient := by
      exact_mod_cast congrArg (Int.cast (R := ℚ)) (Int.toNat_of_nonneg hpositive.le)
    rw [hcast, ParsedDecimal.value]

variable {m s : ℕ} {market : ActionMarketRules}

theorem formatScaled_eq_of_value {n t : ℕ} (hm : 0 < m) (hn : 0 < n)
    (h : (m : ℚ) / 10 ^ s = n / 10 ^ t) : formatScaled m s = formatScaled n t := by
  obtain ⟨m', s', hlowest, hm', hs', hm, hformat⟩ := exists_lowest hm s
  obtain ⟨n', t', hlowest', hn', ht', hn, hformat'⟩ := exists_lowest hn t
  have hvalue := Option.some.inj ((formatScaled_value m s).symm.trans
    (hformat ▸ formatScaled_value m' s'))
  have hvalue' := Option.some.inj ((formatScaled_value n t).symm.trans
    (hformat' ▸ formatScaled_value n' t'))
  obtain ⟨rfl, rfl⟩ := lowest_unique hlowest hlowest' (hvalue.symm.trans (h.trans hvalue'))
  rw [hformat, hformat']

theorem positiveDecimal_eq_ok (h : positiveDecimal value path = .ok normal) :
    ∃ m s : ℕ, 0 < m ∧ Lowest m s ∧ normal = formatScaled m s ∧
      decimalValue value = some ((m : ℚ) / 10 ^ s) := by
  simp only [positiveDecimal, except_bind_eq_ok, require_eq_ok] at h
  obtain ⟨parsed, hparsed, -, hpositive, hresult⟩ := h
  obtain ⟨hlowest, hformat, hvalue⟩ := formatDecimal_of_parse hparsed hpositive
  cases hresult
  refine ⟨parsed.coefficient.toNat, parsed.scale, by omega, hlowest, hformat, ?_⟩
  rw [parseDecimal_value hparsed, hvalue]

theorem positiveDecimal_value (h : positiveDecimal value path = .ok normal) :
    ∃ exact : ℚ, 0 < exact ∧ decimalValue value = some exact ∧
      decimalValue normal = some exact := by
  obtain ⟨m, s, hm, -, rfl, hvalue⟩ := positiveDecimal_eq_ok h
  exact ⟨(m : ℚ) / 10 ^ s, by positivity, hvalue, formatScaled_value m s⟩

theorem positiveDecimal_formatScaled (hm : 0 < m) (hlowest : Lowest m s)
    (hlength : utf16Length (formatScaled m s) ≤ maxDecimalInputLength) (path : String) :
    positiveDecimal (formatScaled m s) path = .ok (formatScaled m s) := by
  have hparse := parseDecimal_formatScaled path hm hlowest hlength
  have hpositive : (0 : ℤ) < m := by exact_mod_cast hm
  have hself : formatDecimal ⟨m, s⟩ = formatScaled m s :=
    formatDecimal_eq_formatScaled hpositive fun hscale => by
      have hmod := hlowest hscale
      change (m : ℤ) % 10 ≠ 0
      omega
  rw [positiveDecimal, hparse]
  change (do
    require ((0 : ℤ) < m) _
    pure (formatDecimal ⟨m, s⟩)) = _
  rw [require_of hpositive, hself]
  rfl

theorem normalizeSize_value (h : normalizeSize value market = .ok normal) :
    ∃ exact : ℚ, 0 < exact ∧ decimalValue value = some exact ∧
      decimalValue normal = some exact := by
  simp only [normalizeSize, except_bind_eq_ok] at h
  obtain ⟨normalized, hnormalized, _, -, _, -, hresult⟩ := h
  cases hresult
  exact positiveDecimal_value hnormalized

theorem normalizePrice_value (h : normalizePrice value market = .ok normal) :
    ∃ exact : ℚ, 0 < exact ∧ decimalValue value = some exact ∧
      decimalValue normal = some exact := by
  simp only [normalizePrice, except_bind_eq_ok] at h
  obtain ⟨normalized, hnormalized, _, -, _, -, _, -, _, -, hresult⟩ := h
  cases hresult
  exact positiveDecimal_value hnormalized

theorem validPrice_of_normalizePrice
    {precision : PricePrecisionInputs} (hprecision : ValidPrecision precision)
    (hmarket : market.pricePrecision = some precision)
    (h : normalizePrice value market = .ok normal) :
    ∃ m s : ℕ, 0 < m ∧ normal = formatScaled m s ∧
      decimalValue value = some ((m : ℚ) / 10 ^ s) ∧
      ValidPrice precision ((m : ℚ) / 10 ^ s) := by
  have hrest := h
  simp only [normalizePrice, except_bind_eq_ok] at h
  obtain ⟨normalized, hnormalized, parsed, hparsed, -, -, -, -, -, -, hresult⟩ := h
  cases hresult
  obtain ⟨m, s, hm, hlowest, rfl, hvalue⟩ := positiveDecimal_eq_ok hnormalized
  have hlength := (parseDecimal_eq_ok.mp hparsed).1
  have hself := positiveDecimal_formatScaled hm hlowest hlength "intent.price"
  have hagain : normalizePrice (formatScaled m s) market = .ok (formatScaled m s) := by
    rw [← hrest, normalizePrice, normalizePrice, hnormalized, hself]
  exact ⟨m, s, hm, rfl, hvalue,
    ((normalizePrice_formatScaled hm s hprecision hmarket _).mp hagain).2.2⟩

theorem normalizeDecimal_value {again : String} (h : normalizeDecimal value path = .ok normal)
    (hparsed : parseDecimal normal again = .ok parsed) (hpositive : 0 < parsed.value) :
    decimalValue value = some parsed.value := by
  simp only [normalizeDecimal, except_bind_eq_ok] at h
  obtain ⟨first, hfirst, hresult⟩ := h
  cases hresult
  have hread := parseDecimal_value hparsed
  rcases lt_trichotomy first.coefficient 0 with hnegative | hzero | hfirstPositive
  · -- the sign is written, so what is read back is not positive
    exfalso
    obtain ⟨-, text, htext, rfl⟩ := parseDecimal_eq_ok.mp hparsed
    have hminus : ∃ rest, (formatDecimal first).toList = '-' :: rest := by
      unfold formatDecimal
      rw [if_neg hnegative.ne, if_pos hnegative]
      split
      · exact ⟨_, by rw [String.toList_append]; rfl⟩
      · exact ⟨_, by rw [String.toList_append]; rfl⟩
    obtain ⟨rest, hrest⟩ := hminus
    unfold readDecimal at htext
    rw [hrest] at htext
    have hsign := (toList_of_readUnsigned htext).1
    rw [ParsedDecimal.value_pos_iff] at hpositive
    simp only [hsign, if_true] at hpositive
    omega
  · exfalso
    have hwritten : formatDecimal first = "0" := by
      unfold formatDecimal
      rw [if_pos hzero]
    rw [hwritten, decimalValue_zero] at hread
    rw [← Option.some.inj hread] at hpositive
    exact lt_irrefl _ hpositive
  · obtain ⟨-, hformat, hvalue⟩ := formatDecimal_of_parse hfirst hfirstPositive
    rw [hformat, formatScaled_value, ← hvalue] at hread
    rw [parseDecimal_value hfirst, hread]

end HyperTrader
