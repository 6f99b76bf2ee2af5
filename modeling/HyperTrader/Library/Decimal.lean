import Mathlib.Algebra.Field.Rat
import Mathlib.Algebra.Order.Field.Basic
import Mathlib.Algebra.Order.Ring.Unbundled.Rat
import Mathlib.Data.List.TakeWhile
import Mathlib.Tactic.FieldSimp
import Mathlib.Tactic.Positivity
import Mathlib.Tactic.Ring

/-!
# Decimal text

Decimal numbers as the text of a sign, whole digits and fraction digits, and
their exact rational value. `formatScaled` writes a coefficient at a scale,
without the zeros that end its fraction; it is read back with the value it was
written for (`formatScaled_value`).
-/

namespace Library

def digitsValue (digits : List Char) : ℕ := Nat.ofDigitChars 10 digits 0

def numberDigits (n : ℕ) : List Char := Nat.toDigits 10 n

@[simp] theorem digitsValue_numberDigits (n : ℕ) : digitsValue (numberDigits n) = n :=
  Nat.ofDigitChars_ten_toDigits

theorem digitsValue_append (l m : List Char) :
    digitsValue (l ++ m) = 10 ^ m.length * digitsValue l + digitsValue m := by
  unfold digitsValue
  rw [Nat.ofDigitChars_append, Nat.ofDigitChars_eq_ofDigitChars_zero]

@[simp] theorem digitsValue_replicate_zero (n : ℕ) : digitsValue (List.replicate n '0') = 0 := by
  unfold digitsValue
  rw [Nat.ofDigitChars_replicate_zero, Nat.mul_zero]

structure DecimalText where
  negative : Bool
  whole : List Char
  fraction : List Char
  deriving DecidableEq

namespace DecimalText

def coefficient (text : DecimalText) : ℕ := digitsValue (text.whole ++ text.fraction)

def value (text : DecimalText) : ℚ :=
  (if text.negative then -1 else 1) * text.coefficient / 10 ^ text.fraction.length

end DecimalText

/-- The whole part of a decimal: one zero, or digits that do not begin with
one. -/
def isWholePart : List Char → Bool
  | [] => false
  | [c] => c.isDigit
  | c :: rest => c.isDigit && c != '0' && rest.all Char.isDigit

/-- The text after the sign, in its parts: `(?:0|[1-9]\d*)(?:\.\d+)?`. -/
def readUnsigned (negative : Bool) (text : List Char) : Option DecimalText :=
  let whole := text.takeWhile (· != '.')
  if isWholePart whole then
    match text.drop whole.length with
    | [] => some ⟨negative, whole, []⟩
    | _ :: fraction =>
      if !fraction.isEmpty && fraction.all Char.isDigit then
        some ⟨negative, whole, fraction⟩
      else none
  else none

/-- The parts of a text that matches `/^-?(?:0|[1-9]\d*)(?:\.\d+)?$/`. -/
def readDecimal (text : String) : Option DecimalText :=
  match text.toList with
  | '-' :: rest => readUnsigned true rest
  | chars => readUnsigned false chars

def decimalValue (text : String) : Option ℚ :=
  (readDecimal text).map DecimalText.value

theorem decimalValue_zero : decimalValue "0" = some 0 := by
  decide +kernel

def stripZeros (digits : List Char) : List Char :=
  (digits.reverse.dropWhile (· == '0')).reverse

/-- The digits, with zeros put in front up to `width`. -/
def padZeros (width : ℕ) (digits : List Char) : List Char :=
  List.replicate (width - digits.length) '0' ++ digits

/-- `coefficient / 10 ^ scale`, written without superfluous zeros. -/
def formatScaled (coefficient scale : ℕ) : String :=
  if scale = 0 then String.ofList (numberDigits coefficient)
  else
    let digits := padZeros (scale + 1) (numberDigits coefficient)
    let split := digits.length - scale
    let fraction := stripZeros (digits.drop split)
    String.ofList (if fraction.isEmpty then digits.take split
      else digits.take split ++ '.' :: fraction)

variable {n : ℕ} {c : Char} {whole digits : List Char}

theorem isDigit_of_mem_numberDigits (h : c ∈ numberDigits n) : c.isDigit = true :=
  Nat.isDigit_of_mem_toDigits (by decide) (by decide) h

theorem numberDigits_ne_nil (n : ℕ) : numberDigits n ≠ [] := Nat.toDigits_ne_nil

theorem numberDigits_head (hn : 0 < n) : (numberDigits n).head? ≠ some '0' := by
  induction n using Nat.strong_induction_on with
  | _ n ih =>
    unfold numberDigits at *
    rw [Nat.toDigits_eq_if (by decide)]
    split
    · rename_i hlt
      have hdigit : ∀ m < 10, 0 < m → Nat.digitChar m ≠ '0' := by decide
      simpa using hdigit n hlt hn
    · rename_i hge
      have hpos : 0 < n / 10 := Nat.div_pos (by omega) (by decide)
      rw [List.head?_append_of_ne_nil _ Nat.toDigits_ne_nil]
      exact ih (n / 10) (by omega) hpos

/-- Digits without a leading zero, or one zero. -/
theorem isWholePart_iff :
    isWholePart whole = true ↔ whole ≠ [] ∧ (∀ c ∈ whole, c.isDigit = true) ∧
      (whole.length = 1 ∨ whole.head? ≠ some '0') := by
  cases whole with
  | nil => simp [isWholePart]
  | cons c rest =>
    cases rest with
    | nil => simp [isWholePart]
    | cons d rest =>
      simp only [isWholePart, Bool.and_eq_true, bne_iff_ne, List.all_eq_true,
        List.mem_cons, forall_eq_or_imp]
      simp [and_assoc, and_comm, and_left_comm]

theorem isWholePart_numberDigits (n : ℕ) : isWholePart (numberDigits n) = true := by
  refine isWholePart_iff.mpr ⟨numberDigits_ne_nil n, fun c hc => isDigit_of_mem_numberDigits hc, ?_⟩
  rcases Nat.eq_zero_or_pos n with rfl | hn
  · exact .inl rfl
  · exact .inr (numberDigits_head hn)

theorem isDigit_ne_point (h : c.isDigit = true) : c ≠ '.' ∧ c ≠ '-' := by
  constructor
  · rintro rfl
    exact absurd h (by decide)
  · rintro rfl
    exact absurd h (by decide)

theorem readDecimal_whole (h : isWholePart whole = true) :
    readDecimal (String.ofList whole) = some ⟨false, whole, []⟩ := by
  have hdigits := (isWholePart_iff.mp h).2.1
  have htake : whole.takeWhile (· != '.') = whole := by
    rw [List.takeWhile_eq_self_iff]
    intro c hc
    simpa using (isDigit_ne_point (hdigits c hc)).1
  have hread : readUnsigned false whole = some ⟨false, whole, []⟩ := by
    simp [readUnsigned, htake, h]
  unfold readDecimal
  rw [String.toList_ofList]
  split
  · rename_i rest
    exact absurd rfl (isDigit_ne_point (hdigits '-' List.mem_cons_self)).2
  · exact hread

theorem readDecimal_point {fraction : List Char}
    (h : isWholePart whole = true) (hne : fraction ≠ [])
    (hfraction : ∀ c ∈ fraction, c.isDigit = true) :
    readDecimal (String.ofList (whole ++ '.' :: fraction)) = some ⟨false, whole, fraction⟩ := by
  have hdigits := (isWholePart_iff.mp h).2.1
  have htake : (whole ++ '.' :: fraction).takeWhile (· != '.') = whole := by
    rw [List.takeWhile_append_of_pos]
    · simp
    · intro c hc
      simpa using (isDigit_ne_point (hdigits c hc)).1
  have hread : readUnsigned false (whole ++ '.' :: fraction) =
      some ⟨false, whole, fraction⟩ := by
    have hall : fraction.all Char.isDigit = true := List.all_eq_true.mpr hfraction
    have hempty : fraction.isEmpty = false := by
      cases fraction with
      | nil => exact absurd rfl hne
      | cons c rest => rfl
    simp [readUnsigned, htake, h, hall, hempty]
  unfold readDecimal
  rw [String.toList_ofList]
  split
  · rename_i rest heq
    cases whole with
    | nil => cases h
    | cons c rest' =>
      obtain ⟨rfl, -⟩ := List.cons.inj heq
      exact absurd rfl (isDigit_ne_point (hdigits '-' List.mem_cons_self)).2
  · exact hread

theorem digitsValue_padZeros (width : ℕ) (digits : List Char) :
    digitsValue (padZeros width digits) = digitsValue digits := by
  rw [padZeros, digitsValue_append, digitsValue_replicate_zero, Nat.mul_zero, Nat.zero_add]

theorem stripZeros_append (digits : List Char) :
    ∃ n, digits = stripZeros digits ++ List.replicate n '0' := by
  refine ⟨(digits.reverse.takeWhile (· == '0')).length, ?_⟩
  have hzeros : ∀ c ∈ digits.reverse.takeWhile (· == '0'), c = '0' := by
    intro c hc
    simpa using List.mem_takeWhile_imp hc
  have hsplit := List.takeWhile_append_dropWhile (p := (· == '0')) (l := digits.reverse)
  have hreversed := congrArg List.reverse hsplit
  rw [List.reverse_reverse, List.reverse_append,
    List.eq_replicate_of_mem hzeros, List.reverse_replicate] at hreversed
  rw [stripZeros]
  simpa using hreversed.symm

theorem value_stripZeros (whole fraction : List Char) :
    (⟨false, whole, stripZeros fraction⟩ : DecimalText).value =
      (⟨false, whole, fraction⟩ : DecimalText).value := by
  obtain ⟨n, hn⟩ := stripZeros_append fraction
  have hcoefficient : digitsValue (whole ++ fraction) =
      10 ^ n * digitsValue (whole ++ stripZeros fraction) := by
    conv_lhs => rw [hn, ← List.append_assoc, digitsValue_append,
      digitsValue_replicate_zero, List.length_replicate, Nat.add_zero]
  have hlength : fraction.length = (stripZeros fraction).length + n := by
    conv_lhs => rw [hn, List.length_append, List.length_replicate]
  simp only [DecimalText.value, DecimalText.coefficient, hcoefficient, hlength, pow_add]
  push_cast
  field_simp

theorem getLast?_stripZeros (digits : List Char) : (stripZeros digits).getLast? ≠ some '0' := by
  rw [stripZeros, List.getLast?_reverse]
  intro h
  have hfalse := List.head?_dropWhile_not (· == '0') digits.reverse
  rw [h] at hfalse
  simp at hfalse

theorem stripZeros_of_getLast? (h : digits.getLast? ≠ some '0') : stripZeros digits = digits := by
  obtain ⟨n, hn⟩ := stripZeros_append digits
  cases n with
  | zero => simpa using hn.symm
  | succ n =>
    exfalso
    rw [hn, List.replicate_succ', ← List.append_assoc, List.getLast?_concat] at h
    exact h rfl

theorem exists_readDecimal_formatScaled (coefficient scale : ℕ) :
    ∃ text, readDecimal (formatScaled coefficient scale) = some text ∧
      text.negative = false ∧ text.fraction.getLast? ≠ some '0' ∧
      text.value = (coefficient : ℚ) / 10 ^ scale := by
  unfold formatScaled
  split
  · rename_i hscale
    subst hscale
    refine ⟨_, readDecimal_whole (isWholePart_numberDigits coefficient), rfl,
      by simp, ?_⟩
    simp [DecimalText.value, DecimalText.coefficient]
  · rename_i hscale
    set digits := padZeros (scale + 1) (numberDigits coefficient) with hdigits
    set split := digits.length - scale
    have hlength : scale + 1 ≤ digits.length := by
      simp only [hdigits, padZeros, List.length_append, List.length_replicate]
      omega
    have hdigit : ∀ c ∈ digits, c.isDigit = true := by
      intro c hc
      rcases List.mem_append.mp hc with hzero | hnumber
      · rw [List.eq_of_mem_replicate hzero]
        decide
      · exact isDigit_of_mem_numberDigits hnumber
    have hsplit : (digits.take split).length = split :=
      List.length_take_of_le (Nat.sub_le _ _)
    have hwhole : isWholePart (digits.take split) = true := by
      refine isWholePart_iff.mpr ⟨?_, fun c hc => hdigit c (List.mem_of_mem_take hc), ?_⟩
      · intro hnil
        rw [hnil, List.length_nil] at hsplit
        omega
      · rcases Nat.lt_or_ge scale (numberDigits coefficient).length with hlong | hshort
        · -- no zero was put in front
          right
          have hsame : digits = numberDigits coefficient := by
            simp [hdigits, padZeros, Nat.sub_eq_zero_of_le hlong]
          rw [List.head?_take, if_neg (by omega), hsame]
          refine numberDigits_head (Nat.pos_of_ne_zero ?_)
          rintro rfl
          simp [numberDigits] at hlong
          omega
        · -- the whole part is the zero put in front
          left
          have hfull : digits.length = scale + 1 := by
            simp only [hdigits, padZeros, List.length_append, List.length_replicate]
            omega
          omega
    have hfraction : ∀ c ∈ stripZeros (digits.drop split), c.isDigit = true := by
      intro c hc
      obtain ⟨n, hn⟩ := stripZeros_append (digits.drop split)
      refine hdigit c (List.mem_of_mem_drop (i := split) ?_)
      rw [hn]
      exact List.mem_append_left _ hc
    have hvalue : (⟨false, digits.take split, stripZeros (digits.drop split)⟩ :
        DecimalText).value = (coefficient : ℚ) / 10 ^ scale := by
      have hscaleLength : (digits.drop split).length = scale := by
        rw [List.length_drop]
        omega
      have hcoefficient : digitsValue digits = coefficient := by
        rw [hdigits, digitsValue_padZeros, digitsValue_numberDigits]
      rw [value_stripZeros, DecimalText.value, DecimalText.coefficient,
        List.take_append_drop, hscaleLength, hcoefficient]
      simp
    change ∃ text, readDecimal (String.ofList (
      if (stripZeros (digits.drop split)).isEmpty then digits.take split
      else digits.take split ++ '.' :: stripZeros (digits.drop split))) = some text ∧ _
    have hlast := getLast?_stripZeros (digits.drop split)
    cases hstrip : stripZeros (digits.drop split) with
    | nil =>
      rw [hstrip] at hvalue hlast
      simp only [List.isEmpty_nil, if_true]
      exact ⟨_, readDecimal_whole hwhole, rfl, hlast, hvalue⟩
    | cons c rest =>
      rw [hstrip] at hvalue hfraction hlast
      simp only [List.isEmpty_cons, Bool.false_eq_true, if_false]
      exact ⟨_, readDecimal_point hwhole (by simp) hfraction, rfl, hlast, hvalue⟩

/-- **What is written is read back**, with the value it was written for. -/
theorem formatScaled_value (coefficient scale : ℕ) :
    decimalValue (formatScaled coefficient scale) = some ((coefficient : ℚ) / 10 ^ scale) := by
  obtain ⟨text, hread, -, -, hvalue⟩ :=
    exists_readDecimal_formatScaled coefficient scale
  rw [decimalValue, hread, Option.map_some, hvalue]

theorem readDecimal_digits {value : String} {text : DecimalText}
    (h : readDecimal value = some text) :
    isWholePart text.whole = true ∧ ∀ c ∈ text.fraction, c.isDigit = true := by
  have hunsigned : ∀ {negative : Bool} {chars : List Char},
      readUnsigned negative chars = some text →
        isWholePart text.whole = true ∧ ∀ c ∈ text.fraction, c.isDigit = true := by
    intro negative chars hread
    simp only [readUnsigned, Option.ite_none_right_eq_some] at hread
    obtain ⟨hwhole, hread⟩ := hread
    split at hread
    · cases hread
      exact ⟨hwhole, by simp⟩
    · simp only [Option.ite_none_right_eq_some, Bool.and_eq_true, List.all_eq_true] at hread
      obtain ⟨⟨-, hall⟩, hread⟩ := hread
      cases hread
      exact ⟨hwhole, hall⟩
  unfold readDecimal at h
  split at h
  · exact hunsigned h
  · exact hunsigned h

theorem getLast?_numberDigits (n : ℕ) :
    (numberDigits n).getLast? = some (Nat.digitChar (n % 10)) := by
  unfold numberDigits
  rw [Nat.toDigits_eq_if (by decide)]
  split
  · rename_i hlt
    rw [Nat.mod_eq_of_lt hlt]
    rfl
  · rw [List.getLast?_concat]

theorem digitChar_ne_zero (hn : n < 10) (h : n ≠ 0) : Nat.digitChar n ≠ '0' := by
  revert n
  decide

theorem digitsValue_mod_ten
    (hlast : digits.getLast? = some c) (hdigit : c.isDigit = true) (hc : c ≠ '0') :
    digitsValue digits % 10 ≠ 0 := by
  obtain ⟨rest, rfl⟩ := List.getLast?_eq_some_iff.mp hlast
  rw [digitsValue_append]
  have hvalue : digitsValue [c] = c.toNat - 48 := by
    simp [digitsValue, Nat.ofDigitChars]
  have hrange : 48 ≤ c.toNat ∧ c.toNat ≤ 57 := by
    simpa [Char.isDigit, UInt32.le_iff_toNat_le] using hdigit
  have hne : c.toNat ≠ 48 := by
    intro heq
    exact hc (Char.toNat_inj.mp heq)
  rw [hvalue, List.length_singleton, Nat.pow_one, Nat.mul_add_mod]
  omega

end Library
