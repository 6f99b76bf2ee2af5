import HyperTrader.Library.DigitOrder
import HyperTrader.Library.Significant
import HyperTrader.Library.Text

/-!
# Decimals in lowest terms

A coefficient and a scale are in lowest terms when no zero ends the fraction.
Every positive decimal is one of these (`exists_lowest`), in one way only
(`lowest_unique`), and is written the same way from its lowest terms. Whether it
is significant can then be read off them (`significant_lowest_iff`).
-/

namespace Library

def Lowest (m s : ℕ) : Prop := s ≠ 0 → m % 10 ≠ 0

variable {n m s m' s' : ℕ} {text : DecimalText} {value : String}

theorem length_numberDigits_le_iff {k : ℕ} (hk : 0 < k) :
    (numberDigits n).length ≤ k ↔ n < 10 ^ k :=
  Nat.length_toDigits_le_iff (by decide) hk

theorem numberDigits_mul_ten (hn : 0 < n) : numberDigits (n * 10) = numberDigits n ++ ['0'] := by
  unfold numberDigits
  rw [Nat.toDigits_eq_if (by decide), if_neg (by omega), Nat.mul_div_cancel _ (by decide),
    Nat.mul_mod_left]
  rfl

theorem stripZeros_concat_zero (digits : List Char) :
    stripZeros (digits ++ ['0']) = stripZeros digits := by
  simp [stripZeros]

theorem formatScaled_mul_ten (hn : 0 < n) (scale : ℕ) :
    formatScaled (n * 10) (scale + 1) = formatScaled n scale := by
  have hlength : 0 < (numberDigits n).length := List.length_pos_iff.mpr (numberDigits_ne_nil n)
  have hpad : padZeros (scale + 1 + 1) (numberDigits n ++ ['0']) =
      padZeros (scale + 1) (numberDigits n) ++ ['0'] := by
    rw [padZeros, padZeros, List.length_append, List.length_singleton,
      Nat.add_sub_add_right, List.append_assoc]
  set digits := padZeros (scale + 1) (numberDigits n) with hdigits
  have hlong : scale + 1 ≤ digits.length := by
    simp only [hdigits, padZeros, List.length_append, List.length_replicate]
    omega
  have hsplit : (digits ++ ['0']).length - (scale + 1) = digits.length - scale := by
    rw [List.length_append, List.length_singleton]
    omega
  rw [formatScaled, if_neg (Nat.succ_ne_zero scale), numberDigits_mul_ten hn, hpad]
  simp only [hsplit]
  rw [List.take_append_of_le_length (by omega), List.drop_append_of_le_length (by omega),
    stripZeros_concat_zero]
  rcases Nat.eq_zero_or_pos scale with rfl | hscale
  · have hsame : digits = numberDigits n := by
      simp [hdigits, padZeros, Nat.sub_eq_zero_of_le hlength]
    rw [Nat.sub_zero, List.drop_length, List.take_length, hsame, formatScaled, if_pos rfl]
    rfl
  · rw [formatScaled, if_neg hscale.ne']

/-- Every positive decimal has lowest terms, and is written the same way from
them. -/
theorem exists_lowest (hn : 0 < n) (scale : ℕ) :
    ∃ m s, Lowest m s ∧ 0 < m ∧ s ≤ scale ∧ n = m * 10 ^ (scale - s) ∧
      formatScaled n scale = formatScaled m s := by
  induction scale generalizing n with
  | zero => exact ⟨n, 0, fun h => absurd rfl h, hn, le_rfl, by simp, rfl⟩
  | succ scale ih =>
    by_cases hzero : n % 10 = 0
    · obtain ⟨q, rfl⟩ : ∃ q, n = q * 10 := ⟨n / 10, by omega⟩
      obtain ⟨m, s, hlowest, hm, hs, hq, hformat⟩ := ih (n := q) (by omega)
      refine ⟨m, s, hlowest, hm, by omega, ?_, ?_⟩
      · rw [hq, mul_assoc, ← pow_succ, Nat.succ_sub hs]
      · rw [formatScaled_mul_ten (by omega), hformat]
    · exact ⟨n, scale + 1, fun _ => hzero, hn, le_rfl, by simp, rfl⟩

theorem lowest_le (h : Lowest m s) (heq : (m : ℚ) / 10 ^ s = (m' : ℚ) / 10 ^ s') : s ≤ s' := by
  by_contra hlt
  rw [div_eq_div_iff (by positivity) (by positivity)] at heq
  have hnat : m * 10 ^ s' = m' * 10 ^ s := by exact_mod_cast heq
  obtain ⟨d, rfl⟩ : ∃ d, s = s' + (d + 1) := ⟨s - s' - 1, by omega⟩
  have hm : m = m' * 10 ^ (d + 1) := by
    apply Nat.eq_of_mul_eq_mul_right (Nat.pow_pos (by decide : 0 < 10) : 0 < 10 ^ s')
    rw [hnat, pow_add]
    ring
  apply h (by omega)
  rw [hm, pow_succ, ← mul_assoc, Nat.mul_mod_left]

theorem lowest_unique (h : Lowest m s) (h' : Lowest m' s')
    (heq : (m : ℚ) / 10 ^ s = (m' : ℚ) / 10 ^ s') : m = m' ∧ s = s' := by
  obtain rfl : s = s' := le_antisymm (lowest_le h heq) (lowest_le h' heq.symm)
  refine ⟨?_, rfl⟩
  rw [div_left_inj' (by positivity)] at heq
  exact_mod_cast heq

/-- A decimal in lowest terms is significant if and only if its own scale and
digits are allowed. -/
theorem significant_lowest_iff {figures places : ℕ} (h : Lowest m s) (hm : 0 < m) :
    Significant 10 figures places ((m : ℚ) / 10 ^ s) ↔
      s ≤ places ∧ (s = 0 ∨ m < 10 ^ figures) := by
  constructor
  · rintro ⟨-, n, e, hvalue, hplaces, hfigures⟩
    have hle : s ≤ e := lowest_le h (by exact_mod_cast hvalue)
    refine ⟨hle.trans hplaces, ?_⟩
    rcases hfigures with rfl | hn
    · exact .inl (Nat.le_zero.mp hle)
    · right
      apply lt_of_le_of_lt _ hn
      rw [div_eq_div_iff (by positivity) (by positivity)] at hvalue
      have hnat : m * 10 ^ e = n * 10 ^ s := by exact_mod_cast hvalue
      have hpow : 10 ^ s ≤ 10 ^ e := Nat.pow_le_pow_right (by decide) hle
      apply Nat.le_of_mul_le_mul_right _ (Nat.pow_pos (by decide : 0 < 10) : 0 < 10 ^ s)
      calc m * 10 ^ s ≤ m * 10 ^ e := Nat.mul_le_mul_left m hpow
        _ = n * 10 ^ s := hnat
  · rintro ⟨hplaces, hfigures⟩
    refine ⟨?_, m, s, by norm_num, hplaces, hfigures⟩
    have hcast : (0 : ℚ) < m := by exact_mod_cast hm
    positivity

theorem utf16Length_ofList_digits {l : List Char} (h : ∀ c ∈ l, c.toNat < 0x10000) :
    utf16Length (String.ofList l) = l.length := by
  rw [utf16Length, String.toList_ofList]
  induction l with
  | nil => rfl
  | cons c rest ih =>
    rw [List.map_cons, List.sum_cons, if_pos (h c List.mem_cons_self),
      ih fun c' hc' => h c' (List.mem_cons_of_mem _ hc'), List.length_cons, Nat.add_comm]

theorem toNat_of_isDigit {c : Char} (h : c.isDigit = true) : c.toNat < 0x10000 := by
  have hrange : 48 ≤ c.toNat ∧ c.toNat ≤ 57 := by
    simpa [Char.isDigit, UInt32.le_iff_toNat_le] using h
  omega

theorem utf16Length_formatScaled_zero (n : ℕ) :
    utf16Length (formatScaled n 0) = (numberDigits n).length := by
  rw [formatScaled, if_pos rfl, utf16Length_ofList_digits]
  exact fun c hc => toNat_of_isDigit (isDigit_of_mem_numberDigits hc)

theorem utf16Length_formatScaled_le {scale : ℕ} (hscale : scale ≠ 0) :
    utf16Length (formatScaled n scale) ≤ max (scale + 1) (numberDigits n).length + 1 := by
  rw [formatScaled, if_neg hscale]
  dsimp only
  set digits := padZeros (scale + 1) (numberDigits n) with hdigits
  have hlength : digits.length = max (scale + 1) (numberDigits n).length := by
    simp only [hdigits, padZeros, List.length_append, List.length_replicate]
    omega
  have hdigit : ∀ c ∈ digits, c.toNat < 0x10000 := by
    intro c hc
    rcases List.mem_append.mp hc with hzero | hnumber
    · rw [List.eq_of_mem_replicate hzero]
      decide
    · exact toNat_of_isDigit (isDigit_of_mem_numberDigits hnumber)
  set split := digits.length - scale
  obtain ⟨zeros, hstrip⟩ := stripZeros_append (digits.drop split)
  have hfraction : ∀ c ∈ stripZeros (digits.drop split), c.toNat < 0x10000 := by
    intro c hc
    apply hdigit c (List.mem_of_mem_drop (i := split) _)
    rw [hstrip]
    exact List.mem_append_left _ hc
  have hshort : (stripZeros (digits.drop split)).length ≤ digits.length - split := by
    rw [← List.length_drop, congrArg List.length hstrip, List.length_append]
    exact Nat.le_add_right _ _
  have htake : (digits.take split).length = split := List.length_take_of_le (Nat.sub_le _ _)
  split_ifs with hempty
  · rw [utf16Length_ofList_digits fun c hc => hdigit c (List.mem_of_mem_take hc), htake]
    omega
  · rw [utf16Length_ofList_digits, List.length_append, List.length_cons, htake]
    · omega
    · intro c hc
      rcases List.mem_append.mp hc with hwhole | hrest
      · exact hdigit c (List.mem_of_mem_take hwhole)
      · rcases List.mem_cons.mp hrest with rfl | hrest
        · decide
        · exact hfraction c hrest

theorem toList_of_readUnsigned {negative : Bool} {chars : List Char}
    (h : readUnsigned negative chars = some text) :
    text.negative = negative ∧
      chars = text.whole ++ if text.fraction = [] then [] else '.' :: text.fraction := by
  simp only [readUnsigned, Option.ite_none_right_eq_some] at h
  obtain ⟨-, h⟩ := h
  have hsplit : chars = chars.takeWhile (· != '.') ++ chars.dropWhile (· != '.') :=
    List.takeWhile_append_dropWhile.symm
  have hdrop : chars.drop (chars.takeWhile (· != '.')).length = chars.dropWhile (· != '.') := by
    have happend : ∀ whole rest : List Char, whole ++ rest = chars →
        chars.drop whole.length = rest := by
      rintro whole rest rfl
      exact List.drop_left
    exact happend _ _ List.takeWhile_append_dropWhile
  rw [hdrop] at h
  split at h
  · rename_i hnil
    cases h
    refine ⟨rfl, ?_⟩
    rw [hnil, List.append_nil] at hsplit
    simpa using hsplit
  · rename_i point fraction hcons
    simp only [Option.ite_none_right_eq_some, Bool.and_eq_true] at h
    obtain ⟨⟨hne, -⟩, h⟩ := h
    cases h
    refine ⟨rfl, ?_⟩
    have hpoint := List.head?_dropWhile_not (· != '.') chars
    rw [hcons] at hpoint
    obtain rfl : point = '.' := by simpa using hpoint
    have hne' : fraction ≠ [] := by simpa using hne
    rw [if_neg hne', ← hcons]
    exact hsplit

theorem toList_of_readDecimal (h : readDecimal value = some text) :
    value.toList = (if text.negative then ['-'] else []) ++
      (text.whole ++ if text.fraction = [] then [] else '.' :: text.fraction) := by
  unfold readDecimal at h
  split at h
  · rename_i rest hlist
    obtain ⟨hsign, hrest⟩ := toList_of_readUnsigned h
    rw [hlist, hrest, hsign]
    rfl
  · obtain ⟨hsign, hrest⟩ := toList_of_readUnsigned h
    rw [hsign]
    exact hrest

theorem utf16Length_of_readDecimal (h : readDecimal value = some text) : utf16Length value =
    (if text.negative then 1 else 0) +
      (text.whole.length + if text.fraction = [] then 0 else text.fraction.length + 1) := by
  obtain ⟨hwhole, hfraction⟩ := readDecimal_digits h
  have hdigits := (isWholePart_iff.mp hwhole).2.1
  rw [← String.ofList_toList (s := value), toList_of_readDecimal h, utf16Length_ofList_digits]
  · rw [List.length_append, List.length_append]
    split <;> split <;> rfl
  · intro c hc
    rcases List.mem_append.mp hc with hmem | hmem
    · split at hmem
      · rw [List.mem_singleton.mp hmem]
        decide
      · cases hmem
    · rcases List.mem_append.mp hmem with hmem | hmem
      · exact toNat_of_isDigit (hdigits c hmem)
      · split at hmem
        · cases hmem
        · rcases List.mem_cons.mp hmem with rfl | hmem
          · decide
          · exact toNat_of_isDigit (hfraction c hmem)

end Library
