import HyperTrader.Library.Decimal
import Mathlib.Data.Char
import Mathlib.Data.List.Lex
import Mathlib.Order.Compare

/-!
# The order of digit strings

Numbers in digits are compared as texts: the zeros in front are dropped, the longer text
is the greater, and texts of one length are compared from their first digit. The result is
the order of the numbers (`compareDigits_eq`).
-/

namespace Library

def dropLeadingZeros : List Char → List Char
  | '0' :: c :: rest => if c.isDigit then dropLeadingZeros (c :: rest) else '0' :: c :: rest
  | digits => digits

def compareDigits (left right : List Char) : Ordering :=
  let first := dropLeadingZeros left
  let second := dropLeadingZeros right
  if first.length ≠ second.length then
    if first.length < second.length then .lt else .gt
  else if first = second then .eq
  else if first < second then .lt
  else .gt

def Digits (digits : List Char) : Prop := ∀ c ∈ digits, c.isDigit = true

variable {c : Char} {digits left right : List Char}

theorem Digits.tail (h : Digits (c :: digits)) : Digits digits :=
  fun d hd => h d (List.mem_cons_of_mem c hd)

theorem Digits.append (h : Digits left) (h' : Digits right) : Digits (left ++ right) := by
  intro d hd
  rcases List.mem_append.mp hd with hd | hd
  · exact h d hd
  · exact h' d hd

theorem digits_replicate_zero (n : ℕ) : Digits (List.replicate n '0') := by
  intro d hd
  rw [List.eq_of_mem_replicate hd]
  decide

theorem Digits.stripZeros (h : Digits digits) : Digits (stripZeros digits) := by
  obtain ⟨n, hn⟩ := stripZeros_append digits
  intro d hd
  apply h d
  rw [hn]
  exact List.mem_append_left _ hd

theorem isDigit_iff_toNat : c.isDigit = true ↔ 48 ≤ c.toNat ∧ c.toNat ≤ 57 := by
  simp [Char.isDigit, UInt32.le_iff_toNat_le]

@[simp] theorem digitsValue_nil : digitsValue [] = 0 := rfl

theorem digitsValue_cons (c : Char) (digits : List Char) :
    digitsValue (c :: digits) = 10 ^ digits.length * (c.toNat - 48) + digitsValue digits := by
  rw [← List.singleton_append, digitsValue_append]
  have hvalue : digitsValue [c] = c.toNat - 48 := by
    simp [digitsValue, Nat.ofDigitChars]
  rw [hvalue]

theorem digitsValue_dropLeadingZeros (digits : List Char) :
    digitsValue (dropLeadingZeros digits) = digitsValue digits := by
  induction digits using dropLeadingZeros.induct with
  | case1 c rest hdigit ih =>
    rw [dropLeadingZeros, if_pos hdigit, ih, digitsValue_cons '0']
    simp
  | case2 c rest hdigit => rw [dropLeadingZeros, if_neg hdigit]
  | case3 digits h => rw [dropLeadingZeros.eq_2 digits h]

theorem Digits.dropLeadingZeros (h : Digits digits) : Digits (dropLeadingZeros digits) := by
  induction digits using dropLeadingZeros.induct with
  | case1 c rest hdigit ih =>
    rw [Library.dropLeadingZeros, if_pos hdigit]
    exact ih h.tail
  | case2 c rest hdigit =>
    rw [Library.dropLeadingZeros, if_neg hdigit]
    exact h
  | case3 digits hother =>
    rw [Library.dropLeadingZeros.eq_2 digits hother]
    exact h

theorem head_dropLeadingZeros (h : Digits digits) (hlength : 1 < (dropLeadingZeros digits).length) :
    (dropLeadingZeros digits).head? ≠ some '0' := by
  induction digits using dropLeadingZeros.induct with
  | case1 c rest hdigit ih =>
    rw [dropLeadingZeros, if_pos hdigit] at hlength ⊢
    exact ih h.tail hlength
  | case2 c rest hdigit =>
    exact absurd (h c (List.mem_cons_of_mem _ List.mem_cons_self)) hdigit
  | case3 digits hother =>
    rw [dropLeadingZeros.eq_2 digits hother] at hlength ⊢
    intro hhead
    obtain ⟨rest, rfl⟩ := List.head?_eq_some_iff.mp hhead
    cases rest with
    | nil => simp at hlength
    | cons d rest => exact hother d rest rfl

theorem digitsValue_lt (h : Digits digits) : digitsValue digits < 10 ^ digits.length := by
  induction digits with
  | nil => simp
  | cons c digits ih =>
    have hc := isDigit_iff_toNat.mp (h c List.mem_cons_self)
    have hrest := ih h.tail
    rw [digitsValue_cons, List.length_cons]
    calc 10 ^ digits.length * (c.toNat - 48) + digitsValue digits
        < 10 ^ digits.length * (c.toNat - 48) + 10 ^ digits.length := by omega
      _ = 10 ^ digits.length * (c.toNat - 48 + 1) := by ring
      _ ≤ 10 ^ digits.length * 10 := Nat.mul_le_mul_left _ (by omega)
      _ = 10 ^ (digits.length + 1) := (pow_succ 10 digits.length).symm

theorem le_digitsValue (h : Digits (c :: digits)) (hc : c ≠ '0') :
    10 ^ digits.length ≤ digitsValue (c :: digits) := by
  have hrange := isDigit_iff_toNat.mp (h c List.mem_cons_self)
  have hne : c.toNat ≠ 48 := fun heq => hc (Char.toNat_inj.mp heq)
  rw [digitsValue_cons]
  calc 10 ^ digits.length = 10 ^ digits.length * 1 := (Nat.mul_one _).symm
    _ ≤ 10 ^ digits.length * (c.toNat - 48) := Nat.mul_le_mul_left _ (by omega)
    _ ≤ 10 ^ digits.length * (c.toNat - 48) + digitsValue digits := Nat.le_add_right _ _

theorem digitsValue_lt_of_length (hleft : Digits left) (hright : Digits right)
    (hhead : 1 < right.length → right.head? ≠ some '0') (hne : left ≠ [])
    (h : left.length < right.length) : digitsValue left < digitsValue right := by
  have hpos : 0 < left.length := List.length_pos_iff.mpr hne
  cases right with
  | nil => simp at h
  | cons d right =>
    have hd : d ≠ '0' := by
      have := hhead (by omega)
      simpa using this
    calc digitsValue left < 10 ^ left.length := digitsValue_lt hleft
      _ ≤ 10 ^ right.length := Nat.pow_le_pow_right (by decide) (Nat.lt_succ_iff.mp h)
      _ ≤ digitsValue (d :: right) := le_digitsValue hright hd

theorem digitsValue_lt_iff (hleft : Digits left) (hright : Digits right)
    (h : left.length = right.length) : digitsValue left < digitsValue right ↔ left < right := by
  induction left generalizing right with
  | nil =>
    cases right with
    | nil => simp
    | cons d right => simp at h
  | cons c left ih =>
    cases right with
    | nil => simp at h
    | cons d right =>
      have hlength : left.length = right.length := by simpa using h
      have hc := isDigit_iff_toNat.mp (hleft c List.mem_cons_self)
      have hd := isDigit_iff_toNat.mp (hright d List.mem_cons_self)
      have hfirst := digitsValue_lt hleft.tail
      have hsecond := digitsValue_lt hright.tail
      have hcd : c < d ↔ c.toNat < d.toNat := Iff.rfl
      rw [List.cons_lt_cons_iff, digitsValue_cons, digitsValue_cons, ← hlength,
        ← ih hleft.tail hright.tail hlength, hcd]
      rw [← hlength] at hsecond
      rcases Nat.lt_trichotomy c.toNat d.toNat with hlt | heq | hgt
      · have hstep : 10 ^ left.length * (c.toNat - 48 + 1) ≤
            10 ^ left.length * (d.toNat - 48) := Nat.mul_le_mul_left _ (by omega)
        rw [Nat.mul_succ] at hstep
        simp only [hlt, true_or, iff_true]
        omega
      · have hsame : c = d := Char.toNat_inj.mp heq
        simp [hsame]
      · have hstep : 10 ^ left.length * (d.toNat - 48 + 1) ≤
            10 ^ left.length * (c.toNat - 48) := Nat.mul_le_mul_left _ (by omega)
        rw [Nat.mul_succ] at hstep
        have hne : c ≠ d := by
          rintro rfl
          exact Nat.lt_irrefl _ hgt
        have hnot : ¬ c.toNat < d.toNat := by omega
        simp only [hnot, hne, false_and, or_self, iff_false]
        omega

theorem digitsValue_eq_zero (h : Digits digits) :
    digitsValue digits = 0 ↔ ∀ c ∈ digits, c = '0' := by
  induction digits with
  | nil => simp
  | cons c digits ih =>
    have hrange := isDigit_iff_toNat.mp (h c List.mem_cons_self)
    have hc : c.toNat - 48 = 0 ↔ c = '0' := by
      rw [← Char.toNat_inj]
      exact ⟨fun heq => by simpa using Nat.le_antisymm (Nat.sub_eq_zero_iff_le.mp heq) hrange.1,
        fun heq => by simp [heq]⟩
    rw [digitsValue_cons, Nat.add_eq_zero_iff, Nat.mul_eq_zero, hc, ih h.tail, List.forall_mem_cons]
    simp

theorem stripZeros_eq_nil (h : ∀ c ∈ digits, c = '0') : stripZeros digits = [] := by
  obtain ⟨n, hn⟩ := stripZeros_append digits
  cases hlast : (stripZeros digits).getLast? with
  | none => exact List.getLast?_eq_none_iff.mp hlast
  | some c =>
    have hmem : c ∈ digits := by
      rw [hn]
      exact List.mem_append_left _ (List.mem_of_getLast? hlast)
    rw [h c hmem] at hlast
    exact absurd hlast (getLast?_stripZeros digits)

theorem compare_congr {α β : Type*} [LinearOrder α] [LinearOrder β] {a b : α} {x y : β}
    (hlt : a < b ↔ x < y) (hgt : b < a ↔ y < x) : compare a b = compare x y := by
  rcases lt_trichotomy x y with h | h | h
  · rw [compare_lt_iff_lt.mpr h, compare_lt_iff_lt.mpr (hlt.mpr h)]
  · have heq : a = b := by
      apply le_antisymm
      · exact not_lt.mp fun h' => absurd (hgt.mp h') (not_lt.mpr h.le)
      · exact not_lt.mp fun h' => absurd (hlt.mp h') (not_lt.mpr h.ge)
    rw [compare_eq_iff_eq.mpr h, compare_eq_iff_eq.mpr heq]
  · rw [compare_gt_iff_gt.mpr h, compare_gt_iff_gt.mpr (hgt.mpr h)]

theorem dropLeadingZeros_ne_nil (h : digits ≠ []) : dropLeadingZeros digits ≠ [] := by
  induction digits using dropLeadingZeros.induct with
  | case1 c rest hdigit ih =>
    rw [dropLeadingZeros, if_pos hdigit]
    exact ih (List.cons_ne_nil c rest)
  | case2 c rest hdigit =>
    rw [dropLeadingZeros, if_neg hdigit]
    exact h
  | case3 digits hother =>
    rw [dropLeadingZeros.eq_2 digits hother]
    exact h

theorem swap_compare {α : Type*} [LinearOrder α] (a b : α) : (compare a b).swap = compare b a := by
  rcases lt_trichotomy a b with h | h | h
  · rw [compare_lt_iff_lt.mpr h, compare_gt_iff_gt.mpr h]
    rfl
  · rw [compare_eq_iff_eq.mpr h, compare_eq_iff_eq.mpr h.symm]
    rfl
  · rw [compare_gt_iff_gt.mpr h, compare_lt_iff_lt.mpr h]
    rfl

theorem compareDigits_eq (hleft : Digits left) (hright : Digits right) (hne : left ≠ [])
    (hne' : right ≠ []) :
    compareDigits left right = compare (digitsValue left) (digitsValue right) := by
  rw [← digitsValue_dropLeadingZeros left, ← digitsValue_dropLeadingZeros right]
  have hfirst := hleft.dropLeadingZeros
  have hsecond := hright.dropLeadingZeros
  unfold compareDigits
  dsimp only
  split
  · rename_i hlength
    split
    · rename_i hlt
      exact (compare_lt_iff_lt.mpr (digitsValue_lt_of_length hfirst hsecond
        (head_dropLeadingZeros hright) (dropLeadingZeros_ne_nil hne) hlt)).symm
    · rename_i hlt
      have hgt : (dropLeadingZeros right).length < (dropLeadingZeros left).length := by omega
      exact (compare_gt_iff_gt.mpr (digitsValue_lt_of_length hsecond hfirst
        (head_dropLeadingZeros hleft) (dropLeadingZeros_ne_nil hne') hgt)).symm
  · rename_i hlength
    rw [not_not] at hlength
    split
    · rename_i heq
      rw [heq]
      exact (compare_eq_iff_eq.mpr rfl).symm
    · rename_i hdiffer
      split
      · rename_i hlt
        exact (compare_lt_iff_lt.mpr ((digitsValue_lt_iff hfirst hsecond hlength).mpr hlt)).symm
      · rename_i hlt
        rcases lt_trichotomy (dropLeadingZeros left) (dropLeadingZeros right) with h | h | h
        · exact absurd h hlt
        · exact absurd h hdiffer
        · exact (compare_gt_iff_gt.mpr
            ((digitsValue_lt_iff hsecond hfirst hlength.symm).mpr h)).symm

end Library
