import HyperTrader.Library.Text
import Mathlib.Data.List.Lex

/-!
# The UTF-16 units of a text

A character is one unit or a pair of surrogates, and no character is a surrogate: so
the units of a text tell its characters. Texts are ordered by their units.
-/

namespace Library

def utf16Units (c : Char) : List ℕ :=
  if c.toNat < 0x10000 then [c.toNat]
  else [0xD800 + (c.toNat - 0x10000) / 0x400, 0xDC00 + (c.toNat - 0x10000) % 0x400]

theorem toNat_not_surrogate (c : Char) :
    c.toNat < 0xD800 ∨ (0xDFFF < c.toNat ∧ c.toNat < 0x110000) :=
  c.valid

theorem utf16Units_append_inj {c d : Char} {s t : List ℕ}
    (h : utf16Units c ++ s = utf16Units d ++ t) : c = d ∧ s = t := by
  have hc := toNat_not_surrogate c
  have hd := toNat_not_surrogate d
  have hnumber : c.toNat = d.toNat → c = d := fun hsame => Char.toNat_inj.mp hsame
  unfold utf16Units at h
  by_cases hsmall : c.toNat < 0x10000
  · by_cases hsmall' : d.toNat < 0x10000
    · rw [if_pos hsmall, if_pos hsmall'] at h
      obtain ⟨hunit, hrest⟩ := List.cons.inj h
      exact ⟨hnumber hunit, hrest⟩
    · rw [if_pos hsmall, if_neg hsmall'] at h
      obtain ⟨hunit, -⟩ := List.cons.inj h
      omega
  · by_cases hsmall' : d.toNat < 0x10000
    · rw [if_neg hsmall, if_pos hsmall'] at h
      obtain ⟨hunit, -⟩ := List.cons.inj h
      omega
    · rw [if_neg hsmall, if_neg hsmall'] at h
      obtain ⟨hhigh, hrest⟩ := List.cons.inj h
      obtain ⟨hlow, hrest⟩ := List.cons.inj hrest
      exact ⟨hnumber (by omega), hrest⟩

theorem utf16Units_ne_nil (c : Char) : utf16Units c ≠ [] := by
  unfold utf16Units
  split <;> simp

theorem utf16_injective : Function.Injective utf16 := by
  have hlists : ∀ l m : List Char, l.flatMap utf16Units = m.flatMap utf16Units → l = m := by
    intro l
    induction l with
    | nil =>
      intro m h
      cases m with
      | nil => rfl
      | cons d m =>
        rw [List.flatMap_nil, List.flatMap_cons] at h
        exact absurd (List.append_eq_nil_iff.mp h.symm).1 (utf16Units_ne_nil d)
    | cons c l ih =>
      intro m h
      cases m with
      | nil =>
        rw [List.flatMap_nil, List.flatMap_cons] at h
        exact absurd (List.append_eq_nil_iff.mp h).1 (utf16Units_ne_nil c)
      | cons d m =>
        rw [List.flatMap_cons, List.flatMap_cons] at h
        obtain ⟨rfl, hrest⟩ := utf16Units_append_inj h
        rw [ih m hrest]
  intro text other h
  exact String.toList_injective (hlists _ _ h)

end Library
