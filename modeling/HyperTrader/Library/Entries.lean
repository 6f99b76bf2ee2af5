import HyperTrader.Library.Transaction
import Mathlib.Data.List.Forall2

/-!
# Lists read entry by entry

What a list is read as, entry by entry, keeps what holds of its entries in their
order.
-/

namespace Library

variable {ε α β : Type*}

theorem mapM_eq_ok {ε α β : Type} {f : α → Except ε β} {l : List α} {l' : List β} :
    l.mapM f = .ok l' ↔ List.Forall₂ (fun a b => f a = .ok b) l l' := by
  induction l generalizing l' with
  | nil => simp [pure, Except.pure, eq_comm]
  | cons a l ih =>
    simp only [List.mapM_cons, except_bind_eq_ok, pure, Except.pure, Except.ok.injEq,
      List.forall₂_cons_left_iff]
    constructor
    · rintro ⟨b, hb, rest, hrest, rfl⟩
      exact ⟨b, rest, hb, ih.mp hrest, rfl⟩
    · rintro ⟨b, rest, hb, hrest, rfl⟩
      exact ⟨b, hb, rest, ih.mpr hrest, rfl⟩

variable {r : α → β → Prop} {l : List α} {l' : List β}

theorem exists_of_mem_forall₂ (h : List.Forall₂ r l l') {b : β} (hb : b ∈ l') : ∃ a ∈ l, r a b := by
  induction h with
  | nil => cases hb
  | cons hab hrest ih =>
    rcases List.mem_cons.mp hb with rfl | hb
    · exact ⟨_, List.mem_cons_self, hab⟩
    · obtain ⟨a, ha, hread⟩ := ih hb
      exact ⟨a, List.mem_cons_of_mem _ ha, hread⟩

theorem exists_of_mem_forall₂_left
    (h : List.Forall₂ r l l') {a : α} (ha : a ∈ l) : ∃ b ∈ l', r a b :=
  exists_of_mem_forall₂ h.flip ha

theorem exists_mapM_eq_ok {ε α β : Type} {f : α → Except ε β} {l : List α}
    (h : ∀ a ∈ l, ∃ b, f a = .ok b) : ∃ l', l.mapM f = .ok l' := by
  induction l with
  | nil => exact ⟨[], mapM_eq_ok.mpr .nil⟩
  | cons a l ih =>
    obtain ⟨b, hb⟩ := h a List.mem_cons_self
    obtain ⟨l', hl'⟩ := ih fun c hc => h c (List.mem_cons_of_mem _ hc)
    exact ⟨b :: l', mapM_eq_ok.mpr (.cons hb (mapM_eq_ok.mp hl'))⟩

theorem forall₂_iff_of_forall₂ {r q : α → β → Prop} {p : α → Prop} {l : List α} {l' : List β}
    (h : List.Forall₂ r l l') (hiff : ∀ a b, r a b → (q a b ↔ p a)) :
    List.Forall₂ q l l' ↔ ∀ a ∈ l, p a := by
  induction h with
  | nil => simp
  | cons hab hrest ih =>
    rw [List.forall₂_cons, ih, hiff _ _ hab]
    simp

theorem pairwise_of_forall₂ {p : α → α → Prop} {q : β → β → Prop}
    (h : List.Forall₂ r l l') (hp : l.Pairwise p)
    (hq : ∀ a b a' b', r a a' → r b b' → p a b → q a' b') : l'.Pairwise q := by
  induction h with
  | nil => exact List.Pairwise.nil
  | cons hab hrest ih =>
    rw [List.pairwise_cons] at hp ⊢
    refine ⟨fun b' hb' => ?_, ih hp.2⟩
    obtain ⟨b, hb, hread⟩ := exists_of_mem_forall₂ hrest hb'
    exact hq _ _ _ _ hab hread (hp.1 b hb)

theorem pairwise_zipIdx (l : List α) (n : ℕ) : (l.zipIdx n).Pairwise fun a b => a.2 < b.2 := by
  have hplaces : ((l.zipIdx n).map Prod.snd).Pairwise (· < ·) := by
    rw [List.zipIdx_map_snd]
    exact List.pairwise_lt_range' 1
  exact List.pairwise_map.mp hplaces

end Library
