import Mathlib.Data.List.Basic

/-!
# Joined texts

Texts are joined by a character that only the last of them may contain. As many texts
that join to one text are the same texts (`joined_concat_inj`).
-/

namespace Library

variable {α : Type}

theorem append_separator_inj {c : α} {xs ys rest rest' : List α} (hxs : c ∉ xs)
    (hys : c ∉ ys) (h : xs ++ c :: rest = ys ++ c :: rest') : xs = ys ∧ rest = rest' := by
  induction xs generalizing ys with
  | nil =>
    cases ys with
    | nil => exact ⟨rfl, (List.cons.inj h).2⟩
    | cons y ys =>
      rw [(List.cons.inj h).1] at hys
      exact absurd List.mem_cons_self hys
  | cons x xs ih =>
    cases ys with
    | nil =>
      rw [← (List.cons.inj h).1] at hxs
      exact absurd List.mem_cons_self hxs
    | cons y ys =>
      obtain ⟨hhead, htail⟩ := List.cons.inj h
      obtain ⟨hlists, hrest⟩ := ih (fun hc => hxs (List.mem_cons_of_mem _ hc))
        (fun hc => hys (List.mem_cons_of_mem _ hc)) htail
      exact ⟨by rw [hhead, hlists], hrest⟩

theorem intercalate_concat_inj {c : α} {xs ys : List (List α)} {last last' : List α}
    (hxs : ∀ x ∈ xs, c ∉ x) (hys : ∀ y ∈ ys, c ∉ y) (hlength : xs.length = ys.length)
    (h : [c].intercalate (xs ++ [last]) = [c].intercalate (ys ++ [last'])) :
    xs = ys ∧ last = last' := by
  induction xs generalizing ys with
  | nil =>
    cases List.length_eq_zero_iff.mp hlength.symm
    simpa using h
  | cons x xs ih =>
    cases ys with
    | nil => cases hlength
    | cons y ys =>
      rw [List.cons_append, List.cons_append, List.intercalate_cons_of_ne_nil (by simp),
        List.intercalate_cons_of_ne_nil (by simp), List.append_assoc, List.append_assoc,
        List.singleton_append, List.singleton_append] at h
      obtain ⟨hhead, hrest⟩ :=
        append_separator_inj (hxs x List.mem_cons_self) (hys y List.mem_cons_self) h
      obtain ⟨htail, hlast⟩ := ih (fun x hx => hxs x (List.mem_cons_of_mem _ hx))
        (fun y hy => hys y (List.mem_cons_of_mem _ hy)) (Nat.succ_inj.mp hlength) hrest
      exact ⟨by rw [hhead, htail], hlast⟩

theorem mem_intercalate {c x : α} {parts : List (List α)}
    (h : x ∈ [c].intercalate parts) : x = c ∨ ∃ part ∈ parts, x ∈ part := by
  induction parts with
  | nil => cases h
  | cons part parts ih =>
    by_cases hnil : parts = []
    · subst hnil
      rw [List.intercalate_singleton] at h
      exact .inr ⟨part, List.mem_singleton_self _, h⟩
    · rw [List.intercalate_cons_of_ne_nil hnil, List.append_assoc] at h
      rcases List.mem_append.mp h with hpart | hrest
      · exact .inr ⟨part, List.mem_cons_self, hpart⟩
      · rcases List.mem_cons.mp hrest with rfl | hrest
        · exact .inl rfl
        · refine (ih hrest).imp_right ?_
          rintro ⟨other, hother, hx⟩
          exact ⟨other, List.mem_cons_of_mem _ hother, hx⟩

theorem joined_concat_inj {c : Char} {xs ys : List String} {last last' : String}
    (hxs : ∀ x ∈ xs, c ∉ x.toList) (hys : ∀ y ∈ ys, c ∉ y.toList) (hlength : xs.length = ys.length)
    (h : (String.singleton c).intercalate (xs ++ [last]) =
      (String.singleton c).intercalate (ys ++ [last'])) : xs = ys ∧ last = last' := by
  have hchars := congrArg String.toList h
  rw [String.toList_intercalate, String.toList_intercalate, List.map_append, List.map_append,
    String.toList_singleton] at hchars
  obtain ⟨htexts, hlast⟩ := intercalate_concat_inj (by simpa using hxs) (by simpa using hys)
    (by rw [List.length_map, List.length_map, hlength]) hchars
  exact ⟨List.map_injective_iff.mpr (fun _ _ => String.toList_injective) htexts,
    String.toList_injective hlast⟩

end Library
