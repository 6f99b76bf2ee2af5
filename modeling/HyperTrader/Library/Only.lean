import Mathlib.Data.List.Induction
import Mathlib.Logic.Function.Basic

/-!
# Indexes of the only entry of a key

An index is filled entry by entry. A key that is entered once has its entry, a key that is
entered again is ambiguous, and a key that is not entered is absent: the index of a list
says of a key what the entries of that key are (`indexOf_eq`).
-/

namespace Library

variable {α κ : Type*}

def onlyOf : List α → Option (Option α)
  | [] => none
  | [a] => some (some a)
  | _ => some none

/-- An entry made in an index: the entry of a new key, and nothing for one that is taken. -/
def enterOnly [DecidableEq κ] (index : κ → Option (Option α)) (key : κ) (a : α) :
    κ → Option (Option α) :=
  Function.update index key (some (if (index key).isSome then none else some a))

def entriesOf [DecidableEq κ] (entries : List (κ × α)) (key : κ) : List α :=
  (entries.filter fun entry => entry.1 = key).map Prod.snd

def indexOf [DecidableEq κ] (entries : List (κ × α)) : κ → Option (Option α) :=
  entries.foldl (fun index entry => enterOnly index entry.1 entry.2) fun _ => none

variable {l : List α} {a : α}

theorem onlyOf_eq_none : onlyOf l = none ↔ l = [] := by
  cases l with
  | nil => exact iff_of_true rfl rfl
  | cons a l =>
    cases l with
    | nil => exact iff_of_false (fun h => by cases h) fun h => by cases h
    | cons b l => exact iff_of_false (fun h => by cases h) fun h => by cases h

theorem onlyOf_eq_some : onlyOf l = some (some a) ↔ l = [a] := by
  cases l with
  | nil => exact iff_of_false (fun h => by cases h) fun h => by cases h
  | cons b l =>
    cases l with
    | nil => simp [onlyOf]
    | cons c l => simp [onlyOf]

theorem onlyOf_append (l : List α) (a : α) :
    onlyOf (l ++ [a]) = some (if (onlyOf l).isSome then none else some a) := by
  cases l with
  | nil => rfl
  | cons b l =>
    cases l with
    | nil => rfl
    | cons c l => rfl

variable [DecidableEq κ]

theorem entriesOf_append (entries : List (κ × α)) (entry : κ × α) (key : κ) :
    entriesOf (entries ++ [entry]) key =
      entriesOf entries key ++ if entry.1 = key then [entry.2] else [] := by
  unfold entriesOf
  rw [List.filter_append, List.map_append]
  split_ifs with hkey
  · simp [hkey]
  · simp [hkey]

theorem entriesOf_filterMap {β : Type*} {entry : β → Option (κ × α)} {back : α → β}
    (hback : ∀ b made, entry b = some made → back made.2 = b) (l : List β) (key : κ) :
    (entriesOf (l.filterMap entry) key).map back =
      l.filter fun b => (entry b).map Prod.fst = some key := by
  induction l with
  | nil => rfl
  | cons b l ih =>
    unfold entriesOf at ih ⊢
    cases hentry : entry b with
    | none =>
      rw [List.filterMap_cons_none hentry, ih, List.filter_cons_of_neg]
      simp [hentry]
    | some made =>
      rw [List.filterMap_cons_some hentry]
      by_cases hkey : made.1 = key
      · rw [List.filter_cons_of_pos (by simpa using hkey), List.map_cons, List.map_cons,
          hback b made hentry, ih, List.filter_cons_of_pos]
        simp [hentry, hkey]
      · rw [List.filter_cons_of_neg (by simpa using hkey), ih, List.filter_cons_of_neg]
        simp [hentry, hkey]

/-- **An index says of a key what its entries are.** -/
theorem indexOf_eq (entries : List (κ × α)) (key : κ) :
    indexOf entries key = onlyOf (entriesOf entries key) := by
  induction entries using List.reverseRecOn with
  | nil => rfl
  | append_singleton entries entry ih =>
    have hstep : indexOf (entries ++ [entry]) =
        enterOnly (indexOf entries) entry.1 entry.2 := by
      unfold indexOf
      rw [List.foldl_append]
      rfl
    rw [hstep, entriesOf_append, enterOnly]
    by_cases hkey : entry.1 = key
    · subst hkey
      rw [Function.update_self, if_pos rfl, onlyOf_append, ih]
    · rw [Function.update_of_ne (Ne.symm hkey), if_neg hkey, List.append_nil, ih]

theorem filter_eq_singleton_of_imp {p q : α → Prop} [DecidablePred p]
    [DecidablePred q] (himp : ∀ b ∈ l, q b → p b) (hq : q a)
    (h : l.filter (fun b => p b) = [a]) : l.filter (fun b => q b) = [a] := by
  have htwice : l.filter (fun b => q b) = (l.filter fun b => p b).filter fun b => q b := by
    rw [List.filter_filter]
    refine List.filter_congr fun b hb => ?_
    by_cases hqb : q b
    · simp [hqb, himp b hb hqb]
    · simp [hqb]
  rw [htwice, h]
  simp [hq]

end Library
