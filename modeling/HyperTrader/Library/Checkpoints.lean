import Mathlib.Data.List.Basic
import Mathlib.Data.List.Induction
import Mathlib.Data.Nat.Cast.Defs

/-!
# Logs of checkpoints and steps

A log of a sequenced feed: a checkpoint says where the feed is, and a step moves it.
Either may carry no position; such a step leaves the feed where it is, and after such
a checkpoint any position may come first. A log is gap-free when every step comes
after a checkpoint and is one past the position before it. Between two checkpoints
the positions of a gap-free log are therefore consecutive.
-/

namespace Library

inductive Entry (α : Type*) where
  | checkpoint (position : Option α)
  | step (position : Option α)
  deriving DecidableEq

variable {α : Type*}

namespace Entry

/-- Where the feed is after an entry; `none` before the first checkpoint. -/
def place : Option (Option α) → Entry α → Option (Option α)
  | _, .checkpoint position => some position
  | none, .step _ => none
  | some last, .step position => some (position.or last)

def Follows [AddMonoidWithOne α] : Option (Option α) → Entry α → Prop
  | _, .checkpoint _ => True
  | none, .step _ => False
  | some last, .step position =>
    ∀ before after, last = some before → position = some after → after = before + 1

def stepPosition : Entry α → Option α
  | .checkpoint _ => none
  | .step position => position

def isStep : Entry α → Bool
  | .checkpoint _ => false
  | .step _ => true

end Entry

def place (log : List (Entry α)) : Option (Option α) := log.foldl Entry.place none

@[simp] theorem place_nil : place ([] : List (Entry α)) = none := rfl

theorem place_append_singleton (log : List (Entry α)) (entry : Entry α) :
    place (log ++ [entry]) = Entry.place (place log) entry := by
  simp [place]

variable [AddMonoidWithOne α]

def GapFree (log : List (Entry α)) : Prop :=
  ∀ before entry after, log = before ++ entry :: after →
    Entry.Follows (place before) entry

theorem gapFree_nil : GapFree ([] : List (Entry α)) := by
  intro before entry after h
  simp at h

theorem GapFree.append_singleton {log : List (Entry α)} {entry : Entry α}
    (h : GapFree log) (hentry : Entry.Follows (place log) entry) : GapFree (log ++ [entry]) := by
  intro before other after heq
  rcases List.eq_nil_or_concat after with rfl | ⟨rest, last, rfl⟩
  · obtain ⟨rfl, hlast⟩ := List.append_inj' heq rfl
    cases hlast
    exact hentry
  · rw [List.concat_eq_append, ← List.cons_append, ← List.append_assoc] at heq
    exact h before other rest (List.append_inj' heq rfl).1

variable {before steps after : List (Entry α)} {start : α}

/-- After a checkpoint the feed has moved one position with every step that has
one. -/
theorem GapFree.place_segment (h : GapFree (before ++ .checkpoint (some start) :: steps ++ after))
    (hsteps : ∀ entry ∈ steps, entry.isStep = true) :
    place (before ++ .checkpoint (some start) :: steps) =
        some (some (start + (steps.filterMap Entry.stepPosition).length)) ∧
      steps.filterMap Entry.stepPosition =
        (List.range (steps.filterMap Entry.stepPosition).length).map
          fun i => start + ((i + 1 : ℕ) : α) := by
  induction steps using List.reverseRecOn generalizing after with
  | nil => simp [place, Entry.place]
  | append_singleton steps last ih =>
    have hlog : before ++ .checkpoint (some start) :: (steps ++ [last]) ++ after =
        (before ++ .checkpoint (some start) :: steps) ++ last :: after := by
      simp
    obtain ⟨hplace, hpositions⟩ := @ih (last :: after)
      (by rw [← hlog]; exact h)
      fun entry hmem => hsteps entry (List.mem_append_left _ hmem)
    have hfollows := h _ last after hlog
    have hsplit : before ++ .checkpoint (some start) :: (steps ++ [last]) =
        (before ++ .checkpoint (some start) :: steps) ++ [last] := by
      simp
    have hlast := hsteps last (List.mem_append_right _ List.mem_cons_self)
    rw [hsplit, place_append_singleton, hplace]
    rw [hplace] at hfollows
    cases last with
    | checkpoint position => cases hlast
    | step position =>
      cases position with
      | none =>
        simp only [List.filterMap_append, List.filterMap_cons,
          Entry.stepPosition, List.filterMap_nil, List.append_nil]
        exact ⟨rfl, hpositions⟩
      | some position =>
        have hnext := hfollows _ position rfl rfl
        simp only [List.filterMap_append, List.filterMap_cons,
          Entry.stepPosition, List.filterMap_nil, List.length_append,
          List.length_cons, List.length_nil, List.range_succ, List.map_append,
          List.map_cons, List.map_nil, Entry.place, Option.some_or]
        have hsum : position =
            start + (((steps.filterMap Entry.stepPosition).length + 1 : ℕ) : α) := by
          rw [hnext, Nat.cast_succ, add_assoc]
        rw [← hpositions, hsum]
        exact ⟨rfl, rfl⟩

theorem GapFree.segment (h : GapFree (before ++ .checkpoint (some start) :: steps ++ after))
    (hsteps : ∀ entry ∈ steps, entry.isStep = true) :
    steps.filterMap Entry.stepPosition =
      (List.range (steps.filterMap Entry.stepPosition).length).map
        fun i => start + ((i + 1 : ℕ) : α) :=
  (h.place_segment hsteps).2

/-- No position between the checkpoint and where the feed is now is left out. -/
theorem GapFree.step_mem (h : GapFree (before ++ .checkpoint (some start) :: steps ++ after))
    (hsteps : ∀ entry ∈ steps, entry.isStep = true) {i : ℕ}
    (hi : i < (steps.filterMap Entry.stepPosition).length) :
    .step (some (start + ((i + 1 : ℕ) : α))) ∈ steps := by
  have hmem : start + ((i + 1 : ℕ) : α) ∈ steps.filterMap Entry.stepPosition := by
    rw [h.segment hsteps]
    exact List.mem_map.mpr ⟨i, List.mem_range.mpr hi, rfl⟩
  obtain ⟨entry, hentry, hposition⟩ := List.mem_filterMap.mp hmem
  cases entry with
  | checkpoint position => cases hposition
  | step position =>
    obtain rfl : position = _ := hposition
    exact hentry

end Library
