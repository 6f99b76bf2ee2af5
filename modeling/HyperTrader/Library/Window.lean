import Mathlib.Data.List.Basic
import Mathlib.Data.List.Nodup
import Mathlib.Data.List.TakeWhile
import Mathlib.Algebra.Order.Group.Int

/-!
# Sliding windows over a log

The entries of a log carry a time. `countAfter` counts those after a time, and
`countWithin` those of a window that is open on the left. A log that takes a new entry
only where fewer than `n` are in the window before it never has more than `n` in any
window. A queue that is pruned of what is too old still retains all that counts.
-/

namespace Library

variable {α : Type*} {select : α → Bool} {time : α → ℤ} {log log' : List α}

/-- How many selected entries are later than `start`. -/
def countAfter (select : α → Bool) (time : α → ℤ) (start : ℤ) (log : List α) : ℕ :=
  log.countP fun entry => select entry && start < time entry

/-- How many selected entries are later than `start`, and not later than `stop`. -/
def countWithin (select : α → Bool) (time : α → ℤ) (start stop : ℤ) (log : List α) : ℕ :=
  log.countP fun entry => select entry && start < time entry && time entry ≤ stop

theorem countAfter_append (start : ℤ) (log : List α) (entry : α) :
    countAfter select time start (log ++ [entry]) =
      countAfter select time start log + if select entry && start < time entry then 1 else 0 := by
  simp [countAfter, List.countP_append, List.countP_singleton]

theorem countWithin_append (start stop : ℤ) (log : List α) (entry : α) :
    countWithin select time start stop (log ++ [entry]) =
      countWithin select time start stop log +
        if select entry && start < time entry && time entry ≤ stop then 1 else 0 := by
  simp [countWithin, List.countP_append, List.countP_singleton]

theorem countAfter_of_sublist (h : log.Sublist log') (start : ℤ) :
    countAfter select time start log ≤ countAfter select time start log' :=
  h.countP_le

theorem countWithin_of_sublist (h : log.Sublist log') (start stop : ℤ) :
    countWithin select time start stop log ≤ countWithin select time start stop log' :=
  h.countP_le

theorem countAfter_map {f : α → α} (hselect : ∀ entry, select (f entry) = select entry)
    (htime : ∀ entry, time (f entry) = time entry) (start : ℤ) (log : List α) :
    countAfter select time start (log.map f) = countAfter select time start log := by
  simp [countAfter, List.countP_map, Function.comp_def, hselect, htime]

theorem countWithin_map {f : α → α} (hselect : ∀ entry, select (f entry) = select entry)
    (htime : ∀ entry, time (f entry) = time entry) (start stop : ℤ) (log : List α) :
    countWithin select time start stop (log.map f) = countWithin select time start stop log := by
  simp [countWithin, List.countP_map, Function.comp_def, hselect, htime]

theorem countWithin_le_countAfter {start start' : ℤ} (h : start' ≤ start) (stop : ℤ)
    (log : List α) :
    countWithin select time start stop log ≤ countAfter select time start' log := by
  apply List.countP_mono_left
  intro entry _ hentry
  simp only [Bool.and_eq_true, decide_eq_true_eq] at hentry ⊢
  exact ⟨hentry.1.1, by omega⟩

theorem countAfter_le_of_subset (hnodup : log.Nodup)
    (h : ∀ entry ∈ log, select entry = true → entry ∈ log') (start : ℤ) :
    countAfter select time start log ≤ countAfter select time start log' := by
  unfold countAfter
  rw [List.countP_eq_length_filter, List.countP_eq_length_filter]
  apply (hnodup.filter _).length_le_of_subset
  intro entry hentry
  obtain ⟨hmem, hselected⟩ := List.mem_filter.mp hentry
  exact List.mem_filter.mpr
    ⟨h entry hmem (Bool.and_eq_true_iff.mp hselected).1, hselected⟩

theorem countAfter_filter {horizon start : ℤ} (h : horizon ≤ start) (log : List α) :
    countAfter select time start (log.filter fun entry => horizon ≤ time entry) =
      countAfter select time start log := by
  unfold countAfter
  rw [List.countP_filter]
  apply List.countP_congr
  intro entry _
  simp only [Bool.and_eq_true, decide_eq_true_eq]
  constructor
  · exact And.left
  · exact fun hentry => ⟨hentry, by omega⟩

theorem countWithin_append_le {n : ℕ} {width counted : ℤ} {entry : α}
    (hlog : ∀ stop, countWithin select time (stop - width) stop log ≤ n)
    (hcount : select entry = true → countAfter select time (counted - width) log < n)
    (htime : counted ≤ time entry) (stop : ℤ) :
    countWithin select time (stop - width) stop (log ++ [entry]) ≤ n := by
  rw [countWithin_append]
  split
  · rename_i hentry
    simp only [Bool.and_eq_true, decide_eq_true_eq] at hentry
    have hbefore := @countWithin_le_countAfter _ select time (stop - width) (counted - width)
      (by omega) stop log
    have hroom := hcount hentry.1.1
    omega
  · exact hlog stop

variable {width now later : ℤ} {times queue units : List ℤ}

def pruned (width now : ℤ) (queue : List ℤ) : List ℤ :=
  queue.dropWhile fun time => time ≤ now - width

/-- The queue ends the times, and what it lacks was over at `now`. -/
def Retains (width now : ℤ) (times queue : List ℤ) : Prop :=
  ∃ gone, times = gone ++ queue ∧ ∀ time ∈ gone, time ≤ now - width

/-- How many of the times are in the window of `width` that ends at `stop`. -/
def countTimes (width stop : ℤ) (times : List ℤ) : ℕ :=
  countWithin (fun _ => true) id (stop - width) stop times

theorem Retains.pruned (h : Retains width now times queue) (hlater : now ≤ later) :
    Retains width later times (pruned width later queue) := by
  obtain ⟨gone, rfl, hgone⟩ := h
  refine ⟨gone ++ queue.takeWhile fun time => time ≤ later - width, ?_, fun time htime => ?_⟩
  · rw [List.append_assoc, Library.pruned, List.takeWhile_append_dropWhile]
  · rcases List.mem_append.mp htime with htime | htime
    · exact (hgone time htime).trans (Int.sub_le_sub_right hlater width)
    · simpa using List.mem_takeWhile_imp htime

theorem Retains.append (h : Retains width now times queue) (units : List ℤ) :
    Retains width now (times ++ units) (queue ++ units) := by
  obtain ⟨gone, rfl, hgone⟩ := h
  exact ⟨gone, List.append_assoc .., hgone⟩

theorem Retains.mono (h : Retains width now times queue) (hlater : now ≤ later) :
    Retains width later times queue := by
  obtain ⟨gone, rfl, hgone⟩ := h
  exact ⟨gone, rfl, fun time htime => (hgone time htime).trans (Int.sub_le_sub_right hlater width)⟩

theorem Retains.countAfter_le (h : Retains width now times queue) :
    countAfter (fun _ => true) id (now - width) times ≤ queue.length := by
  obtain ⟨gone, rfl, hgone⟩ := h
  have hnone : (gone.countP fun time => true && decide (now - width < id time)) = 0 := by
    rw [List.countP_eq_zero]
    intro time htime hcounted
    have hle := hgone time htime
    have hlt : now - width < time := by simpa using hcounted
    omega
  unfold countAfter
  rw [List.countP_append, hnone, Nat.zero_add]
  exact List.countP_le_length

theorem countTimes_append_le {limit : ℕ} (hretains : Retains width now times queue)
    (htimes : ∀ stop, countTimes width stop times ≤ limit)
    (hfits : queue.length + units.length ≤ limit) (hunits : ∀ unit ∈ units, now ≤ unit) :
    ∀ stop, countTimes width stop (times ++ units) ≤ limit := by
  induction units generalizing times queue with
  | nil => rwa [List.append_nil]
  | cons unit units ih =>
    rw [List.forall_mem_cons] at hunits
    rw [List.length_cons] at hfits
    have hroom := hretains.countAfter_le
    have hone : ∀ stop, countTimes width stop (times ++ [unit]) ≤ limit :=
      countWithin_append_le htimes (fun _ => by omega) hunits.1
    rw [List.append_cons]
    refine ih (hretains.append [unit]) hone ?_ hunits.2
    rw [List.length_append, List.length_singleton]
    omega

theorem pruned_pruned (hlater : now ≤ later) (queue : List ℤ) :
    pruned width later (pruned width now queue) = pruned width later queue := by
  unfold pruned
  induction queue with
  | nil => rfl
  | cons time queue ih =>
    rw [List.dropWhile_cons]
    split
    · rename_i hold
      have hold : time ≤ now - width := of_decide_eq_true hold
      have hstill : time ≤ later - width := by omega
      rw [ih, List.dropWhile_cons, if_pos (decide_eq_true hstill)]
    · rfl

end Library
