import HyperTrader.Library.Checkpoints
import HyperTrader.Library.Processes
import HyperTrader.Streams.Changes
import Mathlib.Algebra.Ring.Int.Defs

/-!
# Streams are applied without a gap

A ready key of the current run stands where its log stands, so the log of every key is
gap-free. A run whose generation was left is never current again, and nothing that
happens to it reaches the consumer.
-/

namespace HyperTrader

open Library

variable {δ : Type*}

/-! ### The logs -/

def StreamUpdate.entry (key : String) : StreamUpdate δ → Option (Entry ℤ)
  | .baseline other loaded =>
    if other = key then some (.checkpoint loaded.sequence) else none
  | .delta other message =>
    if other = key then some (.step message.sequence) else none

def StreamConsumer.feed (consumer : StreamConsumer δ) (key : String) : List (Entry ℤ) :=
  consumer.applied.filterMap (StreamUpdate.entry key)

theorem SubscriptionRunState.follows_of_position {state : SubscriptionRunState δ}
    {message : ManagedStreamMessage δ} (h : state.position message = .applied) :
    Entry.Follows (some state.lastSequence) (.step message.sequence) := by
  intro last sequence hlast hsequence
  by_contra hne
  unfold SubscriptionRunState.position at h
  simp only [hlast, hsequence, if_pos hne] at h
  split at h
  · cases h
  · split at h
    · cases h
    · cases h

namespace StreamManager

open GenerationRun

/-! ### The invariant -/

/-- The logs are gap-free, and a ready key of the current run stands where its log
does. -/
structure Synced (manager : StreamManager δ) : Prop where
  keyed : manager.Keyed
  gapFree : ∀ key, GapFree (manager.consumer.feed key)
  ready : ∀ i key state, manager.currentRun = some i → manager.state? i key = some state →
    state.baselineReady = true →
      place (manager.consumer.feed key) = some state.lastSequence

theorem synced_create : (create : StreamManager δ).Synced where
  keyed i run key state hrun := by simp [create] at hrun
  gapFree _ := gapFree_nil
  ready i key state hcurrent := by cases hcurrent

variable {update : StreamUpdate δ} {key : String} {manager before after : StreamManager δ} {i : ℕ}
  {f : GenerationRun δ → GenerationRun δ} {state : SubscriptionRunState δ}
  {own : String → ManagedStreamMessage δ → Prop} {event : StreamEvent δ}

theorem feed_apply_of_entry {entry : Entry ℤ}
    (h : update.entry key = some entry) (manager : StreamManager δ) :
    (manager.apply update).consumer.feed key = manager.consumer.feed key ++ [entry] := by
  simp [apply, StreamConsumer.feed, h]

theorem feed_apply_of_none (h : update.entry key = none) (manager : StreamManager δ) :
    (manager.apply update).consumer.feed key = manager.consumer.feed key := by
  simp [apply, StreamConsumer.feed, h]

theorem modifyRun_states_cases {j : ℕ} (h : (manager.modifyRun i f).state? j key = some state) :
    (∃ run, manager.runs[i]? = some run ∧ j = i ∧ (f run).states key = some state) ∨
      j ≠ i ∧ manager.state? j key = some state := by
  unfold state? at h
  rw [Option.bind_eq_some_iff] at h
  obtain ⟨run, hrun, hstate⟩ := h
  rcases getElem?_modify_cases hrun with ⟨old, hold, rfl, rfl⟩ | ⟨hne, hold⟩
  · exact .inl ⟨old, hold, rfl, hstate⟩
  · refine .inr ⟨hne, ?_⟩
    unfold state?
    rw [hold]
    exact hstate

theorem state?_of_run {run : GenerationRun δ} (hrun : manager.runs[i]? = some run)
    (hstate : run.states key = some state) : manager.state? i key = some state := by
  unfold state?
  rw [hrun]
  exact hstate

theorem Owned.changed (h : manager.Owned own) (i : ℕ) (tame : ∀ run, Tame own run (f run)) :
    (manager.modifyRun i f).Owned own := by
  intro j run key state hrun hstate message hmem
  rcases getElem?_modify_cases hrun with ⟨old, hold, rfl, rfl⟩ | ⟨-, hold⟩
  · rcases (tame old).states key state hstate with hunready | ⟨before, hbefore, hquiet⟩
    · exact hunready.buffer message hmem
    · rcases hquiet.buffer message hmem with hkept | hkey
      · exact h j old key before hold hbefore message hkept
      · exact hkey
  · exact h j run key state hold hstate message hmem

theorem Owned.modifyState (h : manager.Owned own) (i : ℕ)
    (key : String) {f : SubscriptionRunState δ → SubscriptionRunState δ}
    (hf : ∀ state, (f state).buffer ⊆ state.buffer) :
    (manager.modifyRun i (.modifyState key f)).Owned own := by
  intro j run other state hrun hstate message hmem
  rcases getElem?_modify_cases hrun with ⟨old, hold, rfl, rfl⟩ | ⟨-, hold⟩
  · by_cases hother : other = key
    · subst hother
      rw [modifyState_states_self, Option.map_eq_some_iff] at hstate
      obtain ⟨before, hbefore, rfl⟩ := hstate
      exact h j old other before hold hbefore message (hf before hmem)
    · rw [modifyState_states_of_ne hother] at hstate
      exact h j old other state hold hstate message hmem
  · exact h j run other state hold hstate message hmem

theorem Owned.advanced (h : manager.Owned own) : manager.advanceGeneration.Owned own := by
  cases hcurrent : manager.currentRun with
  | none =>
    intro i run key state hrun
    simp only [advanceGeneration, hcurrent, Option.elim_none] at hrun
    exact h i run key state hrun
  | some current =>
    intro i run key state hrun
    simp only [advanceGeneration, hcurrent, Option.elim_some] at hrun
    exact h.changed current tame_teardown i run key state hrun

theorem Owned.started (h : manager.Owned own) : manager.startGeneration.Owned own := by
  intro i run key state hrun hstate
  rcases getElem?_append_cases hrun with hold | ⟨-, rfl⟩
  · exact h i run key state hold hstate
  · cases hstate

theorem Owned.change (h : before.Owned own)
    (hchange : Change own before after) : after.Owned own := by
  cases hchange with
  | kept generation currentRun runs applied =>
    unfold Owned
    rw [runs]
    exact h
  | advanced => exact h.advanced
  | started => exact h.started
  | changed i tame => exact h.changed i tame
  | @delta i state message current known ready position owned =>
    exact h.modifyState i message.key fun _ => List.Subset.refl _
  | @baseline i key baseline f current sequence buffer =>
    apply h.modifyState i key
    intro state
    rw [buffer state]
    exact List.nil_subset _

theorem Owned.changes (h : before.Owned own)
    (hchanges : Changes own before after) : after.Owned own := by
  induction hchanges with
  | refl => exact h
  | tail _ hchange ih => exact ih.change hchange

theorem Synced.advanced (h : manager.Synced) :
    manager.advanceGeneration.Synced where
  keyed := Owned.advanced h.keyed
  gapFree := h.gapFree
  ready i key state hcurrent := by cases hcurrent

theorem Synced.started (h : manager.Synced) :
    manager.startGeneration.Synced where
  keyed := Owned.started h.keyed
  gapFree := h.gapFree
  ready i key state hcurrent hstate := by
    cases hcurrent
    simp [state?, startGeneration, GenerationRun.started] at hstate

theorem Synced.changed (h : manager.Synced) (i : ℕ)
    (tame : ∀ run, Tame (fun key message => message.key = key) run (f run)) :
    (manager.modifyRun i f).Synced where
  keyed := Owned.changed h.keyed i tame
  gapFree := h.gapFree
  ready j key state hcurrent hstate hready := by
    rcases modifyRun_states_cases hstate with ⟨run, hrun, rfl, hnew⟩ | ⟨-, hold⟩
    · rcases (tame run).states key state hnew with hunready | ⟨before, hbefore, hquiet⟩
      · rw [hunready.ready] at hready
        cases hready
      · obtain ⟨hwas, hlast⟩ := hquiet.ready hready
        rw [hlast]
        exact h.ready j key before hcurrent (state?_of_run hrun hbefore) hwas
    · exact h.ready j key state hcurrent hold hready

theorem Synced.applied (h : manager.Synced) (hcurrent : manager.currentRun = some i)
    {entry : Entry ℤ} {f : SubscriptionRunState δ → SubscriptionRunState δ}
    (hself : update.entry key = some entry)
    (hother : ∀ other, other ≠ key → update.entry other = none)
    (hfollows : Entry.Follows (place (manager.consumer.feed key)) entry)
    (hkeyed : ((manager.apply update).modifyRun i (.modifyState key f)).Keyed)
    (hlast : ∀ state, manager.state? i key = some state →
      Entry.place (place (manager.consumer.feed key)) entry = some (f state).lastSequence) :
    ((manager.apply update).modifyRun i (.modifyState key f)).Synced := by
  constructor
  · exact hkeyed
  · intro other
    by_cases hne : other = key
    · subst hne
      have hfeed := feed_apply_of_entry hself manager
      change GapFree ((manager.apply update).consumer.feed other)
      rw [hfeed]
      exact (h.gapFree other).append_singleton hfollows
    · have hfeed := feed_apply_of_none (hother other hne) manager
      change GapFree ((manager.apply update).consumer.feed other)
      rw [hfeed]
      exact h.gapFree other
  · intro j other state hj hstate hready
    have hsame : j = i := Option.some.inj (hj.symm.trans hcurrent)
    subst hsame
    change place ((manager.apply update).consumer.feed other) = some state.lastSequence
    rcases modifyRun_states_cases hstate with ⟨run, hrun, -, hnew⟩ | ⟨hne, -⟩
    · by_cases hne : other = key
      · subst hne
        rw [modifyState_states_self, Option.map_eq_some_iff] at hnew
        obtain ⟨before, hbefore, rfl⟩ := hnew
        rw [feed_apply_of_entry hself, place_append_singleton]
        exact hlast before (state?_of_run hrun hbefore)
      · rw [modifyState_states_of_ne hne] at hnew
        rw [feed_apply_of_none (hother other hne)]
        exact h.ready j other state hj (state?_of_run hrun hnew) hready
    · exact absurd rfl hne

theorem Synced.change (h : before.Synced)
    (hchange : Change (fun key message => message.key = key) before after) : after.Synced := by
  have hkeyed : after.Keyed := Owned.change h.keyed hchange
  cases hchange with
  | kept generation currentRun runs applied =>
    have hfeed : after.consumer.feed = before.consumer.feed := by
      funext key
      unfold StreamConsumer.feed
      rw [applied]
    constructor
    · exact hkeyed
    · rw [hfeed]
      exact h.gapFree
    · unfold state?
      rw [hfeed, currentRun, runs]
      exact h.ready
  | advanced => exact h.advanced
  | started => exact h.started
  | changed i tame => exact h.changed i tame
  | @delta i state message current known ready position owned =>
    have hplace := h.ready i message.key state current known ready
    have hfollows := SubscriptionRunState.follows_of_position position
    rw [← hplace] at hfollows
    have hself : (StreamUpdate.delta message.key message).entry message.key =
        some (.step message.sequence) := by
      simp [StreamUpdate.entry]
    refine h.applied current hself ?_ hfollows hkeyed ?_
    · intro other hne
      simp [StreamUpdate.entry, hne.symm]
    · intro other hother
      have hsame : other = state := Option.some.inj (hother.symm.trans known)
      rw [hplace, hsame]
      rfl
  | @baseline i key baseline f current sequence buffer =>
    have hself : (StreamUpdate.baseline key baseline).entry key =
        some (.checkpoint baseline.sequence) := by
      simp [StreamUpdate.entry]
    refine h.applied current hself ?_ trivial hkeyed ?_
    · intro other hne
      simp [StreamUpdate.entry, hne.symm]
    · intro state _
      rw [sequence state]
      rfl

theorem Synced.changes (h : before.Synced)
    (hchanges : Changes (fun key message => message.key = key) before after) : after.Synced := by
  induction hchanges with
  | refl => exact h
  | tail _ hchange ih => exact ih.change hchange

theorem Synced.step (options : StreamManagerOptions)
    (h : manager.Synced) (event : StreamEvent δ) : (manager.step options event).Synced :=
  h.changes (changes_step options h.keyed event)

theorem synced_of_run (options : StreamManagerOptions) (events : List (StreamEvent δ)) :
    (run (step options) create events).Synced :=
  run_invariant (fun _ event h => h.step options event) synced_create events

/-! ### Superseded generations -/

structure Aged (before after : StreamManager δ) : Prop where
  generation : before.generation ≤ after.generation
  runs : ∀ (i : ℕ) (run : GenerationRun δ), before.runs[i]? = some run →
    ∃ later : GenerationRun δ, after.runs[i]? = some later ∧ later.generation = run.generation

theorem Aged.refl (manager : StreamManager δ) : Aged manager manager :=
  ⟨Nat.le_refl _, fun _ run hrun => ⟨run, hrun, rfl⟩⟩

theorem Aged.trans {first second third : StreamManager δ} (h : Aged first second)
    (h' : Aged second third) : Aged first third where
  generation := Nat.le_trans h.generation h'.generation
  runs i run hrun := by
    obtain ⟨middle, hmiddle, hgeneration⟩ := h.runs i run hrun
    obtain ⟨later, hlater, hgeneration'⟩ := h'.runs i middle hmiddle
    exact ⟨later, hlater, hgeneration'.trans hgeneration⟩

theorem aged_modifyRun (manager : StreamManager δ) (i : ℕ)
    (hf : ∀ run, (f run).generation = run.generation) :
    Aged manager (manager.modifyRun i f) where
  generation := Nat.le_refl _
  runs j run hrun := by
    refine ⟨if i = j then f run else run, ?_, ?_⟩
    · simp [modifyRun, List.getElem?_modify, hrun]
    · split
      · exact hf run
      · rfl

theorem aged_modifyState (key : String)
    (f : SubscriptionRunState δ → SubscriptionRunState δ) (run : GenerationRun δ) :
    (run.modifyState key f).generation = run.generation := rfl

theorem aged_change (h : Change own before after) : Aged before after := by
  cases h with
  | kept generation currentRun runs applied =>
    constructor
    · rw [generation]
    · intro i run hrun
      rw [runs]
      exact ⟨run, hrun, rfl⟩
  | advanced =>
    constructor
    · exact Nat.le_succ _
    · intro i run hrun
      cases hcurrent : before.currentRun with
      | none =>
        simp only [advanceGeneration, hcurrent, Option.elim_none]
        exact ⟨run, hrun, rfl⟩
      | some current =>
        simp only [advanceGeneration, hcurrent, Option.elim_some]
        have hteardown : ∀ run : GenerationRun δ,
            run.teardown.generation = run.generation := fun _ => rfl
        exact (aged_modifyRun before current hteardown).runs i run hrun
  | started =>
    constructor
    · exact Nat.le_refl _
    · intro i run hrun
      exact ⟨run, getElem?_append_of_some hrun _, rfl⟩
  | changed i tame => exact aged_modifyRun before i fun run => (tame run).generation
  | @delta i state message current known ready position owned =>
    have haged := aged_modifyRun before i
      (aged_modifyState message.key (.advance message))
    exact ⟨haged.generation, haged.runs⟩
  | @baseline i key baseline f current sequence buffer =>
    have haged := aged_modifyRun before i (aged_modifyState key f)
    exact ⟨haged.generation, haged.runs⟩

theorem aged_changes (h : Changes own before after) : Aged before after := by
  induction h with
  | refl => exact .refl before
  | tail _ hchange ih => exact ih.trans (aged_change hchange)

theorem aged_run (options : StreamManagerOptions)
    (h : manager.Synced) (events : List (StreamEvent δ)) :
    Aged manager (run (step options) manager events) := by
  have hstep : ∀ (before : StreamManager δ) (event : StreamEvent δ), before.Synced →
      Aged before (before.step options event) :=
    fun before event hbefore => aged_changes (changes_step options hbefore.keyed event)
  exact run_relation Aged.refl (fun _ _ _ h h' => h.trans h')
    (fun _ event hbefore => hbefore.step options event) hstep h events

def runOf : StreamEvent δ → Option ℕ
  | .setSubscriptions _ | .setEnvironment .. | .close | .reconnect _ => none
  | .connected i _ | .message i _ | .disconnected i | .heartbeat i _ | .loaded i _ _
  | .settled i _ | .caught i _ | .established i => some i

/-- The generation that an event belongs to; a call belongs to none. -/
def generationOf (manager : StreamManager δ) : StreamEvent δ → Option ℕ
  | .reconnect candidateGeneration => some candidateGeneration
  | event => (runOf event).bind fun i => (manager.runs[i]?).map (·.generation)

def Superseded (manager : StreamManager δ) (event : StreamEvent δ) : Prop :=
  ∃ generation, manager.generationOf event = some generation ∧
    generation < manager.generation

theorem isCurrent_eq_false {run : GenerationRun δ}
    (hrun : manager.runs[i]? = some run) (hlt : run.generation < manager.generation) :
    manager.isCurrent i = false := by
  have hne := Nat.ne_of_lt hlt
  simp [isCurrent, hrun, hne]

theorem failRun_of_not_current (options : StreamManagerOptions) (h : manager.isCurrent i = false)
    (error : StreamError) : manager.failRun options i error = manager := by
  unfold failRun
  rw [if_pos (.inl h)]

theorem consumer_connected (options : StreamManagerOptions)
    {run : GenerationRun δ} (hrun : manager.runs[i]? = some run)
    (hlt : run.generation < manager.generation) (result : ConnectResult) :
    (manager.connected options i result).consumer = manager.consumer := by
  have hcurrent := isCurrent_eq_false hrun hlt
  cases result with
  | failed =>
    have hconnecting : ∀ run : GenerationRun δ,
        ({ run with connecting := false }).generation = run.generation := fun _ => rfl
    have haged := aged_modifyRun manager i hconnecting
    obtain ⟨later, hlater, hgeneration⟩ := haged.runs i run hrun
    rw [← hgeneration] at hlt
    unfold connected
    rw [failRun_of_not_current options (isCurrent_eq_false hlater hlt)]
    rfl
  | opened =>
    unfold connected
    dsimp only
    rw [if_pos hcurrent]
    rfl
  | subscribeThrows =>
    unfold connected
    dsimp only
    rw [if_pos hcurrent]
    rfl

theorem consumer_loaded (options : StreamManagerOptions)
    (h : manager.isCurrent i = false) (j : ℕ) (operation : RebaselineOperation)
    (baseline : Option (ManagedStreamBaseline δ)) :
    (manager.loaded options i j operation baseline).consumer = manager.consumer := by
  cases baseline with
  | none => rfl
  | some baseline =>
    unfold loaded
    dsimp only
    rw [if_pos h]
    rfl

/-- Nothing that a superseded run brings reaches the consumer. -/
theorem consumer_step (options : StreamManagerOptions) (h : manager.Superseded event) :
    (manager.step options event).consumer = manager.consumer := by
  obtain ⟨generation, hgeneration, hlt⟩ := h
  cases hrunOf : runOf event with
  | none =>
    cases event with
    | reconnect candidateGeneration =>
      cases hgeneration
      unfold step
      dsimp only
      rw [if_pos (.inl (Nat.ne_of_lt hlt))]
    | setSubscriptions next => cases hgeneration
    | setEnvironment foreground online => cases hgeneration
    | close => cases hgeneration
    | connected i result => cases hrunOf
    | message i message => cases hrunOf
    | disconnected i => cases hrunOf
    | heartbeat i pingThrows => cases hrunOf
    | loaded i j baseline => cases hrunOf
    | settled i j => cases hrunOf
    | caught i j => cases hrunOf
    | established i => cases hrunOf
  | some i =>
    have hrun : ∃ run, manager.runs[i]? = some run ∧ run.generation = generation := by
      cases event <;> cases hrunOf <;>
        exact Option.map_eq_some_iff.mp hgeneration
    obtain ⟨run, hrun, rfl⟩ := hrun
    have hcurrent := isCurrent_eq_false hrun hlt
    cases event with
    | reconnect candidateGeneration => cases hrunOf
    | setSubscriptions next => cases hrunOf
    | setEnvironment foreground online => cases hrunOf
    | close => cases hrunOf
    | connected i result =>
      cases hrunOf
      unfold step
      dsimp only
      split
      · exact consumer_connected options hrun hlt result
      · rfl
    | message i message =>
      cases hrunOf
      unfold step handleMessage
      dsimp only
      rw [if_pos (.inl hcurrent)]
    | disconnected i =>
      cases hrunOf
      unfold step
      dsimp only
      rw [failRun_of_not_current options hcurrent]
    | heartbeat i pingThrows =>
      cases hrunOf
      unfold step
      dsimp only
      rw [failRun_of_not_current options hcurrent, ite_self]
    | loaded i j baseline =>
      cases hrunOf
      unfold step
      dsimp only
      cases manager.operation? i j with
      | none => rfl
      | some operation =>
        dsimp only
        split
        · exact consumer_loaded options hcurrent j operation baseline
        · rfl
    | settled i j =>
      cases hrunOf
      unfold step
      dsimp only
      cases manager.operation? i j with
      | none => rfl
      | some operation =>
        dsimp only
        split
        · rfl
        · rfl
    | caught i j =>
      cases hrunOf
      unfold step
      dsimp only
      cases manager.operation? i j with
      | none => rfl
      | some operation =>
        dsimp only
        split
        · rw [failRun_of_not_current options hcurrent]
        · rfl
        · rfl
    | established i =>
      cases hrunOf
      unfold step
      dsimp only
      split
      · rfl
      · rfl

theorem Superseded.aged (h : before.Superseded event) (haged : Aged before after) :
    after.Superseded event := by
  obtain ⟨generation, hgeneration, hlt⟩ := h
  refine ⟨generation, ?_, Nat.lt_of_lt_of_le hlt haged.generation⟩
  cases hrunOf : runOf event with
  | none => cases event <;> cases hrunOf <;> exact hgeneration
  | some i =>
    have hrun : ∃ run, before.runs[i]? = some run ∧ run.generation = generation := by
      cases event <;> cases hrunOf <;>
        exact Option.map_eq_some_iff.mp hgeneration
    obtain ⟨run, hrun, rfl⟩ := hrun
    obtain ⟨later, hlater, hsame⟩ := haged.runs i run hrun
    cases event <;> cases hrunOf <;>
      exact Option.map_eq_some_iff.mpr ⟨later, hlater, hsame⟩

end StreamManager

end HyperTrader
