import HyperTrader.Streams.Continuity

/-!
# What a key received since its baseline

The messages of a key that its last baseline found waiting, or that were received since,
are kept beside the manager. A rule about them that a baseline starts, and that every
message keeps which is applied or ignored, holds of a ready key in every run: a gap ends the
readiness.
-/

namespace HyperTrader

open Library

variable {δ : Type*}

def StreamUpdate.delta? (key : String) : StreamUpdate δ → Option (ManagedStreamMessage δ)
  | .baseline .. => none
  | .delta other message => if other = key then some message else none

def StreamConsumer.deltas (consumer : StreamConsumer δ) (key : String) :
    List (ManagedStreamMessage δ) :=
  consumer.applied.filterMap (StreamUpdate.delta? key)

/-- A manager with the messages of one key that its last baseline found waiting, or that
were received since. -/
structure HeardStream (δ : Type*) where
  manager : StreamManager δ
  received : List (ManagedStreamMessage δ)

namespace HeardStream

def create : HeardStream δ := ⟨.create, []⟩

def hear (key : String) (heard : HeardStream δ) :
    StreamEvent δ → List (ManagedStreamMessage δ)
  | .message i message =>
    if heard.manager.isCurrent i = true ∧ message.isSnapshot = false ∧ message.key = key then
      heard.received ++ [message]
    else heard.received
  | .loaded i j (some _) =>
    match heard.manager.operation? i j with
    | none => heard.received
    | some operation =>
      if operation.stage = .loading ∧ operation.key = key ∧
          heard.manager.isCurrent i = true then
        -- what overflowed is thrown away, and another baseline follows
        (heard.manager.state? i key).elim [] fun state =>
          if state.bufferOverflowed then [] else state.buffer
      else heard.received
  | _ => heard.received

def step (options : StreamManagerOptions) (key : String) (heard : HeardStream δ)
    (event : StreamEvent δ) : HeardStream δ where
  manager := heard.manager.step options event
  received := heard.hear key event

def Live (key : String) (heard : HeardStream δ) : Prop :=
  ∃ i state, heard.manager.currentRun = some i ∧ heard.manager.state? i key = some state ∧
    state.baselineReady = true

end HeardStream

namespace StreamManager

open GenerationRun

variable {own : String → ManagedStreamMessage δ → Prop}

/-! ### Changes that do not reach a key -/

variable {manager before after : StreamManager δ} {i j : ℕ} {update : StreamUpdate δ}
  {message : ManagedStreamMessage δ} {buffered : List (ManagedStreamMessage δ)}
  {operation : RebaselineOperation} {old : SubscriptionRunState δ}
  {f : GenerationRun δ → GenerationRun δ}

theorem Owned.state (h : manager.Owned own) {key : String}
    {state : SubscriptionRunState δ} (hstate : manager.state? i key = some state) :
    ∀ message ∈ state.buffer, own key message := by
  unfold state? at hstate
  rw [Option.bind_eq_some_iff] at hstate
  obtain ⟨run, hrun, hstate⟩ := hstate
  exact h i run key state hrun hstate

/-- The consumer was given nothing of the key, and the key became ready in no run. -/
structure Still (key : String) (before after : StreamManager δ) : Prop where
  feed : after.consumer.feed key = before.consumer.feed key
  deltas : after.consumer.deltas key = before.consumer.deltas key
  ready : ∀ i state, after.currentRun = some i → after.state? i key = some state →
    state.baselineReady = true → before.currentRun = some i ∧
      ∃ old, before.state? i key = some old ∧ old.baselineReady = true ∧
        old.lastSequence = state.lastSequence ∧ old.seenIds = state.seenIds

theorem Still.refl (key : String) (manager : StreamManager δ) : Still key manager manager :=
  ⟨rfl, rfl, fun _ state hcurrent hstate hready =>
    ⟨hcurrent, state, hstate, hready, rfl, rfl⟩⟩

theorem Still.trans {key : String} {first second third : StreamManager δ}
    (h : Still key first second) (h' : Still key second third) : Still key first third where
  feed := h'.feed.trans h.feed
  deltas := h'.deltas.trans h.deltas
  ready i state hcurrent hstate hready := by
    obtain ⟨hcurrent, middle, hmiddle, hready, hlast, hseen⟩ :=
      h'.ready i state hcurrent hstate hready
    obtain ⟨hcurrent, old, hold, hready, hlast', hseen'⟩ :=
      h.ready i middle hcurrent hmiddle hready
    exact ⟨hcurrent, old, hold, hready, hlast'.trans hlast, hseen'.trans hseen⟩

theorem deltas_apply (manager : StreamManager δ) (update : StreamUpdate δ) (key : String) :
    (manager.apply update).consumer.deltas key =
      manager.consumer.deltas key ++ (update.delta? key).toList := by
  unfold apply StreamConsumer.deltas
  rw [List.filterMap_append]
  cases h : update.delta? key with
  | none => simp [h]
  | some message => simp [h]

theorem delta?_of_entry {key : String}
    (h : update.entry key = none) : update.delta? key = none := by
  cases update with
  | baseline other loaded => rfl
  | delta other message =>
    by_cases hother : other = key
    · simp [StreamUpdate.entry, hother] at h
    · simp [StreamUpdate.delta?, hother]

theorem still_of_other
    {key other : String} (hentry : update.entry key = none) (hne : key ≠ other) (i : ℕ)
    (f : SubscriptionRunState δ → SubscriptionRunState δ) :
    Still key manager ((manager.apply update).modifyRun i (.modifyState other f)) where
  feed := feed_apply_of_none hentry manager
  deltas := by
    have hdeltas := deltas_apply manager update key
    rw [delta?_of_entry hentry, Option.toList_none, List.append_nil] at hdeltas
    exact hdeltas
  ready j state hcurrent hstate hready := by
    refine ⟨hcurrent, ?_⟩
    rcases modifyRun_states_cases hstate with ⟨run, hrun, rfl, hnew⟩ | ⟨-, hold⟩
    · rw [modifyState_states_of_ne hne] at hnew
      exact ⟨state, state?_of_run hrun hnew, hready, rfl, rfl⟩
    · exact ⟨state, hold, hready, rfl, rfl⟩

theorem still_or_entry (h : Change own before after) (key : String) :
    Still key before after ∨
      ∃ entry, after.consumer.feed key = before.consumer.feed key ++ [entry] := by
  cases h with
  | kept generation currentRun runs applied =>
    left
    constructor
    · unfold StreamConsumer.feed
      rw [applied]
    · unfold StreamConsumer.deltas
      rw [applied]
    · intro i state hcurrent hstate hready
      unfold state? at hstate
      rw [runs] at hstate
      exact ⟨currentRun ▸ hcurrent, state, hstate, hready, rfl, rfl⟩
  | advanced => exact .inl ⟨rfl, rfl, fun _ _ hcurrent => by cases hcurrent⟩
  | started =>
    left
    constructor
    · rfl
    · rfl
    · intro i state hcurrent hstate
      cases hcurrent
      simp [state?, startGeneration, GenerationRun.started] at hstate
  | changed i tame =>
    left
    constructor
    · rfl
    · rfl
    · intro j state hcurrent hstate hready
      refine ⟨hcurrent, ?_⟩
      rcases modifyRun_states_cases hstate with ⟨run, hrun, rfl, hnew⟩ | ⟨-, hold⟩
      · rcases (tame run).states key state hnew with hunready | ⟨old, hold, hquiet⟩
        · rw [hunready.ready] at hready
          cases hready
        · exact ⟨old, state?_of_run hrun hold, (hquiet.ready hready).1,
            (hquiet.ready hready).2.symm, (hquiet.seenIds hready).symm⟩
      · exact ⟨state, hold, hready, rfl, rfl⟩
  | @delta i state message current known ready position owned =>
    by_cases hkey : message.key = key
    · right
      have hentry : (StreamUpdate.delta message.key message).entry key =
          some (.step message.sequence) := by
        simp [StreamUpdate.entry, hkey]
      exact ⟨_, feed_apply_of_entry hentry before⟩
    · left
      have hentry : (StreamUpdate.delta message.key message).entry key = none := by
        simp [StreamUpdate.entry, hkey]
      exact still_of_other hentry (Ne.symm hkey) i (.advance message)
  | @baseline i other baseline f current sequence buffer =>
    by_cases hkey : other = key
    · right
      have hentry : (StreamUpdate.baseline other baseline).entry key =
          some (.checkpoint baseline.sequence) := by
        simp [StreamUpdate.entry, hkey]
      exact ⟨_, feed_apply_of_entry hentry before⟩
    · left
      have hentry : (StreamUpdate.baseline other baseline).entry key = none := by
        simp [StreamUpdate.entry, hkey]
      exact still_of_other hentry (Ne.symm hkey) i f

theorem still_of_feed (h : Changes own before after)
    {key : String} (hfeed : after.consumer.feed key = before.consumer.feed key) :
    Still key before after := by
  have hgrown : ∃ entries, after.consumer.feed key = before.consumer.feed key ++ entries ∧
      (entries = [] → Still key before after) := by
    clear hfeed
    induction h with
    | refl => exact ⟨[], by simp, fun _ => .refl key before⟩
    | tail _ hchange ih =>
      obtain ⟨entries, hentries, hstill⟩ := ih
      rcases still_or_entry hchange key with hnext | ⟨entry, hentry⟩
      · exact ⟨entries, hnext.feed.trans hentries, fun hnil => (hstill hnil).trans hnext⟩
      · refine ⟨entries ++ [entry], ?_, fun hnil => ?_⟩
        · rw [hentry, hentries, List.append_assoc]
        · simp at hnil
  obtain ⟨entries, hentries, hstill⟩ := hgrown
  apply hstill
  rw [hfeed] at hentries
  simpa using hentries

theorem deltas_owned (h : Changes own before after)
    {key : String} (hbefore : ∀ message ∈ before.consumer.deltas key, own key message) :
    ∀ message ∈ after.consumer.deltas key, own key message := by
  induction h with
  | refl => exact hbefore
  | @tail middle _ _ hchange ih =>
    cases hchange with
    | kept generation currentRun runs applied =>
      unfold StreamConsumer.deltas
      rw [applied]
      exact ih
    | advanced => exact ih
    | started => exact ih
    | changed i tame => exact ih
    | @delta i state message current known ready position owned =>
      rw [deltas_apply]
      intro other hmem
      rcases List.mem_append.mp hmem with hold | hnew
      · exact ih other hold
      · rw [Option.mem_toList, StreamUpdate.delta?, Option.ite_none_right_eq_some] at hnew
        obtain ⟨rfl, hsame⟩ := hnew
        rw [← Option.some.inj hsame]
        exact owned
    | @baseline i other baseline f current sequence buffer =>
      have hdeltas := deltas_apply middle (.baseline other baseline) key
      rw [StreamUpdate.delta?, Option.toList_none, List.append_nil] at hdeltas
      intro message hmem
      exact ih message (hdeltas ▸ hmem)

/-! ### Events that do not reach a key -/

theorem feed_failRun (options : StreamManagerOptions) (manager : StreamManager δ) (i : ℕ)
    (error : StreamError) (key : String) :
    (manager.failRun options i error).consumer.feed key = manager.consumer.feed key := by
  unfold failRun
  split
  · rfl
  · dsimp only [scheduleReconnect]
    split <;> rfl

theorem feed_restartIfEligible (manager : StreamManager δ) (key : String) :
    manager.restartIfEligible.consumer.feed key = manager.consumer.feed key := by
  unfold restartIfEligible
  dsimp only
  split <;> rfl

theorem feed_connected (options : StreamManagerOptions) (manager : StreamManager δ) (i : ℕ)
    (result : ConnectResult) (key : String) :
    (manager.connected options i result).consumer.feed key = manager.consumer.feed key := by
  cases result with
  | failed => exact feed_failRun options _ i .connect key
  | opened =>
    unfold connected
    dsimp only
    split <;> rfl
  | subscribeThrows =>
    unfold connected
    dsimp only
    split
    · rfl
    · exact feed_failRun options _ i .subscribe key

theorem feed_processReadyMessage (options : StreamManagerOptions) (manager : StreamManager δ)
    (i : ℕ) (other : String) (state : SubscriptionRunState δ)
    {key : String} (hne : message.key ≠ key) (allowRebaseline : Bool) :
    (manager.processReadyMessage options i other state message allowRebaseline).1.consumer.feed
      key = manager.consumer.feed key := by
  unfold processReadyMessage
  split
  · rfl
  · cases state.position message with
    | ignored => rfl
    | gap => cases allowRebaseline <;> rfl
    | applied =>
      have hentry : (StreamUpdate.delta message.key message).entry key = none := by
        simp [StreamUpdate.entry, hne]
      exact feed_apply_of_none hentry _

theorem feed_replay (options : StreamManagerOptions) (i : ℕ) (other : String) {key : String}
    (manager : StreamManager δ)
    (persistentGap : Bool) (hne : ∀ message ∈ buffered, message.key ≠ key) :
    (replay options i other manager buffered persistentGap).1.consumer.feed key =
      manager.consumer.feed key := by
  induction buffered generalizing manager persistentGap with
  | nil => rfl
  | cons message buffered ih =>
    have hrest := fun later hmem => hne later (List.mem_cons_of_mem message hmem)
    have hfirst := hne message List.mem_cons_self
    unfold replay
    cases manager.state? i other with
    | none => rfl
    | some state =>
      dsimp only
      split
      · exact ih _ persistentGap hrest
      · have hprocessed :=
          feed_processReadyMessage options manager i other state hfirst false
        split
        · exact (ih _ true hrest).trans hprocessed
        · exact (ih _ persistentGap hrest).trans hprocessed

theorem feed_rebaselined (options : StreamManagerOptions) (manager : StreamManager δ)
    (i j : ℕ) {state : SubscriptionRunState δ}
    (baseline : ManagedStreamBaseline δ) {key : String} (hne : operation.key ≠ key)
    (hbuffer : ∀ message ∈ state.buffer, message.key ≠ key) :
    (manager.rebaselined options i j operation state baseline).consumer.feed key =
      manager.consumer.feed key := by
  have hentry : (StreamUpdate.baseline operation.key baseline).entry key = none := by
    simp [StreamUpdate.entry, hne]
  have hfeed := feed_apply_of_none hentry manager
  unfold rebaselined
  dsimp only
  split
  · exact hfeed
  · have hreplayed := fun ready : StreamManager δ =>
      feed_replay options i operation.key ready false hbuffer
    split
    · split
      · exact (hreplayed _).trans hfeed
      · exact (hreplayed _).trans hfeed
    · exact (hreplayed _).trans hfeed

/-- Only a message of a key and a baseline of it reach the log of the key. -/
def Reaches (manager : StreamManager δ) (key : String) : StreamEvent δ → Prop
  | .message _ message => message.key = key
  | .loaded i j (some _) => ∃ operation, manager.operation? i j = some operation ∧
      operation.key = key ∧ operation.stage = .loading ∧ manager.isCurrent i = true
  | _ => False

theorem reaches_cases {key : String} {event : StreamEvent δ} (h : manager.Reaches key event) :
    (∃ i message, event = .message i message ∧ message.key = key) ∨
      ∃ i j baseline operation, event = .loaded i j (some baseline) ∧
        manager.operation? i j = some operation ∧ operation.key = key ∧
        operation.stage = .loading ∧ manager.isCurrent i = true := by
  cases event with
  | message i message => exact .inl ⟨i, message, rfl, h⟩
  | loaded i j baseline =>
    cases baseline with
    | none => cases h
    | some baseline =>
      obtain ⟨operation, hoperation⟩ := h
      exact .inr ⟨i, j, baseline, operation, rfl, hoperation⟩
  | setSubscriptions next => cases h
  | setEnvironment foreground online => cases h
  | close => cases h
  | connected i result => cases h
  | disconnected i => cases h
  | heartbeat i pingThrows => cases h
  | reconnect candidateGeneration => cases h
  | settled i j => cases h
  | caught i j => cases h
  | established i => cases h

theorem feed_loaded (options : StreamManagerOptions) (hkeyed : manager.Keyed) {key : String}
    {baseline : Option (ManagedStreamBaseline δ)}
    (hreaches : manager.isCurrent i = true → baseline.isSome = true → operation.key ≠ key) :
    (manager.loaded options i j operation baseline).consumer.feed key =
      manager.consumer.feed key := by
  cases baseline with
  | none => rfl
  | some baseline =>
    unfold loaded
    dsimp only
    split
    · rfl
    · rename_i hcurrent
      rw [Bool.not_eq_false] at hcurrent
      have hne := hreaches hcurrent rfl
      cases hstate : manager.state? i operation.key with
      | none => rfl
      | some state =>
        unfold state? at hstate
        rw [Option.bind_eq_some_iff] at hstate
        obtain ⟨run, hrun, hstate⟩ := hstate
        apply feed_rebaselined options manager i j baseline hne
        intro message hmem
        rw [hkeyed i run operation.key state hrun hstate message hmem]
        exact hne

/-- An event that does not reach a key leaves its log alone. -/
theorem feed_step (options : StreamManagerOptions)
    (hkeyed : manager.Keyed) {key : String} {event : StreamEvent δ}
    (hreaches : ¬ manager.Reaches key event) :
    (manager.step options event).consumer.feed key = manager.consumer.feed key := by
  cases event with
  | setSubscriptions next =>
    unfold step
    dsimp only
    split
    · exact feed_restartIfEligible _ key
    · split <;> rfl
  | setEnvironment foreground online =>
    unfold step
    dsimp only
    split
    · rfl
    · exact feed_restartIfEligible _ key
  | close => rfl
  | connected i result =>
    unfold step
    dsimp only
    split
    · exact feed_connected options manager i result key
    · rfl
  | message i message =>
    unfold step handleMessage
    dsimp only
    split
    · rfl
    · cases manager.state? i message.key with
      | none => rfl
      | some state =>
        dsimp only
        split
        · rfl
        · exact feed_processReadyMessage options manager i _ state hreaches true
  | disconnected i => exact feed_failRun options manager i .disconnect key
  | heartbeat i pingThrows =>
    unfold step
    dsimp only
    split
    · exact feed_failRun options manager i .ping key
    · rfl
  | reconnect candidateGeneration =>
    unfold step
    dsimp only
    split <;> rfl
  | loaded i j baseline =>
    unfold step
    dsimp only
    cases hoperation : manager.operation? i j with
    | none => rfl
    | some operation =>
      dsimp only
      split
      · rename_i hloading
        apply feed_loaded options hkeyed
        intro hcurrent hbaseline hkey
        obtain ⟨loaded, rfl⟩ := Option.isSome_iff_exists.mp hbaseline
        exact hreaches ⟨operation, hoperation, hkey, hloading, hcurrent⟩
      · rfl
  | settled i j =>
    unfold step
    dsimp only
    cases manager.operation? i j with
    | none => rfl
    | some operation =>
      dsimp only
      split <;> rfl
  | caught i j =>
    unfold step
    dsimp only
    cases manager.operation? i j with
    | none => rfl
    | some operation =>
      dsimp only
      split
      · exact feed_failRun options manager i _ key
      · rfl
      · rfl
  | established i =>
    unfold step
    dsimp only
    split <;> rfl

/-! ### Messages of a ready key -/

/-- A statement about what a key was given, what it received since its baseline, the
sequence its state stands at and the contents that its state remembers. -/
abbrev KeyRule (δ : Type*) :=
  List (ManagedStreamMessage δ) → List (ManagedStreamMessage δ) → Option ℤ → List String → Prop

/-- The rule holds after a baseline, and goes on holding over a message that is not a gap. -/
structure Kept (own : ManagedStreamMessage δ → Prop) (rule : KeyRule δ) : Prop where
  cleared : ∀ deltas sequence, rule deltas [] sequence []
  ignored : ∀ {deltas received message} {state : SubscriptionRunState δ}, own message →
    rule deltas received state.lastSequence state.seenIds → state.position message = .ignored →
      rule deltas (received ++ [message]) state.lastSequence state.seenIds
  applied : ∀ {deltas received message} {state : SubscriptionRunState δ}, own message →
    rule deltas received state.lastSequence state.seenIds → state.position message = .applied →
      rule (deltas ++ [message]) (received ++ [message]) (state.advance message).lastSequence
        (state.advance message).seenIds

variable {rule : KeyRule δ} {received : List (ManagedStreamMessage δ)}
  {state : SubscriptionRunState δ} {key : String}

structure Attends (rule : KeyRule δ) (manager : StreamManager δ) (i : ℕ) (key : String)
    (received : List (ManagedStreamMessage δ)) (state : SubscriptionRunState δ) : Prop where
  known : manager.state? i key = some state
  ready : state.baselineReady = true
  holds : rule (manager.consumer.deltas key) received state.lastSequence state.seenIds

theorem isCurrent_modifyState (manager : StreamManager δ) (i : ℕ) (key : String)
    (f : SubscriptionRunState δ → SubscriptionRunState δ) :
    (manager.modifyRun i (.modifyState key f)).isCurrent i = manager.isCurrent i := by
  unfold isCurrent modifyRun
  dsimp only
  rw [List.getElem?_modify_eq]
  cases manager.runs[i]? <;> rfl

theorem state?_modifyState (manager : StreamManager δ) (i : ℕ) (key : String)
    (f : SubscriptionRunState δ → SubscriptionRunState δ) :
    (manager.modifyRun i (.modifyState key f)).state? i key = (manager.state? i key).map f := by
  unfold state? modifyRun
  dsimp only
  rw [List.getElem?_modify_eq]
  cases manager.runs[i]? with
  | none => rfl
  | some run => exact modifyState_states_self

theorem Attends.processed (options : StreamManagerOptions) (hrule : Kept (own message.key) rule)
    (h : manager.Attends rule i message.key received state)
    (hcurrent : manager.isCurrent i = true) (hown : own message.key message)
    (allowRebaseline : Bool)
    (hgap : (manager.processReadyMessage options i message.key state message
      allowRebaseline).2 ≠ .gap) :
    let processed := (manager.processReadyMessage options i message.key state message
      allowRebaseline).1
    processed.isCurrent i = true ∧
      ∃ later, processed.Attends rule i message.key (received ++ [message]) later := by
  unfold processReadyMessage at hgap ⊢
  rw [if_neg (by simp [hcurrent])] at hgap ⊢
  cases hposition : state.position message with
  | ignored => exact ⟨hcurrent, state, h.known, h.ready, hrule.ignored hown h.holds hposition⟩
  | gap =>
    rw [hposition] at hgap
    cases allowRebaseline <;> exact absurd rfl hgap
  | applied =>
    refine ⟨(isCurrent_modifyState manager i message.key _).trans hcurrent,
      state.advance message, ?_, h.ready, ?_⟩
    · have hstate := state?_modifyState manager i message.key (.advance message)
      rw [h.known] at hstate
      exact hstate
    · have hdeltas := deltas_apply
        (manager.modifyRun i (.modifyState message.key (.advance message)))
        (.delta message.key message) message.key
      rw [StreamUpdate.delta?, if_pos rfl, Option.toList_some] at hdeltas
      dsimp only
      rw [hdeltas]
      exact hrule.applied hown h.holds hposition

theorem currentRun_processReadyMessage (options : StreamManagerOptions)
    (manager : StreamManager δ) (i : ℕ) (key : String) (state : SubscriptionRunState δ)
    (message : ManagedStreamMessage δ) (allowRebaseline : Bool) :
    (manager.processReadyMessage options i key state message allowRebaseline).1.currentRun =
      manager.currentRun := by
  unfold processReadyMessage
  split
  · rfl
  · cases state.position message with
    | ignored => rfl
    | gap => cases allowRebaseline <;> rfl
    | applied => rfl

/-- After a gap the key waits for a baseline. -/
theorem unready_of_gap (options : StreamManagerOptions)
    (hgap : (manager.processReadyMessage options i key state message true).2 = .gap)
    {later : SubscriptionRunState δ} (hlater : (manager.processReadyMessage options i key state
      message true).1.state? i key = some later) : later.baselineReady = false := by
  unfold processReadyMessage at hgap hlater
  split at hgap
  · cases hgap
  · rename_i hcurrent
    rw [if_neg hcurrent] at hlater
    cases hposition : state.position message with
    | ignored => simp [hposition] at hgap
    | applied => simp [hposition] at hgap
    | gap =>
      rw [hposition] at hlater
      by_contra hready
      rw [Bool.not_eq_false] at hready
      rcases modifyRun_states_cases hlater with ⟨run, hrun, -, hnew⟩ | ⟨hne, -⟩
      · have htame : Tame (fun _ _ => True) run (run.rebaseline key) := tame_rebaseline key run
        rcases htame.states key later hnew with
          hunready | ⟨old, hold, hquiet⟩
        · exact absurd (hunready.ready.symm.trans hready) Bool.false_ne_true
        · have hmiddle := state?_of_run hrun hold
          rw [state?_modifyState, Option.map_eq_some_iff] at hmiddle
          obtain ⟨before, -, rfl⟩ := hmiddle
          have hwas := (hquiet.ready hready).1
          rw [SubscriptionRunState.bufferMessage_baselineReady] at hwas
          cases hwas
      · exact absurd rfl hne

theorem replay_of_gap (options : StreamManagerOptions) (i : ℕ) (key : String)
    (manager : StreamManager δ) (buffered : List (ManagedStreamMessage δ)) :
    (replay options i key manager buffered true).2 = true := by
  induction buffered generalizing manager with
  | nil => rfl
  | cons message buffered ih =>
    unfold replay
    cases manager.state? i key with
    | none => rfl
    | some state =>
      dsimp only
      split
      · exact ih _
      · split
        · exact ih _
        · exact ih _

theorem currentRun_replay (options : StreamManagerOptions) (i : ℕ) (key : String)
    (manager : StreamManager δ) (buffered : List (ManagedStreamMessage δ)) (gap : Bool) :
    (replay options i key manager buffered gap).1.currentRun = manager.currentRun := by
  induction buffered generalizing manager gap with
  | nil => rfl
  | cons message buffered ih =>
    unfold replay
    cases manager.state? i key with
    | none => rfl
    | some state =>
      have hprocessed :=
        currentRun_processReadyMessage options manager i key state message false
      dsimp only
      split
      · exact ih _ gap
      · split
        · exact (ih _ true).trans hprocessed
        · exact (ih _ gap).trans hprocessed

/-- What was buffered is replayed to its end, unless there is a gap in it. -/
theorem Attends.replayed (options : StreamManagerOptions) (hrule : Kept (own key) rule)
    (hbuffered : ∀ message ∈ buffered, message.key = key ∧ own key message)
    (h : manager.Attends rule i key received state) (hcurrent : manager.isCurrent i = true)
    (persistentGap : Bool)
    (hgap : (replay options i key manager buffered persistentGap).2 = false) :
    ∃ later, (replay options i key manager buffered persistentGap).1.Attends rule i key
      (received ++ buffered) later := by
  induction buffered generalizing manager received state with
  | nil =>
    rw [List.append_nil]
    exact ⟨state, h⟩
  | cons message buffered ih =>
    obtain ⟨rfl, hown⟩ := hbuffered message List.mem_cons_self
    unfold replay at hgap ⊢
    rw [h.known] at hgap ⊢
    dsimp only at hgap ⊢
    rw [if_neg (by simp [h.ready, hcurrent])] at hgap ⊢
    by_cases hnow : (manager.processReadyMessage options i message.key state message false).2 =
        .gap
    · rw [if_pos hnow, replay_of_gap] at hgap
      cases hgap
    · rw [if_neg hnow] at hgap ⊢
      obtain ⟨hcurrent', later, hlater⟩ := h.processed options hrule hcurrent hown false hnow
      have hrest := ih (fun other hmem => hbuffered other (List.mem_cons_of_mem message hmem))
        hlater hcurrent' hgap
      simpa using hrest

theorem Attends.eq {other : SubscriptionRunState δ}
    (h : manager.Attends rule i key received state)
    (hother : manager.state? i key = some other) : other = state :=
  Option.some.inj (hother.symm.trans h.known)

theorem Still.attends (h : Still key before after)
    (hattends : before.Attends rule i key received old)
    (hstate : after.state? i key = some state) (hready : state.baselineReady = true)
    (hlast : old.lastSequence = state.lastSequence) (hseen : old.seenIds = state.seenIds) :
    after.Attends rule i key received state where
  known := hstate
  ready := hready
  holds := by
    rw [h.deltas, ← hlast, ← hseen]
    exact hattends.holds

theorem state?_modifyRun_of_states (manager : StreamManager δ) (i : ℕ) (key : String)
    (hf : ∀ run, (f run).states = run.states) :
    (manager.modifyRun i f).state? i key = manager.state? i key := by
  unfold state? modifyRun
  dsimp only
  rw [List.getElem?_modify_eq]
  cases manager.runs[i]? with
  | none => rfl
  | some run => exact congrFun (hf run) key

theorem Attends.modifyRun (h : manager.Attends rule i key received state)
    (hf : ∀ run, (f run).states = run.states) :
    (manager.modifyRun i f).Attends rule i key received state where
  known := (state?_modifyRun_of_states manager i key hf).trans h.known
  ready := h.ready
  holds := h.holds

theorem attends_cleared (hrule : Kept (own key) rule) {baseline : ManagedStreamBaseline δ}
    {f : SubscriptionRunState δ → SubscriptionRunState δ} (hf : ∀ state, (f state).seenIds = [])
    (hstate : ((manager.apply (.baseline key baseline)).modifyRun i
      (.modifyState key f)).state? i key = some state) (hready : state.baselineReady = true) :
    ((manager.apply (.baseline key baseline)).modifyRun i (.modifyState key f)).Attends rule i
      key [] state := by
  have hmap := hstate
  rw [state?_modifyState, Option.map_eq_some_iff] at hmap
  obtain ⟨old, -, rfl⟩ := hmap
  refine ⟨hstate, hready, ?_⟩
  rw [hf old]
  exact hrule.cleared _ _

/-- A baseline replays the messages that were buffered before it. -/
theorem attends_rebaselined (options : StreamManagerOptions)
    (hrule : Kept (own operation.key) rule) (hbuffer : ∀ message ∈ old.buffer,
      message.key = operation.key ∧ own operation.key message)
    (hcurrent : manager.isCurrent i = true)
    (hknown : manager.state? i operation.key = some old) (baseline : ManagedStreamBaseline δ) :
    let rebaselined := manager.rebaselined options i j operation old baseline
    rebaselined.currentRun = some i ∧
      ∀ state, rebaselined.state? i operation.key = some state →
        state.baselineReady = true → rebaselined.Attends rule i operation.key
          (if old.bufferOverflowed then [] else old.buffer) state := by
  dsimp only
  have hrun := currentRun_of_isCurrent hcurrent
  unfold StreamManager.rebaselined
  dsimp only
  by_cases hoverflowed : old.bufferOverflowed = true
  · rw [if_pos hoverflowed, if_pos hoverflowed]
    refine ⟨hrun, ?_⟩
    intro state hstate hready
    have hnext : ∀ run : GenerationRun δ, (run.nextAttempt j).states = run.states := fun _ => rfl
    rw [state?_modifyRun_of_states _ _ _ hnext] at hstate
    exact (attends_cleared hrule (fun _ => rfl) hstate hready).modifyRun hnext
  · rw [if_neg hoverflowed, if_neg hoverflowed]
    generalize hready : (manager.apply (.baseline operation.key baseline)).modifyRun i
      (.modifyState operation.key fun state =>
        { state with
          lastSequence := baseline.sequence
          seenIds := []
          buffer := []
          bufferOverflowed := false
          baselineReady := true }) = ready
    have hknown' : ready.state? i operation.key = some { old with
        lastSequence := baseline.sequence
        seenIds := []
        buffer := []
        bufferOverflowed := false
        baselineReady := true } := by
      rw [← hready, state?_modifyState]
      change (manager.state? i operation.key).map _ = _
      rw [hknown]
      rfl
    have hcleared : ∀ state, ready.state? i operation.key = some state →
        state.baselineReady = true → ready.Attends rule i operation.key [] state := by
      intro state hstate hwas
      rw [← hready] at hstate ⊢
      exact attends_cleared hrule (fun _ => rfl) hstate hwas
    have hlive : ready.isCurrent i = true := by
      rw [← hready, isCurrent_modifyState]
      exact hcurrent
    have hrun' : (replay options i operation.key ready old.buffer false).1.currentRun = some i :=
      (currentRun_replay options i operation.key ready old.buffer false).trans
        (currentRun_of_isCurrent hlive)
    cases hgap : (replay options i operation.key ready old.buffer false).2 with
    | true =>
      rw [if_pos rfl]
      have hwaits : ∀ (g : GenerationRun δ → GenerationRun δ) (state : SubscriptionRunState δ),
          (((replay options i operation.key ready old.buffer false).1.modifyRun i
            (.modifyState operation.key fun state =>
              { state with baselineReady := false })).modifyRun i g).state? i operation.key =
            some state → (∀ run, (g run).states = run.states) → ¬ state.baselineReady = true := by
        intro g state hstate hg
        rw [state?_modifyRun_of_states _ _ _ hg, state?_modifyState,
          Option.map_eq_some_iff] at hstate
        obtain ⟨before, -, rfl⟩ := hstate
        exact Bool.false_ne_true
      split
      · exact ⟨hrun', fun state hstate hwas =>
          absurd hwas (hwaits _ state hstate fun _ => rfl)⟩
      · exact ⟨hrun', fun state hstate hwas =>
          absurd hwas (hwaits _ state hstate fun _ => rfl)⟩
    | false =>
      obtain ⟨later, hlater⟩ :=
        (hcleared _ hknown' rfl).replayed options hrule hbuffer hlive false hgap
      rw [if_neg Bool.false_ne_true]
      refine ⟨hrun', ?_⟩
      intro state hstate _
      have hsettled := hlater.modifyRun (f := GenerationRun.setStage j .returned) fun _ => rfl
      rw [hsettled.eq hstate]
      simpa using hsettled

end StreamManager

namespace HeardStream

open StreamManager GenerationRun

variable {own : String → ManagedStreamMessage δ → Prop} {rule : KeyRule δ} {key : String}
  {heard : HeardStream δ}

/-! ### The invariant -/

/-- What is buffered is its key's own, and the rule holds of a ready key of the current
run. -/
structure Followed (own : String → ManagedStreamMessage δ → Prop) (rule : KeyRule δ)
    (key : String) (heard : HeardStream δ) : Prop where
  owned : heard.manager.Owned own
  received : ∀ message ∈ heard.received, own key message
  deltas : ∀ message ∈ heard.manager.consumer.deltas key, own key message
  ready : ∀ i state, heard.manager.currentRun = some i →
    heard.manager.state? i key = some state → state.baselineReady = true →
      heard.manager.Attends rule i key heard.received state

theorem followed_create : (create : HeardStream δ).Followed own rule key where
  owned i run key state hrun := by simp [create, StreamManager.create] at hrun
  received _ hmem := by cases hmem
  deltas _ hmem := by cases hmem
  ready i state hcurrent := by cases hcurrent

theorem hear_message (heard : HeardStream δ) (key : String) (i : ℕ)
    (message : ManagedStreamMessage δ) :
    heard.hear key (.message i message) =
      if heard.manager.isCurrent i = true ∧ message.isSnapshot = false ∧ message.key = key then
        heard.received ++ [message]
      else heard.received := rfl

variable {i j : ℕ} {event : StreamEvent δ}

theorem hear_loaded_of_none {heard : HeardStream δ}
    (hoperation : heard.manager.operation? i j = none) (key : String)
    (baseline : ManagedStreamBaseline δ) :
    heard.hear key (.loaded i j (some baseline)) = heard.received := by
  simp [hear, hoperation]

theorem hear_loaded_of_some {heard : HeardStream δ} {operation : RebaselineOperation}
    (hoperation : heard.manager.operation? i j = some operation) (key : String)
    (baseline : ManagedStreamBaseline δ) :
    heard.hear key (.loaded i j (some baseline)) =
      if operation.stage = .loading ∧ operation.key = key ∧
          heard.manager.isCurrent i = true then (heard.manager.state? i key).elim [] fun state =>
          if state.bufferOverflowed then [] else state.buffer else heard.received := by
  simp [hear, hoperation]

theorem hear_of_not_reaches {heard : HeardStream δ}
    (h : ¬ heard.manager.Reaches key event) : heard.hear key event = heard.received := by
  cases event with
  | message i message =>
    rw [hear_message]
    exact if_neg fun hheard => h hheard.2.2
  | loaded i j baseline =>
    cases baseline with
    | none => rfl
    | some baseline =>
      cases hoperation : heard.manager.operation? i j with
      | none => exact hear_loaded_of_none hoperation key baseline
      | some operation =>
        rw [hear_loaded_of_some hoperation]
        exact if_neg fun hheard =>
          h ⟨operation, hoperation, hheard.2.1, hheard.1, hheard.2.2⟩
  | setSubscriptions next => rfl
  | setEnvironment foreground online => rfl
  | close => rfl
  | connected i result => rfl
  | disconnected i => rfl
  | heartbeat i pingThrows => rfl
  | reconnect candidateGeneration => rfl
  | settled i j => rfl
  | caught i j => rfl
  | established i => rfl

theorem Followed.hear_owned (h : heard.Followed own rule key)
    (hown : ∀ i message, event = .message i message → own message.key message) :
    ∀ message ∈ heard.hear key event, own key message := by
  by_cases hreaches : heard.manager.Reaches key event
  · rcases reaches_cases hreaches with ⟨i, message, rfl, -⟩ |
      ⟨i, j, baseline, operation, rfl, hoperation, rfl, hloading, hlive⟩
    · rw [hear_message]
      intro other hmem
      split at hmem
      · rename_i hheard
        rcases List.mem_append.mp hmem with hold | hnew
        · exact h.received other hold
        · rw [List.mem_singleton.mp hnew, ← hheard.2.2]
          exact hown i message rfl
      · exact h.received other hmem
    · rw [hear_loaded_of_some hoperation, if_pos ⟨hloading, rfl, hlive⟩]
      intro message hmem
      cases hknown : heard.manager.state? i operation.key with
      | none =>
        rw [hknown] at hmem
        cases hmem
      | some old =>
        rw [hknown, Option.elim_some] at hmem
        split at hmem
        · cases hmem
        · exact h.owned.state hknown message hmem
  · rw [hear_of_not_reaches hreaches]
    exact h.received

theorem Followed.handled (options : StreamManagerOptions) (h : heard.Followed own rule key)
    (hrule : Kept (own key) rule) (i : ℕ) {message : ManagedStreamMessage δ}
    (hkey : message.key = key) (hown : own key message) {state : SubscriptionRunState δ}
    (hcurrent : (heard.manager.handleMessage options i message).currentRun = some j)
    (hstate : (heard.manager.handleMessage options i message).state? j key = some state)
    (hready : state.baselineReady = true) :
    (heard.manager.handleMessage options i message).Attends rule j key
      (heard.step options key (.message i message)).received state := by
  subst hkey
  unfold step
  dsimp only
  rw [hear_message]
  unfold handleMessage at hcurrent hstate ⊢
  by_cases hskip : heard.manager.isCurrent i = false ∨ message.isSnapshot = true
  · rw [if_pos hskip] at hcurrent hstate ⊢
    rw [if_neg (by rcases hskip with hfalse | htrue <;> simp [*])]
    exact h.ready j state hcurrent hstate hready
  · rw [if_neg hskip] at hcurrent hstate ⊢
    rw [not_or, Bool.not_eq_false, Bool.not_eq_true] at hskip
    rw [if_pos ⟨hskip.1, hskip.2, rfl⟩]
    have hrun := currentRun_of_isCurrent hskip.1
    cases hknown : heard.manager.state? i message.key with
    | none =>
      rw [hknown] at hcurrent hstate
      have hsame : j = i := Option.some.inj (hcurrent.symm.trans hrun)
      rw [hsame] at hstate
      exact absurd (hknown.symm.trans hstate) (by simp)
    | some old =>
      rw [hknown] at hcurrent hstate
      dsimp only at hcurrent hstate ⊢
      by_cases hwaits : old.baselineReady = false
      · rw [if_pos hwaits] at hcurrent hstate
        have hsame : j = i := Option.some.inj (hcurrent.symm.trans hrun)
        rw [hsame, state?_modifyState, hknown] at hstate
        cases hstate
        rw [SubscriptionRunState.bufferMessage_baselineReady, hwaits] at hready
        cases hready
      · rw [if_neg hwaits] at hcurrent hstate ⊢
        rw [currentRun_processReadyMessage] at hcurrent
        have hsame : j = i := Option.some.inj (hcurrent.symm.trans hrun)
        subst hsame
        rw [Bool.not_eq_false] at hwaits
        have hgap : (heard.manager.processReadyMessage options j message.key old message
            true).2 ≠ .gap := by
          intro hgap
          rw [unready_of_gap options hgap hstate] at hready
          cases hready
        obtain ⟨-, later, hlater⟩ := (h.ready j old hrun hknown hwaits).processed options hrule
          hskip.1 hown true hgap
        rw [hlater.eq hstate]
        exact hlater

/-- An event that reaches the key leaves a ready run that attends to what it received. -/
theorem Followed.reached (options : StreamManagerOptions) (h : heard.Followed own rule key)
    (hrule : Kept (own key) rule)
    (hnamed : ∀ message, own key message → message.key = key)
    (hreaches : heard.manager.Reaches key event)
    (hown : ∀ i message, event = .message i message → own message.key message) {k : ℕ}
    {state : SubscriptionRunState δ}
    (hcurrent : (heard.manager.step options event).currentRun = some k)
    (hstate : (heard.manager.step options event).state? k key = some state)
    (hready : state.baselineReady = true) :
    (heard.manager.step options event).Attends rule k key
      (heard.step options key event).received state := by
  rcases reaches_cases hreaches with ⟨i, message, rfl, hkey⟩ |
    ⟨i, j, baseline, operation, rfl, hoperation, rfl, hloading, hlive⟩
  · have hmessage := hown i message rfl
    rw [hkey] at hmessage
    exact h.handled options hrule i hkey hmessage hcurrent hstate hready
  · unfold HeardStream.step
    dsimp only
    rw [hear_loaded_of_some hoperation, if_pos ⟨hloading, rfl, hlive⟩]
    have hstep : heard.manager.step options (.loaded i j (some baseline)) =
        heard.manager.loaded options i j operation (some baseline) := by
      simp [StreamManager.step, hoperation, hloading]
    rw [hstep] at hcurrent hstate ⊢
    unfold StreamManager.loaded at hcurrent hstate ⊢
    dsimp only at hcurrent hstate ⊢
    rw [if_neg (by simp [hlive])] at hcurrent hstate ⊢
    cases hknown : heard.manager.state? i operation.key with
    | none =>
      rw [hknown] at hcurrent hstate
      have hsame : k = i := Option.some.inj (hcurrent.symm.trans (currentRun_of_isCurrent hlive))
      rw [hsame] at hstate
      exact absurd (hknown.symm.trans hstate) (by simp)
    | some old =>
      rw [hknown] at hcurrent hstate
      dsimp only at hcurrent hstate ⊢
      have hbuffer : ∀ message ∈ old.buffer,
          message.key = operation.key ∧ own operation.key message := by
        intro message hmem
        have hmessage := h.owned.state hknown message hmem
        exact ⟨hnamed message hmessage, hmessage⟩
      obtain ⟨hrun, hattends⟩ :=
        attends_rebaselined options hrule hbuffer hlive hknown baseline
      have hsame : k = i := Option.some.inj (hcurrent.symm.trans hrun)
      subst hsame
      exact hattends state hstate hready

/-- Every event keeps the log of the key a record of the messages received. -/
theorem Followed.step (options : StreamManagerOptions) (h : heard.Followed own rule key)
    (hrule : Kept (own key) rule) (hnamed : ∀ key message, own key message → message.key = key)
    (hown : ∀ i message, event = .message i message → own message.key message) :
    (heard.step options key event).Followed own rule key := by
  have hchanges := changes_step_of_owned options h.owned hnamed hown
  refine ⟨h.owned.changes hchanges, h.hear_owned hown, deltas_owned hchanges h.deltas, ?_⟩
  intro i state hcurrent hstate hready
  by_cases hreaches : heard.manager.Reaches key event
  · exact h.reached options hrule (hnamed key) hreaches hown hcurrent hstate hready
  · have hkeyed : heard.manager.Keyed := fun i run key state hrun hknown message hmem =>
      hnamed key message (h.owned i run key state hrun hknown message hmem)
    have hstill := still_of_feed hchanges (feed_step options hkeyed hreaches)
    obtain ⟨hbefore, old, hold, hwas, hlast, hseen⟩ :=
      hstill.ready i state hcurrent hstate hready
    have hreceived : (heard.step options key event).received = heard.received :=
      hear_of_not_reaches hreaches
    rw [hreceived]
    exact hstill.attends (h.ready i old hbefore hold hwas) hstate hready hlast hseen

theorem Followed.run (options : StreamManagerOptions)
    (hrule : Kept (own key) rule) (hnamed : ∀ key message, own key message → message.key = key)
    {events : List (StreamEvent δ)} (h : heard.Followed own rule key)
    (hown : ∀ i message, .message i message ∈ events → own message.key message) :
    (run (HeardStream.step options key) heard events).Followed own rule key := by
  induction events generalizing heard with
  | nil => exact h
  | cons event events ih =>
    have hfirst : ∀ i message, event = .message i message → own message.key message :=
      fun i message hevent => hown i message (hevent ▸ List.mem_cons_self)
    apply ih (h.step options hrule hnamed hfirst)
    intro i message hmem
    exact hown i message (List.mem_cons_of_mem event hmem)

end HeardStream

end HyperTrader
