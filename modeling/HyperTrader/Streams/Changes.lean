import HyperTrader.Streams.Manager

/-!
# What a step of the stream manager is made of

Every step of the manager is a sequence of changes, and only two of them reach the
consumer: a baseline, and a message of a ready key that is one past what was applied
before it. Between two updates a key only buffers its own messages, and never becomes
ready.
-/

namespace HyperTrader

open Library

variable {δ : Type*}

namespace SubscriptionRunState

theorem bufferMessage_lastSequence (options : StreamManagerOptions)
    (message : ManagedStreamMessage δ) (state : SubscriptionRunState δ) :
    (state.bufferMessage options message).lastSequence = state.lastSequence := by
  unfold bufferMessage
  split <;> rfl

theorem bufferMessage_baselineReady (options : StreamManagerOptions)
    (message : ManagedStreamMessage δ) (state : SubscriptionRunState δ) :
    (state.bufferMessage options message).baselineReady = state.baselineReady := by
  unfold bufferMessage
  split <;> rfl

theorem bufferMessage_seenIds (options : StreamManagerOptions)
    (message : ManagedStreamMessage δ) (state : SubscriptionRunState δ) :
    (state.bufferMessage options message).seenIds = state.seenIds := by
  unfold bufferMessage
  split <;> rfl

theorem mem_bufferMessage {options : StreamManagerOptions}
    {message other : ManagedStreamMessage δ} {state : SubscriptionRunState δ}
    (h : other ∈ (state.bufferMessage options message).buffer) :
    other ∈ state.buffer ∨ other = message := by
  unfold bufferMessage at h
  split at h
  · rcases List.mem_append.mp h with hold | hnew
    · exact .inl (List.mem_of_mem_tail hold)
    · exact .inr (List.mem_singleton.mp hnew)
  · rcases List.mem_append.mp h with hold | hnew
    · exact .inl hold
    · exact .inr (List.mem_singleton.mp hnew)

end SubscriptionRunState

namespace GenerationRun

/-! ### What a run does between two updates -/

/-- A state goes on without an update of its key: what it buffers it had buffered or
is its own, and if it is ready it was, stands where it stood and remembers the same. -/
structure Quiet (own : ManagedStreamMessage δ → Prop)
    (before after : SubscriptionRunState δ) : Prop where
  buffer : ∀ message ∈ after.buffer, message ∈ before.buffer ∨ own message
  ready : after.baselineReady = true →
    before.baselineReady = true ∧ after.lastSequence = before.lastSequence
  seenIds : after.baselineReady = true → after.seenIds = before.seenIds

/-- A state that nothing was applied to: it is not ready and buffers its own. -/
structure Unready (own : ManagedStreamMessage δ → Prop) (state : SubscriptionRunState δ) :
    Prop where
  buffer : ∀ message ∈ state.buffer, own message
  ready : state.baselineReady = false

theorem Quiet.refl (own : ManagedStreamMessage δ → Prop) (state : SubscriptionRunState δ) :
    Quiet own state state :=
  ⟨fun _ h => .inl h, fun h => ⟨h, rfl⟩, fun _ => rfl⟩

theorem Quiet.trans {own : ManagedStreamMessage δ → Prop}
    {first second third : SubscriptionRunState δ} (h : Quiet own first second)
    (h' : Quiet own second third) : Quiet own first third where
  buffer message hmem := by
    rcases h'.buffer message hmem with hmem | hown
    · exact h.buffer message hmem
    · exact .inr hown
  ready hready := by
    obtain ⟨hsecond, hlast⟩ := h'.ready hready
    obtain ⟨hfirst, hlast'⟩ := h.ready hsecond
    exact ⟨hfirst, hlast.trans hlast'⟩
  seenIds hready := (h'.seenIds hready).trans (h.seenIds (h'.ready hready).1)

variable {before after : SubscriptionRunState δ} {key : String}
  {f : SubscriptionRunState δ → SubscriptionRunState δ} {run : GenerationRun δ}

theorem Quiet.unready {own : ManagedStreamMessage δ → Prop} (h : Quiet own before after)
    (hbefore : Unready own before) : Unready own after where
  buffer message hmem := by
    rcases h.buffer message hmem with hold | hown
    · exact hbefore.buffer message hold
    · exact hown
  ready := by
    by_contra hne
    have hready := (h.ready (by simpa using hne)).1
    rw [hbefore.ready] at hready
    cases hready

theorem quiet_bufferMessage (options : StreamManagerOptions)
    {own : ManagedStreamMessage δ → Prop} {message : ManagedStreamMessage δ}
    (hown : own message) (state : SubscriptionRunState δ) :
    Quiet own state (state.bufferMessage options message) where
  buffer other hmem := by
    rcases SubscriptionRunState.mem_bufferMessage hmem with hold | rfl
    · exact .inl hold
    · exact .inr hown
  ready hready := by
    rw [SubscriptionRunState.bufferMessage_baselineReady] at hready
    exact ⟨hready, SubscriptionRunState.bufferMessage_lastSequence options message state⟩
  seenIds _ := SubscriptionRunState.bufferMessage_seenIds options message state

theorem quiet_of_unready {own : ManagedStreamMessage δ → Prop}
    (hbuffer : after.buffer = before.buffer)
    (hready : after.baselineReady = false) : Quiet own before after := by
  constructor
  · intro message hmem
    rw [hbuffer] at hmem
    exact .inl hmem
  · intro h
    rw [hready] at h
    cases h
  · intro h
    rw [hready] at h
    cases h

variable {own : String → ManagedStreamMessage δ → Prop}

structure Tame (own : String → ManagedStreamMessage δ → Prop)
    (before after : GenerationRun δ) : Prop where
  generation : after.generation = before.generation
  states : ∀ key state, after.states key = some state →
    Unready (own key) state ∨
      ∃ old, before.states key = some old ∧ Quiet (own key) old state

theorem Tame.of_states {before after : GenerationRun δ}
    (hgeneration : after.generation = before.generation)
    (hstates : after.states = before.states) : Tame own before after where
  generation := hgeneration
  states key state hstate := by
    rw [hstates] at hstate
    exact .inr ⟨state, hstate, .refl (own key) state⟩

theorem Tame.refl (run : GenerationRun δ) : Tame own run run := .of_states rfl rfl

theorem Tame.trans {first second third : GenerationRun δ} (h : Tame own first second)
    (h' : Tame own second third) : Tame own first third where
  generation := h'.generation.trans h.generation
  states key state hstate := by
    rcases h'.states key state hstate with hunready | ⟨middle, hmiddle, hquiet⟩
    · exact .inl hunready
    · rcases h.states key middle hmiddle with hunready | ⟨old, hold, hquiet'⟩
      · exact .inl (hquiet.unready hunready)
      · exact .inr ⟨old, hold, hquiet'.trans hquiet⟩

theorem modifyState_states_self : (run.modifyState key f).states key = (run.states key).map f := by
  simp [modifyState]

theorem modifyState_states_of_ne {other : String}
    (h : other ≠ key) : (run.modifyState key f).states other = run.states other := by
  simp [modifyState, h]

theorem tame_modifyState (hf : ∀ state, Quiet (own key) state (f state)) (run : GenerationRun δ) :
    Tame own run (run.modifyState key f) where
  generation := rfl
  states other state hstate := by
    by_cases hother : other = key
    · subst hother
      rw [modifyState_states_self, Option.map_eq_some_iff] at hstate
      obtain ⟨old, hold, rfl⟩ := hstate
      exact .inr ⟨old, hold, hf old⟩
    · rw [modifyState_states_of_ne hother] at hstate
      exact .inr ⟨state, hstate, .refl (own other) state⟩

theorem tame_rebaseline (key : String) (run : GenerationRun δ) :
    Tame own run (run.rebaseline key) := by
  unfold rebaseline
  cases run.states key with
  | none => exact .refl run
  | some state =>
    dsimp only
    cases state.baselinePromise with
    | some promise => exact .refl run
    | none =>
      have hquiet : ∀ state : SubscriptionRunState δ, Quiet (own key) state
          { state with
            baselineReady := false
            baselinePromise := some run.operations.length } :=
        fun _ => quiet_of_unready rfl rfl
      exact (tame_modifyState hquiet run).trans (.of_states rfl rfl)

theorem tame_foldl_rebaseline (keys : List String) (run : GenerationRun δ) :
    Tame own run (keys.foldl (fun run key => run.rebaseline key) run) := by
  induction keys generalizing run with
  | nil => exact .refl run
  | cons key keys ih => exact (tame_rebaseline key run).trans (ih _)

theorem tame_opened (subscriptions : List ManagedStreamSubscription)
    (run : GenerationRun δ) : Tame own run (run.opened subscriptions) := by
  unfold opened
  dsimp only
  refine Tame.trans ?_ (Tame.trans (tame_foldl_rebaseline _ _) (.of_states rfl rfl))
  constructor
  · rfl
  · intro key state hstate
    dsimp only at hstate
    split at hstate
    · cases hstate
      exact .inl ⟨fun _ hmem => absurd hmem List.not_mem_nil, rfl⟩
    · cases hstate

theorem tame_teardown (run : GenerationRun δ) : Tame own run run.teardown where
  generation := rfl
  states _ _ hstate := by cases hstate

end GenerationRun

namespace StreamManager

open GenerationRun

/-! ### The changes that a step is made of -/

variable {own : String → ManagedStreamMessage δ → Prop}

inductive Change (own : String → ManagedStreamMessage δ → Prop) :
    StreamManager δ → StreamManager δ → Prop
  | kept {before after : StreamManager δ} (generation : after.generation = before.generation)
      (currentRun : after.currentRun = before.currentRun)
      (runs : after.runs = before.runs)
      (applied : after.consumer.applied = before.consumer.applied) :
      Change own before after
  | advanced (manager : StreamManager δ) : Change own manager manager.advanceGeneration
  | started (manager : StreamManager δ) : Change own manager manager.startGeneration
  | changed (manager : StreamManager δ) (i : ℕ) {f : GenerationRun δ → GenerationRun δ}
      (tame : ∀ run, Tame own run (f run)) : Change own manager (manager.modifyRun i f)
  | delta {manager : StreamManager δ} {i : ℕ} {state : SubscriptionRunState δ}
      {message : ManagedStreamMessage δ} (current : manager.currentRun = some i)
      (known : manager.state? i message.key = some state)
      (ready : state.baselineReady = true)
      (position : state.position message = .applied) (owned : own message.key message) :
      Change own manager ((manager.modifyRun i
        (.modifyState message.key (.advance message))).apply (.delta message.key message))
  | baseline {manager : StreamManager δ} {i : ℕ} {key : String}
      {baseline : ManagedStreamBaseline δ}
      {f : SubscriptionRunState δ → SubscriptionRunState δ}
      (current : manager.currentRun = some i)
      (sequence : ∀ state, (f state).lastSequence = baseline.sequence)
      (buffer : ∀ state, (f state).buffer = []) :
      Change own manager
        ((manager.apply (.baseline key baseline)).modifyRun i (.modifyState key f))

abbrev Changes (own : String → ManagedStreamMessage δ → Prop) :
    StreamManager δ → StreamManager δ → Prop :=
  Relation.ReflTransGen (Change own)

variable {manager : StreamManager δ} {i : ℕ} {state : SubscriptionRunState δ}
  {message : ManagedStreamMessage δ}

theorem currentRun_of_isCurrent (h : manager.isCurrent i = true) : manager.currentRun = some i := by
  simp only [isCurrent, Bool.and_eq_true, beq_iff_eq] at h
  exact h.1.1

theorem changes_scheduleReconnect (options : StreamManagerOptions)
    (manager : StreamManager δ) (candidateGeneration : ℕ) :
    Changes own manager (manager.scheduleReconnect options candidateGeneration) := by
  unfold scheduleReconnect
  split
  · exact .refl
  · exact .single (.kept rfl rfl rfl rfl)

theorem changes_restartIfEligible (manager : StreamManager δ) :
    Changes own manager manager.restartIfEligible := by
  unfold restartIfEligible
  dsimp only
  split
  · exact .tail (.single (.advanced manager)) (.started _)
  · exact .single (.advanced manager)

theorem changes_failRun (options : StreamManagerOptions) (manager : StreamManager δ)
    (i : ℕ) (error : StreamError) : Changes own manager (manager.failRun options i error) := by
  unfold failRun
  split
  · exact .refl
  · dsimp only
    have hfailed : ∀ run : GenerationRun δ, Tame own run { run with failed := true } :=
      fun run => .of_states rfl rfl
    apply Relation.ReflTransGen.trans _ (changes_scheduleReconnect options _ _)
    apply Relation.ReflTransGen.tail _ (.advanced _)
    apply Relation.ReflTransGen.tail (.single (.changed manager i hfailed))
    exact .kept rfl rfl rfl rfl

theorem changes_processReadyMessage (options : StreamManagerOptions)
    (hstate : manager.state? i message.key = some state)
    (hready : state.baselineReady = true) (hown : own message.key message)
    (allowRebaseline : Bool) :
    Changes own manager (manager.processReadyMessage options i message.key state message
      allowRebaseline).1 := by
  unfold processReadyMessage
  split
  · exact .refl
  · rename_i hcurrent
    rw [Bool.not_eq_false] at hcurrent
    cases hposition : state.position message with
    | ignored => exact .refl
    | gap =>
      cases allowRebaseline with
      | false => exact .refl
      | true =>
        have hbuffer : ∀ state : SubscriptionRunState δ, Quiet (own message.key) state
            (({ state with baselineReady := false }).bufferMessage options message) := by
          intro state
          have hunready : Quiet (own message.key) state
              { state with baselineReady := false } := quiet_of_unready rfl rfl
          exact hunready.trans (quiet_bufferMessage options hown _)
        exact .tail (.single (.changed manager i (tame_modifyState hbuffer)))
          (.changed _ i (tame_rebaseline message.key))
    | applied =>
      exact .single
        (.delta (currentRun_of_isCurrent hcurrent) hstate hready hposition hown)

theorem changes_handleMessage (options : StreamManagerOptions) (manager : StreamManager δ)
    (i : ℕ) (hown : own message.key message) :
    Changes own manager (manager.handleMessage options i message) := by
  unfold handleMessage
  split
  · exact .refl
  · cases hstate : manager.state? i message.key with
    | none => exact .refl
    | some state =>
      dsimp only
      split
      · exact .single (.changed manager i (tame_modifyState (quiet_bufferMessage options hown)))
      · rename_i hready
        rw [Bool.not_eq_false] at hready
        exact changes_processReadyMessage options hstate hready hown true

theorem changes_replay (options : StreamManagerOptions) (i : ℕ) {key : String}
    {buffered : List (ManagedStreamMessage δ)} (manager : StreamManager δ) (persistentGap : Bool)
    (hkey : ∀ message ∈ buffered, message.key = key ∧ own key message) :
    Changes own manager (replay options i key manager buffered persistentGap).1 := by
  induction buffered generalizing manager persistentGap with
  | nil => exact .refl
  | cons message buffered ih =>
    obtain ⟨hmessage, hown⟩ := hkey message List.mem_cons_self
    have hrest := fun other hmem => hkey other (List.mem_cons_of_mem message hmem)
    have hagain : ∀ before : StreamManager δ, Changes own before
        (before.modifyRun i (.modifyState key (.bufferMessage options message))) :=
      fun before => .single (.changed before i
        (tame_modifyState (quiet_bufferMessage options hown)))
    unfold replay
    cases hstate : manager.state? i key with
    | none => exact .refl
    | some state =>
      dsimp only
      split
      · exact (hagain manager).trans (ih _ persistentGap hrest)
      · rename_i hready
        rw [not_or, Bool.not_eq_false, Bool.not_eq_false] at hready
        subst hmessage
        have hprocessed :=
          changes_processReadyMessage options hstate hready.1 hown false
        split
        · exact hprocessed.trans ((hagain _).trans (ih _ true hrest))
        · exact hprocessed.trans (ih _ persistentGap hrest)

theorem tame_setStage (j : ℕ) (stage : RebaselineStage) (run : GenerationRun δ) :
    Tame own run (run.setStage j stage) := .of_states rfl rfl

theorem tame_nextAttempt (j : ℕ) (run : GenerationRun δ) :
    Tame own run (run.nextAttempt j) := .of_states rfl rfl

theorem changes_rebaselined (options : StreamManagerOptions)
    (j : ℕ) {operation : RebaselineOperation}
    (baseline : ManagedStreamBaseline δ) (hcurrent : manager.currentRun = some i)
    (hkey : ∀ message ∈ state.buffer, message.key = operation.key ∧ own operation.key message) :
    Changes own manager (manager.rebaselined options i j operation state baseline) := by
  unfold rebaselined
  dsimp only
  split
  · apply Relation.ReflTransGen.tail _ (.changed _ i (tame_nextAttempt j))
    exact .single (.baseline hcurrent (fun _ => rfl) fun _ => rfl)
  · have hready := Relation.ReflTransGen.single (@Change.baseline _ own manager i
      operation.key baseline (fun state => { state with
        lastSequence := baseline.sequence
        seenIds := []
        buffer := []
        bufferOverflowed := false
        baselineReady := true }) hcurrent (fun _ => rfl) fun _ => rfl)
    have hreplayed := hready.trans (changes_replay options i _ false hkey)
    have hquiet : ∀ state : SubscriptionRunState δ,
        Quiet (own operation.key) state { state with baselineReady := false } :=
      fun _ => quiet_of_unready rfl rfl
    split
    · have hunready := hreplayed.tail (.changed _ i (tame_modifyState hquiet))
      split
      · exact hunready.tail (.changed _ i (tame_setStage j _))
      · exact hunready.tail (.changed _ i (tame_nextAttempt j))
    · exact hreplayed.tail (.changed _ i (tame_setStage j _))

def Keyed (manager : StreamManager δ) : Prop :=
  ∀ (i : ℕ) (run : GenerationRun δ) (key : String) (state : SubscriptionRunState δ),
    manager.runs[i]? = some run → run.states key = some state →
      ∀ message ∈ state.buffer, message.key = key

def Owned (own : String → ManagedStreamMessage δ → Prop) (manager : StreamManager δ) : Prop :=
  ∀ (i : ℕ) (run : GenerationRun δ) (key : String) (state : SubscriptionRunState δ),
    manager.runs[i]? = some run → run.states key = some state →
      ∀ message ∈ state.buffer, own key message

theorem changes_loaded (options : StreamManagerOptions)
    (howned : manager.Owned own) (hnamed : ∀ key message, own key message → message.key = key)
    (i j : ℕ) (operation : RebaselineOperation) (baseline : Option (ManagedStreamBaseline δ)) :
    Changes own manager (manager.loaded options i j operation baseline) := by
  cases baseline with
  | none => exact .single (.changed manager i (tame_setStage j _))
  | some baseline =>
    unfold loaded
    dsimp only
    split
    · exact .single (.changed manager i (tame_setStage j _))
    · rename_i hcurrent
      rw [Bool.not_eq_false] at hcurrent
      cases hstate : manager.state? i operation.key with
      | none => exact .refl
      | some state =>
        unfold state? at hstate
        rw [Option.bind_eq_some_iff] at hstate
        obtain ⟨run, hrun, hstate⟩ := hstate
        apply changes_rebaselined options j baseline (currentRun_of_isCurrent hcurrent)
        intro message hmem
        have hown := howned i run operation.key state hrun hstate message hmem
        exact ⟨hnamed _ message hown, hown⟩

theorem changes_connected (options : StreamManagerOptions) (manager : StreamManager δ)
    (i : ℕ) (result : ConnectResult) :
    Changes own manager (manager.connected options i result) := by
  have hconnecting : ∀ run : GenerationRun δ, Tame own run { run with connecting := false } :=
    fun run => .of_states rfl rfl
  cases result with
  | failed =>
    exact .trans (.single (.changed manager i hconnecting))
      (changes_failRun options _ i _)
  | opened =>
    unfold connected
    dsimp only
    split
    · exact .single (.changed manager i hconnecting)
    · exact .single (.changed manager i (tame_opened manager.subscriptions))
  | subscribeThrows =>
    unfold connected
    dsimp only
    split
    · exact .single (.changed manager i hconnecting)
    · have hconnection : ∀ run : GenerationRun δ,
          Tame own run { run with connecting := false, connection := true } :=
        fun run => .of_states rfl rfl
      exact .trans (.single (.changed manager i hconnection))
        (changes_failRun options _ i _)

/-- Every event changes the manager by a run of elementary changes with owned messages. -/
theorem changes_step_of_owned (options : StreamManagerOptions)
    (howned : manager.Owned own) (hnamed : ∀ key message, own key message → message.key = key)
    {event : StreamEvent δ}
    (hown : ∀ i message, event = .message i message → own message.key message) :
    Changes own manager (manager.step options event) := by
  cases event with
  | setSubscriptions next =>
    have hchanged : Changes own manager { manager with subscriptions := next } :=
      .single (.kept rfl rfl rfl rfl)
    unfold step
    dsimp only
    split
    · exact hchanged.trans (changes_restartIfEligible _)
    · split
      · exact hchanged.tail (.advanced _)
      · exact hchanged
  | setEnvironment foreground online =>
    have hchanged : Changes own manager
        { manager with foreground := foreground, online := online } :=
      .single (.kept rfl rfl rfl rfl)
    unfold step
    dsimp only
    split
    · exact .refl
    · exact hchanged.trans (changes_restartIfEligible _)
  | close =>
    have hclosed : Changes own manager { manager with closed := true } :=
      .single (.kept rfl rfl rfl rfl)
    exact hclosed.tail (.advanced _)
  | connected i result =>
    unfold step
    dsimp only
    split
    · exact changes_connected options manager i result
    · exact .refl
  | message i message =>
    exact changes_handleMessage options manager i (hown i message rfl)
  | disconnected i => exact changes_failRun options manager i .disconnect
  | heartbeat i pingThrows =>
    unfold step
    dsimp only
    split
    · exact changes_failRun options manager i .ping
    · exact .refl
  | reconnect candidateGeneration =>
    have hfired : Changes own manager { manager with reconnectTimer := none } :=
      .single (.kept rfl rfl rfl rfl)
    unfold step
    dsimp only
    split
    · exact hfired
    · exact (hfired.tail (.advanced _)).tail (.started _)
  | loaded i j baseline =>
    unfold step
    dsimp only
    cases manager.operation? i j with
    | none => exact .refl
    | some operation =>
      dsimp only
      split
      · exact changes_loaded options howned hnamed i j operation baseline
      · exact .refl
  | settled i j =>
    unfold step
    dsimp only
    cases manager.operation? i j with
    | none => exact .refl
    | some operation =>
      dsimp only
      split
      · exact .refl
      · have hquiet : ∀ state : SubscriptionRunState δ, Quiet (own operation.key) state
            (if state.baselinePromise = some j then { state with baselinePromise := none }
            else state) := by
          intro state
          split
          · exact ⟨fun _ hmem => .inl hmem, fun hready => ⟨hready, rfl⟩, fun _ => rfl⟩
          · exact .refl (own operation.key) state
        exact .single (.changed manager i (tame_modifyState hquiet))
  | caught i j =>
    unfold step
    dsimp only
    cases manager.operation? i j with
    | none => exact .refl
    | some operation =>
      dsimp only
      split
      · exact changes_failRun options manager i _
      · exact .refl
      · exact .refl
  | established i =>
    unfold step
    dsimp only
    split
    · exact .single (.kept rfl rfl rfl rfl)
    · exact .refl

theorem changes_step (options : StreamManagerOptions)
    (hkeyed : manager.Keyed) (event : StreamEvent δ) :
    Changes (fun key message => message.key = key) manager (manager.step options event) :=
  changes_step_of_owned options hkeyed (fun _ _ h => h) fun _ _ _ => rfl

end StreamManager

end HyperTrader
