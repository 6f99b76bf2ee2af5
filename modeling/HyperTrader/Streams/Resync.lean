import HyperTrader.Streams.Manager

/-!
# How often a rebaseline operation loads

An operation counts the baselines it has asked for. It asks again after a gap in what it
replays, as long as the limit allows, and after an overflow of its buffer, whatever the
limit says. So the limit bounds the operations of a run as long as no buffer overflows
during the last load that it allows.
-/

namespace HyperTrader

open Library

variable {δ : Type*}

namespace GenerationRun

variable {limit : ℕ} {run : GenerationRun δ}

/-- Every operation has loaded at most `limit` baselines; where that is none, the run has
no state for which an operation could start. -/
structure Within (limit : ℕ) (run : GenerationRun δ) : Prop where
  attempts : ∀ operation ∈ run.operations, operation.attempts ≤ limit
  states : limit = 0 → ∀ key, run.states key = none

theorem within_started (limit candidateGeneration : ℕ) :
    (started candidateGeneration : GenerationRun δ).Within limit where
  attempts _ h := absurd h List.not_mem_nil
  states _ _ := rfl

theorem Within.of_eq {after : GenerationRun δ} (h : run.Within limit)
    (hoperations : after.operations = run.operations) (hstates : after.states = run.states) :
    after.Within limit where
  attempts := by rw [hoperations]; exact h.attempts
  states := by rw [hstates]; exact h.states

theorem Within.teardown (h : run.Within limit) : run.teardown.Within limit where
  attempts := h.attempts
  states _ _ := rfl

theorem Within.modifyState (h : run.Within limit) (key : String)
    (f : SubscriptionRunState δ → SubscriptionRunState δ) :
    (run.modifyState key f).Within limit where
  attempts := h.attempts
  states hlimit other := by
    have hnone := h.states hlimit other
    unfold GenerationRun.modifyState
    dsimp only
    split
    · rw [hnone]
      rfl
    · exact hnone

theorem Within.rebaseline (h : run.Within limit) (key : String) :
    (run.rebaseline key).Within limit := by
  unfold GenerationRun.rebaseline
  cases hstate : run.states key with
  | none => exact h
  | some state =>
    dsimp only
    cases state.baselinePromise with
    | some promise => exact h
    | none =>
      have hpositive : limit ≠ 0 := by
        intro hlimit
        rw [h.states hlimit key] at hstate
        cases hstate
      constructor
      · intro operation hoperation
        rcases List.mem_append.mp hoperation with hold | hnew
        · exact h.attempts operation hold
        · cases List.mem_singleton.mp hnew
          exact Nat.one_le_iff_ne_zero.mpr hpositive
      · intro hlimit
        exact absurd hlimit hpositive

theorem Within.foldl_rebaseline (h : run.Within limit) (keys : List String) :
    (keys.foldl (fun run key => run.rebaseline key) run).Within limit := by
  induction keys generalizing run with
  | nil => exact h
  | cons key keys ih => exact ih (h.rebaseline key)

theorem Within.opened (h : run.Within limit) (hlimit : 0 < limit)
    (subscriptions : List ManagedStreamSubscription) : (run.opened subscriptions).Within limit := by
  unfold GenerationRun.opened
  refine Within.of_eq (Within.foldl_rebaseline ?_ _) rfl rfl
  exact ⟨h.attempts, fun hzero => absurd hzero (Nat.pos_iff_ne_zero.mp hlimit)⟩

variable {operation : RebaselineOperation}

theorem mem_modify {operations : List RebaselineOperation}
    {j : ℕ} {f : RebaselineOperation → RebaselineOperation}
    (h : operation ∈ operations.modify j f) :
    operation ∈ operations ∨ ∃ old, operations[j]? = some old ∧ operation = f old := by
  obtain ⟨k, hk⟩ := List.mem_iff_getElem?.mp h
  rw [List.getElem?_modify, Option.map_eq_map, Option.map_eq_some_iff] at hk
  obtain ⟨old, hold, heq⟩ := hk
  by_cases hj : j = k
  · subst hj
    rw [if_pos rfl] at heq
    exact .inr ⟨old, hold, heq.symm⟩
  · rw [if_neg hj] at heq
    cases heq
    exact .inl (List.mem_of_getElem? hold)

theorem Within.setStage (h : run.Within limit) (j : ℕ) (stage : RebaselineStage) :
    (run.setStage j stage).Within limit where
  attempts operation hoperation := by
    rcases mem_modify hoperation with hold | ⟨old, hold, rfl⟩
    · exact h.attempts operation hold
    · exact h.attempts old (List.mem_of_getElem? hold)
  states := h.states

theorem Within.nextAttempt (h : run.Within limit) {j : ℕ}
    (hattempts : ∀ operation, run.operations[j]? = some operation → operation.attempts < limit) :
    (run.nextAttempt j).Within limit where
  attempts operation hoperation := by
    rcases mem_modify hoperation with hold | ⟨old, hold, rfl⟩
    · exact h.attempts operation hold
    · exact hattempts old hold
  states := h.states

theorem mem_rebaseline (h : operation ∈ run.operations)
    (key : String) : operation ∈ (run.rebaseline key).operations := by
  unfold GenerationRun.rebaseline
  cases run.states key with
  | none => exact h
  | some state =>
    dsimp only
    cases state.baselinePromise with
    | some promise => exact h
    | none => exact List.mem_append_left _ h

theorem mem_foldl_rebaseline (h : operation ∈ run.operations) (keys : List String) :
    operation ∈ (keys.foldl (fun run key => run.rebaseline key) run).operations := by
  induction keys generalizing run with
  | nil => exact h
  | cons key keys ih => exact ih (mem_rebaseline h key)

theorem exists_operation_opened (run : GenerationRun δ)
    {subscriptions : List ManagedStreamSubscription} (h : subscriptions ≠ []) :
    ∃ operation ∈ (run.opened subscriptions).operations, operation.attempts = 1 := by
  unfold GenerationRun.opened
  dsimp only
  cases hkeys : (subscriptions.map ManagedStreamSubscription.key).eraseDups with
  | nil =>
    cases subscriptions with
    | nil => exact absurd rfl h
    | cons subscription subscriptions =>
      rw [List.map_cons, List.eraseDups_cons] at hkeys
      cases hkeys
  | cons key keys =>
    refine ⟨⟨key, 1, .loading⟩, ?_, rfl⟩
    rw [List.foldl_cons]
    apply mem_foldl_rebaseline
    simp [GenerationRun.rebaseline, SubscriptionRunState.opened]

end GenerationRun

namespace StreamManager

open GenerationRun

variable {limit : ℕ} {manager : StreamManager δ} {i j : ℕ}

def Resyncs (limit : ℕ) (manager : StreamManager δ) : Prop :=
  ∀ run ∈ manager.runs, run.Within limit

theorem Resyncs.of_runs {after : StreamManager δ} (h : manager.Resyncs limit)
    (hruns : after.runs = manager.runs) : after.Resyncs limit := by
  unfold Resyncs
  rw [hruns]
  exact h

theorem resyncs_create (limit : ℕ) : (create : StreamManager δ).Resyncs limit :=
  fun _ h => absurd h List.not_mem_nil

variable {f : GenerationRun δ → GenerationRun δ} {options : StreamManagerOptions}
  {operation : RebaselineOperation} {state : SubscriptionRunState δ}

theorem resyncs_modify {runs : List (GenerationRun δ)} (h : ∀ run ∈ runs, run.Within limit)
    (hf : ∀ run, runs[i]? = some run → run.Within limit → (f run).Within limit) :
    ∀ run ∈ runs.modify i f, run.Within limit := by
  intro run hrun
  obtain ⟨k, hk⟩ := List.mem_iff_getElem?.mp hrun
  rw [List.getElem?_modify, Option.map_eq_map, Option.map_eq_some_iff] at hk
  obtain ⟨old, hold, heq⟩ := hk
  have hwithin := h old (List.mem_of_getElem? hold)
  by_cases hi : i = k
  · subst hi
    rw [if_pos rfl] at heq
    cases heq
    exact hf old hold hwithin
  · rw [if_neg hi] at heq
    cases heq
    exact hwithin

theorem Resyncs.modifyRun (h : manager.Resyncs limit) (i : ℕ)
    (hf : ∀ run : GenerationRun δ, run.Within limit → (f run).Within limit) :
    (manager.modifyRun i f).Resyncs limit :=
  resyncs_modify h fun run _ => hf run

theorem Resyncs.modifyState (h : manager.Resyncs limit) (i : ℕ) (key : String)
    (f : SubscriptionRunState δ → SubscriptionRunState δ) :
    (manager.modifyRun i (.modifyState key f)).Resyncs limit :=
  h.modifyRun i fun _ hrun => hrun.modifyState key f

theorem Resyncs.advanceGeneration (h : manager.Resyncs limit) :
    manager.advanceGeneration.Resyncs limit := by
  unfold StreamManager.advanceGeneration Resyncs
  cases manager.currentRun with
  | none => exact h
  | some i => exact resyncs_modify h fun run _ hrun => hrun.teardown

theorem Resyncs.startGeneration (h : manager.Resyncs limit) :
    manager.startGeneration.Resyncs limit := by
  intro run hrun
  rcases List.mem_append.mp hrun with hold | hnew
  · exact h run hold
  · cases List.mem_singleton.mp hnew
    exact within_started limit manager.generation

theorem Resyncs.restartIfEligible (h : manager.Resyncs limit) :
    manager.restartIfEligible.Resyncs limit := by
  unfold StreamManager.restartIfEligible
  dsimp only
  split
  · exact h.advanceGeneration.startGeneration
  · exact h.advanceGeneration

theorem Resyncs.failRun (h : manager.Resyncs limit) (options : StreamManagerOptions) (i : ℕ)
    (error : StreamError) : (manager.failRun options i error).Resyncs limit := by
  unfold StreamManager.failRun
  split
  · exact h
  · have hfailed : (manager.modifyRun i fun run => { run with failed := true }).Resyncs limit :=
      h.modifyRun i fun _ hrun => hrun.of_eq rfl rfl
    have hreported : Resyncs limit { manager.modifyRun i fun run =>
        { run with failed := true } with
          consumer := { manager.consumer with errors := manager.consumer.errors ++ [error] } } :=
      hfailed.of_runs rfl
    have hadvanced := hreported.advanceGeneration
    dsimp only [StreamManager.scheduleReconnect]
    split
    · exact hadvanced
    · exact hadvanced.of_runs rfl

theorem Resyncs.processReadyMessage (h : manager.Resyncs limit)
    (options : StreamManagerOptions) (i : ℕ) (key : String) (state : SubscriptionRunState δ)
    (message : ManagedStreamMessage δ) (allowRebaseline : Bool) :
    (manager.processReadyMessage options i key state message allowRebaseline).1.Resyncs limit := by
  unfold StreamManager.processReadyMessage
  split
  · exact h
  · cases state.position message with
    | ignored => exact h
    | gap =>
      dsimp only
      split
      · exact (h.modifyState i key _).modifyRun i fun _ hrun => hrun.rebaseline key
      · exact h
    | applied => exact (h.modifyState i key _).of_runs rfl

theorem Resyncs.handleMessage (h : manager.Resyncs limit) (options : StreamManagerOptions)
    (i : ℕ) (message : ManagedStreamMessage δ) :
    (manager.handleMessage options i message).Resyncs limit := by
  unfold StreamManager.handleMessage
  split
  · exact h
  · cases manager.state? i message.key with
    | none => exact h
    | some state =>
      dsimp only
      split
      · exact h.modifyState i message.key _
      · exact h.processReadyMessage options i message.key state message true

theorem Resyncs.replay (h : manager.Resyncs limit) (options : StreamManagerOptions) (i : ℕ)
    (key : String) (buffered : List (ManagedStreamMessage δ)) (persistentGap : Bool) :
    (replay options i key manager buffered persistentGap).1.Resyncs limit := by
  induction buffered generalizing manager persistentGap with
  | nil => exact h
  | cons message buffered ih =>
    unfold StreamManager.replay
    cases manager.state? i key with
    | none => exact h
    | some state =>
      dsimp only
      split
      · exact ih (h.modifyState i key _) _
      · have hprocessed := h.processReadyMessage options i key state message false
        split
        · exact ih (hprocessed.modifyState i key _) true
        · exact ih hprocessed _

/-! ### A replay starts no operation -/

theorem operation?_modifyRun
    (hf : ∀ run : GenerationRun δ, (f run).operations = run.operations) (k : ℕ) :
    (manager.modifyRun k f).operation? i j = manager.operation? i j := by
  unfold operation? StreamManager.modifyRun
  dsimp only
  rw [List.getElem?_modify]
  cases manager.runs[i]? with
  | none => rfl
  | some run =>
    dsimp only [Option.map_eq_map, Option.map_some, Option.bind_some]
    split
    · rw [hf]
    · rfl

theorem operation?_modifyState (k : ℕ) (key : String)
    (f : SubscriptionRunState δ → SubscriptionRunState δ) :
    (manager.modifyRun k (.modifyState key f)).operation? i j = manager.operation? i j :=
  operation?_modifyRun (f := .modifyState key f) (fun _ => rfl) k

theorem operation?_processReadyMessage (options : StreamManagerOptions) (k : ℕ) (key : String)
    (state : SubscriptionRunState δ) (message : ManagedStreamMessage δ) :
    (manager.processReadyMessage options k key state message false).1.operation? i j =
      manager.operation? i j := by
  unfold StreamManager.processReadyMessage
  split
  · rfl
  · cases state.position message with
    | ignored => rfl
    | gap => rfl
    | applied => exact operation?_modifyState k key _

theorem operation?_replay (options : StreamManagerOptions) (k : ℕ) (key : String)
    (buffered : List (ManagedStreamMessage δ)) (persistentGap : Bool) :
    (replay options k key manager buffered persistentGap).1.operation? i j =
      manager.operation? i j := by
  induction buffered generalizing manager persistentGap with
  | nil => rfl
  | cons message buffered ih =>
    unfold StreamManager.replay
    cases manager.state? k key with
    | none => rfl
    | some state =>
      dsimp only
      split
      · rw [ih, operation?_modifyState]
      · split
        · rw [ih, operation?_modifyState, operation?_processReadyMessage]
        · rw [ih, operation?_processReadyMessage]

/-! ### The end of a load -/

theorem Resyncs.nextAttempt (h : manager.Resyncs limit) {operation : RebaselineOperation}
    (hoperation : manager.operation? i j = some operation)
    (hattempts : operation.attempts < limit) :
    (manager.modifyRun i (.nextAttempt j)).Resyncs limit := by
  apply resyncs_modify h
  intro run hrun hwithin
  apply hwithin.nextAttempt
  intro found hfound
  unfold operation? at hoperation
  rw [hrun, Option.bind_some, hfound] at hoperation
  cases hoperation
  exact hattempts

def Allowed (options : StreamManagerOptions) (operation : RebaselineOperation)
    (state : SubscriptionRunState δ) : Prop :=
  options.maxResyncAttempts ≤ operation.attempts → state.bufferOverflowed = false

theorem Resyncs.rebaselined (h : manager.Resyncs options.maxResyncAttempts)
    (hoperation : manager.operation? i j = some operation)
    (hallowed : Allowed options operation state) (baseline : ManagedStreamBaseline δ) :
    (manager.rebaselined options i j operation state baseline).Resyncs
      options.maxResyncAttempts := by
  unfold StreamManager.rebaselined
  dsimp only
  have happlied : (manager.apply (.baseline operation.key baseline)).Resyncs
      options.maxResyncAttempts := h.of_runs rfl
  split
  · rename_i hoverflowed
    refine @Resyncs.nextAttempt _ _ _ _ _ (happlied.modifyState i operation.key _) operation
      ?_ ?_
    · rw [operation?_modifyState]
      exact hoperation
    · by_contra hlast
      rw [hallowed (Nat.le_of_not_lt hlast)] at hoverflowed
      cases hoverflowed
  · have hreplayed := (happlied.modifyState i operation.key fun state => { state with
        lastSequence := baseline.sequence
        seenIds := []
        buffer := []
        bufferOverflowed := false
        baselineReady := true }).replay options i operation.key state.buffer false
    split
    · have hunready := hreplayed.modifyState i operation.key fun state =>
        { state with baselineReady := false }
      split
      · exact hunready.modifyRun i fun _ hrun => hrun.setStage j _
      · rename_i hremains
        refine @Resyncs.nextAttempt _ _ _ _ _ hunready operation ?_ (Nat.lt_of_not_le hremains)
        rw [operation?_modifyState, operation?_replay, operation?_modifyState]
        exact hoperation
    · exact hreplayed.modifyRun i fun _ hrun => hrun.setStage j _

/-- The step does not go past the limit: where an operation ends the last load that it may
make, its buffer has not overflowed; and no operation starts where there may be none. -/
def Spares (options : StreamManagerOptions) (manager : StreamManager δ) :
    StreamEvent δ → Prop
  | .connected i .opened =>
    (manager.runs[i]?).any (·.connecting) = true → manager.isCurrent i = true →
      0 < options.maxResyncAttempts
  | .loaded i j (some _) => ∀ operation state, manager.operation? i j = some operation →
      operation.stage = .loading → manager.isCurrent i = true →
        manager.state? i operation.key = some state → Allowed options operation state
  | _ => True

def Bounded (options : StreamManagerOptions) (manager : StreamManager δ)
    (event : StreamEvent δ) : Prop :=
  ∀ run ∈ (manager.step options event).runs, ∀ operation ∈ run.operations,
    operation.attempts ≤ options.maxResyncAttempts

theorem Resyncs.loaded (h : manager.Resyncs options.maxResyncAttempts)
    (hoperation : manager.operation? i j = some operation)
    {baseline : Option (ManagedStreamBaseline δ)}
    (hallowed : baseline.isSome = true → manager.isCurrent i = true → ∀ state,
      manager.state? i operation.key = some state → Allowed options operation state) :
    (manager.loaded options i j operation baseline).Resyncs options.maxResyncAttempts := by
  cases baseline with
  | none => exact h.modifyRun i fun _ hrun => hrun.setStage j _
  | some baseline =>
    unfold StreamManager.loaded
    dsimp only
    split
    · exact h.modifyRun i fun _ hrun => hrun.setStage j _
    · rename_i hcurrent
      rw [Bool.not_eq_false] at hcurrent
      cases hstate : manager.state? i operation.key with
      | none => exact h
      | some state =>
        exact h.rebaselined hoperation (hallowed rfl hcurrent state hstate) baseline

theorem Resyncs.connected (h : manager.Resyncs limit) {result : ConnectResult}
    (hlimit : result = .opened → manager.isCurrent i = true → 0 < limit) :
    (manager.connected options i result).Resyncs limit := by
  have hconnecting : (manager.modifyRun i fun run =>
      { run with connecting := false }).Resyncs limit :=
    h.modifyRun i fun _ hrun => hrun.of_eq rfl rfl
  cases result with
  | failed => exact hconnecting.failRun options i .connect
  | subscribeThrows =>
    unfold StreamManager.connected
    dsimp only
    split
    · exact hconnecting
    · have hconnection : (manager.modifyRun i fun run =>
          { run with connecting := false, connection := true }).Resyncs limit :=
        h.modifyRun i fun _ hrun => hrun.of_eq rfl rfl
      exact hconnection.failRun options i .subscribe
  | opened =>
    unfold StreamManager.connected
    dsimp only
    split
    · exact hconnecting
    · rename_i hcurrent
      rw [Bool.not_eq_false] at hcurrent
      exact h.modifyRun i fun _ hrun => hrun.opened (hlimit rfl hcurrent) _

/-- A spared step keeps every run within its number of attempts. -/
theorem Resyncs.step (h : manager.Resyncs options.maxResyncAttempts) {event : StreamEvent δ}
    (hspares : manager.Spares options event) :
    (manager.step options event).Resyncs options.maxResyncAttempts := by
  cases event with
  | setSubscriptions next =>
    have hchanged : { manager with subscriptions := next }.Resyncs
        options.maxResyncAttempts := h.of_runs rfl
    unfold StreamManager.step
    dsimp only
    split
    · exact hchanged.restartIfEligible
    · split
      · exact hchanged.advanceGeneration
      · exact hchanged
  | setEnvironment foreground online =>
    unfold StreamManager.step
    dsimp only
    split
    · exact h
    · have hchanged : Resyncs options.maxResyncAttempts
          { manager with foreground := foreground, online := online } := h.of_runs rfl
      exact hchanged.restartIfEligible
  | close =>
    have hclosed : Resyncs options.maxResyncAttempts { manager with closed := true } :=
      h.of_runs rfl
    exact hclosed.advanceGeneration
  | connected i result =>
    unfold StreamManager.step
    dsimp only
    split
    · rename_i hconnecting
      refine h.connected ?_
      rintro rfl hcurrent
      exact hspares hconnecting hcurrent
    · exact h
  | message i message => exact h.handleMessage options i message
  | disconnected i => exact h.failRun options i .disconnect
  | heartbeat i pingThrows =>
    unfold StreamManager.step
    dsimp only
    split
    · exact h.failRun options i .ping
    · exact h
  | reconnect candidateGeneration =>
    have hfired : { manager with reconnectTimer := none }.Resyncs
        options.maxResyncAttempts := h.of_runs rfl
    unfold StreamManager.step
    dsimp only
    split
    · exact hfired
    · exact hfired.advanceGeneration.startGeneration
  | loaded i j baseline =>
    unfold StreamManager.step
    dsimp only
    cases hoperation : manager.operation? i j with
    | none => exact h
    | some operation =>
      dsimp only
      split
      · rename_i hloading
        apply h.loaded hoperation
        intro hbaseline hcurrent state hstate
        obtain ⟨baseline, rfl⟩ := Option.isSome_iff_exists.mp hbaseline
        exact hspares operation state hoperation hloading hcurrent hstate
      · exact h
  | settled i j =>
    unfold StreamManager.step
    dsimp only
    cases manager.operation? i j with
    | none => exact h
    | some operation =>
      dsimp only
      split
      · exact h
      · exact h.modifyState i operation.key _
  | caught i j =>
    unfold StreamManager.step
    dsimp only
    cases manager.operation? i j with
    | none => exact h
    | some operation =>
      dsimp only
      split
      · exact h.failRun options i _
      · exact h
      · exact h
  | established i =>
    unfold StreamManager.step
    dsimp only
    split
    · exact h.of_runs rfl
    · exact h

/-! ### Where the limit is passed -/

theorem not_bounded_of_overflow (hoperation : manager.operation? i j = some operation)
    (hloading : operation.stage = .loading) (hcurrent : manager.isCurrent i = true)
    (hstate : manager.state? i operation.key = some state)
    (hlast : options.maxResyncAttempts ≤ operation.attempts)
    (hoverflowed : state.bufferOverflowed = true) (baseline : ManagedStreamBaseline δ) :
    ¬ manager.Bounded options (.loaded i j (some baseline)) := by
  intro hbounded
  obtain ⟨run, hrun, hj⟩ := Option.bind_eq_some_iff.mp hoperation
  have hstep : manager.step options (.loaded i j (some baseline)) =
      manager.rebaselined options i j operation state baseline := by
    simp only [StreamManager.step, hoperation, hloading, if_true, StreamManager.loaded, hcurrent,
      Bool.true_eq_false, if_false, hstate]
  rw [Bounded, hstep, StreamManager.rebaselined, if_pos hoverflowed] at hbounded
  let clear (state : SubscriptionRunState δ) : SubscriptionRunState δ :=
    { state with
      lastSequence := baseline.sequence
      seenIds := []
      buffer := []
      bufferOverflowed := false }
  let applied := manager.apply (.baseline operation.key baseline)
  let overflowed := run.modifyState operation.key clear
  have hafter : overflowed.nextAttempt j ∈ ((applied.modifyRun i
      (.modifyState operation.key clear)).modifyRun i (.nextAttempt j)).runs := by
    apply List.mem_of_getElem? (i := i)
    simp [StreamManager.modifyRun, applied, StreamManager.apply, hrun, overflowed]
  have hnext : { operation with attempts := operation.attempts + 1 } ∈
      (overflowed.nextAttempt j).operations := by
    apply List.mem_of_getElem? (i := j)
    simp [GenerationRun.nextAttempt, overflowed, GenerationRun.modifyState, hj]
  exact Nat.not_succ_le_self _ (Nat.le_trans (hbounded _ hafter _ hnext) hlast)

theorem not_bounded_of_opened (hconnecting : (manager.runs[i]?).any (·.connecting) = true)
    (hcurrent : manager.isCurrent i = true) (hlimit : options.maxResyncAttempts = 0) :
    ¬ manager.Bounded options (.connected i .opened) := by
  intro hbounded
  have hsubscriptions : manager.subscriptions ≠ [] := by
    intro hnil
    have heligible := (Bool.and_eq_true_iff.mp hcurrent).2
    rw [StreamManager.eligible, hnil] at heligible
    simp at heligible
  cases hrun : manager.runs[i]? with
  | none =>
    rw [hrun] at hconnecting
    cases hconnecting
  | some run =>
    obtain ⟨operation, hmem, hattempts⟩ := run.exists_operation_opened hsubscriptions
    have hstep : manager.step options (.connected i .opened) =
        manager.modifyRun i (.opened manager.subscriptions) := by
      simp only [StreamManager.step, hconnecting, if_true, StreamManager.connected, hcurrent,
        Bool.true_eq_false, if_false]
    have hafter : run.opened manager.subscriptions ∈
        (manager.modifyRun i (.opened manager.subscriptions)).runs := by
      apply List.mem_of_getElem? (i := i)
      simp [StreamManager.modifyRun, hrun]
    rw [Bounded, hstep] at hbounded
    have hle := hbounded _ hafter operation hmem
    rw [hattempts, hlimit] at hle
    exact absurd hle (by decide)

theorem Resyncs.bounded_iff
    (h : manager.Resyncs options.maxResyncAttempts) (event : StreamEvent δ) :
    manager.Bounded options event ↔ manager.Spares options event := by
  constructor
  · intro hbounded
    cases event with
    | connected i result =>
      cases result with
      | opened =>
        intro hconnecting hcurrent
        by_contra hlimit
        exact not_bounded_of_opened hconnecting hcurrent (Nat.eq_zero_of_not_pos hlimit)
          hbounded
      | failed => trivial
      | subscribeThrows => trivial
    | loaded i j baseline =>
      cases baseline with
      | none => trivial
      | some baseline =>
        intro operation state hoperation hloading hcurrent hstate hlast
        by_contra hoverflowed
        rw [Bool.not_eq_false] at hoverflowed
        exact not_bounded_of_overflow hoperation hloading hcurrent hstate hlast hoverflowed
          baseline hbounded
    | _ => trivial
  · intro hspares run hrun
    exact (h.step hspares run hrun).attempts

/-- An operation never loads more baselines than the limit allows if and only if no step
overruns it. -/
theorem resync_bounded_iff (options : StreamManagerOptions) (events : List (StreamEvent δ)) :
    Along (step options) (Bounded options) create events ↔
      Along (step options) (Spares options) create events :=
  @along_iff_of_kept _ _ _ _ _ (Resyncs options.maxResyncAttempts)
    (fun _ event h => h.bounded_iff event) (fun _ _ h hspares => h.step hspares) _
    (resyncs_create _) events

def burstMessage (sequence : ℤ) : ManagedStreamMessage Unit :=
  ⟨"book", some sequence, toString sequence, (), false⟩

/-- A buffer of one message overflows during each of two loads: the operation makes a third,
where two are allowed. -/
theorem resync_overrun : ¬ ∀ events : List (StreamEvent Unit),
    Along (step ⟨8, 2, 1⟩) (Bounded ⟨8, 2, 1⟩) create events := by
  intro h
  have hbounded := (h [.setSubscriptions [⟨"book"⟩],
    .setEnvironment true true, .connected 0 .opened,
    .message 0 (burstMessage 1), .message 0 (burstMessage 2), .loaded 0 0 (some ⟨some 0, ()⟩),
    .message 0 (burstMessage 3), .message 0 (burstMessage 4),
    .loaded 0 0 (some ⟨some 0, ()⟩)]).2.2.2.2.2.2.2.2.1
  exact absurd (hbounded _ List.mem_cons_self ⟨"book", 3, .loading⟩ List.mem_cons_self)
    (by decide)

end StreamManager

end HyperTrader
