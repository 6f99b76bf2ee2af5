import HyperTrader.Library.Machine
import Mathlib.Data.Int.Notation

/-!
# The foreground stream manager

The manager keeps one connection for the current subscriptions. Every change of the
subscriptions or of the environment, and every failure, advances its generation and
starts a new run. A run buffers the messages of a key until a baseline of that key
is loaded and then applies them by their sequence numbers; a gap loads the baseline
again. The manager is a machine: its events are the calls, the messages and failures
of the connections, the timers, and the ends of the awaits of every run and of every
rebaseline operation, in any order, those of runs long superseded included.

A delay is not part of the model, so a timer may fire at any moment, also one that was
unscheduled. The consumer's callbacks return.
-/

namespace HyperTrader

open Library

variable {δ : Type*}

structure ManagedStreamSubscription where
  key : String

structure ManagedStreamBaseline (δ : Type*) where
  sequence : Option ℤ
  data : δ

structure ManagedStreamMessage (δ : Type*) where
  key : String
  sequence : Option ℤ
  stableId : String
  data : δ
  isSnapshot : Bool
  deriving DecidableEq

structure StreamManagerOptions where
  maxReconnectAttempts : ℕ := 8
  maxResyncAttempts : ℕ := 2
  maxBufferedMessages : ℕ := 256

inductive StreamError where
  | connect
  | subscribe
  | disconnect
  | ping
  | loadBaseline (key : String)
  | discontinuous (key : String) (attempts : ℕ)
  deriving DecidableEq

inductive StreamUpdate (δ : Type*) where
  /-- `applyBaseline` -/
  | baseline (key : String) (baseline : ManagedStreamBaseline δ)
  /-- `applyDelta` -/
  | delta (key : String) (message : ManagedStreamMessage δ)

structure StreamConsumer (δ : Type*) where
  applied : List (StreamUpdate δ)
  errors : List StreamError

structure SubscriptionRunState (δ : Type*) where
  lastSequence : Option ℤ
  seenIds : List String
  buffer : List (ManagedStreamMessage δ)
  bufferOverflowed : Bool
  baselineReady : Bool
  baselinePromise : Option ℕ

inductive RebaselineStage where
  | loading
  | returned
  | threw (error : StreamError)
  deriving DecidableEq

structure RebaselineOperation where
  key : String
  attempts : ℕ
  stage : RebaselineStage

/-- `GenerationRun`. `connecting` says that the run waits for its connection, and
`initial` counts the operations it waits for after that; the others were started
by gaps. -/
structure GenerationRun (δ : Type*) where
  generation : ℕ
  aborted : Bool
  connecting : Bool
  connection : Bool
  states : String → Option (SubscriptionRunState δ)
  operations : List RebaselineOperation
  initial : ℕ
  failed : Bool

structure StreamManager (δ : Type*) where
  subscriptions : List ManagedStreamSubscription
  foreground : Bool
  online : Bool
  generation : ℕ
  currentRun : Option ℕ
  reconnectTimer : Option ℕ
  reconnectAttempts : ℕ
  closed : Bool
  runs : List (GenerationRun δ)
  consumer : StreamConsumer δ

inductive ConnectResult where
  | failed
  | opened
  /-- A `subscribe` of the connection throws. -/
  | subscribeThrows

inductive StreamEvent (δ : Type*) where
  | setSubscriptions (next : List ManagedStreamSubscription)
  | setEnvironment (foreground online : Bool)
  | close
  | connected (run : ℕ) (result : ConnectResult)
  | message (run : ℕ) (message : ManagedStreamMessage δ)
  | disconnected (run : ℕ)
  | heartbeat (run : ℕ) (pingThrows : Bool)
  /-- The timer of `scheduleReconnect` fires. -/
  | reconnect (candidateGeneration : ℕ)
  /-- The promise of `loadBaseline` settles; `none` is a rejection. -/
  | loaded (run operation : ℕ) (baseline : Option (ManagedStreamBaseline δ))
  /-- The `finally` of an operation. -/
  | settled (run operation : ℕ)
  /-- The handler of an operation that threw. -/
  | caught (run operation : ℕ)
  /-- Every initial operation of the run has returned. -/
  | established (run : ℕ)

namespace SubscriptionRunState

def opened : SubscriptionRunState δ where
  lastSequence := none
  seenIds := []
  buffer := []
  bufferOverflowed := false
  baselineReady := false
  baselinePromise := none

def rememberId (seenIds : List String) (stableId : String) : List String :=
  let added := if stableId ∈ seenIds then seenIds else seenIds ++ [stableId]
  if added.length ≤ 256 then added else added.tail

def bufferMessage (options : StreamManagerOptions) (message : ManagedStreamMessage δ)
    (state : SubscriptionRunState δ) : SubscriptionRunState δ :=
  if options.maxBufferedMessages ≤ state.buffer.length then
    { state with buffer := state.buffer.tail ++ [message], bufferOverflowed := true }
  else { state with buffer := state.buffer ++ [message] }

/-- The position a message has to what was applied, as `processReadyMessage`
compares them. -/
inductive Position where
  | applied
  | ignored
  | gap
  deriving DecidableEq

/-- The tests of `processReadyMessage`. -/
def position (state : SubscriptionRunState δ) (message : ManagedStreamMessage δ) : Position :=
  if message.stableId ∈ state.seenIds then .ignored
  else
    match message.sequence, state.lastSequence with
    | some sequence, some lastSequence =>
      if sequence ≤ lastSequence then .ignored
      else if sequence ≠ lastSequence + 1 then .gap
      else .applied
    | _, _ => .applied

def advance (message : ManagedStreamMessage δ) (state : SubscriptionRunState δ) :
    SubscriptionRunState δ :=
  { state with
    lastSequence := message.sequence.or state.lastSequence
    seenIds := rememberId state.seenIds message.stableId }

end SubscriptionRunState

namespace GenerationRun

def started (candidateGeneration : ℕ) : GenerationRun δ where
  generation := candidateGeneration
  aborted := false
  connecting := true
  connection := false
  states := fun _ => none
  operations := []
  initial := 0
  failed := false

/-- `teardownRun` -/
def teardown (run : GenerationRun δ) : GenerationRun δ :=
  { run with aborted := true, connection := false, states := fun _ => none }

def modifyState (key : String)
    (f : SubscriptionRunState δ → SubscriptionRunState δ) (run : GenerationRun δ) :
    GenerationRun δ :=
  { run with states := fun other =>
      if other = key then (run.states other).map f else run.states other }

/-- `rebaseline` up to its first await. The run is current where it is called, so
the loop is entered. -/
def rebaseline (key : String) (run : GenerationRun δ) : GenerationRun δ :=
  match run.states key with
  | none => run
  | some state =>
    match state.baselinePromise with
    | some _ => run
    | none =>
      let begun := run.modifyState key fun state =>
        { state with
          baselineReady := false
          baselinePromise := some run.operations.length }
      { begun with operations := run.operations ++ [⟨key, 1, .loading⟩] }

/-- The run has its connection: the states are created, and after the
subscriptions one operation starts for each of them. -/
def opened (subscriptions : List ManagedStreamSubscription) (run : GenerationRun δ) :
    GenerationRun δ :=
  let keys := (subscriptions.map ManagedStreamSubscription.key).eraseDups
  let begun := keys.foldl (fun run key => run.rebaseline key)
    { run with
      connecting := false
      connection := true
      states := fun key => if key ∈ keys then some .opened else none }
  { begun with initial := begun.operations.length }

def setStage (operation : ℕ) (stage : RebaselineStage) (run : GenerationRun δ) : GenerationRun δ :=
  { run with operations :=
      run.operations.modify operation fun op => { op with stage := stage } }

def nextAttempt (operation : ℕ) (run : GenerationRun δ) : GenerationRun δ :=
  { run with operations :=
      run.operations.modify operation fun op => { op with attempts := op.attempts + 1 } }

end GenerationRun

namespace StreamManager

/-- `createForegroundStreamManager` -/
def create : StreamManager δ where
  subscriptions := []
  foreground := false
  online := false
  generation := 0
  currentRun := none
  reconnectTimer := none
  reconnectAttempts := 0
  closed := false
  runs := []
  consumer := ⟨[], []⟩

def eligible (manager : StreamManager δ) : Bool :=
  !manager.closed && manager.foreground && manager.online &&
    !manager.subscriptions.isEmpty

def isCurrent (manager : StreamManager δ) (i : ℕ) : Bool :=
  manager.currentRun == some i &&
    (manager.runs[i]?).any (fun run => run.generation == manager.generation && !run.aborted) &&
    manager.eligible

def modifyRun (manager : StreamManager δ) (i : ℕ)
    (f : GenerationRun δ → GenerationRun δ) : StreamManager δ :=
  { manager with runs := manager.runs.modify i f }

def state? (manager : StreamManager δ) (i : ℕ) (key : String) : Option (SubscriptionRunState δ) :=
  (manager.runs[i]?).bind fun run => run.states key

def apply (manager : StreamManager δ) (update : StreamUpdate δ) : StreamManager δ :=
  { manager with consumer :=
      { manager.consumer with applied := manager.consumer.applied ++ [update] } }

def advanceGeneration (manager : StreamManager δ) : StreamManager δ :=
  { manager with
    generation := manager.generation + 1
    reconnectTimer := none
    currentRun := none
    runs := manager.currentRun.elim manager.runs fun i =>
      manager.runs.modify i GenerationRun.teardown }

/-- `startGeneration` up to its first await; it is always called with the
generation that was just advanced to. -/
def startGeneration (manager : StreamManager δ) : StreamManager δ :=
  { manager with
    currentRun := some manager.runs.length
    runs := manager.runs ++ [.started manager.generation] }

def restartIfEligible (manager : StreamManager δ) : StreamManager δ :=
  let advanced := manager.advanceGeneration
  if advanced.eligible then advanced.startGeneration else advanced

def scheduleReconnect (options : StreamManagerOptions) (manager : StreamManager δ)
    (candidateGeneration : ℕ) : StreamManager δ :=
  if candidateGeneration ≠ manager.generation ∨ manager.eligible = false ∨
      options.maxReconnectAttempts ≤ manager.reconnectAttempts then manager
  else
    { manager with
      reconnectAttempts := manager.reconnectAttempts + 1
      reconnectTimer := some candidateGeneration }

def failRun (options : StreamManagerOptions) (manager : StreamManager δ) (i : ℕ)
    (error : StreamError) : StreamManager δ :=
  if manager.isCurrent i = false ∨ (manager.runs[i]?).any (·.failed) = true then manager
  else
    let failed := manager.modifyRun i fun run => { run with failed := true }
    let reported := { failed with consumer :=
      { failed.consumer with errors := failed.consumer.errors ++ [error] } }
    let advanced := reported.advanceGeneration
    advanced.scheduleReconnect options advanced.generation

def processReadyMessage (options : StreamManagerOptions) (manager : StreamManager δ)
    (i : ℕ) (key : String) (state : SubscriptionRunState δ)
    (message : ManagedStreamMessage δ) (allowRebaseline : Bool) :
    StreamManager δ × SubscriptionRunState.Position :=
  if manager.isCurrent i = false then (manager, .ignored)
  else
    match state.position message with
    | .ignored => (manager, .ignored)
    | .gap =>
      if allowRebaseline then
        let buffered := manager.modifyRun i (.modifyState key fun state =>
          ({ state with baselineReady := false }).bufferMessage options message)
        (buffered.modifyRun i (.rebaseline key), .gap)
      else (manager, .gap)
    | .applied =>
      let advanced := manager.modifyRun i (.modifyState key (.advance message))
      (advanced.apply (.delta message.key message), .applied)

def handleMessage (options : StreamManagerOptions) (manager : StreamManager δ) (i : ℕ)
    (message : ManagedStreamMessage δ) : StreamManager δ :=
  if manager.isCurrent i = false ∨ message.isSnapshot = true then manager
  else
    match manager.state? i message.key with
    | none => manager
    | some state =>
      if state.baselineReady = false then
        manager.modifyRun i (.modifyState message.key (.bufferMessage options message))
      else (manager.processReadyMessage options i message.key state message true).1

/-- The loop of `rebaseline` over what was buffered, and whether it met a gap. -/
def replay (options : StreamManagerOptions) (i : ℕ) (key : String) :
    StreamManager δ → List (ManagedStreamMessage δ) → Bool → StreamManager δ × Bool
  | manager, [], persistentGap => (manager, persistentGap)
  | manager, message :: buffered, persistentGap =>
    match manager.state? i key with
    | none => (manager, persistentGap)
    | some state =>
      let again (manager : StreamManager δ) :=
        manager.modifyRun i (.modifyState key (.bufferMessage options message))
      if state.baselineReady = false ∨ manager.isCurrent i = false then
        replay options i key (again manager) buffered persistentGap
      else
        let processed := manager.processReadyMessage options i key state message false
        if processed.2 = .gap then
          replay options i key (again processed.1) buffered true
        else replay options i key processed.1 buffered persistentGap

def rebaselined (options : StreamManagerOptions) (manager : StreamManager δ) (i j : ℕ)
    (operation : RebaselineOperation) (state : SubscriptionRunState δ)
    (baseline : ManagedStreamBaseline δ) : StreamManager δ :=
  let key := operation.key
  let applied := manager.apply (.baseline key baseline)
  if state.bufferOverflowed then
    (applied.modifyRun i (.modifyState key fun state =>
      { state with
        lastSequence := baseline.sequence
        seenIds := []
        buffer := []
        bufferOverflowed := false })).modifyRun i (.nextAttempt j)
  else
    let ready := applied.modifyRun i (.modifyState key fun state =>
      { state with
        lastSequence := baseline.sequence
        seenIds := []
        buffer := []
        bufferOverflowed := false
        baselineReady := true })
    let replayed := replay options i key ready state.buffer false
    if replayed.2 then
      let unready := replayed.1.modifyRun i (.modifyState key fun state =>
        { state with baselineReady := false })
      if options.maxResyncAttempts ≤ operation.attempts then
        unready.modifyRun i (.setStage j (.threw (.discontinuous key operation.attempts)))
      else unready.modifyRun i (.nextAttempt j)
    else replayed.1.modifyRun i (.setStage j .returned)

def loaded (options : StreamManagerOptions) (manager : StreamManager δ) (i j : ℕ)
    (operation : RebaselineOperation) :
    Option (ManagedStreamBaseline δ) → StreamManager δ
  | none => manager.modifyRun i (.setStage j (.threw (.loadBaseline operation.key)))
  | some baseline =>
    if manager.isCurrent i = false then manager.modifyRun i (.setStage j .returned)
    else
      match manager.state? i operation.key with
      | none => manager
      | some state => manager.rebaselined options i j operation state baseline

def operation? (manager : StreamManager δ) (i j : ℕ) : Option RebaselineOperation :=
  (manager.runs[i]?).bind fun run => run.operations[j]?

def connected (options : StreamManagerOptions) (manager : StreamManager δ) (i : ℕ) :
    ConnectResult → StreamManager δ
  | .failed =>
    (manager.modifyRun i fun run => { run with connecting := false }).failRun options i
      .connect
  | .subscribeThrows =>
    if manager.isCurrent i = false then
      manager.modifyRun i fun run => { run with connecting := false }
    else
      (manager.modifyRun i fun run =>
        { run with connecting := false, connection := true }).failRun options i .subscribe
  | .opened =>
    if manager.isCurrent i = false then
      manager.modifyRun i fun run => { run with connecting := false }
    else manager.modifyRun i (.opened manager.subscriptions)

/-- One event; one that names no waiting run or operation is none. -/
def step (options : StreamManagerOptions) (manager : StreamManager δ) :
    StreamEvent δ → StreamManager δ
  | .setSubscriptions next =>
    let changed := { manager with subscriptions := next }
    if changed.eligible then changed.restartIfEligible
    else if changed.currentRun.isSome then changed.advanceGeneration
    else changed
  | .setEnvironment foreground online =>
    if manager.foreground = foreground ∧ manager.online = online then manager
    else { manager with foreground := foreground, online := online }.restartIfEligible
  | .close => { manager with closed := true }.advanceGeneration
  | .connected i result =>
    if (manager.runs[i]?).any (·.connecting) then manager.connected options i result
    else manager
  | .message i message => manager.handleMessage options i message
  | .disconnected i => manager.failRun options i .disconnect
  | .heartbeat i pingThrows =>
    if (manager.runs[i]?).any (·.connection) && pingThrows then
      manager.failRun options i .ping
    else manager
  | .reconnect candidateGeneration =>
    let fired := { manager with reconnectTimer := none }
    if candidateGeneration ≠ fired.generation ∨ fired.eligible = false then fired
    else fired.advanceGeneration.startGeneration
  | .loaded i j baseline =>
    match manager.operation? i j with
    | none => manager
    | some operation =>
      if operation.stage = .loading then manager.loaded options i j operation baseline
      else manager
  | .settled i j =>
    match manager.operation? i j with
    | none => manager
    | some operation =>
      if operation.stage = .loading then manager
      else
        manager.modifyRun i (.modifyState operation.key fun state =>
          if state.baselinePromise = some j then { state with baselinePromise := none } else state)
  | .caught i j =>
    match manager.operation? i j with
    | none => manager
    | some operation =>
      match operation.stage with
      | .threw error => manager.failRun options i error
      | .loading | .returned => manager
  | .established i =>
    if manager.isCurrent i = true ∧ (manager.runs[i]?).any (fun run =>
        run.connection && (run.operations.take run.initial).all fun operation =>
          operation.stage == .returned) = true then
      { manager with reconnectAttempts := 0 }
    else manager

end StreamManager

end HyperTrader
