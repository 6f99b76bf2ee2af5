import Mathlib.Data.Bool.Basic
import HyperTrader.Library.Machine
import HyperTrader.Streams.Continuity
import HyperTrader.Transport.WebSocket

/-!
# Streams of the foreground

The lifecycle controller turns what the operating system reports into calls, and the
stream runtime hands the streams that screens declare to the manager. Together they keep
every connection to the time in which the application is in front, focused and online: at
any other time the manager has no run, and nothing reaches the screens.
-/

namespace HyperTrader

open Library

/-! ### The controller -/

inductive AppVisibility where
  | active
  | inactive
  | background
  deriving DecidableEq

inductive StreamStopReason where
  | appInactive
  | appBackground
  | androidBlur
  | offline
  deriving DecidableEq

inductive LifecycleCall where
  | setFocused (focused : Bool)
  | setOnline (online : Bool)
  | lockSignerSession (reason : StreamStopReason)
  | startStreams
  | stopStreams (reason : StreamStopReason)

inductive LifecycleEvent where
  | appStateChange (next : AppVisibility)
  | networkChange (online : Bool)
  | androidBlur
  | androidFocus

structure AppLifecycleController where
  visibility : Option AppVisibility
  online : Bool
  blurred : Bool
  streamsRunning : Bool

namespace AppLifecycleController

def create : AppLifecycleController := ⟨none, false, false, false⟩

def inFront (controller : AppLifecycleController) : Bool :=
  controller.visibility == some .active && !controller.blurred

def mayRunStreams (controller : AppLifecycleController) : Bool :=
  controller.inFront && controller.online

def startStreamsIfAllowed (controller : AppLifecycleController) :
    AppLifecycleController × List LifecycleCall :=
  if controller.mayRunStreams = false ∨ controller.streamsRunning = true then (controller, [])
  else ({ controller with streamsRunning := true }, [.startStreams])

def handle (controller : AppLifecycleController) :
    LifecycleEvent → AppLifecycleController × List LifecycleCall
  | .appStateChange next =>
    if controller.visibility = some next then (controller, [])
    else if next = .active then
      let started := { controller with
        visibility := some next, blurred := false }.startStreamsIfAllowed
      (started.1, .setFocused true :: started.2)
    else
      let reason := if next = .inactive then .appInactive else .appBackground
      ({ controller with visibility := some next, streamsRunning := false },
        [.setFocused false, .lockSignerSession reason, .stopStreams reason])
  | .networkChange next =>
    if controller.online = next then (controller, [])
    else if next = false then
      ({ controller with online := next, streamsRunning := false },
        [.setOnline next, .stopStreams .offline])
    else
      let started := { controller with online := next }.startStreamsIfAllowed
      (started.1, .setOnline next :: started.2)
  | .androidBlur =>
    if controller.blurred then (controller, [])
    else
      ({ controller with blurred := true, streamsRunning := false },
        [.setFocused false, .lockSignerSession .androidBlur, .stopStreams .androidBlur])
  | .androidFocus =>
    if controller.blurred = false then (controller, [])
    else if controller.visibility = some .active then
      let started := { controller with blurred := false }.startStreamsIfAllowed
      (started.1, .setFocused true :: started.2)
    else ({ controller with blurred := false }, [])

end AppLifecycleController

/-! ### The runtime -/

structure DeclaredStream where
  key : String
  subscription : PublicSubscription
  listeners : List ℕ

structure StreamRuntime (δ : Type*) where
  declarations : List DeclaredStream
  network : HyperliquidNetwork
  foreground : Bool
  online : Bool
  synchronizationScheduled : Bool
  manager : StreamManager δ

namespace StreamRuntime

variable {δ : Type*} (options : StreamManagerOptions) (runtime : StreamRuntime δ)

/-- `createStreamRuntime` -/
def create (initialNetwork : HyperliquidNetwork) : StreamRuntime δ :=
  ⟨[], initialNetwork, false, false, false, .create⟩

def isTaken (subscription : PublicSubscription) : Bool :=
  subscription.exclusive.any fun wanted =>
    runtime.declarations.any fun entry =>
      entry.subscription.exclusive.any fun active =>
        active.1 == wanted.1 && active.2 != wanted.2

/-- `listeners.add` -/
def addListener (listeners : List ℕ) (listener : ℕ) : List ℕ :=
  if listener ∈ listeners then listeners else listeners ++ [listener]

/-- `declare`; a declaration that throws changes nothing. -/
def declare (key : String) (subscription : PublicSubscription) (listener : ℕ) : StreamRuntime δ :=
  match runtime.declarations.find? (·.key == key) with
  | some existing =>
    if subscriptionKey existing.subscription ≠ subscriptionKey subscription then runtime
    else
      { runtime with declarations := runtime.declarations.map fun entry =>
          if entry.key = key then { entry with listeners := addListener entry.listeners listener }
          else entry }
  | none =>
    if runtime.isTaken subscription then runtime
    else
      { runtime with
        declarations := runtime.declarations ++ [⟨key, subscription, [listener]⟩]
        synchronizationScheduled := true }

def retract (key : String) (listener : ℕ) : StreamRuntime δ :=
  match runtime.declarations.find? (·.key == key) with
  | none => runtime
  | some current =>
    if listener ∉ current.listeners then runtime
    else if current.listeners.erase listener = [] then
      { runtime with
        declarations := runtime.declarations.filter (·.key != key)
        synchronizationScheduled := true }
    else
      { runtime with declarations := runtime.declarations.map fun entry =>
          if entry.key = key then { entry with listeners := entry.listeners.erase listener }
          else entry }

def setForeground (next : Bool) : StreamRuntime δ :=
  if runtime.foreground = next then runtime
  else
    { runtime with
      foreground := next
      manager := runtime.manager.step options (.setEnvironment next runtime.online) }

def setOnline (next : Bool) : StreamRuntime δ :=
  if runtime.online = next then runtime
  else
    { runtime with
      online := next
      manager := runtime.manager.step options (.setEnvironment runtime.foreground next) }

def setNetwork (next : HyperliquidNetwork) : StreamRuntime δ :=
  if runtime.network = next then runtime
  else { runtime with network := next, synchronizationScheduled := true }

def subscriptions : List ManagedStreamSubscription :=
  runtime.declarations.map fun entry => ⟨entry.key⟩

def synchronized : StreamRuntime δ :=
  if runtime.synchronizationScheduled then
    { runtime with
      synchronizationScheduled := false
      manager := runtime.manager.step options (.setSubscriptions runtime.subscriptions) }
  else runtime

end StreamRuntime

/-! ### The application -/

/-- What the ports of the controller were told last: the focus of the queries, and whether
the lock of the signer session has not been asked for since. -/
structure LifecyclePorts where
  focused : Bool
  unlockable : Bool

def LifecyclePorts.hear (ports : LifecyclePorts) : LifecycleCall → LifecyclePorts
  | .setFocused focused => ⟨focused, ports.unlockable || focused⟩
  | .lockSignerSession _ => { ports with unlockable := false }
  | _ => ports

structure StreamApp (δ : Type*) where
  controller : AppLifecycleController
  ports : LifecyclePorts
  runtime : StreamRuntime δ

inductive StreamAppEvent (δ : Type*) where
  | lifecycle (event : LifecycleEvent)
  | declare (key : String) (subscription : PublicSubscription) (listener : ℕ)
  | retract (key : String) (listener : ℕ)
  | setNetwork (network : HyperliquidNetwork)
  | synchronize
  /-- Something that happens to the manager; its calls are the runtime's. -/
  | stream (event : StreamEvent δ)
  | close

namespace StreamApp

variable {δ : Type*}

def create (initialNetwork : HyperliquidNetwork) : StreamApp δ :=
  ⟨.create, ⟨false, false⟩, .create initialNetwork⟩

def call (options : StreamManagerOptions) (app : StreamApp δ) (call : LifecycleCall) :
    StreamApp δ :=
  { app with
    ports := app.ports.hear call
    runtime :=
      match call with
      | .setOnline online => app.runtime.setOnline options online
      | .startStreams => app.runtime.setForeground options true
      | .stopStreams reason =>
        if reason = .offline then app.runtime else app.runtime.setForeground options false
      | .setFocused _ | .lockSignerSession _ => app.runtime }

def step (options : StreamManagerOptions) (app : StreamApp δ) : StreamAppEvent δ → StreamApp δ
  | .lifecycle event =>
    let handled := app.controller.handle event
    handled.2.foldl (call options) { app with controller := handled.1 }
  | .declare key subscription listener =>
    { app with runtime := app.runtime.declare key subscription listener }
  | .retract key listener => { app with runtime := app.runtime.retract key listener }
  | .setNetwork network => { app with runtime := app.runtime.setNetwork network }
  | .synchronize => { app with runtime := app.runtime.synchronized options }
  | .stream event =>
    match event with
    | .setSubscriptions _ | .setEnvironment .. | .close => app
    | event =>
      { app with runtime :=
          { app.runtime with manager := app.runtime.manager.step options event } }
  | .close =>
    { app with runtime := { app.runtime with manager := app.runtime.manager.step options .close } }

end StreamApp

/-! ### Connections of the manager -/

namespace StreamManager

variable {δ : Type*} {options : StreamManagerOptions} {manager : StreamManager δ} {i j : ℕ}

structure Settings where
  subscriptions : List ManagedStreamSubscription
  foreground : Bool
  online : Bool
  closed : Bool

def settings (manager : StreamManager δ) : Settings :=
  ⟨manager.subscriptions, manager.foreground, manager.online, manager.closed⟩

def Settings.after (settings : Settings) : StreamEvent δ → Settings
  | .setSubscriptions next => { settings with subscriptions := next }
  | .setEnvironment foreground online =>
    { settings with foreground := foreground, online := online }
  | .close => { settings with closed := true }
  | _ => settings

variable {settings : Settings}

/-- Only a current run has a connection, and there is one only where the manager is
eligible. -/
structure Attached (settings : Settings) (manager : StreamManager δ) : Prop where
  settings : manager.settings = settings
  eligible : manager.currentRun ≠ none → manager.eligible = true
  connection : ∀ i run, manager.runs[i]? = some run → run.connection = true →
    manager.currentRun = some i

theorem attached_create : (create : StreamManager δ).Attached ⟨[], false, false, false⟩ where
  settings := rfl
  eligible h := absurd rfl h
  connection i run hrun := by simp [create] at hrun

theorem Attached.of_same {after : StreamManager δ} (h : manager.Attached settings)
    (hsettings : after.settings = manager.settings)
    (hcurrent : after.currentRun = manager.currentRun)
    (hruns : after.runs = manager.runs) : after.Attached settings where
  settings := hsettings.trans h.settings
  eligible := by
    have heligible : after.eligible = manager.eligible := by
      unfold StreamManager.settings at hsettings
      simp only [Settings.mk.injEq] at hsettings
      obtain ⟨hsubscriptions, hforeground, honline, hclosed⟩ := hsettings
      unfold StreamManager.eligible
      rw [hsubscriptions, hforeground, honline, hclosed]
    rw [hcurrent, heligible]
    exact h.eligible
  connection := by
    rw [hcurrent, hruns]
    exact h.connection

theorem Attached.modifyRun (h : manager.Attached settings) {f : GenerationRun δ → GenerationRun δ}
    (hf : manager.currentRun = some i ∨ ∀ run, (f run).connection = true → run.connection = true) :
    (manager.modifyRun i f).Attached settings where
  settings := h.settings
  eligible := h.eligible
  connection j run hrun hconnection := by
    rcases getElem?_modify_cases hrun with ⟨old, hold, rfl, rfl⟩ | ⟨-, hold⟩
    · rcases hf with hcurrent | hf
      · exact hcurrent
      · exact h.connection _ old hold (hf old hconnection)
    · exact h.connection j run hold hconnection

theorem attached_advanceGeneration (hsettings : manager.settings = settings)
    (h : ∀ i run, manager.runs[i]? = some run → run.connection = true →
      manager.currentRun = some i) : manager.advanceGeneration.Attached settings where
  settings := hsettings
  eligible hne := absurd rfl hne
  connection j run hrun hconnection := by
    exfalso
    unfold StreamManager.advanceGeneration at hrun
    cases hcurrent : manager.currentRun with
    | none =>
      rw [hcurrent] at hrun
      have hsome := h j run hrun hconnection
      rw [hcurrent] at hsome
      cases hsome
    | some i =>
      rw [hcurrent] at hrun
      rcases getElem?_modify_cases hrun with ⟨old, -, rfl, rfl⟩ | ⟨hne, hold⟩
      · cases hconnection
      · have hsome := h j run hold hconnection
        rw [hcurrent] at hsome
        exact hne (Option.some.inj hsome).symm

theorem Attached.startGeneration (h : manager.Attached settings)
    (hcurrent : manager.currentRun = none)
    (heligible : manager.eligible = true) : manager.startGeneration.Attached settings where
  settings := h.settings
  eligible _ := heligible
  connection j run hrun hconnection := by
    rcases getElem?_append_cases hrun with hold | ⟨rfl, rfl⟩
    · have hsome := h.connection j run hold hconnection
      rw [hcurrent] at hsome
      cases hsome
    · rfl

theorem attached_restartIfEligible (hsettings : manager.settings = settings)
    (h : ∀ i run, manager.runs[i]? = some run → run.connection = true →
      manager.currentRun = some i) : manager.restartIfEligible.Attached settings := by
  have h := attached_advanceGeneration hsettings h
  unfold StreamManager.restartIfEligible
  dsimp only
  split
  · rename_i heligible
    exact h.startGeneration rfl heligible
  · exact h

theorem Attached.failRun (h : manager.Attached settings) (error : StreamError) :
    (manager.failRun options i error).Attached settings := by
  unfold StreamManager.failRun
  split
  · exact h
  · have hfailed : (manager.modifyRun i fun run => { run with failed := true }).Attached settings :=
      h.modifyRun (.inr fun _ hconnection => hconnection)
    have hadvanced := attached_advanceGeneration hfailed.settings hfailed.connection
    dsimp only
    unfold scheduleReconnect
    split
    · exact hadvanced.of_same rfl rfl rfl
    · exact hadvanced.of_same rfl rfl rfl

theorem Attached.modifyState (h : manager.Attached settings) (key : String)
    (f : SubscriptionRunState δ → SubscriptionRunState δ) :
    (manager.modifyRun i (.modifyState key f)).Attached settings :=
  h.modifyRun (.inr fun _ hconnection => hconnection)

theorem Attached.processReadyMessage (h : manager.Attached settings) {key : String}
    {state : SubscriptionRunState δ} {message : ManagedStreamMessage δ} {allowRebaseline : Bool} :
    (manager.processReadyMessage options i key state message allowRebaseline).1.Attached
      settings := by
  unfold StreamManager.processReadyMessage
  split
  · exact h
  · rename_i hcurrent
    have hcurrent := currentRun_of_isCurrent (Bool.eq_true_of_not_eq_false hcurrent)
    cases state.position message with
    | ignored => exact h
    | gap =>
      dsimp only
      split
      · exact (h.modifyState key _).modifyRun (.inl hcurrent)
      · exact h
    | applied => exact (h.modifyState key _).of_same rfl rfl rfl

theorem Attached.replay {key : String} (h : manager.Attached settings)
    (buffered : List (ManagedStreamMessage δ)) (persistentGap : Bool) :
    (replay options i key manager buffered persistentGap).1.Attached settings := by
  induction buffered generalizing manager persistentGap with
  | nil => exact h
  | cons message buffered ih =>
    unfold StreamManager.replay
    cases manager.state? i key with
    | none => exact h
    | some state =>
      dsimp only
      split
      · exact ih (h.modifyState key _) _
      · split
        · exact ih (h.processReadyMessage.modifyState key _) _
        · exact ih h.processReadyMessage _

theorem Attached.rebaselined (h : manager.Attached settings) {operation : RebaselineOperation}
    {state : SubscriptionRunState δ} {baseline : ManagedStreamBaseline δ} :
    (manager.rebaselined options i j operation state baseline).Attached settings := by
  have hplain : ∀ {after : StreamManager δ} {f : GenerationRun δ → GenerationRun δ},
      after.Attached settings → (∀ run, (f run).connection = run.connection) →
        (after.modifyRun i f).Attached settings :=
    fun hafter hf => hafter.modifyRun (.inr fun run hrun => hf run ▸ hrun)
  have happlied : (manager.apply (.baseline operation.key baseline)).Attached settings :=
    h.of_same rfl rfl rfl
  unfold StreamManager.rebaselined
  dsimp only
  split
  · exact hplain (happlied.modifyState _ _) fun _ => rfl
  · split
    · split
      · exact hplain (((happlied.modifyState _ _).replay _ _).modifyState _ _) fun _ => rfl
      · exact hplain (((happlied.modifyState _ _).replay _ _).modifyState _ _) fun _ => rfl
    · exact hplain ((happlied.modifyState _ _).replay _ _) fun _ => rfl

theorem Attached.connected (h : manager.Attached settings) (result : ConnectResult) :
    (manager.connected options i result).Attached settings := by
  have hconnecting : (manager.modifyRun i fun run =>
      { run with connecting := false }).Attached settings :=
    h.modifyRun (.inr fun _ hconnection => hconnection)
  cases result with
  | failed => exact hconnecting.failRun _
  | opened =>
    unfold StreamManager.connected
    dsimp only
    split
    · exact hconnecting
    · rename_i hcurrent
      exact h.modifyRun (.inl (currentRun_of_isCurrent (Bool.eq_true_of_not_eq_false hcurrent)))
  | subscribeThrows =>
    unfold StreamManager.connected
    dsimp only
    split
    · exact hconnecting
    · rename_i hcurrent
      refine Attached.failRun ?_ _
      exact h.modifyRun (.inl (currentRun_of_isCurrent (Bool.eq_true_of_not_eq_false hcurrent)))

theorem Attached.loaded (h : manager.Attached settings) {operation : RebaselineOperation}
    (baseline : Option (ManagedStreamBaseline δ)) :
    (manager.loaded options i j operation baseline).Attached settings := by
  cases baseline with
  | none => exact h.modifyRun (.inr fun _ hconnection => hconnection)
  | some baseline =>
    unfold StreamManager.loaded
    dsimp only
    split
    · exact h.modifyRun (.inr fun _ hconnection => hconnection)
    · split
      · exact h
      · exact h.rebaselined

theorem Attached.step (h : manager.Attached settings) (event : StreamEvent δ) :
    (manager.step options event).Attached (settings.after event) := by
  obtain rfl := h.settings
  unfold StreamManager.step
  cases event with
  | setSubscriptions next =>
    dsimp only
    split
    · exact attached_restartIfEligible rfl h.connection
    · split
      · exact attached_advanceGeneration rfl h.connection
      · rename_i hcurrent
        exact ⟨rfl, fun hne => absurd (Option.isSome_iff_ne_none.mpr hne) hcurrent, h.connection⟩
  | setEnvironment foreground online =>
    dsimp only
    split
    · rename_i hsame
      obtain ⟨rfl, rfl⟩ := hsame
      exact h
    · exact attached_restartIfEligible rfl h.connection
  | close => exact attached_advanceGeneration rfl h.connection
  | message i message =>
    dsimp only [handleMessage]
    repeat' split
    · exact h
    · exact h
    · exact h.modifyState _ _
    · exact h.processReadyMessage
  | disconnected i => exact h.failRun _
  | reconnect candidateGeneration =>
    dsimp only
    split
    · exact h.of_same rfl rfl rfl
    · rename_i hfires
      rw [not_or, Bool.not_eq_false] at hfires
      exact (attached_advanceGeneration rfl h.connection).startGeneration rfl hfires.2
  | connected | heartbeat | loaded | settled | caught | established =>
    dsimp only
    repeat' split
    all_goals first
      | exact h
      | exact h.connected _
      | exact h.failRun _
      | exact h.loaded _
      | exact h.modifyState _ _
      | exact h.of_same rfl rfl rfl

theorem consumer_step_of_idle (h : manager.currentRun = none) (event : StreamEvent δ) :
    (manager.step options event).consumer = manager.consumer := by
  have hidle : ∀ (after : StreamManager δ) i, after.currentRun = manager.currentRun →
      after.isCurrent i = false := by
    intro after i hsame
    simp [isCurrent, hsame, h]
  cases event with
  | setSubscriptions | setEnvironment | close | reconnect | settled | established =>
    dsimp only [step, restartIfEligible]
    repeat' split
    all_goals rfl
  | connected i result =>
    dsimp only [step, connected]
    split
    · cases result with
      | failed =>
        rw [failRun_of_not_current options (hidle (manager.modifyRun i _) i rfl)]
        rfl
      | opened | subscribeThrows =>
        dsimp only
        rw [if_pos (hidle manager i rfl)]
        rfl
    · rfl
  | message i message =>
    dsimp only [step, handleMessage]
    rw [if_pos (.inl (hidle manager i rfl))]
  | disconnected i =>
    dsimp only [step]
    rw [failRun_of_not_current options (hidle manager i rfl)]
  | heartbeat i pingThrows =>
    dsimp only [step]
    rw [failRun_of_not_current options (hidle manager i rfl), ite_self]
  | loaded i j baseline =>
    dsimp only [step]
    repeat' split
    · rfl
    · exact consumer_loaded options (hidle manager i rfl) j _ baseline
    · rfl
  | caught i j =>
    dsimp only [step]
    repeat' split
    · rfl
    · rw [failRun_of_not_current options (hidle manager i rfl)]
    · rfl
    · rfl

end StreamManager

/-! ### What is declared -/

namespace StreamRuntime

variable {δ : Type*} {options : StreamManagerOptions} {runtime : StreamRuntime δ} {key : String}
  {subscription : PublicSubscription} {listener : ℕ}

def Separate (declarations : List DeclaredStream) : Prop :=
  ∀ first ∈ declarations, ∀ second ∈ declarations, ∀ channel user other,
    first.subscription.exclusive = some (channel, user) →
    second.subscription.exclusive = some (channel, other) → user = other

/-- The declarations are of different keys and are listened to, and the manager has them as
they were when it was last synchronized. -/
structure Declared (runtime : StreamRuntime δ) : Prop where
  keys : (runtime.declarations.map DeclaredStream.key).Nodup
  listened : ∀ entry ∈ runtime.declarations, entry.listeners ≠ []
  separate : Separate runtime.declarations
  synchronized : runtime.synchronizationScheduled = false →
    runtime.manager.subscriptions = runtime.subscriptions

theorem Separate.mono {declarations after : List DeclaredStream} (h : Separate declarations)
    (hafter : ∀ entry ∈ after, ∃ old ∈ declarations, old.subscription = entry.subscription) :
    Separate after := by
  intro first hfirst second hsecond channel user other huser hother
  obtain ⟨first', hfirst', hsame⟩ := hafter first hfirst
  obtain ⟨second', hsecond', hsame'⟩ := hafter second hsecond
  exact h first' hfirst' second' hsecond' channel user other (hsame ▸ huser) (hsame' ▸ hother)

theorem not_taken_iff : runtime.isTaken subscription = false ↔
    ∀ entry ∈ runtime.declarations, ∀ channel user other,
      subscription.exclusive = some (channel, user) →
      entry.subscription.exclusive = some (channel, other) → user = other := by
  unfold isTaken
  cases hexclusive : subscription.exclusive with
  | none => simp
  | some wanted =>
    simp only [Option.any_some, List.any_eq_false, Bool.not_eq_true]
    constructor
    · intro h entry hentry channel user other huser hother
      have hactive := h entry hentry
      cases huser
      rw [hother] at hactive
      simp only [Option.any_some, beq_self_eq_true, Bool.true_and, bne_eq_false_iff_eq] at hactive
      exact hactive.symm
    · intro h entry hentry
      cases hother : entry.subscription.exclusive with
      | none => rfl
      | some active =>
        obtain ⟨channel, other⟩ := active
        by_cases hchannel : channel = wanted.1
        · have hsame := h entry hentry channel wanted.2 other (hchannel ▸ rfl) hother
          simp [hsame]
        · simp [hchannel]

theorem Declared.mapListeners (h : runtime.Declared) {f : List ℕ → List ℕ}
    (hf : ∀ entry ∈ runtime.declarations, entry.key = key → f entry.listeners ≠ []) :
    ({ runtime with declarations := runtime.declarations.map fun entry =>
        if entry.key = key then { entry with listeners := f entry.listeners } else entry } :
      StreamRuntime δ).Declared := by
  have hkey : ∀ entry : DeclaredStream, (if entry.key = key then
      { entry with listeners := f entry.listeners } else entry).key = entry.key := by
    intro entry
    split <;> rfl
  constructor
  · rw [List.map_map]
    exact (congrArg List.Nodup (List.map_congr_left fun entry _ => hkey entry)).mpr h.keys
  · intro entry hentry
    obtain ⟨old, hold, rfl⟩ := List.mem_map.mp hentry
    split
    · rename_i hsame
      exact hf old hold hsame
    · exact h.listened old hold
  · refine h.separate.mono fun entry hentry => ?_
    obtain ⟨old, hold, rfl⟩ := List.mem_map.mp hentry
    refine ⟨old, hold, ?_⟩
    split <;> rfl
  · intro hscheduled
    have hsubscriptions := h.synchronized hscheduled
    unfold subscriptions at hsubscriptions ⊢
    rw [List.map_map]
    refine hsubscriptions.trans (List.map_congr_left fun entry _ => ?_)
    exact congrArg ManagedStreamSubscription.mk (hkey entry).symm

theorem mem_addListener (listeners : List ℕ) (listener : ℕ) :
    listener ∈ addListener listeners listener := by
  unfold addListener
  split
  · assumption
  · exact List.mem_append_right _ (List.mem_singleton_self listener)

theorem Declared.declare (h : runtime.Declared) :
    (runtime.declare key subscription listener).Declared := by
  unfold StreamRuntime.declare
  split
  · split
    · exact h
    · exact @Declared.mapListeners _ _ _ h (addListener · listener) fun entry _ _ =>
        List.ne_nil_of_mem (mem_addListener entry.listeners listener)
  · rename_i hnone
    split
    · exact h
    · rename_i htaken
      have hseparate := not_taken_iff.mp (Bool.eq_false_of_not_eq_true htaken)
      constructor
      · rw [List.map_append, List.map_singleton, List.nodup_append_comm]
        refine List.nodup_cons.mpr ⟨?_, h.keys⟩
        intro hmem
        obtain ⟨entry, hentry, hkey⟩ := List.mem_map.mp hmem
        exact List.find?_eq_none.mp hnone entry hentry (beq_iff_eq.mpr hkey)
      · intro entry hentry
        rcases List.mem_append.mp hentry with hold | hnew
        · exact h.listened entry hold
        · cases List.mem_singleton.mp hnew
          exact List.cons_ne_nil _ _
      · intro first hfirst second hsecond channel user other huser hother
        rcases List.mem_append.mp hfirst with hfirst | hfirst <;>
          rcases List.mem_append.mp hsecond with hsecond | hsecond
        · exact h.separate first hfirst second hsecond channel user other huser hother
        · cases List.mem_singleton.mp hsecond
          exact (hseparate first hfirst channel other user hother huser).symm
        · cases List.mem_singleton.mp hfirst
          exact hseparate second hsecond channel user other huser hother
        · cases List.mem_singleton.mp hfirst
          cases List.mem_singleton.mp hsecond
          exact (Prod.mk.inj (Option.some.inj (huser.symm.trans hother))).2
      · intro hscheduled
        cases hscheduled

theorem Declared.retract (h : runtime.Declared) : (runtime.retract key listener).Declared := by
  unfold StreamRuntime.retract
  split
  · exact h
  · rename_i current hfind
    have hmem := List.mem_of_find?_eq_some hfind
    have hkey : current.key = key := by simpa using List.find?_some hfind
    split
    · exact h
    · split
      · have hsub := List.filter_sublist (p := fun entry => entry.key != key)
          (l := runtime.declarations)
        constructor
        · exact h.keys.sublist (hsub.map _)
        · exact fun entry hentry => h.listened entry (hsub.subset hentry)
        · exact h.separate.mono fun entry hentry => ⟨entry, hsub.subset hentry, rfl⟩
        · intro hscheduled
          cases hscheduled
      · rename_i hlistened
        refine @Declared.mapListeners δ runtime key h (fun listeners => listeners.erase listener)
          fun entry hentry hsame => ?_
        rwa [List.inj_on_of_nodup_map h.keys hentry hmem (hsame.trans hkey.symm)]

structure Sound (runtime : StreamRuntime δ) : Prop where
  declared : runtime.Declared
  manager : runtime.manager.Attached ⟨runtime.manager.subscriptions, runtime.foreground,
    runtime.online, runtime.manager.closed⟩

theorem Sound.told (h : runtime.Sound) {event : StreamEvent δ} {foreground online closed : Bool}
    (htold : StreamManager.Settings.after ⟨runtime.manager.subscriptions, runtime.foreground,
      runtime.online, runtime.manager.closed⟩ event =
        ⟨runtime.manager.subscriptions, foreground, online, closed⟩) :
    ({ runtime with
      foreground := foreground
      online := online
      manager := runtime.manager.step options event } : StreamRuntime δ).Sound := by
  have hstep := @StreamManager.Attached.step _ options _ _ h.manager event
  rw [htold] at hstep
  obtain ⟨hsubscriptions, -, -, hclosed⟩ := StreamManager.Settings.mk.inj hstep.settings
  constructor
  · exact ⟨h.declared.keys, h.declared.listened, h.declared.separate,
      fun hscheduled => hsubscriptions.trans (h.declared.synchronized hscheduled)⟩
  · dsimp only
    rw [hsubscriptions, hclosed]
    exact hstep

theorem Sound.setForeground (h : runtime.Sound) (next : Bool) :
    (runtime.setForeground options next).Sound := by
  unfold StreamRuntime.setForeground
  split
  · exact h
  · exact h.told rfl

theorem Sound.setOnline (h : runtime.Sound) (next : Bool) :
    (runtime.setOnline options next).Sound := by
  unfold StreamRuntime.setOnline
  split
  · exact h
  · exact h.told rfl

theorem Sound.synchronized (h : runtime.Sound) : (runtime.synchronized options).Sound := by
  unfold StreamRuntime.synchronized
  split
  · have hstep := @StreamManager.Attached.step _ options _ _ h.manager
      (.setSubscriptions runtime.subscriptions)
    obtain ⟨hsubscriptions, -, -, hclosed⟩ := StreamManager.Settings.mk.inj hstep.settings
    constructor
    · exact ⟨h.declared.keys, h.declared.listened, h.declared.separate, fun _ => hsubscriptions⟩
    · dsimp only
      rw [hsubscriptions, hclosed]
      exact hstep
  · exact h

theorem Sound.changed {after : StreamRuntime δ} (h : runtime.Sound) (hdeclared : after.Declared)
    (hmanager : after.manager = runtime.manager)
    (hforeground : after.foreground = runtime.foreground)
    (honline : after.online = runtime.online) : after.Sound where
  declared := hdeclared
  manager := by
    rw [hmanager, hforeground, honline]
    exact h.manager

theorem foreground_setForeground (runtime : StreamRuntime δ) (options : StreamManagerOptions)
    (next : Bool) :
    (runtime.setForeground options next).foreground = next ∧
      (runtime.setForeground options next).online = runtime.online := by
  unfold setForeground
  split
  · rename_i hsame
    exact ⟨hsame, rfl⟩
  · exact ⟨rfl, rfl⟩

theorem online_setOnline (runtime : StreamRuntime δ) (options : StreamManagerOptions)
    (next : Bool) :
    (runtime.setOnline options next).online = next ∧
      (runtime.setOnline options next).foreground = runtime.foreground := by
  unfold setOnline
  split
  · rename_i hsame
    exact ⟨hsame, rfl⟩
  · exact ⟨rfl, rfl⟩

end StreamRuntime

/-! ### The application -/

namespace StreamApp

variable {δ : Type*} {options : StreamManagerOptions} {app : StreamApp δ}

structure Ready (app : StreamApp δ) : Prop where
  runtime : app.runtime.Sound
  running : app.controller.streamsRunning = true →
    app.controller.mayRunStreams = true ∧ app.runtime.foreground = true
  online : app.runtime.online = app.controller.online
  foreground : app.runtime.foreground = true → app.controller.inFront = true
  ports : app.ports = ⟨app.controller.inFront, app.controller.inFront⟩

structure Inv (app : StreamApp δ) : Prop extends Ready app where
  streams : app.controller.mayRunStreams = true → app.controller.streamsRunning = true

theorem mayRunStreams_iff {controller : AppLifecycleController} :
    controller.mayRunStreams = true ↔ controller.inFront = true ∧ controller.online = true := by
  simp [AppLifecycleController.mayRunStreams]

theorem inFront_iff {controller : AppLifecycleController} :
    controller.inFront = true ↔
      controller.visibility = some .active ∧ controller.blurred = false := by
  simp [AppLifecycleController.inFront]

theorem Ready.start (h : Ready app) :
    Inv (app.controller.startStreamsIfAllowed.2.foldl (call options)
      { app with controller := app.controller.startStreamsIfAllowed.1 }) := by
  unfold AppLifecycleController.startStreamsIfAllowed
  split
  · rename_i hnot
    refine ⟨h, fun hmay => ?_⟩
    rcases hnot with hnot | hrunning
    · exact absurd (hnot.symm.trans hmay) Bool.false_ne_true
    · exact hrunning
  · rename_i hstart
    rw [not_or, Bool.not_eq_false] at hstart
    obtain ⟨hforeground, honline⟩ := app.runtime.foreground_setForeground options true
    refine ⟨⟨h.runtime.setForeground true, fun _ => ⟨hstart.1, hforeground⟩,
      honline.trans h.online, fun _ => (mayRunStreams_iff.mp hstart.1).1, h.ports⟩, fun _ => rfl⟩

theorem Inv.left (h : Inv app) {controller : AppLifecycleController}
    (hfront : controller.inFront = false) (hrunning : controller.streamsRunning = false)
    (honline : controller.online = app.controller.online) :
    Inv ⟨controller, ⟨false, false⟩, app.runtime.setForeground options false⟩ := by
  obtain ⟨hforeground, hkept⟩ := app.runtime.foreground_setForeground options false
  refine ⟨⟨h.runtime.setForeground false, fun hsome => ?_, ?_, fun hsome => ?_, ?_⟩,
    fun hmay => ?_⟩
  · exact absurd (hrunning.symm.trans hsome) Bool.false_ne_true
  · exact (hkept.trans h.online).trans honline.symm
  · exact absurd (hforeground.symm.trans hsome) Bool.false_ne_true
  · rw [hfront]
  · exact absurd (hfront.symm.trans (mayRunStreams_iff.mp hmay).1) Bool.false_ne_true

theorem Inv.not_running (h : Inv app) (hfront : app.controller.inFront = false) :
    app.controller.streamsRunning = false ∧ app.runtime.foreground = false := by
  constructor
  · refine Bool.eq_false_of_not_eq_true fun hrunning => ?_
    have hsome := (mayRunStreams_iff.mp (h.running hrunning).1).1
    exact Bool.false_ne_true (hfront.symm.trans hsome)
  · refine Bool.eq_false_of_not_eq_true fun hforeground => ?_
    exact Bool.false_ne_true (hfront.symm.trans (h.foreground hforeground))

theorem Inv.entered (h : Inv app) (hfront : app.controller.inFront = false)
    {controller : AppLifecycleController} (hentered : controller.inFront = true)
    (hrunning : controller.streamsRunning = app.controller.streamsRunning)
    (honline : controller.online = app.controller.online) :
    Ready ⟨controller, app.ports.hear (.setFocused true), app.runtime⟩ := by
  obtain ⟨hstopped, hforeground⟩ := h.not_running hfront
  refine ⟨h.runtime, fun hsome => ?_, h.online.trans honline.symm, fun _ => hentered, ?_⟩
  · exact absurd ((hrunning.trans hstopped).symm.trans hsome) Bool.false_ne_true
  · simp [LifecyclePorts.hear, hentered]

theorem Inv.lifecycle (h : Inv app) (event : LifecycleEvent) :
    Inv (app.step options (.lifecycle event)) := by
  unfold step AppLifecycleController.handle
  cases event with
  | appStateChange next =>
    dsimp only
    split
    · exact h
    · rename_i hmoved
      split
      · rename_i hactive
        subst hactive
        have hfront : app.controller.inFront = false :=
          Bool.eq_false_of_not_eq_true fun hfront => hmoved (inFront_iff.mp hfront).1
        exact (@Inv.entered δ app h hfront
          { app.controller with visibility := some .active, blurred := false } rfl rfl rfl).start
      · rename_i hactive
        have hfront : ({ app.controller with visibility := some next, streamsRunning := false } :
            AppLifecycleController).inFront = false :=
          Bool.eq_false_of_not_eq_true fun hfront =>
            hactive (Option.some.inj (inFront_iff.mp hfront).1)
        cases next with
        | active => exact absurd rfl hactive
        | inactive => exact h.left hfront rfl rfl
        | background => exact h.left hfront rfl rfl
  | networkChange next =>
    dsimp only
    split
    · exact h
    · rename_i hmoved
      cases next with
      | false =>
        obtain ⟨honline, hforeground⟩ := app.runtime.online_setOnline options false
        refine ⟨⟨h.runtime.setOnline false, fun hsome => (Bool.false_ne_true hsome).elim, honline,
          fun hsome => h.foreground (hforeground.symm.trans hsome), h.ports⟩, fun hmay => ?_⟩
        exact absurd (mayRunStreams_iff.mp hmay).2 Bool.false_ne_true
      | true =>
        obtain ⟨honline, hforeground⟩ := app.runtime.online_setOnline options true
        have hready : Ready ⟨{ app.controller with online := true }, app.ports,
            app.runtime.setOnline options true⟩ :=
          ⟨h.runtime.setOnline true, fun hsome =>
            absurd (mayRunStreams_iff.mp (h.running hsome).1).2 hmoved, honline,
            fun hsome => h.foreground (hforeground.symm.trans hsome), h.ports⟩
        exact hready.start
  | androidBlur =>
    dsimp only
    split
    · exact h
    · refine h.left (Bool.eq_false_of_not_eq_true fun hfront => ?_) rfl rfl
      exact Bool.false_ne_true (inFront_iff.mp hfront).2.symm
  | androidFocus =>
    dsimp only
    split
    · exact h
    · rename_i hblurred
      have hfront : app.controller.inFront = false :=
        Bool.eq_false_of_not_eq_true fun hfront => hblurred (inFront_iff.mp hfront).2
      split
      · rename_i hactive
        exact (@Inv.entered δ app h hfront { app.controller with blurred := false }
          (inFront_iff.mpr ⟨hactive, rfl⟩) rfl rfl).start
      · rename_i hactive
        obtain ⟨hstopped, hforeground⟩ := h.not_running hfront
        have hafter : ({ app.controller with blurred := false } :
            AppLifecycleController).inFront = false :=
          Bool.eq_false_of_not_eq_true fun hfront => hactive (inFront_iff.mp hfront).1
        refine ⟨⟨h.runtime, fun hsome => ?_, h.online, fun hsome => ?_, ?_⟩, fun hmay => ?_⟩
        · exact absurd (hstopped.symm.trans hsome) Bool.false_ne_true
        · exact absurd (hforeground.symm.trans hsome) Bool.false_ne_true
        · have hports := h.ports
          rw [hfront] at hports
          rw [List.foldl_nil, hafter]
          exact hports
        · exact absurd (hafter.symm.trans (mayRunStreams_iff.mp hmay).1) Bool.false_ne_true

theorem Inv.ofRuntime (h : Inv app) {runtime : StreamRuntime δ} (hruntime : runtime.Sound)
    (hforeground : runtime.foreground = app.runtime.foreground)
    (honline : runtime.online = app.runtime.online) : Inv { app with runtime := runtime } where
  runtime := hruntime
  running hrunning := ⟨(h.running hrunning).1, hforeground.trans (h.running hrunning).2⟩
  online := honline.trans h.online
  foreground hsome := h.foreground (hforeground.symm.trans hsome)
  ports := h.ports
  streams := h.streams

/-- Every event of the app keeps its parts in agreement. -/
theorem Inv.step (h : Inv app) (event : StreamAppEvent δ) : Inv (app.step options event) := by
  cases event with
  | lifecycle event => exact h.lifecycle event
  | declare key subscription listener =>
    refine h.ofRuntime (h.runtime.changed h.runtime.declared.declare ?_ ?_ ?_) ?_ ?_
    all_goals
      unfold StreamRuntime.declare
      split <;> split <;> rfl
  | retract key listener =>
    refine h.ofRuntime (h.runtime.changed h.runtime.declared.retract ?_ ?_ ?_) ?_ ?_
    all_goals
      unfold StreamRuntime.retract
      repeat' split
      all_goals rfl
  | setNetwork network =>
    unfold StreamApp.step StreamRuntime.setNetwork
    dsimp only
    split
    · exact h
    · have hdeclared := h.runtime.declared
      exact h.ofRuntime ⟨⟨hdeclared.keys, hdeclared.listened, hdeclared.separate,
        fun hscheduled => (Bool.false_ne_true hscheduled.symm).elim⟩, h.runtime.manager⟩ rfl rfl
  | synchronize =>
    refine h.ofRuntime h.runtime.synchronized ?_ ?_
    all_goals
      unfold StreamRuntime.synchronized
      split <;> rfl
  | stream event =>
    cases event with
    | setSubscriptions | setEnvironment | close => exact h
    | _ => exact h.ofRuntime (h.runtime.told rfl) rfl rfl
  | close => exact h.ofRuntime (h.runtime.told rfl) rfl rfl

theorem inv_create (initialNetwork : HyperliquidNetwork) :
    Inv (create initialNetwork : StreamApp δ) where
  runtime :=
    ⟨⟨List.nodup_nil, fun _ h => absurd h List.not_mem_nil,
      fun _ h => absurd h List.not_mem_nil, fun _ => rfl⟩, StreamManager.attached_create⟩
  running h := (Bool.false_ne_true h).elim
  online := rfl
  foreground h := (Bool.false_ne_true h).elim
  ports := rfl
  streams h := (Bool.false_ne_true h).elim

theorem inv_run (options : StreamManagerOptions) (initialNetwork : HyperliquidNetwork)
    (events : List (StreamAppEvent δ)) :
    Inv (run (step options) (create initialNetwork) events) :=
  run_invariant (fun _ event h => h.step event) (inv_create initialNetwork) events

/-- **Streams of the foreground.** The streams run exactly while the application is in
front, focused and online, and the lock of the signer session is asked for whenever it
leaves the front. At any other time no connection is held and nothing reaches the screens;
in it, the streams that are declared may run. -/
theorem streams_follow_lifecycle (options : StreamManagerOptions)
    (initialNetwork : HyperliquidNetwork) (events : List (StreamAppEvent δ)) :
    let app := run (step options) (create initialNetwork) events
    let manager := app.runtime.manager
    app.controller.streamsRunning = app.controller.mayRunStreams ∧
      app.ports = ⟨app.controller.inFront, app.controller.inFront⟩ ∧
      (app.controller.mayRunStreams = false →
        (∀ run ∈ manager.runs, run.connection = false) ∧
          ∀ event, (manager.step options event).consumer = manager.consumer) ∧
      (app.controller.mayRunStreams = true → manager.closed = false →
        app.runtime.synchronizationScheduled = false → app.runtime.declarations ≠ [] →
          manager.eligible = true) := by
  intro app manager
  have h : Inv app := inv_run options initialNetwork events
  have hsettings := h.runtime.manager.settings
  simp only [StreamManager.settings, StreamManager.Settings.mk.injEq] at hsettings
  obtain ⟨-, hforeground, honline, -⟩ := hsettings
  refine ⟨Bool.eq_iff_iff.mpr ⟨fun hrunning => (h.running hrunning).1, h.streams⟩, h.ports,
    fun hstopped => ?_, fun hmay hopen hscheduled hdeclared => ?_⟩
  · have hidle : manager.currentRun = none := by
      by_contra hcurrent
      have heligible := h.runtime.manager.eligible hcurrent
      simp only [StreamManager.eligible, hforeground, honline, Bool.and_eq_true] at heligible
      have hmay := mayRunStreams_iff.mpr
        ⟨h.foreground heligible.1.1.2, h.online.symm.trans heligible.1.2⟩
      exact Bool.false_ne_true (hstopped.symm.trans hmay)
    refine ⟨fun run hrun => Bool.eq_false_of_not_eq_true fun hconnection => ?_,
      StreamManager.consumer_step_of_idle hidle⟩
    obtain ⟨i, hi⟩ := List.mem_iff_getElem?.mp hrun
    rw [h.runtime.manager.connection i run hi hconnection] at hidle
    cases hidle
  · have hrunning := h.running (h.streams hmay)
    have hsubscriptions := h.runtime.declared.synchronized hscheduled
    have hnonempty : app.runtime.subscriptions.isEmpty = false := by
      rw [List.isEmpty_eq_false_iff]
      exact fun hempty => hdeclared (List.map_eq_nil_iff.mp hempty)
    have hopen : app.runtime.manager.closed = false := hopen
    show app.runtime.manager.eligible = true
    simp only [StreamManager.eligible, hforeground, honline, hrunning.2, h.online,
      (mayRunStreams_iff.mp hmay).2, hsubscriptions, hnonempty, hopen]
    rfl

/-- **Declared streams.** The screens' declarations have different keys, each is listened to,
no exclusive channel has two users, and the manager follows them with each
synchronization. -/
theorem streams_declared (options : StreamManagerOptions) (initialNetwork : HyperliquidNetwork)
    (events : List (StreamAppEvent δ)) :
    (run (step options) (create initialNetwork) events).runtime.Declared :=
  (inv_run options initialNetwork events).runtime.declared

end StreamApp

/-- **One connection.** Whatever happens to the manager and its runs, one of them at most
holds a connection: the current one, and only while the manager is eligible. -/
theorem StreamManager.one_connection {δ : Type*} (options : StreamManagerOptions)
    (events : List (StreamEvent δ)) :
    let manager := run (step options) create events
    ∀ i run, manager.runs[i]? = some run → run.connection = true →
      manager.currentRun = some i ∧ manager.eligible = true := by
  intro manager i connected hrun hconnection
  obtain ⟨settings, hattached⟩ : ∃ settings, manager.Attached settings :=
    @run_invariant _ _ (step options) create (fun manager => ∃ settings, manager.Attached settings)
      (fun _ event h => h.elim fun settings h => ⟨settings.after event, h.step event⟩)
      ⟨_, attached_create⟩ events
  have hcurrent := hattached.connection i connected hrun hconnection
  exact ⟨hcurrent, hattached.eligible (by rw [hcurrent]; exact Option.some_ne_none i)⟩

end HyperTrader
