import HyperTrader.Basic
import HyperTrader.Library.Machine

/-!
# The shared monitor registry

The registry keeps one entry for each key with a listener. Reconciling an entry acquires
or renews its lease, loads a snapshot, publishes it as the baseline and opens the upstream
stream; one such work runs for an entry at a time. The registry is a machine: its events
are its calls, the ends of the awaits of every work and of every release, the callbacks
of the streams, the expiry timers, and what the lease store does with a request before
its answer arrives, in any order.

An entry that was removed stays in the list, as `registered` says, since its work goes
on. What a listener was given is kept in a log, with the incarnation it came from, beside
the losses: a gap, a refused renewal, an expiry.
-/

namespace HyperTrader

open Library

/-! ### Capacity -/

/-- `RESERVED_LIMITS.uniqueUsers` -/
def reservedUniqueUsers : ℕ := 10 * 7 / 10

def capacityIdentityPattern : TextPattern where
  lead := ""
  digit byte := inRange 'a' 'z' byte || isDecimalDigit byte || inRange ':' ':' byte ||
    inRange '_' '_' byte || inRange '-' '-' byte
  least := 1
  most := 128

def reserveUniqueUser (uniqueUsers : List String) (identity : String) :
    Outcome (Option (List String)) :=
  if capacityIdentityPattern.test identity = false then
    .error (.error "capacity user identity is invalid")
  else if identity ∈ uniqueUsers then .ok (some uniqueUsers)
  else if reservedUniqueUsers ≤ uniqueUsers.length then .ok none
  else .ok (some (uniqueUsers ++ [identity]))

def releaseUniqueUser (uniqueUsers : List String) (identity : String) : List String :=
  uniqueUsers.filter fun other => other ≠ identity

/-! ### Targets -/

inductive MonitorTarget where
  | account (network : NotificationNetwork) (address : String)
  | market (network : NotificationNetwork) (marketId : String)
  deriving DecidableEq

def isCanonicalNatural (text : String) : Bool :=
  text == "0" || (text.toList.all (·.isDigit) &&
    text.toList.head?.any fun digit => digit.isDigit && digit != '0')

def isCanonicalMarket (marketId : String) : Bool :=
  match marketId.splitOn ":" with
  | ["perp", dex, asset] => isCanonicalNatural dex && isCanonicalNatural asset
  | ["spot", asset] => isCanonicalNatural asset
  | ["outcome", question, side] =>
    isCanonicalNatural question && (side == "0" || side == "1")
  | _ => false

def normalizeMonitorTarget : MonitorTarget → Outcome MonitorTarget
  | .account network address =>
    if lowercaseAddressPattern.test address then .ok (.account network address)
    else .error (.error "monitor address must be exact lowercase hexadecimal")
  | .market network marketId =>
    if isCanonicalMarket marketId then .ok (.market network marketId)
    else .error (.error "monitor market ID must be canonical")

def monitorLeaseKey : MonitorTarget → String
  | .account network address => network.text ++ ":account:" ++ address
  | .market network marketId => network.text ++ ":market:" ++ marketId

/-- `target.kind === "account"` -/
def MonitorTarget.isAccount : MonitorTarget → Bool
  | .account .. => true
  | .market .. => false

/-! ### Entries and what they hold -/

def monitorLeaseDurationMs : ℤ := 30000

def monitorLeaseRenewIntervalMs : ℤ := 10000

inductive AcquireAnswer where
  | refused
  | granted (generation : ℕ)
  | rejected
  deriving DecidableEq

inductive RenewAnswer where
  | renewed (held : Bool)
  | rejected
  deriving DecidableEq

/-- The await at which `#reconcileEntryOnce` is. A request to the store carries its
answer from the moment the store has acted on it. -/
inductive ReconcileStage where
  | authorizingAcquire
  | acquiring (answer : Option AcquireAnswer)
  | authorizingRenew
  | renewing (generation : Option ℕ) (answer : Option RenewAnswer)
  | authorizingLoad (controller : ℕ)
  | loading (controller : ℕ)
  | authorizingOpen (controller : ℕ)
  | opening (stream : ℕ)
  deriving DecidableEq

structure ReconcileWork where
  authorizes : Bool
  stage : ReconcileStage
  deriving DecidableEq

/-- `MonitorEntry`. The controller, the stream and the timer are a number, a number and
the time at which it fires. -/
structure MonitorEntry (ν : Type) where
  target : MonitorTarget
  leaseKey : String
  registered : Bool
  listeners : List ℕ
  leaseGeneration : Option ℕ
  nextRenewAt : Option ℤ
  baselineAccepted : Bool
  baselineValue : Option ν
  streamClose : Option ℕ
  controller : Option ℕ
  reconciling : Option ReconcileWork
  leaseExpiry : Option ℤ
  deriving DecidableEq

structure MonitorController where
  entry : ℕ
  aborted : Bool

inductive StreamStage where
  | opening
  | opened
  | closed

structure MonitorStream where
  controller : ℕ
  stage : StreamStage

structure LeaseRelease where
  leaseKey : String
  generation : ℕ
  releasesUser : Bool
  answer : Option Bool
  settled : Bool
  deriving DecidableEq

structure MonitorHandle where
  leaseKey : String
  listener : ℕ
  released : Bool

inductive MonitorUpdate (ν : Type) where
  | baseline (value : ν)
  | delta (value : ν)
  deriving DecidableEq

inductive MonitorRecord (ν : Type) where
  | delivered (entry controller listener : ℕ) (update : MonitorUpdate ν)
  | lost (entry : ℕ)
  deriving DecidableEq

/-- `SharedMonitorRegistry`, everything its calls started, the rows that the lease store
keeps for it, and the log. -/
structure SharedMonitorRegistry (ν : Type) where
  entries : List (MonitorEntry ν)
  controllers : List MonitorController
  streams : List MonitorStream
  handles : List MonitorHandle
  releases : List LeaseRelease
  uniqueUsers : List String
  store : String → Option ℕ
  log : List (MonitorRecord ν)

inductive MonitorEvent (ν : Type) where
  | subscribe (target : MonitorTarget) (listener : ℕ)
  | unsubscribe (handle : ℕ)
  | reconcile (authorizes : Bool) (now : ℤ)
  | close
  /-- `authorizeEgress` answers, or rejects. -/
  | authorized (entry : ℕ) (answer : Option Bool)
  /-- The store acts on an acquisition. -/
  | acquireServed (entry : ℕ) (answer : AcquireAnswer)
  /-- The store acts on a renewal. -/
  | renewServed (entry : ℕ) (rejects : Bool)
  /-- The answer to the request of the work arrives. -/
  | leaseAnswered (entry : ℕ) (now : ℤ)
  /-- The promise of `loadAuthoritativeSnapshot` settles. -/
  | loaded (entry : ℕ) (snapshot : Option ν)
  /-- The promise of `openStream` settles. -/
  | streamOpened (entry : ℕ) (resolves : Bool)
  | delta (stream : ℕ) (value : ν)
  | gap (stream : ℕ)
  | leaseExpired (entry : ℕ)
  /-- The store acts on a release. -/
  | releaseServed (release : ℕ) (rejects : Bool)
  /-- The promise of a release settles. -/
  | releaseSettled (release : ℕ)
  /-- The row of a key expires in the store. -/
  | storeExpired (leaseKey : String)

namespace MonitorEntry

variable {ν : Type}

def created (target : MonitorTarget) : MonitorEntry ν where
  target := target
  leaseKey := monitorLeaseKey target
  registered := true
  listeners := []
  leaseGeneration := none
  nextRenewAt := none
  baselineAccepted := false
  baselineValue := none
  streamClose := none
  controller := none
  reconciling := none
  leaseExpiry := none

def stopped (entry : MonitorEntry ν) : MonitorEntry ν :=
  { entry with
    baselineAccepted := false
    baselineValue := none
    controller := none
    streamClose := none }

def removed (entry : MonitorEntry ν) : MonitorEntry ν :=
  { entry with registered := false, leaseExpiry := none }

def unleased (entry : MonitorEntry ν) : MonitorEntry ν :=
  { entry with leaseGeneration := none, nextRenewAt := none, leaseExpiry := none }

def atStage (stage : ReconcileStage) (entry : MonitorEntry ν) : MonitorEntry ν :=
  { entry with reconciling := entry.reconciling.map fun work =>
      { work with stage := stage } }

def done (entry : MonitorEntry ν) : MonitorEntry ν := { entry with reconciling := none }

/-- The lease was granted or renewed: the next renewal and `#armLeaseExpiry`. -/
def armed (now : ℤ) (entry : MonitorEntry ν) : MonitorEntry ν :=
  { entry with
    nextRenewAt := some (now + monitorLeaseRenewIntervalMs)
    leaseExpiry := some (now + monitorLeaseDurationMs) }

end MonitorEntry

namespace SharedMonitorRegistry

variable {ν : Type}

def create : SharedMonitorRegistry ν where
  entries := []
  controllers := []
  streams := []
  handles := []
  releases := []
  uniqueUsers := []
  store := fun _ => none
  log := []

def get (registry : SharedMonitorRegistry ν) (key : String) : Option ℕ :=
  registry.entries.findIdx? fun entry => entry.registered && entry.leaseKey == key

def modify (registry : SharedMonitorRegistry ν) (i : ℕ)
    (f : MonitorEntry ν → MonitorEntry ν) : SharedMonitorRegistry ν :=
  { registry with entries := registry.entries.modify i f }

def aborted (registry : SharedMonitorRegistry ν) (controller : ℕ) : Bool :=
  (registry.controllers[controller]?).all (·.aborted)

def stopStream (registry : SharedMonitorRegistry ν) (i : ℕ)
    (entry : MonitorEntry ν) : SharedMonitorRegistry ν :=
  { registry with
    entries := registry.entries.modify i .stopped
    controllers := entry.controller.elim registry.controllers fun controller =>
      registry.controllers.modify controller fun other => { other with aborted := true }
    streams := entry.streamClose.elim registry.streams fun stream =>
      registry.streams.modify stream fun other => { other with stage := .closed } }

def publish (registry : SharedMonitorRegistry ν) (i controller : ℕ)
    (entry : MonitorEntry ν) (update : MonitorUpdate ν) : SharedMonitorRegistry ν :=
  { registry with
    log := registry.log ++ entry.listeners.map (MonitorRecord.delivered i controller · update) }

def lose (registry : SharedMonitorRegistry ν) (i : ℕ) : SharedMonitorRegistry ν :=
  { registry with log := registry.log ++ [.lost i] }

/-- The end of `subscribe`: the listener joins, and is given the baseline if one was
accepted. -/
def join (registry : SharedMonitorRegistry ν) (i : ℕ) (entry : MonitorEntry ν)
    (listener : ℕ) : SharedMonitorRegistry ν :=
  let joined := registry.modify i fun entry =>
    { entry with listeners :=
        if listener ∈ entry.listeners then entry.listeners
        else entry.listeners ++ [listener] }
  { joined with
    handles := joined.handles ++ [⟨entry.leaseKey, listener, false⟩]
    log := joined.log ++
      match entry.baselineAccepted, entry.baselineValue, entry.controller with
      | true, some value, some controller =>
        [.delivered i controller listener (.baseline value)]
      | _, _, _ => [] }

def reserve (registry : SharedMonitorRegistry ν) (normalized : MonitorTarget) :
    Outcome (Option (List String)) :=
  if normalized.isAccount then
    reserveUniqueUser registry.uniqueUsers (monitorLeaseKey normalized)
  else .ok (some registry.uniqueUsers)

def lookup (registry : SharedMonitorRegistry ν) (key : String) : Option (ℕ × MonitorEntry ν) :=
  (registry.get key).bind fun i => (registry.entries[i]?).map fun entry => (i, entry)

def subscribe (registry : SharedMonitorRegistry ν) (target : MonitorTarget)
    (listener : ℕ) : Outcome (SharedMonitorRegistry ν) := do
  let normalized ← normalizeMonitorTarget target
  match registry.lookup (monitorLeaseKey normalized) with
  | some (i, entry) => .ok (registry.join i entry listener)
  | none =>
    match ← registry.reserve normalized with
    | none => .error (.error "monitor unique-user capacity is exhausted")
    | some uniqueUsers =>
      .ok ({ registry with
        uniqueUsers := uniqueUsers
        entries := registry.entries ++ [MonitorEntry.created normalized] }.join
          registry.entries.length (MonitorEntry.created normalized) listener)

def remove (registry : SharedMonitorRegistry ν) (i : ℕ) (entry : MonitorEntry ν) :
    SharedMonitorRegistry ν :=
  let stopped := (registry.modify i .removed).stopStream i entry
  match entry.leaseGeneration with
  | some generation =>
    { stopped with releases := stopped.releases ++
        [⟨entry.leaseKey, generation, entry.target.isAccount, none, false⟩] }
  | none =>
    if entry.target.isAccount then
      { stopped with uniqueUsers :=
          releaseUniqueUser stopped.uniqueUsers entry.leaseKey }
    else stopped

def leave (registry : SharedMonitorRegistry ν) (handle : MonitorHandle) : SharedMonitorRegistry ν :=
  match registry.lookup handle.leaseKey with
  | none => registry
  | some (i, entry) =>
    let listeners := entry.listeners.filter fun other => other ≠ handle.listener
    let left := registry.modify i fun entry => { entry with listeners := listeners }
    if listeners = [] then left.remove i { entry with listeners := listeners } else left

def unsubscribe (registry : SharedMonitorRegistry ν) (h : ℕ) (handle : MonitorHandle) :
    SharedMonitorRegistry ν :=
  { registry with
    handles := registry.handles.set h { handle with released := true } }.leave handle

def closeEntry (registry : SharedMonitorRegistry ν) (i : ℕ) : SharedMonitorRegistry ν :=
  match registry.entries[i]? with
  | none => registry
  | some entry =>
    if entry.registered = false then registry
    else
      let stopped := (registry.modify i .removed).stopStream i entry
      { stopped with
        releases := entry.leaseGeneration.elim stopped.releases fun generation =>
          stopped.releases ++ [⟨entry.leaseKey, generation, false, none, false⟩]
        uniqueUsers :=
          if entry.target.isAccount then
            releaseUniqueUser stopped.uniqueUsers entry.leaseKey
          else stopped.uniqueUsers }

def startStream (registry : SharedMonitorRegistry ν) (i : ℕ) (authorizes : Bool)
    (entry : MonitorEntry ν) : SharedMonitorRegistry ν :=
  if entry.streamClose.isSome then registry.modify i .done
  else
    let controller := registry.controllers.length
    { registry with
      entries := registry.entries.modify i fun entry =>
        { entry with
          controller := some controller
          baselineAccepted := false
          reconciling := some ⟨authorizes,
            if authorizes then .authorizingLoad controller else .loading controller⟩ }
      controllers := registry.controllers ++ [⟨i, false⟩] }

def reconcileEntry (authorizes : Bool) (now : ℤ) (registry : SharedMonitorRegistry ν)
    (i : ℕ) : SharedMonitorRegistry ν :=
  match registry.entries[i]? with
  | none => registry
  | some entry =>
    if entry.registered = false ∨ entry.reconciling.isSome then registry
    else
      let starting (stage : ReconcileStage) := registry.modify i fun entry =>
        { entry with reconciling := some ⟨authorizes, stage⟩ }
      match entry.leaseGeneration with
      | none => starting (if authorizes then .authorizingAcquire else .acquiring none)
      | some generation =>
        if entry.nextRenewAt.all fun nextRenewAt => decide (nextRenewAt ≤ now) then
          starting (if authorizes then .authorizingRenew else .renewing (some generation) none)
        else registry.startStream i authorizes entry

def openStream (registry : SharedMonitorRegistry ν) (i controller : ℕ) : SharedMonitorRegistry ν :=
  { registry with
    entries := registry.entries.modify i (.atStage (.opening registry.streams.length))
    streams := registry.streams ++ [⟨controller, .opening⟩] }

def authorized (registry : SharedMonitorRegistry ν) (i : ℕ) (entry : MonitorEntry ν)
    (stage : ReconcileStage) (answer : Option Bool) : SharedMonitorRegistry ν :=
  match stage, answer with
  | .authorizingAcquire, some true => registry.modify i (.atStage (.acquiring none))
  | .authorizingRenew, some true =>
    registry.modify i (.atStage (.renewing entry.leaseGeneration none))
  | .authorizingLoad controller, some true => registry.modify i (.atStage (.loading controller))
  | .authorizingOpen controller, some true => registry.openStream i controller
  | .authorizingLoad _, none | .authorizingOpen _, _ =>
    (registry.stopStream i entry).modify i .done
  | .authorizingAcquire, _ | .authorizingRenew, _ | .authorizingLoad _, _ =>
    registry.modify i .done
  | _, _ => registry

def leaseAnswered (registry : SharedMonitorRegistry ν) (i : ℕ) (entry : MonitorEntry ν)
    (work : ReconcileWork) (now : ℤ) : SharedMonitorRegistry ν :=
  match work.stage with
  | .acquiring (some (.granted generation)) =>
    (registry.modify i fun entry =>
      ({ entry with leaseGeneration := some generation }).armed now).startStream i
        work.authorizes entry
  | .acquiring (some _) => registry.modify i .done
  | .renewing _ (some (.renewed true)) =>
    (registry.modify i (.armed now)).startStream i work.authorizes entry
  | .renewing _ (some (.renewed false)) =>
    (((registry.modify i .unleased).stopStream i entry).lose i).modify i .done
  | .renewing _ (some .rejected) => registry.modify i .done
  | _ => registry

def loaded (registry : SharedMonitorRegistry ν) (i : ℕ) (entry : MonitorEntry ν)
    (authorizes : Bool) (controller : ℕ) : Option ν → SharedMonitorRegistry ν
  | none => (registry.stopStream i entry).modify i .done
  | some snapshot =>
    if registry.aborted controller ∨ entry.registered = false ∨
        entry.leaseGeneration = none then registry.modify i .done
    else
      let accepted := registry.modify i fun entry =>
        { entry with baselineAccepted := true, baselineValue := some snapshot }
      let published := accepted.publish i controller entry (.baseline snapshot)
      if authorizes then published.modify i (.atStage (.authorizingOpen controller))
      else published.openStream i controller

def streamOpened (registry : SharedMonitorRegistry ν) (i : ℕ) (entry : MonitorEntry ν)
    (s : ℕ) (stream : MonitorStream) (resolves : Bool) : SharedMonitorRegistry ν :=
  if resolves = false then
    ({ registry with streams := registry.streams.set s { stream with stage := .closed } }
      |>.stopStream i entry).modify i .done
  else if registry.aborted stream.controller then
    { registry with
      entries := registry.entries.modify i .done
      streams := registry.streams.set s { stream with stage := .closed } }
  else
    { registry with
      entries := registry.entries.modify i fun entry =>
        { entry with streamClose := some s, reconciling := none }
      streams := registry.streams.set s { stream with stage := .opened } }

def owner (registry : SharedMonitorRegistry ν) (stream : MonitorStream) :
    Option (ℕ × MonitorEntry ν) :=
  (registry.controllers[stream.controller]?).bind fun controller =>
    (registry.entries[controller.entry]?).map fun entry => (controller.entry, entry)

def clear (registry : SharedMonitorRegistry ν) (key : String) : SharedMonitorRegistry ν :=
  { registry with store := fun other => if other = key then none else registry.store other }

/-- The store acts on an acquisition; a row that has not expired is not granted again. -/
def acquireServed (registry : SharedMonitorRegistry ν) (i : ℕ) (entry : MonitorEntry ν)
    (answer : AcquireAnswer) : SharedMonitorRegistry ν :=
  match answer with
  | .granted generation =>
    if (registry.store entry.leaseKey).isSome then registry
    else
      { registry with
        entries := registry.entries.modify i (.atStage (.acquiring (some answer)))
        store := fun other =>
          if other = entry.leaseKey then some generation else registry.store other }
  | .refused | .rejected => registry.modify i (.atStage (.acquiring (some answer)))

def renewServed (registry : SharedMonitorRegistry ν) (i : ℕ) (entry : MonitorEntry ν)
    (generation : Option ℕ) (rejects : Bool) : SharedMonitorRegistry ν :=
  registry.modify i (.atStage (.renewing generation (some
    (if rejects ∨ generation = none then .rejected
    else .renewed (registry.store entry.leaseKey == generation)))))

def step (registry : SharedMonitorRegistry ν) :
    MonitorEvent ν → SharedMonitorRegistry ν
  | .subscribe target listener =>
    match registry.subscribe target listener with
    | .ok subscribed => subscribed
    | .error _ => registry
  | .unsubscribe h =>
    match registry.handles[h]? with
    | none => registry
    | some handle =>
      if handle.released then registry else registry.unsubscribe h handle
  | .reconcile authorizes now =>
    (List.range registry.entries.length).foldl (reconcileEntry authorizes now) registry
  | .close => (List.range registry.entries.length).foldl closeEntry registry
  | .authorized i answer =>
    match registry.entries[i]? with
    | none => registry
    | some entry =>
      match entry.reconciling with
      | none => registry
      | some work => registry.authorized i entry work.stage answer
  | .acquireServed i answer =>
    match registry.entries[i]? with
    | none => registry
    | some entry =>
      match entry.reconciling with
      | some ⟨_, .acquiring none⟩ => registry.acquireServed i entry answer
      | _ => registry
  | .renewServed i rejects =>
    match registry.entries[i]? with
    | none => registry
    | some entry =>
      match entry.reconciling with
      | some ⟨_, .renewing generation none⟩ =>
        registry.renewServed i entry generation rejects
      | _ => registry
  | .leaseAnswered i now =>
    match registry.entries[i]? with
    | none => registry
    | some entry =>
      match entry.reconciling with
      | none => registry
      | some work => registry.leaseAnswered i entry work now
  | .loaded i snapshot =>
    match registry.entries[i]? with
    | none => registry
    | some entry =>
      match entry.reconciling with
      | some ⟨authorizes, .loading controller⟩ =>
        registry.loaded i entry authorizes controller snapshot
      | _ => registry
  | .streamOpened i resolves =>
    match registry.entries[i]? with
    | none => registry
    | some entry =>
      match entry.reconciling with
      | some ⟨_, .opening s⟩ =>
        match registry.streams[s]? with
        | none => registry
        | some stream => registry.streamOpened i entry s stream resolves
      | _ => registry
  | .delta s value =>
    match registry.streams[s]? with
    | none => registry
    | some stream =>
      match registry.owner stream with
      | none => registry
      | some (i, entry) =>
        if entry.baselineAccepted = false ∨ registry.aborted stream.controller then
          registry
        else registry.publish i stream.controller entry (.delta value)
  | .gap s =>
    match registry.streams[s]? with
    | none => registry
    | some stream =>
      match registry.owner stream with
      | none => registry
      | some (i, entry) =>
        if registry.aborted stream.controller then registry
        else (registry.stopStream i entry).lose i
  | .leaseExpired i =>
    match registry.entries[i]? with
    | none => registry
    | some entry =>
      if entry.leaseExpiry = none then registry
      else ((registry.modify i .unleased).stopStream i entry).lose i
  | .releaseServed r rejects =>
    match registry.releases[r]? with
    | none => registry
    | some release =>
      if release.answer.isSome then registry
      else
        let answered := { registry with
          releases := registry.releases.set r
            { release with answer := some (!rejects) } }
        if !rejects && registry.store release.leaseKey == some release.generation then
          answered.clear release.leaseKey
        else answered
  | .releaseSettled r =>
    match registry.releases[r]? with
    | none => registry
    | some release =>
      if release.answer = none ∨ release.settled then registry
      else
        let settled := { registry with
          releases := registry.releases.set r { release with settled := true } }
        if release.releasesUser && release.answer == some true then
          { settled with uniqueUsers :=
              releaseUniqueUser settled.uniqueUsers release.leaseKey }
        else settled
  | .storeExpired key => registry.clear key

end SharedMonitorRegistry

end HyperTrader
