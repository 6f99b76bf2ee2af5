import HyperTrader.Notifications.MonitorLeases

/-!
# The supervisor of the notification workers

A supervisor opens the shared worker gates, acquires the egress lease and runs the
workers under the generation it was given; when it fails or loses its ownership it
deactivates. A call goes from await to await: `resume` is the code between two of
them, over the supervisor's own fields and the tables of the database, which others
change meanwhile.
-/

namespace HyperTrader

open Library

namespace Workers

inductive WorkerSupervisorState where
  | configDisabled
  | dependenciesBlocked
  | active
  | stopped
  deriving DecidableEq

inductive DeactivationState where
  | dependenciesBlocked
  | stopped
  deriving DecidableEq

def DeactivationState.state : DeactivationState → WorkerSupervisorState
  | .dependenciesBlocked => .dependenciesBlocked
  | .stopped => .stopped

/-- `NotificationWorkerSupervisor`; its rules are open while the rule worker may hold
subscriptions. -/
structure WorkerSupervisor where
  ownerId : String
  ownerPattern : workerIdPattern.test ownerId = true
  providerWorkersEnabled : Bool
  generation : Option ℕ
  state : WorkerSupervisorState
  rulesOpen : Bool
  deriving DecidableEq

inductive WorkerStage where
  /-- `activate`, for `dependenciesReady` -/
  | checkingDependencies
  | openingGates
  | acquiring
  /-- `activate`, for the health that it reports -/
  | reporting
  /-- `runOnce`, for its first renewal -/
  | renewing
  | recheckingDependencies
  | reconciling (fence : RuntimeEgressFence)
  | renewingAgain (fence : RuntimeEgressFence)
  | delivering (fence : RuntimeEgressFence)
  | collecting (fence : RuntimeEgressFence)
  /-- `deactivate`, for its renewal -/
  | renewingLast (generation : ℕ) (left : DeactivationState)
  /-- `deactivateWorkerGates`, under a lease renewed until a time -/
  | closingGates (generation : ℕ) (renewedUntil : ℤ) (left : DeactivationState)
  | closingRules (generation : Option ℕ) (left : DeactivationState)
  | releasing (generation : ℕ) (left : DeactivationState)
  | returned
  | threw
  deriving DecidableEq

inductive WorkerFrame where
  /-- a call of its own -/
  | direct
  /-- the `try` block of `tickOnce`, which goes on from `activate` to `runOnce` -/
  | tickTry
  /-- the `catch` block of `tickOnce` -/
  | tickCatch
  deriving DecidableEq

structure WorkerTask where
  frame : WorkerFrame
  stage : WorkerStage
  deriving DecidableEq

/-- The end of an await. A call of the store may fail with a fault of the database;
`deps` is none where `dependenciesReady` throws. -/
inductive WorkerReply where
  | dependencies (ready : Option Bool)
  | gatesOpened (authorized : Bool) (fault : Option StoreFailure)
  | acquired (fault : Option StoreFailure)
  | reported
  | renewed (fault : Option StoreFailure) (capacity : Bool)
  /-- `authorizeEgress`, which a reconciliation asks before it goes out -/
  | authorized (fault : Option StoreFailure)
  | reconciled (succeeds : Bool)
  /-- `claimNextDispatch` or `claimDueReceipts` -/
  | claimed
  /-- `authorizeProviderFetch` -/
  | fetched
  | delivered (succeeds : Bool)
  | collected (succeeds : Bool)
  | gatesClosed (fault : Option StoreFailure)
  | rulesClosed (succeeds : Bool)
  | released (fault : Option StoreFailure)
  deriving DecidableEq

/-- `activateWorkerGates`: the checks of the schema, of the tokens and of the rules are
`authorized`. -/
def activateWorkerGates (leases : MonitorLeases) (authorized : Bool)
    (fault : Option StoreFailure) : Option MonitorLeases :=
  if fault = none ∧ authorized = true ∧ leases.service.serving = true ∧
      leases.service.mutationsEnabled = true ∧
      leases.service.ledgerHead = leases.service.ledgerWatermark then
    some { leases with
      service := { leases.service with monitorsEnabled := true, deliveryEnabled := true } }
  else none

def deactivateWorkerGates (leases : MonitorLeases) : MonitorLeases :=
  { leases with
    service := { leases.service with monitorsEnabled := false, deliveryEnabled := false } }

def claimAuthorized (leases : MonitorLeases) (fence : RuntimeEgressFence) (now : ℤ) : Bool :=
  leases.service.assertDeliveryEnabled.isOk && leases.egressAuthorized fence now

def fetchAuthorized (leases : MonitorLeases) (fence : RuntimeEgressFence) (now : ℤ) : Bool :=
  leases.service.deliveryEnabled && leases.egressAuthorized fence now

namespace WorkerSupervisor

def renewOwnership (supervisor : WorkerSupervisor) (leases : MonitorLeases) (now : ℤ)
    (fault : Option StoreFailure) : Except StoreFailure Bool × MonitorLeases :=
  match supervisor.generation with
  | none => (.ok false, leases)
  | some generation =>
    leases.renewMonitorLease notificationEgressLeaseKey supervisor.ownerId generation now fault

def runtimeFence (supervisor : WorkerSupervisor) : Option RuntimeEgressFence :=
  supervisor.generation.map fun generation =>
    ⟨notificationEgressLeaseKey, supervisor.ownerId, generation⟩

def deactivate (supervisor : WorkerSupervisor) (left : DeactivationState) : WorkerStage :=
  match supervisor.generation with
  | some generation => .renewingLast generation left
  | none => .closingRules none left

def runOnce (supervisor : WorkerSupervisor) : WorkerStage :=
  if supervisor.state ≠ .active then .returned else .renewing

def activated (supervisor : WorkerSupervisor) (frame : WorkerFrame) : WorkerStage :=
  match frame with
  | .tickTry => supervisor.runOnce
  | _ => .returned

def activate (supervisor : WorkerSupervisor) (frame : WorkerFrame) :
    WorkerSupervisor × WorkerStage :=
  if supervisor.state = .active ∧ supervisor.generation.isSome then
    (supervisor, supervisor.activated frame)
  else if supervisor.providerWorkersEnabled = false then
    let disabled := { supervisor with state := .configDisabled }
    (disabled, disabled.activated frame)
  else (supervisor, .checkingDependencies)

/-- A call throws: the `try` block of `tickOnce` goes on to its `catch`. -/
def throws (supervisor : WorkerSupervisor) (frame : WorkerFrame) : WorkerTask :=
  match frame with
  | .tickTry => ⟨.tickCatch, supervisor.deactivate .dependenciesBlocked⟩
  | frame => ⟨frame, .threw⟩

def deactivated (supervisor : WorkerSupervisor) (left : DeactivationState) : WorkerSupervisor :=
  { supervisor with generation := none, state := left.state }

end WorkerSupervisor

structure Resumed where
  leases : MonitorLeases
  supervisor : WorkerSupervisor
  task : WorkerTask

section

variable (leases : MonitorLeases) (supervisor : WorkerSupervisor) (frame : WorkerFrame)

def goesOn (stage : WorkerStage) : Resumed := ⟨leases, supervisor, ⟨frame, stage⟩⟩

def fails : Resumed := ⟨leases, supervisor, supervisor.throws frame⟩

def afterDependencies (ready : Option Bool) : Resumed :=
  match ready with
  | none => fails leases supervisor frame
  | some false =>
    let blocked := { supervisor with state := .dependenciesBlocked }
    goesOn leases blocked frame (blocked.activated frame)
  | some true => goesOn leases supervisor frame .openingGates

def afterGatesOpened (authorized : Bool) (fault : Option StoreFailure) : Resumed :=
  match activateWorkerGates leases authorized fault with
  | none => fails leases supervisor frame
  | some leases => goesOn leases supervisor frame .acquiring

def afterAcquired (now : ℤ) (fault : Option StoreFailure) : Resumed :=
  match leases.acquireMonitorLease notificationEgressLeaseKey supervisor.ownerId now fault with
  | (.error _, leases) => fails leases supervisor frame
  | (.ok none, leases) =>
    let blocked := { supervisor with state := .dependenciesBlocked }
    goesOn leases blocked frame (blocked.activated frame)
  | (.ok (some generation), leases) =>
    goesOn leases { supervisor with generation := some generation, state := .active } frame
      .reporting

def afterRenewed (now : ℤ) (fault : Option StoreFailure) : Resumed :=
  match supervisor.renewOwnership leases now fault with
  | (.error _, leases) => fails leases supervisor frame
  | (.ok false, leases) =>
    goesOn leases supervisor frame (supervisor.deactivate .dependenciesBlocked)
  | (.ok true, leases) => goesOn leases supervisor frame .recheckingDependencies

def afterRecheck (ready : Option Bool) : Resumed :=
  match ready with
  | none => fails leases supervisor frame
  | some false => goesOn leases supervisor frame (supervisor.deactivate .dependenciesBlocked)
  | some true =>
    match supervisor.runtimeFence with
    | none => fails leases supervisor frame
    | some fence =>
      goesOn leases { supervisor with rulesOpen := true } frame (.reconciling fence)

/-- The rest of `runOnce` after its second renewal: `capacity` says whether the
provider's capacity was reserved. -/
def afterRenewedAgain (fence : RuntimeEgressFence) (now : ℤ) (fault : Option StoreFailure)
    (capacity : Bool) : Resumed :=
  match supervisor.renewOwnership leases now fault with
  | (.error _, leases) => fails leases supervisor frame
  | (.ok false, leases) =>
    goesOn leases supervisor frame (supervisor.deactivate .dependenciesBlocked)
  | (.ok true, leases) =>
    goesOn leases supervisor frame (if capacity then .delivering fence else .returned)

def afterRenewedLast (generation : ℕ) (left : DeactivationState) (now : ℤ)
    (fault : Option StoreFailure) : Resumed :=
  match supervisor.renewOwnership leases now fault with
  | (.error _, leases) => fails leases supervisor frame
  | (.ok false, leases) =>
    goesOn leases supervisor frame (.closingRules (some generation) left)
  | (.ok true, leases) =>
    goesOn leases supervisor frame
      (.closingGates generation (now + MonitorLeases.leaseInterval) left)

def afterGatesClosed (generation : ℕ) (left : DeactivationState)
    (fault : Option StoreFailure) : Resumed :=
  if fault = none then
    goesOn (deactivateWorkerGates leases) supervisor frame (.closingRules (some generation) left)
  else fails leases supervisor frame

def afterRulesClosed (generation : Option ℕ) (left : DeactivationState) (succeeds : Bool) :
    Resumed :=
  if succeeds = false then fails leases supervisor frame
  else
    let closed := { supervisor with rulesOpen := false }
    match generation with
    | some generation => goesOn leases closed frame (.releasing generation left)
    | none => goesOn leases (closed.deactivated left) frame .returned

def afterReleased (generation : ℕ) (left : DeactivationState) (fault : Option StoreFailure) :
    Resumed :=
  match leases.releaseMonitorLease notificationEgressLeaseKey supervisor.ownerId generation
      fault with
  | (.error _, leases) => fails leases supervisor frame
  | (.ok _, leases) => goesOn leases (supervisor.deactivated left) frame .returned

/-- The end of an await, at the time of the database's clock; a reply that the call
does not wait for is none. -/
def resume (stage : WorkerStage) (now : ℤ) (reply : WorkerReply) : Resumed :=
  match stage, reply with
  | .checkingDependencies, .dependencies ready =>
    afterDependencies leases supervisor frame ready
  | .openingGates, .gatesOpened authorized fault =>
    afterGatesOpened leases supervisor frame authorized fault
  | .acquiring, .acquired fault => afterAcquired leases supervisor frame now fault
  | .reporting, .reported =>
    goesOn leases supervisor frame (supervisor.activated frame)
  | .renewing, .renewed fault _ => afterRenewed leases supervisor frame now fault
  | .recheckingDependencies, .dependencies ready => afterRecheck leases supervisor frame ready
  | .reconciling fence, .authorized fault =>
    goesOn (supervisor.renewOwnership leases now fault).2 supervisor frame (.reconciling fence)
  | .reconciling fence, .reconciled succeeds =>
    if succeeds then goesOn leases supervisor frame (.renewingAgain fence)
    else fails leases supervisor frame
  | .renewingAgain fence, .renewed fault capacity =>
    afterRenewedAgain leases supervisor frame fence now fault capacity
  | .delivering fence, .delivered succeeds =>
    if succeeds then goesOn leases supervisor frame (.collecting fence)
    else fails leases supervisor frame
  | .collecting _, .collected succeeds =>
    if succeeds then goesOn leases supervisor frame .returned
    else fails leases supervisor frame
  | .renewingLast generation left, .renewed fault _ =>
    afterRenewedLast leases supervisor frame generation left now fault
  | .closingGates generation _ left, .gatesClosed fault =>
    afterGatesClosed leases supervisor frame generation left fault
  | .closingRules generation left, .rulesClosed succeeds =>
    afterRulesClosed leases supervisor frame generation left succeeds
  | .releasing generation left, .released fault =>
    afterReleased leases supervisor frame generation left fault
  | stage, _ => goesOn leases supervisor frame stage

end

end Workers

end HyperTrader
