import HyperTrader.Workers.Ownership

/-!
# The supervisors over one database

Any number of supervisors share the worker gates and the lease of the egress. A call of
a supervisor sends its statements to the store one at a time: before a statement runs,
before its answer arrives and before the next one is sent any time may pass, and the
other calls go on. A deactivation asks with one statement whether the lease is still its
own and closes the gates with another, which no longer looks at the lease.
-/

namespace HyperTrader

open Library

namespace Workers

inductive StoreCall where
  | activateWorkerGates
  | acquire
  | renew (generation : ℕ)
  | deactivateWorkerGates
  | release (generation : ℕ)
  deriving DecidableEq

/-- What the store answers where it does not throw. -/
inductive StoreAnswer where
  | done
  | acquired (generation : Option ℕ)
  | renewed (renewed : Bool)
  deriving DecidableEq

inductive CallPoint where
  /-- `activate` -/
  | checkingDependencies
  | openingGates
  | acquiring
  | reporting
  /-- `runOnce` -/
  | renewing
  | recheckingDependencies
  | reconciling (fence : RuntimeEgressFence)
  | renewingAgain (fence : RuntimeEgressFence)
  | delivering (fence : RuntimeEgressFence)
  | collecting (fence : RuntimeEgressFence)
  /-- `deactivate` -/
  | renewingLast (generation : ℕ) (left : DeactivationState)
  | closingGates (generation : ℕ) (left : DeactivationState)
  | closingRules (generation : Option ℕ) (left : DeactivationState)
  | releasing (generation : ℕ) (left : DeactivationState)
  /-- `#authorizeEgress`, whose renewal the calls in flight share -/
  | authorizing
  deriving DecidableEq

inductive Pending where
  /-- a port of the supervisor: the dependencies, the workers, the health -/
  | port
  /-- a statement that has not run -/
  | sent (call : StoreCall)
  /-- an answer that has not arrived; none where the store threw -/
  | answered (answer : Option StoreAnswer)
  deriving DecidableEq

structure EgressCall where
  point : CallPoint
  pending : Pending
  deriving DecidableEq

inductive WorkerMethod where
  | activate
  | runOnce
  | deactivate (left : DeactivationState)

structure Continuation where
  supervisor : WorkerSupervisor
  call : Option EgressCall

def CallPoint.fence : CallPoint → Option RuntimeEgressFence
  | .reconciling fence | .renewingAgain fence | .delivering fence | .collecting fence =>
    some fence
  | _ => none

def CallPoint.workers : CallPoint → Option RuntimeEgressFence
  | .delivering fence | .collecting fence => some fence
  | _ => none

namespace WorkerSupervisor

variable (supervisor : WorkerSupervisor)

def sendRenewal (point : CallPoint) : EgressCall :=
  match supervisor.generation with
  | none => ⟨point, .answered (some (.renewed false))⟩
  | some generation => ⟨point, .sent (.renew generation)⟩

def beginDeactivate (left : DeactivationState) : EgressCall :=
  match supervisor.generation with
  | none => ⟨.closingRules none left, .port⟩
  | some generation => supervisor.sendRenewal (.renewingLast generation left)

def begin : WorkerMethod → Continuation
  | .activate =>
    if supervisor.state = .active ∧ supervisor.generation.isSome then ⟨supervisor, none⟩
    else if supervisor.providerWorkersEnabled = false then
      ⟨{ supervisor with state := .configDisabled }, none⟩
    else ⟨supervisor, some ⟨.checkingDependencies, .port⟩⟩
  | .runOnce =>
    if supervisor.state ≠ .active then ⟨supervisor, none⟩
    else ⟨supervisor, some (supervisor.sendRenewal .renewing)⟩
  | .deactivate left => ⟨supervisor, some (supervisor.beginDeactivate left)⟩

/-- The code after an answer of the store: what throws ends the call. `capacity` says
whether the provider's capacity was reserved. -/
def answered (point : CallPoint) (answer : Option StoreAnswer) (capacity : Bool) : Continuation :=
  match point, answer with
  | .openingGates, some .done => ⟨supervisor, some ⟨.acquiring, .sent .acquire⟩⟩
  | .acquiring, some (.acquired none) =>
    ⟨{ supervisor with state := .dependenciesBlocked }, none⟩
  | .acquiring, some (.acquired (some generation)) =>
    ⟨{ supervisor with generation := some generation, state := .active }, some ⟨.reporting, .port⟩⟩
  | .renewing, some (.renewed true) => ⟨supervisor, some ⟨.recheckingDependencies, .port⟩⟩
  | .renewing, some (.renewed false) =>
    ⟨supervisor, some (supervisor.beginDeactivate .dependenciesBlocked)⟩
  | .renewingAgain fence, some (.renewed true) =>
    ⟨supervisor, if capacity then some ⟨.delivering fence, .port⟩ else some ⟨.reporting, .port⟩⟩
  | .renewingAgain _, some (.renewed false) =>
    ⟨supervisor, some (supervisor.beginDeactivate .dependenciesBlocked)⟩
  | .renewingLast generation left, some (.renewed true) =>
    ⟨supervisor, some ⟨.closingGates generation left, .sent .deactivateWorkerGates⟩⟩
  | .renewingLast generation left, some (.renewed false) =>
    ⟨supervisor, some ⟨.closingRules (some generation) left, .port⟩⟩
  | .closingGates generation left, some .done =>
    ⟨supervisor, some ⟨.closingRules (some generation) left, .port⟩⟩
  | .releasing _ left, some .done => ⟨supervisor.deactivated left, none⟩
  | _, _ => ⟨supervisor, none⟩

def returned (point : CallPoint) (reply : Option Bool) : Continuation :=
  match point, reply with
  | .checkingDependencies, some true =>
    ⟨supervisor, some ⟨.openingGates, .sent .activateWorkerGates⟩⟩
  | .checkingDependencies, some false =>
    ⟨{ supervisor with state := .dependenciesBlocked }, none⟩
  | .recheckingDependencies, some true =>
    match supervisor.runtimeFence with
    | none => ⟨supervisor, none⟩
    | some fence =>
      ⟨{ supervisor with rulesOpen := true }, some ⟨.reconciling fence, .port⟩⟩
  | .recheckingDependencies, some false =>
    ⟨supervisor, some (supervisor.beginDeactivate .dependenciesBlocked)⟩
  | .reconciling fence, some _ =>
    ⟨supervisor, some (supervisor.sendRenewal (.renewingAgain fence))⟩
  | .delivering fence, some _ => ⟨supervisor, some ⟨.collecting fence, .port⟩⟩
  | .collecting _, some _ => ⟨supervisor, some ⟨.reporting, .port⟩⟩
  | .closingRules none left, some _ =>
    ⟨{ supervisor with rulesOpen := false }.deactivated left, none⟩
  | .closingRules (some generation) left, some _ =>
    ⟨{ supervisor with rulesOpen := false },
      some ⟨.releasing generation left, .sent (.release generation)⟩⟩
  | _, _ => ⟨supervisor, none⟩

end WorkerSupervisor

/-- What a call of the store leaves, with the answer if it did not throw. -/
def answerOf {α : Type} (f : α → StoreAnswer) (result : Except StoreFailure α × MonitorLeases) :
    Option StoreAnswer × MonitorLeases :=
  (result.1.toOption.map f, result.2)

def StoreCall.execute (leases : MonitorLeases) (ownerId : String) (now : ℤ)
    (authorized : Bool) (fault : Option StoreFailure) :
    StoreCall → Option StoreAnswer × MonitorLeases
  | .activateWorkerGates =>
    match Workers.activateWorkerGates leases authorized fault with
    | none => (none, leases)
    | some opened => (some .done, opened)
  | .acquire =>
    answerOf .acquired
      (leases.acquireMonitorLease notificationEgressLeaseKey ownerId now fault)
  | .renew generation =>
    answerOf .renewed
      (leases.renewMonitorLease notificationEgressLeaseKey ownerId generation now fault)
  | .deactivateWorkerGates =>
    if fault = none then (some .done, Workers.deactivateWorkerGates leases)
    else (none, leases)
  | .release generation =>
    answerOf (fun _ => .done)
      (leases.releaseMonitorLease notificationEgressLeaseKey ownerId generation fault)

/-- A process with its supervisor, the calls in progress and the fences that its workers
have been given. -/
structure EgressProcess where
  supervisor : WorkerSupervisor
  calls : List EgressCall
  fences : List RuntimeEgressFence
  deriving DecidableEq

namespace EgressProcess

variable (process : EgressProcess)

def goOn (continuation : Continuation) (calls : List EgressCall) : EgressProcess where
  supervisor := continuation.supervisor
  calls := calls ++ continuation.call.toList
  fences := process.fences ++ (continuation.call.bind fun call => call.point.workers).toList

def start (method : WorkerMethod) : EgressProcess :=
  process.goOn (process.supervisor.begin method) process.calls

def resume (index : ℕ) (reply : Option Bool) : EgressProcess :=
  match process.calls[index]? with
  | none => process
  | some call =>
    match call.pending with
    | .sent _ => process
    | .answered answer =>
      process.goOn (process.supervisor.answered call.point answer (reply == some true))
        (process.calls.eraseIdx index)
    | .port =>
      process.goOn (process.supervisor.returned call.point reply)
        (process.calls.eraseIdx index)

def authorizeEgress : EgressProcess :=
  if process.calls.any fun call => call.point = .authorizing then process
  else
    { process with calls := process.calls ++ [process.supervisor.sendRenewal .authorizing] }

end EgressProcess

/-- Until when the store last granted the lease to each identity, and at which generation. -/
abbrev Grants := String → Option (ℕ × ℤ)

structure Egress where
  clock : ℤ
  leases : MonitorLeases
  processes : List EgressProcess
  granted : Grants

inductive EgressEvent where
  /-- A process starts. -/
  | launch (supervisor : WorkerSupervisor)
  | start (process : ℕ) (method : WorkerMethod)
  /-- The statement of a call runs; `lost` where its answer does not arrive. -/
  | execute (process call : ℕ) (authorized : Bool) (fault : Option StoreFailure) (lost : Bool)
  /-- A call goes on from its await. -/
  | resume (process call : ℕ) (reply : Option Bool)
  /-- The rule worker asks for the egress. -/
  | authorize (process : ℕ)
  /-- `claimNextDispatch` or `claimDueReceipts` under a fence that the workers have -/
  | claim (process fence : ℕ)
  /-- `authorizeProviderFetch` -/
  | fetch (process fence : ℕ)
  | pass (time : ℕ)
  /-- Others change the gates and the rows of other keys. -/
  | elsewhere (service : ServiceState) (others : List MonitorLeaseRow)

/-- The grants after a statement of an identity: an acquisition and a renewal grant the
lease, and a release gives it back. -/
def Grants.after (granted : Grants) (ownerId : String) (now : ℤ) (call : StoreCall)
    (answer : Option StoreAnswer) : Grants :=
  match call, answer with
  | .acquire, some (.acquired (some generation)) | .renew generation, some (.renewed true) =>
    Function.update granted ownerId (some (generation, now + MonitorLeases.leaseInterval))
  | .release generation, some .done =>
    if isLeaseGeneration generation ∧ (granted ownerId).map Prod.fst = some generation then
      Function.update granted ownerId none
    else granted
  | _, _ => granted

namespace Egress

def sent (egress : Egress) (process call : ℕ) : Option (EgressProcess × EgressCall × StoreCall) :=
  egress.processes[process]?.bind fun found =>
    found.calls[call]?.bind fun called =>
      match called.pending with
      | .sent statement => some (found, called, statement)
      | _ => none

def execute (egress : Egress) (process call : ℕ) (authorized : Bool)
    (fault : Option StoreFailure) (lost : Bool) : Egress :=
  match egress.sent process call with
  | none => egress
  | some (found, called, statement) =>
    let ownerId := found.supervisor.ownerId
    let (answer, leases) :=
      statement.execute egress.leases ownerId egress.clock authorized fault
    { egress with
      leases := leases
      processes := egress.processes.set process
        { found with
          calls := found.calls.set call
            { called with pending := .answered (if lost then none else answer) } }
      granted := egress.granted.after ownerId egress.clock statement answer }

def elsewhere (leases : MonitorLeases) (service : ServiceState)
    (others : List MonitorLeaseRow) : MonitorLeases :=
  if (others.map MonitorLeaseRow.leaseKey).Nodup then
    { leases with
      service := service
      rows := leases.rows.filter (fun row => row.leaseKey = notificationEgressLeaseKey) ++
        others.filter fun row => row.leaseKey ≠ notificationEgressLeaseKey }
  else leases

def step (egress : Egress) : EgressEvent → Egress
  | .launch supervisor =>
    { egress with
      processes := egress.processes ++
        [⟨{ supervisor with generation := none, state := .stopped, rulesOpen := false },
          [], []⟩] }
  | .start process method =>
    { egress with processes := egress.processes.modify process fun found => found.start method }
  | .execute process call authorized fault lost =>
    egress.execute process call authorized fault lost
  | .resume process call reply =>
    { egress with
      processes := egress.processes.modify process fun found => found.resume call reply }
  | .authorize process =>
    { egress with
      processes := egress.processes.modify process fun found => found.authorizeEgress }
  | .claim _ _ | .fetch _ _ => egress
  | .pass time => { egress with clock := egress.clock + time }
  | .elsewhere service others =>
    { egress with leases := elsewhere egress.leases service others }

def initial (service : ServiceState) (clock : ℤ) : Egress where
  clock := clock
  leases := MonitorLeases.initial service
  processes := []
  granted _ := none

def owner (egress : Egress) : Option (String × ℕ) :=
  ((egress.leases.row notificationEgressLeaseKey).filter
    fun row => egress.clock < row.expiresAt).map fun row => (row.ownerId, row.leaseGeneration)

def fence (egress : Egress) (process fence : ℕ) : Option (EgressProcess × RuntimeEgressFence) :=
  egress.processes[process]?.bind fun found => found.fences[fence]?.map fun used => (found, used)

end Egress

/-- The gates are closed by the owner of the lease, and a claim or a fetch is authorized
under the owner's generation. -/
def Exclusive (egress : Egress) : EgressEvent → Prop
  | .execute process call _ fault _ =>
    ∀ found called, egress.sent process call = some (found, called, .deactivateWorkerGates) →
      fault = none → ∃ generation, egress.owner = some (found.supervisor.ownerId, generation)
  | .claim process fence =>
    ∀ found used, egress.fence process fence = some (found, used) →
      validateRuntimeEgressFence used = .ok () →
      claimAuthorized egress.leases used egress.clock = true →
        ∃ generation : ℕ, used.generation = generation ∧
          egress.owner = some (found.supervisor.ownerId, generation)
  | .fetch process fence =>
    ∀ found used, egress.fence process fence = some (found, used) →
      validateRuntimeEgressFence used = .ok () →
      fetchAuthorized egress.leases used egress.clock = true →
        ∃ generation : ℕ, used.generation = generation ∧
          egress.owner = some (found.supervisor.ownerId, generation)
  | _ => True

/-- Where the gates are closed, the store has granted the lease to the supervisor by an
acquisition or a renewal less than thirty seconds before, and it has not been given back. -/
def Prompt (egress : Egress) : EgressEvent → Prop
  | .execute process call _ fault _ =>
    ∀ found called, egress.sent process call = some (found, called, .deactivateWorkerGates) →
      fault = none → ∃ generation deadline,
        egress.granted found.supervisor.ownerId = some (generation, deadline) ∧
          egress.clock < deadline
  | _ => True

end Workers

end HyperTrader
