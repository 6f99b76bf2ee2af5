import HyperTrader.Workers.Egress

/-!
# A call whose statements are answered at once

The loop of the service takes an await of the store as one step of its supervisor; the
supervisors over one database send the statement, run it and go on in three. Where a
statement runs when it is sent and its answer arrives before anything else happens, the
three are the one.
-/

namespace HyperTrader

open Library

namespace Workers

/-- The call, with its statement if it has one, that is at an await of the supervisor. The
report of the health, at which a call ends, is left out. -/
def WorkerStage.call (supervisor : WorkerSupervisor) : WorkerStage → Option EgressCall
  | .checkingDependencies => some ⟨.checkingDependencies, .port⟩
  | .openingGates => some ⟨.openingGates, .sent .activateWorkerGates⟩
  | .acquiring => some ⟨.acquiring, .sent .acquire⟩
  | .renewing => some (supervisor.sendRenewal .renewing)
  | .recheckingDependencies => some ⟨.recheckingDependencies, .port⟩
  | .reconciling fence => some ⟨.reconciling fence, .port⟩
  | .renewingAgain fence => some (supervisor.sendRenewal (.renewingAgain fence))
  | .delivering fence => some ⟨.delivering fence, .port⟩
  | .collecting fence => some ⟨.collecting fence, .port⟩
  | .renewingLast generation left =>
    some (supervisor.sendRenewal (.renewingLast generation left))
  | .closingGates generation _ left =>
    some ⟨.closingGates generation left, .sent .deactivateWorkerGates⟩
  | .closingRules generation left => some ⟨.closingRules generation left, .port⟩
  | .releasing generation left => some ⟨.releasing generation left, .sent (.release generation)⟩
  | .reporting | .returned | .threw => none

/-- What is left of a call before its report of the health. -/
def Continuation.unreported (continuation : Continuation) : Option EgressCall :=
  continuation.call.filter fun call => call.point ≠ .reporting

def WorkerMethod.start (supervisor : WorkerSupervisor) :
    WorkerMethod → WorkerSupervisor × WorkerStage
  | .activate => supervisor.activate .direct
  | .runOnce => (supervisor, supervisor.runOnce)
  | .deactivate left => (supervisor, supervisor.deactivate left)

def WorkerStage.awaits : WorkerStage → WorkerReply → Bool
  | .checkingDependencies, .dependencies _ => true
  | .openingGates, .gatesOpened _ _ => true
  | .acquiring, .acquired _ => true
  | .renewing, .renewed _ _ => true
  | .recheckingDependencies, .dependencies _ => true
  | .reconciling _, .reconciled _ => true
  | .renewingAgain _, .renewed _ _ => true
  | .delivering _, .delivered _ => true
  | .collecting _, .collected _ => true
  | .renewingLast _ _, .renewed _ _ => true
  | .closingGates _ _ _, .gatesClosed _ => true
  | .closingRules _ _, .rulesClosed _ => true
  | .releasing _ _, .released _ => true
  | _, _ => false

namespace WorkerReply

def authorization : WorkerReply → Bool
  | .gatesOpened tokensAndRules _ => tokensAndRules
  | _ => true

def fault : WorkerReply → Option StoreFailure
  | .gatesOpened _ fault | .acquired fault | .renewed fault _ | .gatesClosed fault
  | .released fault => fault
  | _ => none

def capacity : WorkerReply → Bool
  | .renewed _ capacity => capacity
  | _ => false

/-- What a port of the supervisor answers; none where it throws. -/
def port : WorkerReply → Option Bool
  | .dependencies ready => ready
  | .reconciled succeeds | .delivered succeeds | .collected succeeds | .rulesClosed succeeds =>
    if succeeds then some true else none
  | _ => none

end WorkerReply

/-- The statement of a call runs when it is sent, and the call goes on. -/
def EgressCall.settle (call : EgressCall) (leases : MonitorLeases)
    (supervisor : WorkerSupervisor) (now : ℤ) (reply : WorkerReply) :
    MonitorLeases × Continuation :=
  match call.pending with
  | .sent statement =>
    let (answer, after) :=
      statement.execute leases supervisor.ownerId now reply.authorization reply.fault
    (after, supervisor.answered call.point answer reply.capacity)
  | .answered answer => (leases, supervisor.answered call.point answer reply.capacity)
  | .port => (leases, supervisor.returned call.point reply.port)

/-- Both models of a call go on alike: the same tables, the same supervisor, and the call
at the same await. -/
structure Agree (settled : MonitorLeases × Continuation) (resumed : Resumed) : Prop where
  leases : settled.1 = resumed.leases
  supervisor : settled.2.supervisor = resumed.supervisor
  call : settled.2.unreported = resumed.task.stage.call resumed.supervisor

variable {leases : MonitorLeases} {supervisor : WorkerSupervisor} {stage : WorkerStage}
  {now : ℤ} {reply : WorkerReply}

theorem call_deactivate (supervisor : WorkerSupervisor) (left : DeactivationState) :
    (supervisor.deactivate left).call supervisor = some (supervisor.beginDeactivate left) := by
  unfold WorkerSupervisor.beginDeactivate WorkerSupervisor.deactivate
  cases supervisor.generation <;> rfl

theorem unreported_beginDeactivate (supervisor : WorkerSupervisor) (left : DeactivationState) :
    (⟨supervisor, some (supervisor.beginDeactivate left)⟩ : Continuation).unreported =
      (supervisor.deactivate left).call supervisor := by
  rw [call_deactivate]
  unfold WorkerSupervisor.beginDeactivate WorkerSupervisor.sendRenewal
  cases supervisor.generation <;> rfl

theorem unreported_sendRenewal (supervisor : WorkerSupervisor) {point : CallPoint}
    (hpoint : point ≠ .reporting) :
    (⟨supervisor, some (supervisor.sendRenewal point)⟩ : Continuation).unreported =
      some (supervisor.sendRenewal point) := by
  unfold WorkerSupervisor.sendRenewal Continuation.unreported
  cases supervisor.generation with
  | none => exact Option.filter_some_pos (decide_eq_true hpoint)
  | some generation => exact Option.filter_some_pos (decide_eq_true hpoint)

/-- A renewal of the ownership is its statement, or the answer that is at hand. -/
theorem settle_sendRenewal (point : CallPoint) (fault : Option StoreFailure) (capacity : Bool) :
    (supervisor.sendRenewal point).settle leases supervisor now (.renewed fault capacity) =
      ((supervisor.renewOwnership leases now fault).2,
        supervisor.answered point
          ((supervisor.renewOwnership leases now fault).1.toOption.map .renewed) capacity) := by
  unfold WorkerSupervisor.sendRenewal WorkerSupervisor.renewOwnership
  cases supervisor.generation <;> rfl

/-- A method of the supervisor starts at the same await in both models. -/
theorem agree_begin (supervisor : WorkerSupervisor) (method : WorkerMethod) :
    (supervisor.begin method).supervisor = (method.start supervisor).1 ∧
      (supervisor.begin method).unreported =
        (method.start supervisor).2.call (method.start supervisor).1 := by
  unfold WorkerMethod.start
  cases method with
  | activate =>
    unfold WorkerSupervisor.begin WorkerSupervisor.activate
    dsimp only
    split
    · exact ⟨rfl, rfl⟩
    · split <;> exact ⟨rfl, rfl⟩
  | runOnce =>
    unfold WorkerSupervisor.begin WorkerSupervisor.runOnce
    dsimp only
    split
    · exact ⟨rfl, rfl⟩
    · exact ⟨rfl, unreported_sendRenewal supervisor (by decide)⟩
  | deactivate left => exact ⟨rfl, unreported_beginDeactivate supervisor left⟩

/-- A step of the supervisor is the statement of its call with the code after it. -/
theorem agree_resume (hreply : stage.awaits reply = true) :
    ∃ call, stage.call supervisor = some call ∧
      Agree (call.settle leases supervisor now reply)
        (resume leases supervisor .direct stage now reply) := by
  cases stage with
  | checkingDependencies =>
    cases reply with
    | dependencies ready =>
      refine ⟨_, rfl, ?_⟩
      rcases ready with _ | _ | _ <;> exact ⟨rfl, rfl, rfl⟩
    | _ => cases hreply
  | openingGates =>
    cases reply with
    | gatesOpened tokensAndRules fault =>
      refine ⟨_, rfl, ?_⟩
      unfold EgressCall.settle StoreCall.execute resume afterGatesOpened
      dsimp only [WorkerReply.authorization, WorkerReply.fault]
      cases activateWorkerGates leases tokensAndRules fault <;> exact ⟨rfl, rfl, rfl⟩
    | _ => cases hreply
  | acquiring =>
    cases reply with
    | acquired fault =>
      refine ⟨_, rfl, ?_⟩
      unfold EgressCall.settle StoreCall.execute resume afterAcquired answerOf
      dsimp only [WorkerReply.fault]
      rcases leases.acquireMonitorLease notificationEgressLeaseKey supervisor.ownerId now fault
        with ⟨failure | generation, after⟩
      · exact ⟨rfl, rfl, rfl⟩
      · cases generation <;> exact ⟨rfl, rfl, rfl⟩
    | _ => cases hreply
  | renewing =>
    cases reply with
    | renewed fault capacity =>
      refine ⟨_, rfl, ?_⟩
      rw [settle_sendRenewal]
      unfold resume afterRenewed
      dsimp only
      rcases supervisor.renewOwnership leases now fault with ⟨failure | renewed, after⟩
      · exact ⟨rfl, rfl, rfl⟩
      · cases renewed with
        | false => exact ⟨rfl, rfl, unreported_beginDeactivate supervisor .dependenciesBlocked⟩
        | true => exact ⟨rfl, rfl, rfl⟩
    | _ => cases hreply
  | recheckingDependencies =>
    cases reply with
    | dependencies ready =>
      refine ⟨_, rfl, ?_⟩
      unfold EgressCall.settle resume afterRecheck
      rcases ready with _ | _ | _
      · exact ⟨rfl, rfl, rfl⟩
      · exact ⟨rfl, rfl, unreported_beginDeactivate supervisor .dependenciesBlocked⟩
      · unfold WorkerSupervisor.returned
        dsimp only [WorkerReply.port]
        cases supervisor.runtimeFence <;> exact ⟨rfl, rfl, rfl⟩
    | _ => cases hreply
  | reconciling fence =>
    cases reply with
    | reconciled succeeds =>
      refine ⟨_, rfl, ?_⟩
      cases succeeds with
      | false => exact ⟨rfl, rfl, rfl⟩
      | true => exact ⟨rfl, rfl, unreported_sendRenewal supervisor (fun h => by cases h)⟩
    | _ => cases hreply
  | renewingAgain fence =>
    cases reply with
    | renewed fault capacity =>
      refine ⟨_, rfl, ?_⟩
      rw [settle_sendRenewal]
      unfold resume afterRenewedAgain
      dsimp only
      rcases supervisor.renewOwnership leases now fault with ⟨failure | renewed, after⟩
      · exact ⟨rfl, rfl, rfl⟩
      · cases renewed with
        | false => exact ⟨rfl, rfl, unreported_beginDeactivate supervisor .dependenciesBlocked⟩
        | true => cases capacity <;> exact ⟨rfl, rfl, rfl⟩
    | _ => cases hreply
  | delivering fence =>
    cases reply with
    | delivered succeeds =>
      refine ⟨_, rfl, ?_⟩
      cases succeeds <;> exact ⟨rfl, rfl, rfl⟩
    | _ => cases hreply
  | collecting fence =>
    cases reply with
    | collected succeeds =>
      refine ⟨_, rfl, ?_⟩
      cases succeeds <;> exact ⟨rfl, rfl, rfl⟩
    | _ => cases hreply
  | renewingLast generation left =>
    cases reply with
    | renewed fault capacity =>
      refine ⟨_, rfl, ?_⟩
      rw [settle_sendRenewal]
      unfold resume afterRenewedLast
      dsimp only
      rcases supervisor.renewOwnership leases now fault with ⟨failure | renewed, after⟩
      · exact ⟨rfl, rfl, rfl⟩
      · cases renewed <;> exact ⟨rfl, rfl, rfl⟩
    | _ => cases hreply
  | closingGates generation renewedUntil left =>
    cases reply with
    | gatesClosed fault =>
      refine ⟨_, rfl, ?_⟩
      cases fault <;> exact ⟨rfl, rfl, rfl⟩
    | _ => cases hreply
  | closingRules generation left =>
    cases reply with
    | rulesClosed succeeds =>
      refine ⟨_, rfl, ?_⟩
      cases succeeds with
      | false => cases generation <;> exact ⟨rfl, rfl, rfl⟩
      | true => cases generation <;> exact ⟨rfl, rfl, rfl⟩
    | _ => cases hreply
  | releasing generation left =>
    cases reply with
    | released fault =>
      refine ⟨_, rfl, ?_⟩
      unfold EgressCall.settle StoreCall.execute resume afterReleased answerOf
      dsimp only [WorkerReply.fault]
      rcases leases.releaseMonitorLease notificationEgressLeaseKey supervisor.ownerId generation
        fault with ⟨failure | released, after⟩ <;> exact ⟨rfl, rfl, rfl⟩
    | _ => cases hreply
  | _ => cases hreply

end Workers

end HyperTrader
