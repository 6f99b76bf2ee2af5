import HyperTrader.Library.Machine
import HyperTrader.Library.Processes
import HyperTrader.Session.Unlock

/-!
# The session machine

The manager, the activity gate, the unlocks and the signatures under way, and
the signatures returned. An event is a call of the manager, the end of an await,
a lifecycle event, the expiry timer or a change at the gate, in any order; what
is answered within it comes with it. The machine keeps with each signature the
session it was asked of and the session it was returned in.
-/

namespace HyperTrader

open Library

/-- A call of `signTypedData` that has captured an epoch: the session and the
time of the call, and whether the signer has still to answer. -/
structure SignRun where
  request : SignRequest
  session : SignerSession
  startedAt : ℤ
  signEpoch : ℕ
  pending : Bool

structure ReturnedSignature where
  started : SignRun
  session : SignerSession
  signature : Eip712Signature

structure SessionWorld where
  session : SignerSession
  gate : ActivityGate
  unlocks : List UnlockRun
  signs : List SignRun
  returned : List ReturnedSignature

inductive GateEvent where
  | setActiveAndFocused (value : Bool)
  | interrupt
  | dispose
  | settleWindow (i : ℕ)

inductive SessionEvent where
  | unlock (request : UnlockRequest) (environment : SessionEnvironment)
  | resume (i : ℕ) (answer : UnlockAnswer) (environment : SessionEnvironment)
  | lock (reason : SignerSessionStopReason) (environment : SessionEnvironment)
  | lifecycle (reason : SignerSessionLifecycleStopReason)
      (environment : SessionEnvironment)
  | expire (environment : SessionEnvironment)
  | gate (event : GateEvent)
  | sign (request : SignRequest) (environment : SessionEnvironment)
  | signed (i : ℕ) (signature : Outcome Eip712Signature)
      (environment : SessionEnvironment)

def UnlockRun.settle (value : Bool) (unlock : UnlockRun) : UnlockRun :=
  if unlock.stage = .focusing none then
    { unlock with stage := .focusing (some value) }
  else unlock

namespace SessionWorld

def create (initiallyActiveAndFocused : Bool) : SessionWorld where
  session := .create
  gate := { activeAndFocused := initiallyActiveAndFocused, disposed := false }
  unlocks := []
  signs := []
  returned := []

def startUnlock (viem : Viem) (request : UnlockRequest)
    (environment : SessionEnvironment) (world : SessionWorld) : SessionWorld :=
  match Managing.startUnlock viem environment world.gate.isActiveAndFocused
      world.unlocks.length request world.session with
  | (.ok (.started binding unlockEpoch), session) =>
    { world with
      session := session
      unlocks := world.unlocks ++
        [{ binding := binding
           capturedContextEpoch := request.capturedContextEpoch
           unlockEpoch := unlockEpoch
           stage := .authenticating
           secret := none }] }
  | (_, session) => { world with session := session }

def resumeUnlock (viem : Viem) (i : ℕ) (unlock : UnlockRun)
    (answer : UnlockAnswer) (environment : SessionEnvironment)
    (world : SessionWorld) : SessionWorld :=
  match Unlocking.resume viem environment world.gate i unlock answer
      { session := world.session, secret := unlock.secret, candidate := none } with
  | (stage, scope) =>
    { world with
      session := scope.session
      unlocks := world.unlocks.set i
        { unlock with stage := stage, secret := scope.secret } }

def lock (reason : SignerSessionStopReason) (environment : SessionEnvironment)
    (world : SessionWorld) : SessionWorld :=
  { world with session := (Managing.lock environment reason world.session).2 }

def settle (value : Bool) (world : SessionWorld) : SessionWorld :=
  { world with unlocks := world.unlocks.map (UnlockRun.settle value) }

def stepGate (world : SessionWorld) : GateEvent → SessionWorld
  | .setActiveAndFocused value =>
    if world.gate.disposed then world
    else
      let changed := { world with
        gate := { world.gate with activeAndFocused := value } }
      if value then changed.settle true else changed
  | .interrupt =>
    if world.gate.disposed then world
    else
      { world with
        gate := { world.gate with activeAndFocused := false } }.settle false
  | .dispose =>
    if world.gate.disposed then world
    else
      { world with
        gate := { activeAndFocused := false, disposed := true } }.settle false
  | .settleWindow i =>
    match world.unlocks[i]? with
    | none => world
    | some unlock =>
      { world with unlocks := world.unlocks.set i (unlock.settle false) }

/-- A gate event changes the gate alone, changes it and settles every unlock that waits for
it, or settles one unlock. -/
theorem stepGate_cases (world : SessionWorld) (event : GateEvent) :
    (∃ gate, world.stepGate event = { world with gate := gate }) ∨
      (∃ gate value,
        world.stepGate event = ({ world with gate := gate } : SessionWorld).settle value) ∨
      ∃ i unlock, world.unlocks[i]? = some unlock ∧ world.stepGate event =
        { world with unlocks := world.unlocks.set i (unlock.settle false) } := by
  cases event with
  | setActiveAndFocused value =>
    rw [stepGate]
    split
    · exact .inl ⟨world.gate, rfl⟩
    · cases value with
      | true => exact .inr (.inl ⟨_, true, rfl⟩)
      | false => exact .inl ⟨_, rfl⟩
  | interrupt =>
    rw [stepGate]
    split
    · exact .inl ⟨world.gate, rfl⟩
    · exact .inr (.inl ⟨_, false, rfl⟩)
  | dispose =>
    rw [stepGate]
    split
    · exact .inl ⟨world.gate, rfl⟩
    · exact .inr (.inl ⟨_, false, rfl⟩)
  | settleWindow i =>
    rw [stepGate]
    cases hunlock : world.unlocks[i]? with
    | none => exact .inl ⟨world.gate, rfl⟩
    | some unlock => exact .inr (.inr ⟨i, unlock, hunlock, rfl⟩)

def startSign (viem : Viem) (request : SignRequest)
    (environment : SessionEnvironment) (world : SessionWorld) : SessionWorld :=
  match Managing.startSign viem environment world.gate.isActiveAndFocused request
      world.session with
  | (.ok signEpoch, session) =>
    { world with
      session := session
      signs := world.signs ++
        [{ request := request
           session := world.session
           startedAt := environment.now
           signEpoch := signEpoch
           pending := true }] }
  | (_, session) => { world with session := session }

def finishSign (i : ℕ) (sign : SignRun) (signature : Outcome Eip712Signature)
    (environment : SessionEnvironment) (world : SessionWorld) : SessionWorld :=
  match Managing.finishSign environment world.gate.isActiveAndFocused
      sign.signEpoch signature world.session with
  | (.ok signature, session) =>
    { world with
      session := session
      signs := world.signs.set i { sign with pending := false }
      returned := ⟨sign, session, signature⟩ :: world.returned }
  | (_, session) =>
    { world with
      session := session
      signs := world.signs.set i { sign with pending := false } }

def step (viem : Viem) (world : SessionWorld) : SessionEvent → SessionWorld
  | .unlock request environment => world.startUnlock viem request environment
  | .resume i answer environment =>
    match world.unlocks[i]? with
    | none => world
    | some unlock =>
      if unlock.stage.isReady then
        world.resumeUnlock viem i unlock answer environment
      else world
  | .lock reason environment => world.lock reason environment
  | .lifecycle reason environment =>
    if shouldLockSignerSessionForLifecycle world.session.state reason then
      world.lock reason.stopReason environment
    else world
  | .expire environment =>
    if world.session.expiryTimer then world.lock .timeout environment else world
  | .gate event => world.stepGate event
  | .sign request environment => world.startSign viem request environment
  | .signed i signature environment =>
    match world.signs[i]? with
    | none => world
    | some sign =>
      if sign.pending then world.finishSign i sign signature environment
      else world

inductive Stepped (viem : Viem) (world : SessionWorld) : SessionWorld → Prop
  | nothing : Stepped viem world world
  | gate (event : GateEvent) : Stepped viem world (world.stepGate event)
  | locked (reason : SignerSessionStopReason) :
      Stepped viem world { world with session := world.session.stopped reason }
  | interrupted (binding : SignerBinding) (capturedContextEpoch : ℤ) :
      Stepped viem world
        { world with session :=
          { world.session.stopped .contextChanged with
            state := .unlocking (world.session.epoch + 1) binding
              capturedContextEpoch } }
  | started (binding : SignerBinding) (capturedContextEpoch : ℤ) :
      Stepped viem world
        { world with
          session :=
            { world.session.stopped .contextChanged with
              state := .unlocking (world.session.epoch + 1) binding
                capturedContextEpoch
              inFlight := some world.unlocks.length }
          unlocks := world.unlocks ++
            [{ binding := binding
               capturedContextEpoch := capturedContextEpoch
               unlockEpoch := world.session.epoch + 1
               stage := .authenticating
               secret := none }] }
  | resumed (i : ℕ) (unlock : UnlockRun) (stage : UnlockStage)
      (scope : UnlockScope) (hunlock : world.unlocks[i]? = some unlock)
      (hready : unlock.stage.isReady = true)
      (h : Unlocking.Resumed unlock i
        { session := world.session, secret := unlock.secret, candidate := none } (stage, scope)) :
      Stepped viem world
        { world with
          session := scope.session
          unlocks := world.unlocks.set i
            { unlock with stage := stage, secret := scope.secret } }
  | signing (request : SignRequest) (now : ℤ) (current : UnlockedSession)
      (h : Managing.Grants viem now request world.session current) :
      Stepped viem world
        { world with signs := world.signs ++
          [{ request := request
             session := world.session
             startedAt := now
             signEpoch := world.session.epoch
             pending := true }] }
  | rejected (i : ℕ) (sign : SignRun) (hsign : world.signs[i]? = some sign) :
      Stepped viem world
        { world with signs := world.signs.set i { sign with pending := false } }
  | outdated (i : ℕ) (sign : SignRun) (hsign : world.signs[i]? = some sign) :
      Stepped viem world
        { world with
          session := world.session.stopped .contextChanged
          signs := world.signs.set i { sign with pending := false } }
  | returned (i : ℕ) (sign : SignRun) (signature : Eip712Signature)
      (hsign : world.signs[i]? = some sign)
      (hepoch : world.session.epoch = sign.signEpoch) :
      Stepped viem world
        { world with
          signs := world.signs.set i { sign with pending := false }
          returned := ⟨sign, world.session, signature⟩ :: world.returned }

variable (viem : Viem) (world : SessionWorld)

theorem stepped_startUnlock (request : UnlockRequest) (environment : SessionEnvironment) :
    Stepped viem world (world.startUnlock viem request environment) := by
  have hstarted := Managing.startUnlock_cases viem environment
    world.gate.isActiveAndFocused world.unlocks.length request world.session
  unfold startUnlock
  cases h : Managing.startUnlock viem environment world.gate.isActiveAndFocused
      world.unlocks.length request world.session with
  | mk result session =>
    rw [h] at hstarted
    cases hstarted with
    | kept hnot =>
      split
      · rename_i heq
        cases heq
        exact absurd rfl (hnot _ _)
      · rename_i heq
        cases heq
        exact .nothing
    | refused => exact .locked .contextChanged
    | interrupted binding => exact .interrupted binding request.capturedContextEpoch
    | started binding => exact .started binding request.capturedContextEpoch

theorem stepped_startSign (request : SignRequest) (environment : SessionEnvironment) :
    Stepped viem world (world.startSign viem request environment) := by
  have hstarted := Managing.startSign_cases viem environment
    world.gate.isActiveAndFocused request world.session
  unfold startSign
  cases h : Managing.startSign viem environment world.gate.isActiveAndFocused
      request world.session with
  | mk result session =>
    rw [h] at hstarted
    cases hstarted with
    | kept => exact .nothing
    | locked reason => exact .locked reason
    | captured current hgrants => exact .signing request _ current hgrants

variable {i : ℕ}

theorem stepped_finishSign {sign : SignRun}
    (hsign : world.signs[i]? = some sign) (signature : Outcome Eip712Signature)
    (environment : SessionEnvironment) :
    Stepped viem world (world.finishSign i sign signature environment) := by
  have hfinished := Managing.finishSign_cases environment
    world.gate.isActiveAndFocused sign.signEpoch signature world.session
  unfold finishSign
  cases h : Managing.finishSign environment world.gate.isActiveAndFocused
      sign.signEpoch signature world.session with
  | mk result session =>
    rw [h] at hfinished
    cases hfinished with
    | rejected => exact .rejected i sign hsign
    | locked => exact .outdated i sign hsign
    | returned hepoch => exact .returned i sign _ hsign hepoch

theorem stepped_resumeUnlock {unlock : UnlockRun} (hunlock : world.unlocks[i]? = some unlock)
    (hready : unlock.stage.isReady = true) (answer : UnlockAnswer)
    (environment : SessionEnvironment) :
    Stepped viem world (world.resumeUnlock viem i unlock answer environment) := by
  have hresumed := Unlocking.resume_cases viem environment world.gate i unlock
    answer hready
    { session := world.session, secret := unlock.secret, candidate := none }
  unfold resumeUnlock
  cases h : Unlocking.resume viem environment world.gate i unlock answer
      { session := world.session, secret := unlock.secret, candidate := none } with
  | mk stage scope =>
    rw [h] at hresumed
    exact .resumed i unlock stage scope hunlock hready hresumed

/-- Every event is one of the steps of `Stepped`. -/
theorem stepped_step (event : SessionEvent) : Stepped viem world (world.step viem event) := by
  cases event with
  | unlock request environment => exact stepped_startUnlock viem world request environment
  | resume i answer environment =>
    rw [step]
    cases hunlock : world.unlocks[i]? with
    | none => exact .nothing
    | some unlock =>
      dsimp only
      split
      · rename_i hready
        exact stepped_resumeUnlock viem world hunlock hready answer environment
      · exact .nothing
  | lock reason environment => exact .locked reason
  | lifecycle reason environment =>
    rw [step]
    split
    · exact .locked reason.stopReason
    · exact .nothing
  | expire environment =>
    rw [step]
    split
    · exact .locked .timeout
    · exact .nothing
  | gate event => exact .gate event
  | sign request environment => exact stepped_startSign viem world request environment
  | signed i signature environment =>
    rw [step]
    cases hsign : world.signs[i]? with
    | none => exact .nothing
    | some sign =>
      dsimp only
      split
      · exact stepped_finishSign viem world hsign signature environment
      · exact .nothing

end SessionWorld

end HyperTrader
