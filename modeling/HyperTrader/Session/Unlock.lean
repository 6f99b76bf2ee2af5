import HyperTrader.Session.Manager

/-!
# An unlock between its awaits

The promise of `unlock`, cut at its awaits, and the activity gate it waits on.
A part runs on the manager and on the local variables of its unlock; what a port
answers, or throws, is an argument.
-/

namespace HyperTrader

open Library

/-- Where an unlock waits. While `focusing`, `restored` is what the gate has
answered, if it has. -/
inductive UnlockStage where
  | authenticating
  | focusing (restored : Option Bool)
  | focused
  | reading
  | constructing
  | settled (result : Outcome SignerSessionSnapshot)
  deriving DecidableEq

namespace UnlockStage

def isSettled : UnlockStage → Bool
  | settled _ => true
  | _ => false

def isReady : UnlockStage → Bool
  | focusing none => false
  | settled _ => false
  | _ => true

end UnlockStage

/-- An unlock: what it was called with, the epoch it captured, where it waits
and the secret it has read. -/
structure UnlockRun where
  binding : SignerBinding
  capturedContextEpoch : ℤ
  unlockEpoch : ℕ
  stage : UnlockStage
  secret : Option ProtectedAgentSecret

def UnlockRun.unlockedAt (unlock : UnlockRun) (now : ℤ) : UnlockedSession where
  epoch := unlock.unlockEpoch
  binding := unlock.binding
  capturedContextEpoch := unlock.capturedContextEpoch
  unlockedAt := now
  expiresAt := now + signerSessionDurationMs

/-- What `deviceAuth.assertAvailable`, `vault.read` and `signerFactory` answer;
an unlock reads the answer it waits for. -/
structure UnlockAnswer where
  available : Outcome Unit
  secret : Outcome SignerBinding
  signer : Outcome SignerBinding

/-- `createSignerActivityGate` -/
structure ActivityGate where
  activeAndFocused : Bool
  disposed : Bool

namespace ActivityGate

def isActiveAndFocused (gate : ActivityGate) : Bool :=
  !gate.disposed && gate.activeAndFocused

def waitUntilActiveAndFocused (gate : ActivityGate) : Option Bool :=
  if gate.disposed then some false
  else if gate.activeAndFocused then some true
  else none

def settleActiveFocus (gate : ActivityGate) : UnlockStage :=
  if gate.isActiveAndFocused then .focused
  else .focusing gate.waitUntilActiveAndFocused

end ActivityGate

structure UnlockScope where
  session : SignerSession
  secret : Option ProtectedAgentSecret
  candidate : Option DestroyableAgentSigner

namespace UnlockScope

def receiveSecret (binding : SignerBinding) (scope : UnlockScope) : UnlockScope :=
  { scope with
    secret := some ⟨scope.session.readSecrets, binding⟩
    session := { scope.session with
      readSecrets := scope.session.readSecrets + 1 } }

def receiveSigner (binding : SignerBinding) (scope : UnlockScope) : UnlockScope :=
  { scope with
    candidate := some ⟨scope.session.constructedSigners, binding⟩
    session := { scope.session with
      constructedSigners := scope.session.constructedSigners + 1 } }

/-- `signer = candidate; candidate = null` -/
def holdCandidate (scope : UnlockScope) : UnlockScope :=
  { scope with
    candidate := none
    session := { scope.session with signer := scope.candidate } }

def publish (next : SignerSessionSnapshot) (scope : UnlockScope) : UnlockScope :=
  { scope with session := { scope.session with state := next } }

def schedule (scope : UnlockScope) : UnlockScope :=
  { scope with session := { scope.session with expiryTimer := true } }

def destroyCandidate (scope : UnlockScope) : UnlockScope :=
  { scope with session := scope.session.destroy scope.candidate }

/-- The `catch`: the candidate is destroyed, and the session is locked in the
epoch of the unlock. -/
def recovered (unlockEpoch : ℕ) (reason : SignerSessionStopReason)
    (scope : UnlockScope) : UnlockScope :=
  if scope.session.epoch = unlockEpoch then
    { scope with
      session := (scope.session.destroy scope.candidate).stopped reason }
  else scope.destroyCandidate

def cleanUp (token : ℕ) (scope : UnlockScope) : UnlockScope :=
  { scope with
    session := { scope.session.dispose scope.secret with
      inFlight := scope.session.inFlight.filter fun other => other != token } }

end UnlockScope

abbrev Unlocking (α : Type) := Action UnlockScope Failure α

namespace Unlocking

def managing {α : Type} (x : Managing α) : Unlocking α := fun scope =>
  match x scope.session with
  | (result, session) => (result, { scope with session := session })

/-- `expiryTimer = options.timer.schedule(SIGNER_SESSION_DURATION_MS, …)` -/
def scheduleExpiry (environment : SessionEnvironment) : Managing Unit := do
  Action.check environment.scheduled
  Action.modify fun session => { session with expiryTimer := true }

def complete (environment : SessionEnvironment) (unlock : UnlockRun) :
    Unlocking UnlockStage := do
  Action.modify UnlockScope.holdCandidate
  let next := unlock.unlockedAt environment.now
  managing (Managing.publish environment (.unlocked next))
  managing (scheduleExpiry environment)
  pure (.settled (.ok (.unlocked next)))

def attempt (viem : Viem) (environment : SessionEnvironment) (gate : ActivityGate)
    (unlock : UnlockRun) (answer : UnlockAnswer) : Unlocking UnlockStage :=
  match unlock.stage with
  | .authenticating => do
      Action.check answer.available
      pure gate.settleActiveFocus
  | .focusing restored => do
      managing (Managing.assertSettled environment gate.isActiveAndFocused
        unlock.unlockEpoch (restored.getD false))
      pure .focused
  | .focused => do
      managing (Managing.assertUnlockCurrent environment gate.isActiveAndFocused unlock.unlockEpoch)
      let scope ← Action.get
      pure (if scope.secret.isSome then .constructing else .reading)
  | .reading => do
      let binding ← Action.check answer.secret
      Action.modify (UnlockScope.receiveSecret binding)
      Action.check (assertSignerBinding viem unlock.binding binding)
      pure gate.settleActiveFocus
  | .constructing => do
      let binding ← Action.check answer.signer
      Action.modify (UnlockScope.receiveSigner binding)
      Action.check (assertSignerBinding viem unlock.binding binding)
      managing (Managing.assertUnlockCurrent environment gate.isActiveAndFocused unlock.unlockEpoch)
      complete environment unlock
  | .settled result => pure (.settled result)

def recover (environment : SessionEnvironment) (unlockEpoch : ℕ)
    (failure : Failure) : Unlocking SignerSessionSnapshot := do
  Action.modify UnlockScope.destroyCandidate
  let scope ← Action.get
  if scope.session.epoch = unlockEpoch then
    managing (Managing.lock environment (unlockFailureReason failure))
  Action.fail failure

def resume (viem : Viem) (environment : SessionEnvironment) (gate : ActivityGate)
    (token : ℕ) (unlock : UnlockRun) (answer : UnlockAnswer)
    (scope : UnlockScope) : UnlockStage × UnlockScope :=
  match attempt viem environment gate unlock answer scope with
  | (.ok stage, scope) =>
    (stage, if stage.isSettled then scope.cleanUp token else scope)
  | (.error failure, scope) =>
    match recover environment unlock.unlockEpoch failure scope with
    | (result, scope) => (.settled result, scope.cleanUp token)

end Unlocking

/-- The unlock waits: it has not settled, and it reads a secret only when it has
none. -/
def UnlockStage.Waits (secret : Option ProtectedAgentSecret) (stage : UnlockStage) : Prop :=
  stage.isSettled = false ∧ (stage = .reading → secret = none)

namespace ActivityGate

theorem settleActiveFocus_waits (gate : ActivityGate) (secret : Option ProtectedAgentSecret) :
    gate.settleActiveFocus.Waits secret := by
  unfold settleActiveFocus
  split
  · exact ⟨rfl, nofun⟩
  · exact ⟨rfl, nofun⟩

end ActivityGate

namespace Unlocking

variable (viem : Viem) (environment : SessionEnvironment) (gate : ActivityGate)

theorem managing_apply {α : Type} {x : Managing α} {scope : UnlockScope}
    {result : Outcome α} {session : SignerSession} (h : x scope.session = (result, session)) :
    managing x scope = (result, { scope with session := session }) := by
  simp [managing, h]

@[simp] theorem managing_publish (next : SignerSessionSnapshot) (scope : UnlockScope) :
    managing (Managing.publish environment next) scope = (environment.listeners next,
        { scope with session := { scope.session with state := next } }) := rfl

@[simp] theorem managing_lock (reason : SignerSessionStopReason) (scope : UnlockScope) :
    managing (Managing.lock environment reason) scope =
      (environment.listeners (.locked (scope.session.epoch + 1) (some reason)),
        { scope with session := scope.session.stopped reason }) := rfl

theorem managing_assertSettled (active : Bool) (unlockEpoch : ℕ) (restored : Bool)
    (scope : UnlockScope) :
    ∃ result, managing (Managing.assertSettled environment active unlockEpoch
        restored) scope = (result, scope) ∧
      (result = .ok () → scope.session.epoch = unlockEpoch) := by
  obtain ⟨result, hresult, hepoch⟩ := Managing.assertSettled_apply environment active
    unlockEpoch restored scope.session
  exact ⟨result, managing_apply hresult, hepoch⟩

/-- What the body of the `try` does in one part: it waits again or fails and has
changed nothing, or has read a secret, or has constructed a signer, which it
holds only in the epoch of the unlock. -/
inductive Attempted (unlock : UnlockRun) (scope : UnlockScope) :
    Outcome UnlockStage × UnlockScope → Prop
  | kept {result} (h : ∀ stage, result = .ok stage → stage.Waits scope.secret) :
      Attempted unlock scope (result, scope)
  | read {result} (hstage : unlock.stage = .reading) (binding : SignerBinding)
      (h : ∀ stage, result = .ok stage → stage.Waits (scope.receiveSecret binding).secret) :
      Attempted unlock scope (result, scope.receiveSecret binding)
  | constructed {failure} (binding : SignerBinding) :
      Attempted unlock scope (.error failure, scope.receiveSigner binding)
  | interrupted {failure} (binding : SignerBinding) (now : ℤ)
      (hepoch : scope.session.epoch = unlock.unlockEpoch) :
      Attempted unlock scope (.error failure, (scope.receiveSigner binding).holdCandidate.publish
          (.unlocked (unlock.unlockedAt now)))
  | unlocked (binding : SignerBinding) (now : ℤ)
      (hepoch : scope.session.epoch = unlock.unlockEpoch) :
      Attempted unlock scope
        (.ok (.settled (.ok (.unlocked (unlock.unlockedAt now)))),
        ((scope.receiveSigner binding).holdCandidate.publish
          (.unlocked (unlock.unlockedAt now))).schedule)

theorem complete_cases (unlock : UnlockRun) (scope : UnlockScope)
    (binding : SignerBinding) (hepoch : scope.session.epoch = unlock.unlockEpoch) :
    Attempted unlock scope (complete environment unlock (scope.receiveSigner binding)) := by
  unfold complete
  simp only [Action.bind_apply, Action.modify_apply, managing_publish]
  cases environment.listeners (.unlocked (unlock.unlockedAt environment.now)) with
  | error failure => exact .interrupted binding environment.now hepoch
  | ok _ =>
    dsimp only
    cases hscheduled : environment.scheduled with
    | error failure =>
      have hschedule : scheduleExpiry environment =
          fun session => (.error failure, session) := by
        funext session
        simp [scheduleExpiry, Action.bind_apply, hscheduled]
      rw [hschedule]
      exact .interrupted binding environment.now hepoch
    | ok _ =>
      have hschedule : scheduleExpiry environment =
          fun session => (.ok (), { session with expiryTimer := true }) := by
        funext session
        simp [scheduleExpiry, Action.bind_apply, hscheduled]
      rw [hschedule]
      exact .unlocked binding environment.now hepoch

/-- What one part of an unlock can do to the session, its secret and its candidate. -/
theorem attempt_cases (unlock : UnlockRun) (answer : UnlockAnswer)
    (hready : unlock.stage.isReady = true) (scope : UnlockScope) :
    Attempted unlock scope (attempt viem environment gate unlock answer scope) := by
  unfold attempt
  cases hstage : unlock.stage with
  | authenticating =>
    dsimp only
    rw [Action.bind_apply, Action.check_apply]
    cases answer.available with
    | error failure => exact .kept nofun
    | ok _ =>
      apply Attempted.kept
      intro stage h
      cases h
      exact gate.settleActiveFocus_waits _
  | focusing restored =>
    dsimp only
    obtain ⟨result, hresult, -⟩ := managing_assertSettled environment
      gate.isActiveAndFocused unlock.unlockEpoch (restored.getD false) scope
    rw [Action.bind_apply, hresult]
    cases result with
    | error failure => exact .kept nofun
    | ok _ =>
      apply Attempted.kept
      intro stage h
      cases h
      exact ⟨rfl, nofun⟩
  | focused =>
    dsimp only
    obtain ⟨result, hresult, -⟩ := managing_assertSettled environment
      gate.isActiveAndFocused unlock.unlockEpoch true scope
    rw [Action.bind_apply, Managing.assertUnlockCurrent, hresult]
    cases result with
    | error failure => exact .kept nofun
    | ok _ =>
      apply Attempted.kept
      intro stage h
      cases h
      split
      · exact ⟨rfl, nofun⟩
      · rename_i hnone
        exact ⟨rfl, fun _ => by simpa using hnone⟩
  | reading =>
    dsimp only
    rw [Action.bind_apply, Action.check_apply]
    cases answer.secret with
    | error failure => exact .kept nofun
    | ok binding =>
      simp only [Action.bind_apply, Action.modify_apply, Action.check_apply]
      cases assertSignerBinding viem unlock.binding binding with
      | error failure =>
        refine .read hstage binding fun stage h => ?_
        cases h
      | ok _ =>
        refine .read hstage binding fun stage h => ?_
        cases h
        exact gate.settleActiveFocus_waits _
  | constructing =>
    dsimp only
    rw [Action.bind_apply, Action.check_apply]
    cases answer.signer with
    | error failure => exact .kept nofun
    | ok binding =>
      simp only [Action.bind_apply, Action.modify_apply, Action.check_apply]
      cases assertSignerBinding viem unlock.binding binding with
      | error failure => exact .constructed binding
      | ok _ =>
        dsimp only
        obtain ⟨result, hresult, hepoch⟩ := managing_assertSettled environment
          gate.isActiveAndFocused unlock.unlockEpoch true
          (scope.receiveSigner binding)
        rw [Managing.assertUnlockCurrent, hresult]
        cases result with
        | error failure => exact .constructed binding
        | ok _ =>
          exact complete_cases environment unlock scope binding (hepoch rfl)
  | settled result =>
    rw [hstage] at hready
    cases hready

theorem recover_apply (unlockEpoch : ℕ) (failure : Failure) (scope : UnlockScope) :
    ∃ thrown, recover environment unlockEpoch failure scope = (.error thrown,
        scope.recovered unlockEpoch (unlockFailureReason failure)) := by
  unfold recover UnlockScope.recovered
  simp only [Action.bind_apply, Action.modify_apply, Action.get_apply]
  by_cases hepoch : scope.session.epoch = unlockEpoch
  · have hdestroyed : scope.destroyCandidate.session.epoch = unlockEpoch := hepoch
    simp only [hdestroyed, hepoch, if_true]
    rw [Action.bind_apply, managing_lock, hdestroyed]
    cases environment.listeners (.locked (unlockEpoch + 1)
        (some (unlockFailureReason failure))) with
    | error thrown => exact ⟨thrown, rfl⟩
    | ok _ => exact ⟨failure, rfl⟩
  · have hdestroyed : ¬ scope.destroyCandidate.session.epoch = unlockEpoch := hepoch
    simp only [hdestroyed, hepoch, if_false]
    exact ⟨failure, rfl⟩

inductive Resumed (unlock : UnlockRun) (token : ℕ) (scope : UnlockScope) :
    UnlockStage × UnlockScope → Prop
  | waits {stage after} (h : Attempted unlock scope (.ok stage, after))
      (hstage : stage.isSettled = false) :
      Resumed unlock token scope (stage, after)
  | completed {result after}
      (h : Attempted unlock scope (.ok (.settled result), after)) :
      Resumed unlock token scope (.settled result, after.cleanUp token)
  | failed {failure after result} (reason : SignerSessionStopReason)
      (h : Attempted unlock scope (.error failure, after)) :
      Resumed unlock token scope (.settled result,
        (after.recovered unlock.unlockEpoch reason).cleanUp token)

theorem resume_cases (token : ℕ) (unlock : UnlockRun) (answer : UnlockAnswer)
    (hready : unlock.stage.isReady = true) (scope : UnlockScope) :
    Resumed unlock token scope (resume viem environment gate token unlock answer scope) := by
  have hattempted := attempt_cases viem environment gate unlock answer hready scope
  unfold resume
  cases hattempt : attempt viem environment gate unlock answer scope with
  | mk result after =>
    rw [hattempt] at hattempted
    cases result with
    | error failure =>
      obtain ⟨thrown, hthrown⟩ := recover_apply environment
        unlock.unlockEpoch failure after
      simp only [hthrown]
      exact .failed _ hattempted
    | ok stage =>
      dsimp only
      cases stage with
      | settled result => exact .completed hattempted
      | authenticating => exact .waits hattempted rfl
      | focusing restored => exact .waits hattempted rfl
      | focused => exact .waits hattempted rfl
      | reading => exact .waits hattempted rfl
      | constructing => exact .waits hattempted rfl

end Unlocking

end HyperTrader
