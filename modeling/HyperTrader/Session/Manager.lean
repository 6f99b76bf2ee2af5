import HyperTrader.Signing.Signature

/-!
# The signer session manager

The synchronous parts of the session manager, cut at its awaits. They run on the
variables of the manager; what the clock, the timer, the subscribers and the
caller's `isContextCurrent` answer in a part is the part's `SessionEnvironment`.
A subscriber may throw, and does not call the manager. The variables also count
the secrets that were read and the signers that were constructed, and list which
of them have been disposed of and destroyed.
-/

namespace HyperTrader

open Library

def signerSessionDurationMs : ℤ := 5 * 60 * 1000

inductive SignerSessionStopReason where
  | appInactive
  | appBackground
  | androidBlur
  | contextChanged
  | manual
  | timeout
  | memoryWarning
  | appTerminated
  | authenticationError
  | credentialInvalidated
  | compromisedDevice
  deriving DecidableEq

inductive SignerSessionLifecycleStopReason where
  | appInactive
  | appBackground
  | androidBlur
  deriving DecidableEq

def SignerSessionLifecycleStopReason.stopReason :
    SignerSessionLifecycleStopReason → SignerSessionStopReason
  | appInactive => .appInactive
  | appBackground => .appBackground
  | androidBlur => .androidBlur

structure UnlockedSession where
  epoch : ℕ
  binding : SignerBinding
  capturedContextEpoch : ℤ
  unlockedAt : ℤ
  expiresAt : ℤ
  deriving DecidableEq

inductive SignerSessionSnapshot where
  | locked (epoch : ℕ) (reason : Option SignerSessionStopReason)
  | unlocking (epoch : ℕ) (binding : SignerBinding) (capturedContextEpoch : ℤ)
  | unlocked (session : UnlockedSession)
  deriving DecidableEq

namespace SignerSessionSnapshot

def epoch : SignerSessionSnapshot → ℕ
  | locked epoch _ => epoch
  | unlocking epoch _ _ => epoch
  | unlocked session => session.epoch

/-- `snapshot.status === "unlocked"` -/
def isUnlocked : SignerSessionSnapshot → Bool
  | unlocked _ => true
  | _ => false

/-- `snapshot.status === "unlocking"` -/
def isUnlocking : SignerSessionSnapshot → Bool
  | unlocking _ _ _ => true
  | _ => false

variable {snapshot : SignerSessionSnapshot}

theorem isUnlocked_iff : snapshot.isUnlocked = true ↔ ∃ session, snapshot = unlocked session := by
  cases snapshot <;> simp [isUnlocked]

end SignerSessionSnapshot

/-- `SignerSessionUnlockError` -/
def sessionInvalidated : Failure := .credential "session_invalidated"

/-- `SignerSessionUnlockError` -/
def unlockContextChanged : Failure := .credential "context_changed"

/-- `SignerSessionUnlockError` -/
def appNotActive : Failure := .credential "app_not_active"

def unlockFailureReason : Failure → SignerSessionStopReason
  | .credential code =>
    if code = "missing_or_invalidated" ∨ code = "malformed_record" then
      .credentialInvalidated
    else if code = "context_changed" then .contextChanged
    else if code = "app_not_active" then .appInactive
    else .authenticationError
  | _ => .authenticationError

def shouldLockSignerSessionForLifecycle (snapshot : SignerSessionSnapshot)
    (reason : SignerSessionLifecycleStopReason) : Bool :=
  !(snapshot.isUnlocking && (reason == .appInactive || reason == .androidBlur))

def sameUnlockRequest (viem : Viem) (state : SignerSessionSnapshot)
    (binding : SignerBinding) (capturedContextEpoch : ℤ) : Bool :=
  match state with
  | .unlocking _ unlocking captured =>
    (assertSignerBinding viem unlocking binding).isOk &&
      captured == capturedContextEpoch
  | _ => false

structure ProtectedAgentSecret where
  id : ℕ
  binding : SignerBinding

structure DestroyableAgentSigner where
  id : ℕ
  binding : SignerBinding
  deriving DecidableEq

structure SignerSession where
  epoch : ℕ
  state : SignerSessionSnapshot
  signer : Option DestroyableAgentSigner
  expiryTimer : Bool
  inFlight : Option ℕ
  readSecrets : ℕ
  disposedSecrets : List ℕ
  constructedSigners : ℕ
  destroyedSigners : List ℕ

/-- The part of the options and the arguments that answers within one part:
`input.isContextCurrent`, `timer.now`, `timer.schedule` and the subscribers. -/
structure SessionEnvironment where
  contextCurrent : Outcome Bool
  now : ℤ
  scheduled : Outcome Unit
  listeners : SignerSessionSnapshot → Outcome Unit

structure UnlockRequest where
  binding : SignerBinding
  capturedContextEpoch : ℤ

structure SignRequest where
  expectedBinding : SignerBinding
  capturedContextEpoch : ℤ

/-- What a call of `unlock` returns: the promise of the unlock in flight, the
current snapshot, or the promise of a new unlock. -/
inductive UnlockStart where
  | joined (token : ℕ)
  | current (snapshot : SignerSessionSnapshot)
  | started (binding : SignerBinding) (unlockEpoch : ℕ)

abbrev Managing (α : Type) := Action SignerSession Failure α

namespace SignerSession

/-- `createSignerSessionManager` -/
def create : SignerSession where
  epoch := 0
  state := .locked 0 none
  signer := none
  expiryTimer := false
  inFlight := none
  readSecrets := 0
  disposedSecrets := []
  constructedSigners := 0
  destroyedSigners := []

def destroy (signer : Option DestroyableAgentSigner) (session : SignerSession) : SignerSession :=
  { session with
    destroyedSigners :=
      (signer.map DestroyableAgentSigner.id).toList ++ session.destroyedSigners }

def dispose (secret : Option ProtectedAgentSecret) (session : SignerSession) : SignerSession :=
  { session with
    disposedSecrets :=
      (secret.map ProtectedAgentSecret.id).toList ++ session.disposedSecrets }

def stopped (reason : SignerSessionStopReason) (session : SignerSession) : SignerSession :=
  { session.destroy session.signer with
    epoch := session.epoch + 1
    state := .locked (session.epoch + 1) (some reason)
    signer := none
    expiryTimer := false
    inFlight := none }

def stillUnlocked (viem : Viem) (environment : SessionEnvironment) (active : Bool)
    (binding : SignerBinding) (capturedContextEpoch : ℤ) (session : SignerSession) : Bool :=
  match session.state with
  | .unlocked current =>
    (assertSignerBinding viem current.binding binding).isOk &&
      current.capturedContextEpoch == capturedContextEpoch &&
      decide (environment.contextCurrent = .ok true) && active &&
      decide (environment.now < current.expiresAt)
  | _ => false

end SignerSession

namespace Managing

def publish (environment : SessionEnvironment) (next : SignerSessionSnapshot) :
    Managing Unit := do
  Action.modify fun session => { session with state := next }
  Action.check (environment.listeners next)

def clearSigner : Managing Unit :=
  Action.modify fun session =>
    { session.destroy session.signer with signer := none, expiryTimer := false }

def lock (environment : SessionEnvironment) (reason : SignerSessionStopReason) :
    Managing Unit := do
  Action.modify fun session => { session with epoch := session.epoch + 1 }
  clearSigner
  Action.modify fun session => { session with inFlight := none }
  let session ← Action.get
  publish environment (.locked session.epoch (some reason))

def assertSettled (environment : SessionEnvironment) (active : Bool)
    (unlockEpoch : ℕ) (restored : Bool) : Managing Unit := do
  let session ← Action.get
  Action.check (require (session.epoch = unlockEpoch) sessionInvalidated)
  let current ← Action.check environment.contextCurrent
  Action.check (require (current = true) unlockContextChanged)
  Action.check (require (restored = true ∧ active = true) appNotActive)

def assertUnlockCurrent (environment : SessionEnvironment) (active : Bool)
    (unlockEpoch : ℕ) : Managing Unit :=
  assertSettled environment active unlockEpoch true

def startUnlock (viem : Viem) (environment : SessionEnvironment) (active : Bool)
    (token : ℕ) (request : UnlockRequest) : Managing UnlockStart := do
  Action.check (assertSignerAccessCapability request.binding.network)
  let binding ← Action.check (normalizeSignerBinding viem request.binding)
  let session ← Action.get
  match session.inFlight.filter fun _ =>
      sameUnlockRequest viem session.state binding request.capturedContextEpoch with
  | some inFlight => pure (.joined inFlight)
  | none =>
    if session.stillUnlocked viem environment active binding
        request.capturedContextEpoch then
      pure (.current session.state)
    else do
      lock environment .contextChanged
      let session ← Action.get
      publish environment
        (.unlocking session.epoch binding request.capturedContextEpoch)
      Action.modify fun session => { session with inFlight := some token }
      pure (.started binding session.epoch)

/-- The comparison both parts of `signTypedData` end with: `unchanged` is its
first operand, and the context is asked for only when it holds. -/
def stale (environment : SessionEnvironment) (active unchanged : Bool) : Managing Bool :=
  if unchanged then do
    let current ← Action.check environment.contextCurrent
    pure (!(current && active))
  else pure true

def startSignUnlocked (viem : Viem) (environment : SessionEnvironment)
    (active : Bool) (request : SignRequest) (current : UnlockedSession)
    (signer : DestroyableAgentSigner) : Managing ℕ :=
  if current.expiresAt ≤ environment.now then do
    lock environment .timeout
    Action.fail (.error "The signer session expired.")
  else do
    Action.check
      (assertSignerBinding viem request.expectedBinding current.binding)
    let isStale ← stale environment active
      (current.capturedContextEpoch == request.capturedContextEpoch)
    if isStale then do
      lock environment .contextChanged
      Action.fail (.error "The signer session context changed.")
    else do
      let session ← Action.get
      Action.check (assertNetworkSigner viem request.expectedBinding
        request.expectedBinding.network signer.binding)
      pure session.epoch

def startSign (viem : Viem) (environment : SessionEnvironment) (active : Bool)
    (request : SignRequest) : Managing ℕ := do
  Action.check (assertSignerAccessCapability request.expectedBinding.network)
  let session ← Action.get
  match session.state, session.signer with
  | .unlocked current, some signer =>
    startSignUnlocked viem environment active request current signer
  | _, _ => Action.fail (.error "The signer session is locked.")

def finishSign (environment : SessionEnvironment) (active : Bool) (signEpoch : ℕ)
    (signature : Outcome Eip712Signature) : Managing Eip712Signature := do
  let signature ← Action.check (signature >>= validateSignature)
  let session ← Action.get
  let isStale ← stale environment active (session.epoch == signEpoch)
  if isStale then do
    lock environment .contextChanged
    Action.fail (.error "The signing result belongs to a stale session.")
  else pure signature

end Managing

/-! ### What each part does -/

namespace Managing

variable (viem : Viem) (environment : SessionEnvironment) (active : Bool)

@[simp] theorem publish_apply (next : SignerSessionSnapshot) (session : SignerSession) :
    publish environment next session =
      (environment.listeners next, { session with state := next }) := rfl

@[simp] theorem lock_apply (reason : SignerSessionStopReason) (session : SignerSession) :
    lock environment reason session =
      (environment.listeners (.locked (session.epoch + 1) (some reason)),
        session.stopped reason) := rfl

theorem assertSettled_apply (unlockEpoch : ℕ) (restored : Bool) (session : SignerSession) :
    ∃ result, assertSettled environment active unlockEpoch restored session = (result, session) ∧
      (result = .ok () → session.epoch = unlockEpoch) := by
  by_cases hepoch : session.epoch = unlockEpoch
  · cases hcurrent : environment.contextCurrent with
    | error failure =>
      refine ⟨.error failure, ?_, fun h => ?_⟩
      · simp [assertSettled, Action.bind_apply, hepoch, hcurrent, require]
      · cases h
    | ok current =>
      refine ⟨require (current = true) unlockContextChanged >>= fun _ =>
        require (restored = true ∧ active = true) appNotActive, ?_, fun _ => hepoch⟩
      cases current <;>
        simp [assertSettled, hepoch, hcurrent, require, bind, Except.bind]
  · refine ⟨.error sessionInvalidated, ?_, fun h => ?_⟩
    · simp [assertSettled, Action.bind_apply, hepoch, require]
    · cases h

/-- What `unlock` does before it returns: nothing, `lock`, or `lock` and the
publication of the new unlock. -/
inductive StartedUnlock (token : ℕ) (request : UnlockRequest)
    (session : SignerSession) : Outcome UnlockStart × SignerSession → Prop
  | kept {result} (h : ∀ binding epoch, result ≠ .ok (.started binding epoch)) :
      StartedUnlock token request session (result, session)
  | refused {failure} :
      StartedUnlock token request session
        (.error failure, session.stopped .contextChanged)
  | interrupted {failure} (binding : SignerBinding) :
      StartedUnlock token request session (.error failure,
        { session.stopped .contextChanged with
          state := .unlocking (session.epoch + 1) binding
            request.capturedContextEpoch })
  | started (binding : SignerBinding) :
      StartedUnlock token request session
        (.ok (.started binding (session.epoch + 1)),
          { session.stopped .contextChanged with
            state := .unlocking (session.epoch + 1) binding
              request.capturedContextEpoch
            inFlight := some token })

theorem startUnlock_cases (token : ℕ) (request : UnlockRequest) (session : SignerSession) :
    StartedUnlock token request session
      (startUnlock viem environment active token request session) := by
  unfold startUnlock
  rw [Action.bind_apply, Action.check_apply]
  cases assertSignerAccessCapability request.binding.network with
  | error failure => exact .kept nofun
  | ok _ =>
    dsimp only
    rw [Action.bind_apply, Action.check_apply]
    cases normalizeSignerBinding viem request.binding with
    | error failure => exact .kept nofun
    | ok binding =>
      dsimp only
      rw [Action.bind_apply, Action.get_apply]
      dsimp only
      cases session.inFlight.filter fun _ => sameUnlockRequest viem
          session.state binding request.capturedContextEpoch with
      | some inFlight => exact .kept nofun
      | none =>
        dsimp only
        split
        · exact .kept nofun
        · simp only [Action.bind_apply, lock_apply]
          cases environment.listeners
              (.locked (session.epoch + 1) (some .contextChanged)) with
          | error failure => exact .refused
          | ok _ =>
            simp only [Action.get_apply, publish_apply]
            cases environment.listeners (.unlocking (session.stopped .contextChanged).epoch binding
                request.capturedContextEpoch) with
            | error failure => exact .interrupted binding
            | ok _ => exact .started binding

theorem stale_apply (unchanged : Bool) (session : SignerSession) :
    ∃ result, stale environment active unchanged session = (result, session) ∧
      (result = .ok false → unchanged = true) := by
  cases unchanged with
  | false => exact ⟨.ok true, rfl, nofun⟩
  | true =>
    cases hcurrent : environment.contextCurrent with
    | error failure =>
      exact ⟨.error failure, by simp [stale, Action.bind_apply, hcurrent],
        nofun⟩
    | ok current =>
      exact ⟨.ok (!(current && active)),
        by simp [stale, Action.bind_apply, hcurrent], fun _ => rfl⟩

structure Grants (viem : Viem) (now : ℤ) (request : SignRequest)
    (session : SignerSession) (current : UnlockedSession) : Prop where
  state : session.state = .unlocked current
  binding : assertSignerBinding viem request.expectedBinding current.binding = .ok ()
  context : current.capturedContextEpoch = request.capturedContextEpoch
  unexpired : now < current.expiresAt

inductive StartedSign (viem : Viem) (environment : SessionEnvironment)
    (request : SignRequest) (session : SignerSession) :
    Outcome ℕ × SignerSession → Prop
  | kept {failure} : StartedSign viem environment request session
      (.error failure, session)
  | locked {failure} (reason : SignerSessionStopReason) :
      StartedSign viem environment request session
        (.error failure, session.stopped reason)
  | captured (current : UnlockedSession)
      (h : Grants viem environment.now request session current) :
      StartedSign viem environment request session
        (.ok session.epoch, session)

theorem startSignUnlocked_cases (request : SignRequest) (session : SignerSession)
    {current : UnlockedSession} (hstate : session.state = .unlocked current)
    (signer : DestroyableAgentSigner) :
    StartedSign viem environment request session
      (startSignUnlocked viem environment active request current signer session) := by
  unfold startSignUnlocked
  split
  · simp only [Action.bind_apply, lock_apply]
    cases environment.listeners (.locked (session.epoch + 1) (some .timeout)) with
    | error failure => exact .locked .timeout
    | ok _ => exact .locked .timeout
  · rename_i hunexpired
    rw [Action.bind_apply, Action.check_apply]
    cases hbinding : assertSignerBinding viem request.expectedBinding
        current.binding with
    | error failure => exact .kept
    | ok _ =>
      dsimp only
      obtain ⟨result, hresult, hunchanged⟩ :=
        stale_apply environment active
          (current.capturedContextEpoch == request.capturedContextEpoch) session
      rw [Action.bind_apply, hresult]
      rcases result with failure | isStale
      · exact .kept
      · cases isStale with
        | true =>
          simp only [if_true, Action.bind_apply, lock_apply]
          cases environment.listeners
              (.locked (session.epoch + 1) (some .contextChanged)) with
          | error failure => exact .locked .contextChanged
          | ok _ => exact .locked .contextChanged
        | false =>
          simp only [Bool.false_eq_true, if_false, Action.bind_apply,
            Action.get_apply, Action.check_apply]
          cases assertNetworkSigner viem request.expectedBinding
              request.expectedBinding.network signer.binding with
          | error failure => exact .kept
          | ok _ =>
            exact .captured current
              ⟨hstate, hbinding, eq_of_beq (hunchanged rfl), Int.not_le.mp hunexpired⟩

theorem startSign_cases (request : SignRequest) (session : SignerSession) :
    StartedSign viem environment request session
      (startSign viem environment active request session) := by
  unfold startSign
  rw [Action.bind_apply, Action.check_apply]
  cases assertSignerAccessCapability request.expectedBinding.network with
  | error failure => exact .kept
  | ok _ =>
    dsimp only
    rw [Action.bind_apply, Action.get_apply]
    dsimp only
    cases hstate : session.state with
    | locked epoch reason => exact .kept
    | unlocking epoch binding captured => exact .kept
    | unlocked current =>
      cases session.signer with
      | none => exact .kept
      | some signer =>
        dsimp only
        exact startSignUnlocked_cases viem environment active request session
          hstate signer

inductive FinishedSign (signEpoch : ℕ) (session : SignerSession) :
    Outcome Eip712Signature × SignerSession → Prop
  | rejected {failure} : FinishedSign signEpoch session (.error failure, session)
  | locked {failure} :
      FinishedSign signEpoch session
        (.error failure, session.stopped .contextChanged)
  | returned {signature} (h : session.epoch = signEpoch) :
      FinishedSign signEpoch session (.ok signature, session)

theorem finishSign_cases (signEpoch : ℕ) (signature : Outcome Eip712Signature)
    (session : SignerSession) :
    FinishedSign signEpoch session (finishSign environment active signEpoch signature session) := by
  unfold finishSign
  rw [Action.bind_apply, Action.check_apply]
  cases signature >>= validateSignature with
  | error failure => exact .rejected
  | ok valid =>
    dsimp only
    rw [Action.bind_apply, Action.get_apply]
    dsimp only
    obtain ⟨result, hresult, hunchanged⟩ :=
      stale_apply environment active
        (session.epoch == signEpoch) session
    rw [Action.bind_apply, hresult]
    rcases result with failure | isStale
    · exact .rejected
    · cases isStale with
      | true =>
        simp only [if_true, Action.bind_apply, lock_apply]
        cases environment.listeners
            (.locked (session.epoch + 1) (some .contextChanged)) with
        | error failure => exact .locked
        | ok _ => exact .locked
      | false => exact .returned (eq_of_beq (hunchanged rfl))

end Managing

end HyperTrader
