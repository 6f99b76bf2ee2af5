import HyperTrader.Session.Machine

/-!
# Signatures and the session epoch

Every call of `lock` raises the epoch, and nothing else does. An unlock captures
the epoch it raised, so the epochs of the unlocks are distinct, and only an unlock
whose epoch is still the current one can change the session. An unlocked session
therefore stays as it is until the epoch is raised, which is what the comparison
of epochs at the end of `signTypedData` relies on.
-/

namespace HyperTrader

open Library

namespace UnlockScope

variable {scope : UnlockScope} {unlockEpoch : ℕ} (reason : SignerSessionStopReason)

theorem recovered_of_eq (h : scope.session.epoch = unlockEpoch) :
    (scope.recovered unlockEpoch reason).session =
      (scope.session.destroy scope.candidate).stopped reason := by
  simp [recovered, h]

theorem recovered_of_ne (h : scope.session.epoch ≠ unlockEpoch) :
    (scope.recovered unlockEpoch reason).session = scope.session.destroy scope.candidate := by
  simp [recovered, h, destroyCandidate]

end UnlockScope

namespace Unlocking

/-- What a part of an unlock does to the epoch, the snapshot and the signer:
nothing, and then it settles in a later epoch only; or, in its own epoch, it
locks the session or unlocks it. -/
inductive Controlled (unlock : UnlockRun) (before : SignerSession) :
    UnlockStage → SignerSession → Prop
  | kept {stage after} (hepoch : after.epoch = before.epoch)
      (hstate : after.state = before.state) (hsigner : after.signer = before.signer)
      (hstage : before.epoch = unlock.unlockEpoch → stage.isSettled = false) :
      Controlled unlock before stage after
  | stopped {stage after} (hbefore : before.epoch = unlock.unlockEpoch)
      (reason : SignerSessionStopReason) (hepoch : after.epoch = before.epoch + 1)
      (hstate : after.state = .locked (before.epoch + 1) (some reason))
      (hsigner : after.signer = none) :
      Controlled unlock before stage after
  | unlocked {stage after} (hbefore : before.epoch = unlock.unlockEpoch) (now : ℤ)
      (hepoch : after.epoch = before.epoch)
      (hstate : after.state = .unlocked (unlock.unlockedAt now))
      (hsigner : after.signer.isSome = true) (hstage : stage.isSettled = true) :
      Controlled unlock before stage after

variable {unlock : UnlockRun} {token : ℕ} {scope : UnlockScope} {after : UnlockScope}

theorem Controlled.recovered {before : SignerSession}
    {result : Outcome SignerSessionSnapshot} (reason : SignerSessionStopReason)
    (hepoch : after.session.epoch = before.epoch) (hkept : before.epoch ≠ unlock.unlockEpoch →
      after.session.state = before.state ∧ after.session.signer = before.signer) :
    Controlled unlock before (.settled result)
      ((after.recovered unlock.unlockEpoch reason).cleanUp token).session := by
  by_cases h : before.epoch = unlock.unlockEpoch
  · have hstopped := UnlockScope.recovered_of_eq reason (hepoch.trans h)
    refine .stopped h reason ?_ ?_ ?_
    · change (after.recovered _ reason).session.epoch = _
      rw [hstopped, ← hepoch]
      rfl
    · change (after.recovered _ reason).session.state = _
      rw [hstopped, ← hepoch]
      rfl
    · change (after.recovered _ reason).session.signer = _
      rw [hstopped]
      rfl
  · obtain ⟨hstate, hsigner⟩ := hkept h
    have hdestroyed := UnlockScope.recovered_of_ne reason fun heq =>
      h (hepoch.symm.trans heq)
    refine .kept ?_ ?_ ?_ fun heq => absurd heq h
    · change (after.recovered _ reason).session.epoch = _
      rw [hdestroyed]
      exact hepoch
    · change (after.recovered _ reason).session.state = _
      rw [hdestroyed]
      exact hstate
    · change (after.recovered _ reason).session.signer = _
      rw [hdestroyed]
      exact hsigner

theorem controlled_of_resumed {stage : UnlockStage}
    (h : Resumed unlock token scope (stage, after)) :
    Controlled unlock scope.session stage after.session := by
  cases h with
  | waits h hstage =>
    cases h with
    | kept => exact .kept rfl rfl rfl fun _ => hstage
    | read => exact .kept rfl rfl rfl fun _ => hstage
    | unlocked => cases hstage
  | completed h =>
    cases h with
    | kept hnot => cases (hnot _ rfl).1
    | read hreading binding hnot => cases (hnot _ rfl).1
    | unlocked binding now hepoch => exact .unlocked hepoch now rfl rfl rfl rfl
  | failed reason h =>
    cases h with
    | kept => exact .recovered reason rfl fun _ => ⟨rfl, rfl⟩
    | read => exact .recovered reason rfl fun _ => ⟨rfl, rfl⟩
    | constructed => exact .recovered reason rfl fun _ => ⟨rfl, rfl⟩
    | interrupted binding now hepoch =>
      exact .recovered reason rfl fun hne => absurd hepoch hne

end Unlocking

/-- The snapshot and the signer of a session agree: it has its epoch, and a
signer is held exactly while it is unlocked. -/
structure SignerSession.Coherent (session : SignerSession) : Prop where
  epoch : session.state.epoch = session.epoch
  signer : session.signer.isSome = session.state.isUnlocked

namespace SignerSession.Coherent

variable {session : SignerSession}

theorem create : SignerSession.create.Coherent := ⟨rfl, rfl⟩

theorem stopped (reason : SignerSessionStopReason) :
    (session.stopped reason).Coherent := ⟨rfl, rfl⟩

end SignerSession.Coherent

/-- The session granted the request at the call, with the epoch captured. -/
def SignRun.Granted (viem : Viem) (sign : SignRun) : Prop :=
  sign.signEpoch = sign.session.epoch ∧
    ∃ current, Managing.Grants viem sign.startedAt sign.request sign.session current

namespace SessionWorld

/-- What holds of every world: no epoch of an unlock or of a signature is past
the current one; the epochs of the unlocks are distinct; while the unlock of the
current epoch is under way the session is not unlocked; and a session that is
unlocked still is as it was when a signature of its epoch was asked for. -/
structure Orderly (viem : Viem) (world : SessionWorld) : Prop where
  coherent : world.session.Coherent
  past : ∀ (i : ℕ) (unlock : UnlockRun), world.unlocks[i]? = some unlock →
    unlock.unlockEpoch ≤ world.session.epoch
  distinct : DistinctKeys UnlockRun.unlockEpoch world.unlocks
  latest : ∀ (i : ℕ) (unlock : UnlockRun), world.unlocks[i]? = some unlock →
    unlock.unlockEpoch = world.session.epoch → unlock.stage.isSettled = false →
      world.session.state.isUnlocked = false
  opened : ∀ current, world.session.state = .unlocked current →
    ∃ (i : ℕ) (unlock : UnlockRun), world.unlocks[i]? = some unlock ∧
      unlock.unlockEpoch = world.session.epoch
  granted : ∀ sign ∈ world.signs, sign.Granted viem
  pastSigns : ∀ sign ∈ world.signs, sign.signEpoch ≤ world.session.epoch
  unchanged : ∀ sign ∈ world.signs, sign.signEpoch = world.session.epoch →
    world.session.state = sign.session.state

variable {viem : Viem} {world : SessionWorld}

theorem orderly_create (initiallyActiveAndFocused : Bool) :
    (create initiallyActiveAndFocused).Orderly viem where
  coherent := .create
  past i unlock h := by simp [create] at h
  distinct := .nil
  latest i unlock h := by simp [create] at h
  opened current h := by simp [create, SignerSession.create] at h
  granted sign h := by simp [create] at h
  pastSigns sign h := by simp [create] at h
  unchanged sign h := by simp [create] at h

namespace Orderly

theorem raised (h : world.Orderly viem) (session : SignerSession)
    (hepoch : session.epoch = world.session.epoch + 1)
    (hcoherent : session.Coherent) (hlocked : session.state.isUnlocked = false) :
    Orderly viem { world with session := session } where
  coherent := hcoherent
  past i unlock hunlock := by
    rw [hepoch]
    exact Nat.le_succ_of_le (h.past i unlock hunlock)
  distinct := h.distinct
  latest i unlock hunlock _ _ := hlocked
  opened current hcurrent := by
    rw [hcurrent] at hlocked
    cases hlocked
  granted := h.granted
  pastSigns sign hsign := by
    rw [hepoch]
    exact Nat.le_succ_of_le (h.pastSigns sign hsign)
  unchanged sign hsign hsame := by
    have hle := h.pastSigns sign hsign
    rw [hepoch] at hsame
    omega

theorem unlocks (h : world.Orderly viem) {unlocks : List UnlockRun}
    (hdistinct : DistinctKeys UnlockRun.unlockEpoch unlocks)
    (hunlocks : ∀ (i : ℕ) (unlock : UnlockRun), unlocks[i]? = some unlock →
      unlock.unlockEpoch ≤ world.session.epoch ∧ (unlock.unlockEpoch = world.session.epoch →
          unlock.stage.isSettled = false → world.session.state.isUnlocked = false))
    (hkept : ∀ (i : ℕ) (unlock : UnlockRun), world.unlocks[i]? = some unlock →
      ∃ next, unlocks[i]? = some next ∧ next.unlockEpoch = unlock.unlockEpoch) :
    Orderly viem { world with unlocks := unlocks } where
  coherent := h.coherent
  past i unlock hunlock := (hunlocks i unlock hunlock).1
  distinct := hdistinct
  latest i unlock hunlock := (hunlocks i unlock hunlock).2
  opened current hcurrent := by
    obtain ⟨i, unlock, hunlock, hepoch⟩ := h.opened current hcurrent
    obtain ⟨next, hnext, hsame⟩ := hkept i unlock hunlock
    exact ⟨i, next, hnext, hsame.trans hepoch⟩
  granted := h.granted
  pastSigns := h.pastSigns
  unchanged := h.unchanged

theorem congr (h : world.Orderly viem) {session : SignerSession}
    (hepoch : session.epoch = world.session.epoch) (hstate : session.state = world.session.state)
    (hsigner : session.signer = world.session.signer) :
    Orderly viem { world with session := session } where
  coherent := by
    constructor
    · rw [hstate, hepoch]
      exact h.coherent.epoch
    · rw [hstate, hsigner]
      exact h.coherent.signer
  past i unlock hunlock := by
    rw [hepoch]
    exact h.past i unlock hunlock
  distinct := h.distinct
  latest i unlock hunlock := by
    rw [hepoch, hstate]
    exact h.latest i unlock hunlock
  opened current hcurrent := by
    rw [hstate] at hcurrent
    rw [hepoch]
    exact h.opened current hcurrent
  granted := h.granted
  pastSigns sign hsign := by
    rw [hepoch]
    exact h.pastSigns sign hsign
  unchanged sign hsign := by
    rw [hepoch, hstate]
    exact h.unchanged sign hsign

variable {i : ℕ}

theorem goOn (h : world.Orderly viem) {unlock next : UnlockRun}
    (hunlock : world.unlocks[i]? = some unlock) (hsame : next.unlockEpoch = unlock.unlockEpoch)
    (hlatest : next.unlockEpoch = world.session.epoch →
      next.stage.isSettled = false → world.session.state.isUnlocked = false) :
    Orderly viem { world with unlocks := world.unlocks.set i next } := by
  apply h.unlocks (h.distinct.set hunlock hsame)
  · intro j other hother
    rcases getElem?_set_cases hother with ⟨rfl, rfl⟩ | ⟨-, hold⟩
    · refine ⟨?_, hlatest⟩
      rw [hsame]
      exact h.past j unlock hunlock
    · exact ⟨h.past j other hold, h.latest j other hold⟩
  · intro j other hother
    by_cases hji : j = i
    · subst hji
      rw [hunlock, Option.some.injEq] at hother
      subst hother
      exact ⟨next, List.getElem?_set_self (lt_length_of_getElem? hunlock), hsame⟩
    · exact ⟨other, by rw [List.getElem?_set_ne (Ne.symm hji), hother], rfl⟩

theorem settle_unlockEpoch (value : Bool) (unlock : UnlockRun) :
    (unlock.settle value).unlockEpoch = unlock.unlockEpoch := by
  unfold UnlockRun.settle
  split <;> rfl

theorem settle_isSettled (value : Bool) (unlock : UnlockRun) :
    (unlock.settle value).stage.isSettled = unlock.stage.isSettled := by
  unfold UnlockRun.settle
  split
  · rename_i hstage
    rw [hstage]
    rfl
  · rfl

theorem settle (h : world.Orderly viem) (value : Bool) : (world.settle value).Orderly viem := by
  apply h.unlocks (h.distinct.map (settle_unlockEpoch value))
  · intro i unlock hunlock
    rw [List.getElem?_map, Option.map_eq_some_iff] at hunlock
    obtain ⟨old, hold, rfl⟩ := hunlock
    rw [settle_unlockEpoch, settle_isSettled]
    exact ⟨h.past i old hold, h.latest i old hold⟩
  · intro i unlock hunlock
    exact ⟨unlock.settle value, by rw [List.getElem?_map, hunlock]; rfl,
      settle_unlockEpoch value unlock⟩

theorem stepGate (h : world.Orderly viem) (event : GateEvent) :
    (world.stepGate event).Orderly viem := by
  have hgate : ∀ gate, Orderly viem { world with gate := gate } :=
    fun gate => { h with }
  rcases world.stepGate_cases event with ⟨gate, hstep⟩ | ⟨gate, value, hstep⟩ |
    ⟨i, unlock, hunlock, hstep⟩
  · rw [hstep]
    exact hgate gate
  · rw [hstep]
    exact (hgate gate).settle value
  · rw [hstep]
    apply h.goOn hunlock (settle_unlockEpoch false unlock)
    rw [settle_unlockEpoch, settle_isSettled]
    exact h.latest i unlock hunlock

theorem signs (h : world.Orderly viem) {signs : List SignRun}
    (hsigns : ∀ sign ∈ signs, sign.Granted viem ∧ sign.signEpoch ≤ world.session.epoch ∧
        (sign.signEpoch = world.session.epoch → world.session.state = sign.session.state)) :
    Orderly viem { world with signs := signs } where
  coherent := h.coherent
  past := h.past
  distinct := h.distinct
  latest := h.latest
  opened := h.opened
  granted sign hsign := (hsigns sign hsign).1
  pastSigns sign hsign := (hsigns sign hsign).2.1
  unchanged sign hsign := (hsigns sign hsign).2.2

theorem answered (h : world.Orderly viem) {sign : SignRun} (hsign : world.signs[i]? = some sign) :
    Orderly viem { world with signs := world.signs.set i { sign with pending := false } } := by
  apply h.signs
  intro other hother
  rcases List.mem_or_eq_of_mem_set hother with hold | rfl
  · exact ⟨h.granted other hold, h.pastSigns other hold, h.unchanged other hold⟩
  · have hmem := List.mem_of_getElem? hsign
    exact ⟨h.granted sign hmem, h.pastSigns sign hmem, h.unchanged sign hmem⟩

theorem unlocked (h : world.Orderly viem) {unlock : UnlockRun}
    (hunlock : world.unlocks[i]? = some unlock) (hunsettled : unlock.stage.isSettled = false)
    (hbefore : world.session.epoch = unlock.unlockEpoch) {session : SignerSession}
    {now : ℤ} (hepoch : session.epoch = world.session.epoch)
    (hstate : session.state = .unlocked (unlock.unlockedAt now))
    (hsigner : session.signer.isSome = true) {stage : UnlockStage}
    (hstage : stage.isSettled = true) (secret : Option ProtectedAgentSecret) :
    Orderly viem
      { world with
        session := session
        unlocks := world.unlocks.set i
          { unlock with stage := stage, secret := secret } } := by
  have hlocked := h.latest i unlock hunlock hbefore.symm hunsettled
  have hlt := lt_length_of_getElem? hunlock
  constructor
  · constructor
    · rw [hstate, hepoch, hbefore]
      rfl
    · rw [hstate, hsigner]
      rfl
  · intro j other hother
    dsimp only
    rw [hepoch]
    rcases getElem?_set_cases hother with ⟨rfl, rfl⟩ | ⟨-, hold⟩
    · exact h.past j unlock hunlock
    · exact h.past j other hold
  · exact h.distinct.set hunlock rfl
  · intro j other hother hother' hsettled
    rcases getElem?_set_cases hother with ⟨rfl, rfl⟩ | ⟨hji, hold⟩
    · rw [hstage] at hsettled
      cases hsettled
    · have hepochs : other.unlockEpoch = unlock.unlockEpoch :=
        hother'.trans (hepoch.trans hbefore)
      exact absurd (h.distinct j i other unlock hold hunlock hepochs) hji
  · intro current _
    exact ⟨i, _, List.getElem?_set_self hlt, hbefore.symm.trans hepoch.symm⟩
  · exact h.granted
  · intro sign hsign
    dsimp only
    rw [hepoch]
    exact h.pastSigns sign hsign
  · intro sign hsign hsame
    -- a signature of this epoch was granted by an unlocked session
    obtain ⟨-, current, hgrants⟩ := h.granted sign hsign
    have hopen := h.unchanged sign hsign (hsame.trans hepoch)
    rw [hopen, hgrants.state] at hlocked
    cases hlocked

end Orderly

theorem isSettled_of_isReady {stage : UnlockStage} (h : stage.isReady = true) :
    stage.isSettled = false := by
  cases stage with
  | settled result => cases h
  | authenticating => rfl
  | focusing restored => rfl
  | focused => rfl
  | reading => rfl
  | constructing => rfl

variable {after : SessionWorld}

theorem Orderly.stepped (h : world.Orderly viem)
    (hstep : Stepped viem world after) : after.Orderly viem := by
  cases hstep with
  | nothing => exact h
  | gate event => exact h.stepGate event
  | locked reason => exact h.raised _ rfl (.stopped reason) rfl
  | interrupted binding capturedContextEpoch => exact h.raised _ rfl ⟨rfl, rfl⟩ rfl
  | started binding capturedContextEpoch =>
    have hraised := h.raised
      { world.session.stopped .contextChanged with
        state := .unlocking (world.session.epoch + 1) binding
          capturedContextEpoch
        inFlight := some world.unlocks.length } rfl ⟨rfl, rfl⟩ rfl
    apply hraised.unlocks
    · apply h.distinct.append
      intro i unlock hunlock
      have hle := h.past i unlock hunlock
      dsimp only
      omega
    · intro i unlock hunlock
      rcases getElem?_append_cases hunlock with hold | ⟨rfl, rfl⟩
      · exact ⟨hraised.past i unlock hold, hraised.latest i unlock hold⟩
      · exact ⟨le_refl _, fun _ _ => rfl⟩
    · intro i unlock hunlock
      exact ⟨unlock, getElem?_append_of_some hunlock _, rfl⟩
  | resumed i unlock stage scope hunlock hready hresumed =>
    have hunsettled := isSettled_of_isReady hready
    cases Unlocking.controlled_of_resumed hresumed with
    | kept hepoch hstate hsigner hstage =>
      have hcongr := h.congr hepoch hstate hsigner
      refine hcongr.goOn hunlock rfl fun hsame _ => ?_
      exact hcongr.latest i unlock hunlock hsame hunsettled
    | stopped hbefore reason hepoch hstate hsigner =>
      have hraised := h.raised scope.session hepoch
        ⟨by rw [hstate, hepoch]; rfl, by rw [hstate, hsigner]; rfl⟩
        (by rw [hstate]; rfl)
      refine hraised.goOn hunlock rfl fun _ _ => ?_
      dsimp only
      rw [hstate]
      rfl
    | unlocked hbefore now hepoch hstate hsigner hstage =>
      exact h.unlocked hunlock hunsettled hbefore hepoch hstate hsigner hstage
        scope.secret
  | signing request now current hgrants =>
    apply h.signs
    intro sign hsign
    rcases List.mem_append.mp hsign with hold | hnew
    · exact ⟨h.granted sign hold, h.pastSigns sign hold, h.unchanged sign hold⟩
    · rw [List.mem_singleton.mp hnew]
      exact ⟨⟨rfl, current, hgrants⟩, le_refl _, fun _ => rfl⟩
  | rejected i sign hsign => exact h.answered hsign
  | outdated i sign hsign => exact (h.answered hsign).raised _ rfl (.stopped _) rfl
  | returned i sign signature hsign hepoch => exact { h.answered hsign with }

theorem Orderly.run (h : world.Orderly viem) (events : List SessionEvent) :
    (Library.run (SessionWorld.step viem) world events).Orderly viem :=
  run_invariant (fun _ _ h => h.stepped (stepped_step viem _ _)) h events

/-! ### What a run keeps -/

/-- The epoch is not lowered, and every unlock keeps its index and its epoch. -/
structure Follows (before after : SessionWorld) : Prop where
  epoch : before.session.epoch ≤ after.session.epoch
  unlocks : ∀ (i : ℕ) (unlock : UnlockRun), before.unlocks[i]? = some unlock →
    ∃ next, after.unlocks[i]? = some next ∧ next.unlockEpoch = unlock.unlockEpoch

namespace Follows

theorem refl (world : SessionWorld) : world.Follows world :=
  ⟨le_refl _, fun _ unlock h => ⟨unlock, h, rfl⟩⟩

theorem trans {a b c : SessionWorld} (hab : a.Follows b) (hbc : b.Follows c) :
    a.Follows c where
  epoch := hab.epoch.trans hbc.epoch
  unlocks i unlock h := by
    obtain ⟨next, hnext, hsame⟩ := hab.unlocks i unlock h
    obtain ⟨last, hlast, hsame'⟩ := hbc.unlocks i next hnext
    exact ⟨last, hlast, hsame'.trans hsame⟩

variable {before after : SessionWorld}

theorem of_unlocks_eq (hepoch : before.session.epoch ≤ after.session.epoch)
    (hunlocks : after.unlocks = before.unlocks) : before.Follows after :=
  ⟨hepoch, fun _ unlock h => ⟨unlock, by rw [hunlocks, h], rfl⟩⟩

theorem goOn {i : ℕ} {unlock next : UnlockRun} (hepoch : before.session.epoch ≤ after.session.epoch)
    (hunlock : before.unlocks[i]? = some unlock)
    (hunlocks : after.unlocks = before.unlocks.set i next)
    (hsame : next.unlockEpoch = unlock.unlockEpoch) : before.Follows after := by
  refine ⟨hepoch, fun j other hother => ?_⟩
  rw [hunlocks]
  by_cases hji : j = i
  · subst hji
    rw [hunlock, Option.some.injEq] at hother
    subst hother
    exact ⟨next, List.getElem?_set_self (lt_length_of_getElem? hunlock), hsame⟩
  · exact ⟨other, by rw [List.getElem?_set_ne (Ne.symm hji), hother], rfl⟩

theorem settle (world : SessionWorld) (gate : ActivityGate) (value : Bool) :
    world.Follows (({ world with gate := gate } : SessionWorld).settle value) := by
  refine ⟨le_refl _, fun i unlock h => ⟨unlock.settle value, ?_, ?_⟩⟩
  · rw [SessionWorld.settle, List.getElem?_map, h]
    rfl
  · exact Orderly.settle_unlockEpoch value unlock

theorem stepGate (world : SessionWorld) (event : GateEvent) :
    world.Follows (world.stepGate event) := by
  rcases world.stepGate_cases event with ⟨gate, hstep⟩ | ⟨gate, value, hstep⟩ |
    ⟨i, unlock, hunlock, hstep⟩
  · rw [hstep]
    exact of_unlocks_eq (le_refl _) rfl
  · rw [hstep]
    exact settle world gate value
  · rw [hstep]
    exact goOn (le_refl _) hunlock rfl (Orderly.settle_unlockEpoch false unlock)

end Follows

theorem returned_stepGate (world : SessionWorld) (event : GateEvent) :
    (world.stepGate event).returned = world.returned := by
  rcases world.stepGate_cases event with ⟨gate, hstep⟩ | ⟨gate, value, hstep⟩ |
    ⟨i, unlock, hunlock, hstep⟩
  · rw [hstep]
  · rw [hstep]
    rfl
  · rw [hstep]

theorem follows_of_stepped (h : Stepped viem world after) : world.Follows after := by
  cases h with
  | nothing => exact .refl world
  | gate event => exact .stepGate world event
  | locked reason => exact .of_unlocks_eq (Nat.le_succ _) rfl
  | interrupted binding capturedContextEpoch =>
    exact .of_unlocks_eq (Nat.le_succ _) rfl
  | started binding capturedContextEpoch =>
    exact ⟨Nat.le_succ _, fun i unlock hunlock => ⟨unlock, getElem?_append_of_some hunlock _, rfl⟩⟩
  | resumed i unlock stage scope hunlock hready hresumed =>
    refine .goOn ?_ hunlock rfl rfl
    cases Unlocking.controlled_of_resumed hresumed with
    | kept hepoch => exact le_of_eq hepoch.symm
    | stopped hbefore reason hepoch =>
      dsimp only at hepoch ⊢
      omega
    | unlocked hbefore now hepoch => exact le_of_eq hepoch.symm
  | signing => exact .of_unlocks_eq (le_refl _) rfl
  | rejected => exact .of_unlocks_eq (le_refl _) rfl
  | outdated => exact .of_unlocks_eq (Nat.le_succ _) rfl
  | returned => exact .of_unlocks_eq (le_refl _) rfl

theorem follows_run (world : SessionWorld) (events : List SessionEvent) :
    world.Follows (Library.run (SessionWorld.step viem) world events) := by
  have hany : ∀ (world : SessionWorld) (event : SessionEvent), True → True :=
    fun _ _ h => h
  have hstep : ∀ (world : SessionWorld) (event : SessionEvent), True →
      world.Follows (world.step viem event) :=
    fun world event _ => follows_of_stepped (stepped_step viem world event)
  exact run_relation Follows.refl (fun _ _ _ => Follows.trans) hany hstep trivial
    events

theorem resume_of_stale {i : ℕ} {unlock : UnlockRun} (hunlock : world.unlocks[i]? = some unlock)
    (hstale : unlock.unlockEpoch < world.session.epoch) (answer : UnlockAnswer)
    (environment : SessionEnvironment) :
    let after := (world.step viem (.resume i answer environment)).session
    after.epoch = world.session.epoch ∧ after.state = world.session.state ∧
      after.signer = world.session.signer := by
  rw [step, hunlock]
  dsimp only
  split
  · rename_i hready
    have hresumed := Unlocking.resume_cases viem environment world.gate i unlock
      answer hready
      { session := world.session, secret := unlock.secret, candidate := none }
    cases Unlocking.controlled_of_resumed hresumed with
    | kept hepoch hstate hsigner => exact ⟨hepoch, hstate, hsigner⟩
    | stopped hbefore =>
      dsimp only at hbefore
      omega
    | unlocked hbefore =>
      dsimp only at hbefore
      omega
  · exact ⟨rfl, rfl, rfl⟩

end SessionWorld

/-- The session at the return is the one the call was made of: unlocked for the
binding and the context of the request, not expired at the call, and of the same
epoch. -/
def ReturnedSignature.Within (viem : Viem) (returned : ReturnedSignature) : Prop :=
  ∃ current,
    Managing.Grants viem returned.started.startedAt returned.started.request
      returned.started.session current ∧
    returned.session.epoch = returned.started.session.epoch ∧
    returned.session.state = .unlocked current

/-- The event calls `lock`, which alone raises the epoch. -/
def SessionEvent.Locks (viem : Viem) (world : SessionWorld) (event : SessionEvent) : Prop :=
  world.session.epoch < (world.step viem event).session.epoch

namespace SessionWorld

variable {viem : Viem} {world : SessionWorld}

theorem within_of_stepped (h : world.Orderly viem)
    (hreturned : ∀ returned ∈ world.returned, returned.Within viem)
    {after : SessionWorld} (hstep : Stepped viem world after) :
    ∀ returned ∈ after.returned, returned.Within viem := by
  cases hstep with
  | nothing => exact hreturned
  | gate event => rwa [returned_stepGate]
  | locked => exact hreturned
  | interrupted => exact hreturned
  | started => exact hreturned
  | resumed => exact hreturned
  | signing => exact hreturned
  | rejected => exact hreturned
  | outdated => exact hreturned
  | returned i sign signature hsign hepoch =>
    intro returned hmem
    rcases List.mem_cons.mp hmem with rfl | hold
    · have hmem := List.mem_of_getElem? hsign
      obtain ⟨hsignEpoch, current, hgrants⟩ := h.granted sign hmem
      refine ⟨current, hgrants, hepoch.trans hsignEpoch, ?_⟩
      exact (h.unchanged sign hmem hepoch.symm).trans hgrants.state
    · exact hreturned returned hold

theorem within_run (initiallyActiveAndFocused : Bool) (events : List SessionEvent) :
    ∀ returned ∈ (Library.run (SessionWorld.step viem)
      (create initiallyActiveAndFocused) events).returned, returned.Within viem := by
  have hstep : ∀ (world : SessionWorld) (event : SessionEvent),
      (world.Orderly viem ∧ ∀ returned ∈ world.returned, returned.Within viem) →
        (world.step viem event).Orderly viem ∧
          ∀ returned ∈ (world.step viem event).returned, returned.Within viem := by
    intro world event h
    have hstepped := stepped_step viem world event
    exact ⟨h.1.stepped hstepped, within_of_stepped h.1 h.2 hstepped⟩
  have hcreate : ∀ returned ∈ (create initiallyActiveAndFocused).returned,
      returned.Within viem := fun _ h => absurd h List.not_mem_nil
  exact (run_invariant hstep ⟨orderly_create initiallyActiveAndFocused, hcreate⟩ events).2

/-- After the epoch has been raised, an unlock called before changes the session
no more, and one that finds it unlocked finds a later unlock. -/
theorem stale_after_lock (h : world.Orderly viem) {event : SessionEvent}
    (hlocks : event.Locks viem world) (later : List SessionEvent) :
    let after := Library.run (SessionWorld.step viem) (world.step viem event) later
    (∀ i < world.unlocks.length, ∀ answer environment,
      let resumed := (after.step viem (.resume i answer environment)).session
      resumed.epoch = after.session.epoch ∧ resumed.state = after.session.state ∧
        resumed.signer = after.session.signer) ∧
    (∀ current, after.session.state = .unlocked current →
      ∃ (i : ℕ) (unlock : UnlockRun), world.unlocks.length ≤ i ∧
        after.unlocks[i]? = some unlock ∧ unlock.unlockEpoch = current.epoch) := by
  intro after
  have hlater : Follows (world.step viem event) after := follows_run _ later
  have hfollows := (follows_of_stepped (stepped_step viem world event)).trans hlater
  have hraised : world.session.epoch < after.session.epoch :=
    lt_of_lt_of_le hlocks (follows_run _ later).epoch
  have hold : ∀ i < world.unlocks.length, ∃ unlock, after.unlocks[i]? = some unlock ∧
      unlock.unlockEpoch < after.session.epoch := by
    intro i hi
    obtain ⟨next, hnext, hsame⟩ := hfollows.unlocks i _ (List.getElem?_eq_getElem hi)
    refine ⟨next, hnext, ?_⟩
    rw [hsame]
    exact lt_of_le_of_lt (h.past i _ (List.getElem?_eq_getElem hi)) hraised
  constructor
  · intro i hi answer environment
    obtain ⟨unlock, hunlock, hstale⟩ := hold i hi
    exact resume_of_stale hunlock hstale answer environment
  · intro current hcurrent
    have horderly : after.Orderly viem :=
      (h.stepped (stepped_step viem world event)).run later
    obtain ⟨i, unlock, hunlock, hepoch⟩ := horderly.opened current hcurrent
    have hcoherent := horderly.coherent.epoch
    rw [hcurrent] at hcoherent
    refine ⟨i, unlock, ?_, hunlock, hepoch.trans hcoherent.symm⟩
    by_contra hlt
    obtain ⟨other, hother, hstale⟩ := hold i (Nat.lt_of_not_le hlt)
    rw [hunlock, Option.some.injEq] at hother
    subst hother
    omega

/-- A signature is returned only in the session it was asked of, which had
granted it; and no unlock called before a lock unlocks the session after it. -/
theorem signature_within_session (viem : Viem) (initiallyActiveAndFocused : Bool)
    (events : List SessionEvent) :
    let world := Library.run (SessionWorld.step viem)
      (create initiallyActiveAndFocused) events
    (∀ returned ∈ world.returned, returned.Within viem) ∧
    (∀ reason environment, (SessionEvent.lock reason environment).Locks viem world) ∧
    ∀ event : SessionEvent, event.Locks viem world → ∀ later,
      let after := Library.run (SessionWorld.step viem) (world.step viem event) later
      (∀ i < world.unlocks.length, ∀ answer environment,
        let resumed := (after.step viem (.resume i answer environment)).session
        resumed.epoch = after.session.epoch ∧
          resumed.state = after.session.state ∧
          resumed.signer = after.session.signer) ∧
      (∀ current, after.session.state = .unlocked current →
        ∃ (i : ℕ) (unlock : UnlockRun), world.unlocks.length ≤ i ∧
          after.unlocks[i]? = some unlock ∧ unlock.unlockEpoch = current.epoch) := by
  intro world
  have horderly : world.Orderly viem :=
    (orderly_create initiallyActiveAndFocused).run events
  refine ⟨within_run initiallyActiveAndFocused events, ?_, ?_⟩
  · intro reason environment
    exact Nat.lt_succ_self _
  · intro event hlocks later
    exact stale_after_lock horderly hlocks later

end SessionWorld

end HyperTrader
