import HyperTrader.Session.Epoch

/-!
# Signers and secrets are disposed of

A constructed signer is held by the manager, has been destroyed, or is the
candidate of the unlock that runs; when the unlock stops running, the `catch` has
destroyed its candidate. A secret that was read stays with the unlock that read
it, which disposes of it in its `finally`. Holding a new signer loses the one held
before, so it matters that the unlock of the current epoch finds none.
-/

namespace HyperTrader

open Library

def signerIds (signer : Option DestroyableAgentSigner) : List ℕ :=
  (signer.map DestroyableAgentSigner.id).toList

def secretIds (secret : Option ProtectedAgentSecret) : List ℕ :=
  (secret.map ProtectedAgentSecret.id).toList

/-- Every signer constructed so far is held, destroyed, or the candidate. -/
def SignerSession.Accounted (session : SignerSession)
    (candidate : Option DestroyableAgentSigner) : Prop :=
  ∀ id < session.constructedSigners,
    id ∈ signerIds session.signer ∨ id ∈ session.destroyedSigners ∨
      id ∈ signerIds candidate

namespace SignerSession.Accounted

variable {session : SignerSession} {candidate : Option DestroyableAgentSigner}

theorem create : SignerSession.create.Accounted none := by
  intro id hid
  exact absurd hid (Nat.not_lt_zero id)

theorem stopped (h : session.Accounted candidate) (reason : SignerSessionStopReason) :
    (session.stopped reason).Accounted candidate := by
  intro id hid
  rcases h id hid with hheld | hdestroyed | hcandidate
  · exact .inr (.inl (List.mem_append_left _ hheld))
  · exact .inr (.inl (List.mem_append_right _ hdestroyed))
  · exact .inr (.inr hcandidate)

theorem destroy (h : session.Accounted candidate) : (session.destroy candidate).Accounted none := by
  intro id hid
  rcases h id hid with hheld | hdestroyed | hcandidate
  · exact .inl hheld
  · exact .inr (.inl (List.mem_append_right _ hdestroyed))
  · exact .inr (.inl (List.mem_append_left _ hcandidate))

end SignerSession.Accounted

namespace UnlockScope

variable {scope : UnlockScope}

theorem accounted_receiveSigner (h : scope.session.Accounted none) (binding : SignerBinding) :
    (scope.receiveSigner binding).session.Accounted (scope.receiveSigner binding).candidate := by
  intro id hid
  rcases Nat.lt_or_eq_of_le (Nat.le_of_lt_succ hid) with hlt | heq
  · rcases h id hlt with hheld | hdestroyed | hnone
    · exact .inl hheld
    · exact .inr (.inl hdestroyed)
    · cases hnone
  · rw [heq]
    exact .inr (.inr (List.mem_singleton.mpr rfl))

theorem accounted_holdCandidate (h : scope.session.Accounted scope.candidate)
    (hnone : scope.session.signer = none) : scope.holdCandidate.session.Accounted none := by
  intro id hid
  rcases h id hid with hheld | hdestroyed | hcandidate
  · rw [hnone] at hheld
    cases hheld
  · exact .inr (.inl hdestroyed)
  · exact .inl hcandidate

theorem accounted_recovered (h : scope.session.Accounted scope.candidate)
    (unlockEpoch : ℕ) (reason : SignerSessionStopReason) :
    (scope.recovered unlockEpoch reason).session.Accounted none := by
  by_cases hepoch : scope.session.epoch = unlockEpoch
  · rw [recovered_of_eq reason hepoch]
    exact h.destroy.stopped reason
  · rw [recovered_of_ne reason hepoch]
    exact h.destroy

end UnlockScope

namespace Unlocking

variable {unlock : UnlockRun} {token : ℕ} {scope : UnlockScope} {after : UnlockScope}
  {stage : UnlockStage}

theorem accounted_of_attempted {result : Outcome UnlockStage}
    (h : Attempted unlock scope (result, after))
    (haccounted : scope.session.Accounted none) (hcandidate : scope.candidate = none)
    (hsigner : scope.session.epoch = unlock.unlockEpoch → scope.session.signer = none) :
    after.session.Accounted after.candidate := by
  cases h with
  | kept =>
    rw [hcandidate]
    exact haccounted
  | read =>
    change SignerSession.Accounted _ scope.candidate
    rw [hcandidate]
    exact haccounted
  | constructed binding => exact UnlockScope.accounted_receiveSigner haccounted binding
  | interrupted binding now hepoch =>
    exact UnlockScope.accounted_holdCandidate
      (UnlockScope.accounted_receiveSigner haccounted binding) (hsigner hepoch)
  | unlocked binding now hepoch =>
    exact UnlockScope.accounted_holdCandidate
      (UnlockScope.accounted_receiveSigner haccounted binding) (hsigner hepoch)

theorem accounted_of_resumed (h : Resumed unlock token scope (stage, after))
    (haccounted : scope.session.Accounted none) (hcandidate : scope.candidate = none)
    (hsigner : scope.session.epoch = unlock.unlockEpoch → scope.session.signer = none) :
    after.session.Accounted none := by
  cases h with
  | waits h hstage =>
    have hafter := accounted_of_attempted h haccounted hcandidate hsigner
    cases h with
    | kept => exact haccounted
    | read => exact haccounted
    | unlocked => exact hafter
  | completed h =>
    have hafter := accounted_of_attempted h haccounted hcandidate hsigner
    cases h with
    | kept hnot => cases (hnot _ rfl).1
    | read hreading binding hnot => cases (hnot _ rfl).1
    | unlocked => exact hafter
  | failed reason h =>
    exact UnlockScope.accounted_recovered
      (accounted_of_attempted h haccounted hcandidate hsigner) _ reason

/-- What a part of an unlock does with secrets: it keeps the secret it has, or
it was reading and has one now; it reads next only when it has none; and when it
settles its secret has been disposed of. -/
structure Tended (unlock : UnlockRun) (before : UnlockScope)
    (stage : UnlockStage) (after : UnlockScope) : Prop where
  secret : (after.secret = before.secret ∧ after.session.readSecrets = before.session.readSecrets) ∨
    unlock.stage = .reading ∧
      secretIds after.secret = [before.session.readSecrets] ∧
      after.session.readSecrets = before.session.readSecrets + 1
  disposed : ∀ id ∈ before.session.disposedSecrets,
    id ∈ after.session.disposedSecrets
  reading : stage = .reading → after.secret = none
  settled : stage.isSettled = true →
    ∀ id ∈ secretIds after.secret, id ∈ after.session.disposedSecrets

theorem Tended.finish {before final : UnlockScope} {result : Outcome SignerSessionSnapshot}
    (hfinal : final.secret = after.secret ∧ final.session.readSecrets = after.session.readSecrets ∧
      final.session.disposedSecrets = after.session.disposedSecrets)
    (hsecret : (after.secret = before.secret ∧
        after.session.readSecrets = before.session.readSecrets) ∨ unlock.stage = .reading ∧
        secretIds after.secret = [before.session.readSecrets] ∧
        after.session.readSecrets = before.session.readSecrets + 1)
    (hdisposed : after.session.disposedSecrets = before.session.disposedSecrets) :
    Tended unlock before (.settled result) (final.cleanUp token) where
  secret := by
    change (final.secret = _ ∧ final.session.readSecrets = _) ∨
      _ ∧ secretIds final.secret = _ ∧ final.session.readSecrets = _
    rw [hfinal.1, hfinal.2.1]
    exact hsecret
  disposed id hid := by
    rw [← hdisposed, ← hfinal.2.2] at hid
    exact List.mem_append_right _ hid
  reading := nofun
  settled _ id hid := List.mem_append_left _ hid

theorem recovered_secrets (unlockEpoch : ℕ) (reason : SignerSessionStopReason)
    (scope : UnlockScope) :
    (scope.recovered unlockEpoch reason).secret = scope.secret ∧
      (scope.recovered unlockEpoch reason).session.readSecrets =
        scope.session.readSecrets ∧
      (scope.recovered unlockEpoch reason).session.disposedSecrets =
        scope.session.disposedSecrets := by
  unfold UnlockScope.recovered
  split
  · exact ⟨rfl, rfl, rfl⟩
  · exact ⟨rfl, rfl, rfl⟩

theorem tended_of_resumed (h : Resumed unlock token scope (stage, after)) :
    Tended unlock scope stage after := by
  cases h with
  | waits h hstage =>
    have hsettled : ∀ {p : Prop}, stage.isSettled = true → p := by
      intro p htrue
      rw [hstage] at htrue
      cases htrue
    cases h with
    | kept hwaits =>
      exact ⟨.inl ⟨rfl, rfl⟩, fun _ hid => hid, (hwaits _ rfl).2, hsettled⟩
    | read hreading binding hwaits =>
      exact ⟨.inr ⟨hreading, rfl, rfl⟩, fun _ hid => hid, (hwaits _ rfl).2, hsettled⟩
    | unlocked => cases hstage
  | completed h =>
    cases h with
    | kept hnot => cases (hnot _ rfl).1
    | read hreading binding hnot => cases (hnot _ rfl).1
    | unlocked => exact .finish ⟨rfl, rfl, rfl⟩ (.inl ⟨rfl, rfl⟩) rfl
  | @failed _ attempted _ reason h =>
    have hrecovered := recovered_secrets unlock.unlockEpoch reason attempted
    cases h with
    | kept => exact .finish hrecovered (.inl ⟨rfl, rfl⟩) rfl
    | read hreading binding =>
      exact .finish hrecovered (.inr ⟨hreading, rfl, rfl⟩) rfl
    | constructed => exact .finish hrecovered (.inl ⟨rfl, rfl⟩) rfl
    | interrupted => exact .finish hrecovered (.inl ⟨rfl, rfl⟩) rfl

end Unlocking

namespace SessionWorld

/-- Every signer is accounted for, and every secret that was read belongs to an
unlock, which has disposed of it if it has settled. -/
structure Tidy (world : SessionWorld) : Prop where
  signers : world.session.Accounted none
  read : ∀ id < world.session.readSecrets, ∃ (i : ℕ) (unlock : UnlockRun),
    world.unlocks[i]? = some unlock ∧ id ∈ secretIds unlock.secret
  reading : ∀ (i : ℕ) (unlock : UnlockRun), world.unlocks[i]? = some unlock →
    unlock.stage = .reading → unlock.secret = none
  disposed : ∀ (i : ℕ) (unlock : UnlockRun), world.unlocks[i]? = some unlock →
    unlock.stage.isSettled = true → ∀ id ∈ secretIds unlock.secret,
      id ∈ world.session.disposedSecrets

variable {viem : Viem} {world : SessionWorld}

namespace Tidy

theorem create (initiallyActiveAndFocused : Bool) :
    (create initiallyActiveAndFocused).Tidy where
  signers := .create
  read id hid := absurd hid (Nat.not_lt_zero id)
  reading i unlock h := by simp [SessionWorld.create] at h
  disposed i unlock h := by simp [SessionWorld.create] at h

theorem session (h : world.Tidy) {session : SignerSession} (hsigners : session.Accounted none)
    (hread : session.readSecrets = world.session.readSecrets)
    (hdisposed : session.disposedSecrets = world.session.disposedSecrets) :
    Tidy { world with session := session } where
  signers := hsigners
  read id hid := by
    rw [hread] at hid
    exact h.read id hid
  reading := h.reading
  disposed i unlock hunlock hsettled id hid := by
    rw [hdisposed]
    exact h.disposed i unlock hunlock hsettled id hid

theorem started (h : world.Tidy) {unlock : UnlockRun} (hsecret : unlock.secret = none) :
    Tidy { world with unlocks := world.unlocks ++ [unlock] } where
  signers := h.signers
  read id hid := by
    obtain ⟨i, old, hold, hid⟩ := h.read id hid
    exact ⟨i, old, getElem?_append_of_some hold unlock, hid⟩
  reading i other hother hreading := by
    rcases getElem?_append_cases hother with hold | ⟨-, rfl⟩
    · exact h.reading i other hold hreading
    · exact hsecret
  disposed i other hother hsettled id hid := by
    rcases getElem?_append_cases hother with hold | ⟨-, rfl⟩
    · exact h.disposed i other hold hsettled id hid
    · rw [hsecret] at hid
      cases hid

theorem resumed (h : world.Tidy) {i : ℕ} {unlock : UnlockRun}
    (hunlock : world.unlocks[i]? = some unlock) {stage : UnlockStage} {scope : UnlockScope}
    (htended : Unlocking.Tended unlock
      { session := world.session, secret := unlock.secret, candidate := none }
      stage scope) (hsigners : scope.session.Accounted none) :
    Tidy { world with
      session := scope.session
      unlocks := world.unlocks.set i
        { unlock with stage := stage, secret := scope.secret } } := by
  have hself := List.getElem?_set_self (lt_length_of_getElem? hunlock)
    (a := { unlock with stage := stage, secret := scope.secret })
  have hother : ∀ {j other}, j ≠ i → world.unlocks[j]? = some other →
      (world.unlocks.set i { unlock with
        stage := stage, secret := scope.secret })[j]? = some other := by
    intro j other hji hget
    rw [List.getElem?_set_ne (Ne.symm hji), hget]
  constructor
  · exact hsigners
  · intro id hid
    dsimp only at hid
    rcases htended.secret with ⟨hsame, hcount⟩ | ⟨hreading, hnew, hcount⟩
    · rw [hcount] at hid
      obtain ⟨j, old, hold, hmem⟩ := h.read id hid
      by_cases hji : j = i
      · subst hji
        rw [hunlock, Option.some.injEq] at hold
        subst hold
        refine ⟨j, _, hself, ?_⟩
        dsimp only
        rw [hsame]
        exact hmem
      · exact ⟨j, old, hother hji hold, hmem⟩
    · rw [hcount] at hid
      rcases Nat.lt_or_eq_of_le (Nat.le_of_lt_succ hid) with hlt | heq
      · obtain ⟨j, old, hold, hmem⟩ := h.read id hlt
        refine ⟨j, old, hother ?_ hold, hmem⟩
        -- the unlock that has just read a secret had none
        rintro rfl
        rw [hunlock, Option.some.injEq] at hold
        subst hold
        rw [h.reading j unlock hunlock hreading] at hmem
        cases hmem
      · refine ⟨i, _, hself, ?_⟩
        dsimp only
        rw [hnew, heq]
        exact List.mem_singleton.mpr rfl
  · intro j other hget hreading
    rcases getElem?_set_cases hget with ⟨rfl, rfl⟩ | ⟨-, hold⟩
    · exact htended.reading hreading
    · exact h.reading j other hold hreading
  · intro j other hget hsettled id hid
    rcases getElem?_set_cases hget with ⟨rfl, rfl⟩ | ⟨-, hold⟩
    · exact htended.settled hsettled id hid
    · exact htended.disposed id (h.disposed j other hold hsettled id hid)

theorem settle_secret (value : Bool) (unlock : UnlockRun) :
    (unlock.settle value).secret = unlock.secret := by
  unfold UnlockRun.settle
  split <;> rfl

theorem settle_eq (value : Bool) (unlock : UnlockRun) :
    unlock.settle value =
      { unlock with stage := (unlock.settle value).stage, secret := unlock.secret } := by
  unfold UnlockRun.settle
  split <;> rfl

theorem settle_reading {value : Bool} {unlock : UnlockRun}
    (h : (unlock.settle value).stage = .reading) : unlock.stage = .reading := by
  unfold UnlockRun.settle at h
  split at h
  · cases h
  · exact h

theorem settle (h : world.Tidy) (value : Bool) : (world.settle value).Tidy where
  signers := h.signers
  read id hid := by
    obtain ⟨i, unlock, hunlock, hmem⟩ := h.read id hid
    refine ⟨i, unlock.settle value, ?_, ?_⟩
    · rw [SessionWorld.settle, List.getElem?_map, hunlock]
      rfl
    · rw [settle_secret]
      exact hmem
  reading i unlock hunlock hreading := by
    rw [SessionWorld.settle, List.getElem?_map, Option.map_eq_some_iff] at hunlock
    obtain ⟨old, hold, rfl⟩ := hunlock
    rw [settle_secret]
    exact h.reading i old hold (settle_reading hreading)
  disposed i unlock hunlock hsettled id hid := by
    rw [SessionWorld.settle, List.getElem?_map, Option.map_eq_some_iff] at hunlock
    obtain ⟨old, hold, rfl⟩ := hunlock
    rw [settle_secret] at hid
    rw [Orderly.settle_isSettled] at hsettled
    exact h.disposed i old hold hsettled id hid

theorem stepGate (h : world.Tidy) (event : GateEvent) : (world.stepGate event).Tidy := by
  have hgate : ∀ gate, Tidy { world with gate := gate } := fun gate => { h with }
  rcases world.stepGate_cases event with ⟨gate, hstep⟩ | ⟨gate, value, hstep⟩ |
    ⟨i, unlock, hunlock, hstep⟩
  · rw [hstep]
    exact hgate gate
  · rw [hstep]
    exact (hgate gate).settle value
  · rw [hstep]
    have htended : Unlocking.Tended unlock ⟨world.session, unlock.secret, none⟩
        (unlock.settle false).stage ⟨world.session, unlock.secret, none⟩ := by
      refine ⟨.inl ⟨rfl, rfl⟩, fun _ hid => hid, fun hreading => ?_, ?_⟩
      · exact h.reading i unlock hunlock (settle_reading hreading)
      · rw [Orderly.settle_isSettled]
        exact h.disposed i unlock hunlock
    have hresumed := h.resumed hunlock htended h.signers
    rwa [← settle_eq] at hresumed

theorem stepped (h : world.Tidy) (horderly : world.Orderly viem)
    {after : SessionWorld} (hstep : Stepped viem world after) : after.Tidy := by
  cases hstep with
  | nothing => exact h
  | gate event => exact h.stepGate event
  | locked reason => exact h.session (h.signers.stopped reason) rfl rfl
  | interrupted => exact h.session (h.signers.stopped .contextChanged) rfl rfl
  | started =>
    exact Tidy.session (h.started rfl) (h.signers.stopped .contextChanged) rfl rfl
  | resumed i unlock stage scope hunlock hready hresumed =>
    refine h.resumed hunlock (Unlocking.tended_of_resumed hresumed) ?_
    refine Unlocking.accounted_of_resumed hresumed h.signers rfl fun hepoch => ?_
    have hlocked := horderly.latest i unlock hunlock hepoch.symm
      (isSettled_of_isReady hready)
    have hsigner := horderly.coherent.signer
    rw [hlocked] at hsigner
    exact Option.isNone_iff_eq_none.mp (Option.isSome_eq_false_iff.mp hsigner)
  | signing => exact { h with }
  | rejected => exact { h with }
  | outdated => exact { h.session (h.signers.stopped .contextChanged) rfl rfl with }
  | returned => exact { h with }

end Tidy

/-- A signer is held exactly while the session is unlocked; every signer ever
constructed is held or has been destroyed; and every secret a vault read returned
belongs to the unlock that read it and is disposed of when that unlock settles. -/
theorem signers_and_secrets_disposed (viem : Viem)
    (initiallyActiveAndFocused : Bool) (events : List SessionEvent) :
    let world := Library.run (SessionWorld.step viem)
      (create initiallyActiveAndFocused) events
    (world.session.signer.isSome = true ↔ ∃ current, world.session.state = .unlocked current) ∧
    (∀ id < world.session.constructedSigners,
      (∃ signer, world.session.signer = some signer ∧ signer.id = id) ∨
        id ∈ world.session.destroyedSigners) ∧
    (∀ id < world.session.readSecrets, ∃ (i : ℕ) (unlock : UnlockRun),
      world.unlocks[i]? = some unlock ∧ (∃ secret, unlock.secret = some secret ∧ secret.id = id) ∧
        (unlock.stage.isSettled = true → id ∈ world.session.disposedSecrets)) := by
  intro world
  have hstep : ∀ (world : SessionWorld) (event : SessionEvent),
      (world.Orderly viem ∧ world.Tidy) →
        (world.step viem event).Orderly viem ∧ (world.step viem event).Tidy := by
    intro world event h
    have hstepped := stepped_step viem world event
    exact ⟨h.1.stepped hstepped, h.2.stepped h.1 hstepped⟩
  obtain ⟨horderly, htidy⟩ : world.Orderly viem ∧ world.Tidy :=
    run_invariant hstep ⟨orderly_create initiallyActiveAndFocused,
      .create initiallyActiveAndFocused⟩ events
  refine ⟨?_, ?_, ?_⟩
  · rw [horderly.coherent.signer]
    exact SignerSessionSnapshot.isUnlocked_iff
  · intro id hid
    rcases htidy.signers id hid with hheld | hdestroyed | hnone
    · left
      simpa [signerIds] using hheld
    · exact .inr hdestroyed
    · cases hnone
  · intro id hid
    obtain ⟨i, unlock, hunlock, hmem⟩ := htidy.read id hid
    refine ⟨i, unlock, hunlock, by simpa [secretIds] using hmem, ?_⟩
    intro hsettled
    exact htidy.disposed i unlock hunlock hsettled id hmem

end SessionWorld

end HyperTrader
