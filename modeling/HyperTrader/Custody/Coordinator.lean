import HyperTrader.Custody.Setup

/-!
# The setup coordinator

The methods of `createApiWalletSetupCoordinator`, each cut at its awaits. A part
between two awaits reads the tables and decides on one move, and `perform` makes
the move: it writes a table, or starts an operation of the vault that the call
then awaits. The wallet and the typed data it signs are left out: they change
neither store.
-/

namespace HyperTrader

open Library

structure SetupRequest where
  network : HyperliquidNetwork
  connectorSessionId : String
  connectedMasterAccount : String
  targetAccount : String
  registrationName : String

structure SetupPreparation where
  target : SetupTarget
  connectorSessionId : String
  registrationName : String

structure SetupInspection where
  authoritativeTime : ℤ
  targetAuthorized : Bool

structure NamedAgentRegistration where
  agentAddress : String
  validUntil : Option ℤ

structure RegistrationProof where
  authoritativeTime : ℤ
  targetAuthorized : Bool
  registration : Option NamedAgentRegistration

/-- What the device generates for an attempt: the secret, the address derived
from it, and the id. -/
structure SetupMaterial where
  secret : List UInt8
  agentAddress : String
  id : String

structure WalletReturnInput where
  attemptId : String
  connectorSessionId : String

inductive SetupVerificationResult where
  | activated (binding : SignerBinding) (effectiveExpiry : ℤ)
  | notPending
  | bindingMismatch
  | expired
  | registrationUnverified
  | activationLost

inductive SetupResult where
  | prepared (attempt : SetupAttempt)
  | approvalRequested
  | verified (result : SetupVerificationResult)
  | cancelled
  | thrown (failure : Failure)

inductive AfterRemoval where
  | prepare (preparation : SetupPreparation) (authoritativeTime : ℤ)
  | return (result : SetupResult)

/-- A call under way, by the await it is at; `operation` is the operation of the
vault it waits for. -/
inductive SetupRun where
  | inspecting (preparation : SetupPreparation)
  | generating (preparation : SetupPreparation) (authoritativeTime generation : ℤ)
  | staging (attempt : SetupAttempt) (operation : ℕ)
  | unstaging (operation : ℕ) (failure : Failure)
  | verifying (attempt : SetupAttempt) (now : ℤ)
  | removing (attempt : SetupAttempt) (reason : String) (operation : ℕ)
      (rest : AfterRemoval)
  | finished (result : SetupResult)

inductive SetupMove where
  | go (run : SetupRun)
  | remove (attempt : SetupAttempt) (reason : String) (rest : AfterRemoval)
  | stage (attempt : SetupAttempt) (credential : StoredCredential)
  | create (attempt : SetupAttempt)
  | activate (attempt : SetupAttempt) (effectiveExpiry now : ℤ)
  | cancel (attempt : SetupAttempt) (reason : String) (rest : AfterRemoval)

namespace SetupCoordinator

def prepare (viem : Viem) (input : SetupRequest) : Outcome SetupMove := do
  assertSignerAccessCapability input.network
  require (connectorSessionPattern.test input.connectorSessionId = true)
    (.typeError "The connector session identifier is malformed.")
  let target ← normalizeSetupTarget viem
    ⟨input.network, input.connectedMasterAccount, input.targetAccount⟩
  let registrationName ← normalizeAgentRegistrationName input.registrationName
  pure (.go (.inspecting ⟨target, input.connectorSessionId, registrationName⟩))

def prepareInspected (viem : Viem) (tables : SetupTables)
    (preparation : SetupPreparation) (inspection : SetupInspection) :
    Outcome SetupMove := do
  assertSafeTime inspection.authoritativeTime "authoritativeTime"
  require (inspection.targetAuthorized = true) (.error
    "The selected target is not authoritatively linked to this master account.")
  match ← tables.getPendingAttemptForTarget viem preparation.target with
  | some pending => do
      require (pending.expiresAt ≤ inspection.authoritativeTime)
        (.error "A setup attempt for this target is already pending.")
      pure (.remove pending "expired" (.prepare preparation inspection.authoritativeTime))
  | none => do
      let generation ← tables.nextGeneration viem preparation.target
      pure (.go (.generating preparation inspection.authoritativeTime generation))

def prepareGenerated (viem : Viem) (preparation : SetupPreparation)
    (authoritativeTime generation : ℤ) (material : SetupMaterial) :
    Outcome SetupMove := do
  let agentAddress ← normalizeSetupAddress viem material.agentAddress
  let binding ← normalizeSignerBinding viem
    { network := preparation.target.network
      masterAccount := preparation.target.masterAccount
      targetAccount := preparation.target.targetAccount
      agentAddress := agentAddress
      generation := generation }
  let requestedExpiry := addNumber authoritativeTime agentAuthorizationDurationMs
  pure (.stage
    { id := material.id
      network := preparation.target.network
      connectorSessionId := preparation.connectorSessionId
      masterAccount := binding.masterAccount
      targetAccount := binding.targetAccount
      agentAddress := binding.agentAddress
      registrationName := preparation.registrationName
      registrationGeneration := binding.generation
      approvalNonce := authoritativeTime
      requestedExpiry := requestedExpiry
      createdAt := authoritativeTime
      expiresAt := addNumber authoritativeTime setupAttemptDurationMs }
    { binding := binding
      registrationName := preparation.registrationName
      requestedExpiry := requestedExpiry
      secret := material.secret })

def requestApproval (viem : Viem) (tables : SetupTables) (attemptId : String)
    (now : ℤ) : Outcome SetupMove := do
  match ← tables.getPendingAttempt viem attemptId with
  | none => .error (.error "The setup attempt is no longer pending.")
  | some attempt =>
    if attempt.expiresAt ≤ now then
      pure (.remove attempt "expired" (.return (.thrown
        (.error "The setup attempt expired before wallet approval."))))
    else pure (.go (.finished .approvalRequested))

def verify (viem : Viem) (tables : SetupTables) (input : WalletReturnInput)
    (now : ℤ) : Outcome SetupMove := do
  match ← tables.getPendingAttempt viem input.attemptId with
  | none => pure (.go (.finished (.verified .notPending)))
  | some attempt =>
    if attempt.connectorSessionId ≠ input.connectorSessionId then
      pure (.go (.finished (.verified .bindingMismatch)))
    else if attempt.expiresAt ≤ now then
      pure (.remove attempt "expired" (.return (.verified .expired)))
    else pure (.go (.verifying attempt now))

def exactRegistration (viem : Viem) (attempt : SetupAttempt)
    (registration : NamedAgentRegistration) : Bool :=
  match normalizeSetupAddress viem registration.agentAddress with
  | .ok agentAddress => agentAddress == attempt.agentAddress
  | .error _ => false

def validUntil (viem : Viem) (attempt : SetupAttempt)
    (proof : RegistrationProof) : Option ℤ := do
  let registration ← proof.registration
  let validUntil ← registration.validUntil
  if proof.targetAuthorized && exactRegistration viem attempt registration &&
      decide (isSafeInteger validUntil) &&
      decide (proof.authoritativeTime < validUntil) then
    some validUntil
  else none

def verifyProof (viem : Viem) (attempt : SetupAttempt) (now : ℤ)
    (proof : RegistrationProof) : Outcome SetupMove := do
  assertSafeTime proof.authoritativeTime "authoritativeTime"
  if attempt.expiresAt ≤ proof.authoritativeTime then
    pure (.remove attempt "expired" (.return (.verified .expired)))
  else
    match validUntil viem attempt proof with
    | none => pure (.go (.finished (.verified .registrationUnverified)))
    | some validUntil => pure (.activate attempt validUntil now)

def cancel (viem : Viem) (tables : SetupTables) (attemptId : String) :
    Outcome SetupMove := do
  match ← tables.getPendingAttempt viem attemptId with
  | none => pure (.go (.finished .cancelled))
  | some attempt =>
    pure (.remove attempt "user_cancelled" (.return .cancelled))

def resume : SetupRun → Outcome Unit → SetupMove
  | .staging attempt _, .ok _ => .create attempt
  | .unstaging _ failure, .ok _ => .go (.finished (.thrown failure))
  | .removing attempt reason _ rest, .ok _ => .cancel attempt reason rest
  | .staging _ _, .error failure => .go (.finished (.thrown failure))
  | .unstaging _ _, .error failure => .go (.finished (.thrown failure))
  | .removing _ _ _ _, .error failure => .go (.finished (.thrown failure))
  | run, _ => .go run

end SetupCoordinator

def SetupRun.operation : SetupRun → Option ℕ
  | .staging _ operation => some operation
  | .unstaging operation _ => some operation
  | .removing _ _ operation _ => some operation
  | _ => none

/-- The two stores, and the calls of this process. `staged` and `deleted` are the
history: the credentials given to the vault, and the keys whose item was
deleted. -/
structure SetupWorld where
  tables : SetupTables
  vault : CredentialVault
  runs : List SetupRun
  staged : List StoredCredential
  deleted : List String

namespace SetupWorld

def opened (store : SecureStore) : SetupWorld where
  tables := ⟨[], []⟩
  vault := .opened store
  runs := []
  staged := []
  deleted := []

def afterRemoval (viem : Viem) (tables : SetupTables) : AfterRemoval → SetupRun
  | .prepare preparation authoritativeTime =>
    match tables.nextGeneration viem preparation.target with
    | .error failure => .finished (.thrown failure)
    | .ok generation => .generating preparation authoritativeTime generation
  | .return result => .finished result

def perform (viem : Viem) (fault : Option Failure) (world : SetupWorld) :
    SetupMove → SetupWorld × SetupRun
  | .go run => (world, run)
  | .remove attempt reason rest =>
    match bindingFromAttempt viem attempt with
    | .error failure => (world, .finished (.thrown failure))
    | .ok binding =>
      ({ world with vault := world.vault.delete viem binding },
        .removing attempt reason world.vault.operations.length rest)
  | .stage attempt credential =>
    ({ world with
        vault := world.vault.stage viem credential
        staged := world.staged ++ [credential] }, .staging attempt world.vault.operations.length)
  | .create attempt =>
    match Transaction.atomically fault (createAttempt viem attempt)
        world.tables with
    | (.ok _, tables) =>
      ({ world with tables := tables }, .finished (.prepared attempt))
    | (.error failure, _) =>
      -- the attempt is not stored: its secret is deleted again
      ({ world with vault := world.vault.delete viem attempt.binding },
        .unstaging world.vault.operations.length failure)
  | .activate attempt effectiveExpiry now =>
    match consumeAndActivate viem fault attempt.id attempt effectiveExpiry now
        world.tables with
    | (.error failure, _) => (world, .finished (.thrown failure))
    | (.ok false, tables) =>
      ({ world with tables := tables }, .finished (.verified .activationLost))
    | (.ok true, tables) =>
      ({ world with tables := tables },
        .finished (.verified (.activated attempt.binding effectiveExpiry)))
  | .cancel attempt reason rest =>
    match cancelAttempt fault attempt.id reason world.tables with
    | (.error failure, _) => (world, .finished (.thrown failure))
    | (.ok _, tables) =>
      ({ world with tables := tables }, afterRemoval viem tables rest)

def decided (viem : Viem) (fault : Option Failure) (world : SetupWorld) :
    Outcome SetupMove → SetupWorld × SetupRun
  | .error failure => (world, .finished (.thrown failure))
  | .ok move => world.perform viem fault move

def start (viem : Viem) (world : SetupWorld) (outcome : Outcome SetupMove) : SetupWorld :=
  let (next, run) := world.decided viem none outcome
  { next with runs := next.runs ++ [run] }

def goOn (viem : Viem) (fault : Option Failure) (world : SetupWorld) (i : ℕ)
    (outcome : Outcome SetupMove) : SetupWorld :=
  let (next, run) := world.decided viem fault outcome
  { next with runs := next.runs.set i run }

def deletes (world : SetupWorld) (operation : ℕ) (fault : Option Failure) : List String :=
  match world.vault.operations[operation]?, fault with
  | some (.deleteSecret bindingId), none => [credentialKey bindingId]
  | _, _ => []

end SetupWorld

inductive SetupEvent where
  | prepare (input : SetupRequest)
  | inspected (run : ℕ) (inspection : Outcome SetupInspection)
  | generated (run : ℕ) (material : Outcome SetupMaterial)
  | requestApproval (attemptId : String) (now : ℤ)
  | verify (input : WalletReturnInput) (now : ℤ)
  | proved (run : ℕ) (proof : Outcome RegistrationProof) (fault : Option Failure)
  | cancel (attemptId : String)
  | resume (run : ℕ) (fault : Option Failure)
  | vault (operation : ℕ) (fault : Option Failure)
  | crash

namespace SetupWorld

/-- The world after the event; an answer to a call that does not wait for it
changes nothing. -/
def step (viem : Viem) (installationEpoch : String) (world : SetupWorld) :
    SetupEvent → SetupWorld
  | .prepare input => world.start viem (SetupCoordinator.prepare viem input)
  | .inspected i inspection =>
    match world.runs[i]? with
    | some (.inspecting preparation) => world.goOn viem none i
        (inspection >>= SetupCoordinator.prepareInspected viem world.tables preparation)
    | _ => world
  | .generated i material =>
    match world.runs[i]? with
    | some (.generating preparation authoritativeTime generation) =>
      world.goOn viem none i (material >>=
        SetupCoordinator.prepareGenerated viem preparation authoritativeTime generation)
    | _ => world
  | .requestApproval attemptId now =>
    world.start viem (SetupCoordinator.requestApproval viem world.tables attemptId now)
  | .verify input now =>
    world.start viem (SetupCoordinator.verify viem world.tables input now)
  | .proved i proof fault =>
    match world.runs[i]? with
    | some (.verifying attempt now) =>
      world.goOn viem fault i (proof >>= SetupCoordinator.verifyProof viem attempt now)
    | _ => world
  | .cancel attemptId =>
    world.start viem (SetupCoordinator.cancel viem world.tables attemptId)
  | .resume i fault =>
    match world.runs[i]? with
    | none => world
    | some run =>
      match run.operation.bind fun operation =>
          world.vault.operations[operation]? with
      | some (.finished result) =>
        world.goOn viem fault i (.ok (SetupCoordinator.resume run result))
      | _ => world
  | .vault operation fault =>
    { world with
      vault := world.vault.advance installationEpoch operation fault
      deleted := world.deleted ++ world.deletes operation fault }
  | .crash => { world with vault := world.vault.crash, runs := [] }

end SetupWorld

end HyperTrader
