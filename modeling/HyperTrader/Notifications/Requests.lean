import HyperTrader.Library.Machine
import HyperTrader.Library.Processes
import HyperTrader.Notifications.Restore

/-!
# Requests of the notification service

A revocation request starts its drains in one transaction and then commits each of its
operations in four steps, with the append to the ledger between two of them; other requests
may run between any two steps, and a request that never goes on has crashed. A restore puts
a backup in the place of the database and ends the requests that are under way.
-/

namespace HyperTrader

open Library

namespace Notifications

/-- What a step reads from outside of the tables: the limit that is exceeded, an error of
the database or of the ledger, whether the ledger appended in spite of it, and clocks. -/
structure Inputs where
  limited : Option String := none
  fault : Option String := none
  reached : Bool := false
  now : ℤ
  deletedAt : ℤ
  clock : String → FenceClock

namespace Inputs

def failure (inputs : Inputs) : Option StoreFailure := inputs.fault.map .database

end Inputs

inductive RevocationRequest
  | revokeInstallation (installationId credential operationId : String)
  | unlinkAccount (installationId credential accountLinkId operationId : String)
  | revokeLostInstallations (request : LostInstallationRevokeRequest)
  deriving DecidableEq

namespace RevocationRequest

def kind : RevocationRequest → DeletionScopeKind
  | .unlinkAccount .. => .accountLink
  | .revokeInstallation .. | .revokeLostInstallations _ => .installation

def start (primitives : StorePrimitives) (request : RevocationRequest) (inputs : Inputs) :
    Statement (List String) :=
  match request with
  | .revokeInstallation installationId credential operationId => do
      startInstallationDrain primitives installationId credential operationId
        (inputs.clock installationId)
      pure [operationId]
  | .unlinkAccount installationId credential accountLinkId operationId => do
      startAccountLinkDrain primitives installationId credential accountLinkId operationId
        inputs.limited (inputs.clock accountLinkId)
      pure [operationId]
  | .revokeLostInstallations request =>
    verifyLostInstallationRevokeProof primitives request inputs.limited inputs.now inputs.clock

end RevocationRequest

/-- An operation as a response reports it: committed under a ledger sequence, or draining. -/
structure DrainResponse where
  operationId : String
  ledgerSequence : Option ℕ
  deriving DecidableEq

inductive CommitStage
  | reading
  | counting (view : OperationView)
  | appending (view : OperationView)
  | committing (view : OperationView) (item : DeletionTombstoneItem)
      (receipt : DeletionLedgerReceipt)
  deriving DecidableEq

inductive RequestStage
  | starting
  | committing (results : List DrainResponse) (operationId : String) (stage : CommitStage)
      (rest : List String)
  | answered (result : Except StoreFailure (List DrainResponse))
  deriving DecidableEq

structure RequestProcess where
  request : RevocationRequest
  stage : RequestStage
  deriving DecidableEq

def nextStage (results : List DrainResponse) : List String → RequestStage
  | [] => .answered (.ok results)
  | operationId :: rest => .committing results operationId .reading rest

structure Backup where
  tables : Tables
  head : ℕ
  deriving DecidableEq

structure Replay where
  watermark : ℕ
  head : ℕ
  items : List DeletionTombstoneItem
  deriving DecidableEq

/-- The database, the ledger and what is under way; `missing` is the watermark of a backup
whose later deletions have not been replayed. -/
structure NotificationWorld where
  tables : Tables
  ledger : List DeletionTombstoneItem
  backups : List Backup
  requests : List RequestProcess
  replays : List Replay
  missing : Option ℕ
  deriving DecidableEq

inductive NotificationEvent
  | register (request : RegisterInstallationRequest) (inputs : Inputs)
  | rotate (installationId credential newCredential : String) (inputs : Inputs)
  | issue (request : IssueChallengeRequest) (inputs : Inputs)
  | link (request : VerifyAccountLinkRequest) (inputs : Inputs)
  /-- The rest of the store writes the other tables. -/
  | elsewhere (tables : Tables)
  | arrive (request : RevocationRequest)
  | proceed (i : ℕ) (inputs : Inputs)
  | activateWorkerGates (inputs : Inputs)
  | backup
  | restore (i : ℕ)
  | prepareRestore (backupWatermark : ℕ)
  | startReplay
  | finishReplay (i : ℕ) (inputs : Inputs)

namespace NotificationWorld

def transact {α : Type} (world : NotificationWorld) (inputs : Inputs)
    (statement : Statement α) : NotificationWorld :=
  { world with tables := (Transaction.atomically inputs.failure statement world.tables).2 }

def setStage (world : NotificationWorld) (i : ℕ) (request : RevocationRequest)
    (stage : RequestStage) : NotificationWorld :=
  { world with requests := world.requests.set i ⟨request, stage⟩ }

def readOperation (kind : DeletionScopeKind) (operationId : String) (tables : Tables) :
    Except StoreFailure OperationView :=
  match kind with
  | .accountLink => readAccountLinkOperation operationId tables
  | .installation | .pushToken => readInstallationOperation operationId tables

def commit (kind : DeletionScopeKind) (operationId : String) (view : OperationView)
    (item : DeletionTombstoneItem) (receipt : DeletionLedgerReceipt) (inputs : Inputs) :
    Statement Unit :=
  match kind with
  | .accountLink =>
    commitAccountLink operationId view item receipt (inputs.clock view.scopeId) inputs.now
  | .installation | .pushToken =>
    commitInstallation operationId view item receipt (inputs.clock view.scopeId) inputs.now

def append (primitives : StorePrimitives) (world : NotificationWorld)
    (kind : DeletionScopeKind) (view : OperationView) (deletedAt : ℤ) :
    DeletionTombstoneItem × List DeletionTombstoneItem :=
  appendItem primitives world.ledger view.deletionId kind view.scopeId
    (view.revocationGeneration + 1) deletedAt view.recoveryKeyVersion

def proceedCommit (primitives : StorePrimitives) (world : NotificationWorld)
    (kind : DeletionScopeKind) (inputs : Inputs) (results : List DrainResponse)
    (operationId : String) (rest : List String) :
    CommitStage → RequestStage × NotificationWorld
  | .reading =>
    match inputs.failure, readOperation kind operationId world.tables with
    | some failure, _ => (.answered (.error failure), world)
    | none, .error failure => (.answered (.error failure), world)
    | none, .ok view =>
      match view.ledgerSequence with
      | some sequence => (nextStage (results ++ [⟨operationId, some sequence⟩]) rest, world)
      | none => (.committing results operationId (.counting view) rest, world)
  | .counting view =>
    match inputs.failure with
    | some failure => (.answered (.error failure), world)
    | none =>
      if inFlight world.tables kind view.scopeId inputs.now then
        (nextStage (results ++ [⟨operationId, none⟩]) rest, world)
      else (.committing results operationId (.appending view) rest, world)
  | .appending view =>
    match assertTombstoneFields view.deletionId (view.revocationGeneration + 1)
        inputs.deletedAt view.recoveryKeyVersion with
    | .error failure => (.answered (.error failure), world)
    | .ok () =>
      let (item, ledger) := append primitives world kind view inputs.deletedAt
      match inputs.failure with
      | some failure =>
        (.answered (.error failure),
          if inputs.reached then { world with ledger := ledger } else world)
      | none =>
        (.committing results operationId
          (.committing view item ⟨item.sequence, ledger.length⟩) rest,
          { world with ledger := ledger })
  | .committing view item receipt =>
    match Transaction.atomically inputs.failure
        (commit kind operationId view item receipt inputs) world.tables with
    | (.ok (), tables) =>
      (nextStage (results ++ [⟨operationId, some receipt.sequence⟩]) rest,
        { world with tables := tables })
    | (.error .drainPending, tables) =>
      (nextStage (results ++ [⟨operationId, none⟩]) rest, { world with tables := tables })
    | (.error failure, tables) => (.answered (.error failure), { world with tables := tables })

def proceed (primitives : StorePrimitives) (world : NotificationWorld) (i : ℕ)
    (process : RequestProcess) (inputs : Inputs) : NotificationWorld :=
  match process.stage with
  | .starting =>
    match Transaction.atomically inputs.failure (process.request.start primitives inputs)
        world.tables with
    | (.ok operationIds, tables) =>
      { world with tables := tables }.setStage i process.request (nextStage [] operationIds)
    | (.error failure, tables) =>
      { world with tables := tables }.setStage i process.request (.answered (.error failure))
  | .committing results operationId stage rest =>
    let (stage, world) :=
      proceedCommit primitives world process.request.kind inputs results operationId rest stage
    world.setStage i process.request stage
  | .answered _ => world

def readRange (ledger : List DeletionTombstoneItem) (watermark head : ℕ) :
    List DeletionTombstoneItem :=
  ledger.filter fun item => decide (watermark < item.sequence) && decide (item.sequence ≤ head)

def startReplay (primitives : StorePrimitives) (world : NotificationWorld) : NotificationWorld :=
  let watermark := world.tables.service.ledgerWatermark
  let head := world.ledger.length
  let items := readRange world.ledger watermark head
  if world.tables.service.schemaPhase = .contracted ∧
      world.tables.service.restoreState = .replaying then
    match verifyTombstoneReplay primitives watermark head items with
    | .ok () => { world with replays := world.replays ++ [⟨watermark, head, items⟩] }
    | .error _ => world
  else world

def finishReplay (world : NotificationWorld) (replay : Replay) (inputs : Inputs) :
    NotificationWorld :=
  match Transaction.atomically inputs.failure
      (replayRestore replay.watermark replay.head replay.items inputs.clock world.ledger.length)
      world.tables with
  | (.ok (), tables) => { world with tables := tables, missing := none }
  | (.error _, _) => world

def elsewhere (tables other : Tables) : Tables :=
  { other with
    service :=
      { tables.service with
        monitorsEnabled := other.service.monitorsEnabled
        deliveryEnabled := other.service.deliveryEnabled }
    installations := tables.installations
    accountLinks := tables.accountLinks
    operations := tables.operations
    tombstones := tables.tombstones }

/-- The effect of an event. A backup has the deletions of the ledger up to its head: all,
or those of the backup that was restored last and not replayed. -/
def step (primitives : StorePrimitives) (world : NotificationWorld) :
    NotificationEvent → NotificationWorld
  | .register request inputs =>
    world.transact inputs (registerInstallation primitives request inputs.limited)
  | .rotate installationId credential newCredential inputs =>
    world.transact inputs
      (rotateInstallationCredential primitives installationId credential newCredential
        inputs.limited)
  | .issue request inputs =>
    world.transact inputs
      (issueAccountLinkChallenge primitives request inputs.limited inputs.now)
  | .link request inputs =>
    world.transact inputs
      (verifyAccountLinkProof primitives request inputs.limited inputs.now)
  | .elsewhere tables => { world with tables := elsewhere world.tables tables }
  | .arrive request => { world with requests := world.requests ++ [⟨request, .starting⟩] }
  | .proceed i inputs =>
    match world.requests[i]? with
    | some process => world.proceed primitives i process inputs
    | none => world
  | .activateWorkerGates inputs => world.transact inputs Notifications.activateWorkerGates
  | .backup =>
    { world with
      backups := world.backups ++ [⟨world.tables, world.missing.getD world.ledger.length⟩] }
  | .restore i =>
    match world.backups[i]? with
    | some backup =>
      { world with
        tables := Notifications.prepareRestore backup.head backup.tables
        requests := []
        replays := []
        missing := some backup.head }
    | none => world
  | .prepareRestore backupWatermark =>
    { world with tables := Notifications.prepareRestore backupWatermark world.tables }
  | .startReplay => world.startReplay primitives
  | .finishReplay i inputs =>
    match world.replays[i]? with
    | some replay => world.finishReplay replay inputs
    | none => world

def initial : NotificationWorld where
  tables :=
    { service := ⟨.contracted, .blocked, 0, 0, false, false, false⟩
      installations := .empty
      pushTokens := .empty
      challenges := .empty
      accountLinks := .empty
      rules := .empty
      alerts := .empty
      outbox := .empty
      permits := .empty
      operations := .empty
      tombstones := .empty
      tickets := .empty
      dedupeKeys := []
      monitorLeases := [] }
  ledger := []
  backups := []
  requests := []
  replays := []
  missing := none

end NotificationWorld

/-! ### An installation that links an account -/

namespace Sample

def installationId : String := "11111111111111111111111111111111"

def accountLinkId : String := "22222222222222222222222222222222"

def credential : String := "c1c1c1c1c1c1c1c1c1c1c1c1c1c1c1c1c1c1c1c1c1c1c1c1c1c1c1c1c1c1c1c1"

def fingerprint : String := "ffffffffffffffffffffffffffffffffffffffffffffffffffffffffffffffff"

def account : String := "0x7e5f4552091a69125d5dfcb7b8c2659029395bdf"

def challenge : String := "d1d1d1d1d1d1d1d1d1d1d1d1d1d1d1d1d1d1d1d1d1d1d1d1d1d1d1d1d1d1d1d1"

def secondChallenge : String :=
  "d2d2d2d2d2d2d2d2d2d2d2d2d2d2d2d2d2d2d2d2d2d2d2d2d2d2d2d2d2d2d2d2"

def linkDigest : String := "156a013e55dbc96cfe0ef4ba35fcd95f47456d11b37a78bf6d0305ee0d6192d1"

def signature : String :=
  "0x483d2cfc48ac0561d4e51151e5ecbd8bf417b8e9258886b2f454db2bb98de7da" ++
    "3855cf8e7ca3e5a4c9cce4fee34854f9a3da8cd6f132c92deb4d514b833ee5721b"

def secondSignature : String :=
  "0xc4a863dc3358be6680fffec63e67ad5db6787d02b60d95fe45d47176b3069709" ++
    "3ef48bbbea7c8fab0bb24e43605ea9fac2ec3fb57ec09c95a8dc4c00996c075b1c"

def digests : List (String × String) :=
  [ (credential, "7c04df00709970098da1e698293fa2a10c7d71ab8bd4696a9fad63bf38be0801"),
    (challenge, "ef10d747dfd582f69c152750b7a36498feefcd01028cc5206b9ac0e7437db150"),
    (secondChallenge, "760c29cbe9611967c28af6c06867dd5112267f21ea4a0be9679dc1a92f27c4ee"),
    ("account-link/v1\n" ++ "\x7b\"accountLinkId\":\"22222222222222222222222222222222\"," ++
      "\"installationId\":\"11111111111111111111111111111111\"," ++
      "\"masterAccount\":\"0x7e5f4552091a69125d5dfcb7b8c2659029395bdf\"," ++
      "\"network\":\"testnet\"," ++
      "\"targetAccount\":\"0x7e5f4552091a69125d5dfcb7b8c2659029395bdf\"\x7d", linkDigest) ]

def codes : List (String × String) :=
  [ ("scope/v1|installation|" ++ installationId,
      "d1312678dd337ab7ece28251ac8ba80310ebab44ed0c454d35a8f4cc377389f1"),
    ("scope/v1|account_link|" ++ accountLinkId,
      "70fdad70e40d4eb73fa73b67f6d3c0d318762c4bf3c9a384c8ddb59f331b9271"),
    ("scope/v1|push_token|" ++ fingerprint,
      "330d3f9a1decd0c877bd578e9605f19d739aa267e56aba1245ef9e9c31fd1091") ]

/-- The primitives on what is hashed, authenticated and signed here; the code of a ledger
item, which nothing here looks at, is zero. -/
def recorded : StorePrimitives where
  sha256 := fun text => (digests.lookup text).getD ""
  recoverAddress := fun _ text =>
    if text = signature ∨ text = secondSignature then
      some "0x7E5F4552091A69125d5DfCb7b8C2659029395Bdf"
    else none
  mac := fun _ text => (codes.lookup text).getD
    "0000000000000000000000000000000000000000000000000000000000000000"
  tombstoneKeyVersion := "v1"
  serviceOrigin := "https://notify.example"

def inputs (second : ℤ) : Inputs where
  now := (1700000000 + second) * 1000000
  deletedAt := (1700000000 + second) * 1000
  clock := fun _ =>
    ⟨(1700000000 + second) * 1000000, (1700000000 + second) * 1000000⟩

def issueRequest (challenge : String) : IssueChallengeRequest :=
  ⟨installationId, credential, .testnet, account, account, .accountLink, linkDigest, challenge⟩

def linkRequest (challenge signature : String) (second : ℤ) : VerifyAccountLinkRequest where
  installationId := installationId
  credential := credential
  accountLinkId := accountLinkId
  proof :=
    { challenge := challenge
      message := buildAccountProofMessage
        { challengeHash := ""
          credentialHash := ""
          installationId := installationId
          network := .testnet
          masterAccount := account
          targetAccount := account
          purpose := .accountLink
          operationDigest := linkDigest
          serviceOrigin := "https://notify.example"
          issuedAt := (1700000000 + second) * 1000
          expiresAt := (1700000000 + second) * 1000 + 300000
          consumed := false } challenge
      signature := signature }

def registered : List NotificationEvent :=
  [ .prepareRestore 0, .startReplay, .finishReplay 0 (inputs 0),
    .register ⟨installationId, credential, fingerprint, "55555555555555555555555555555555"⟩
      (inputs 0) ]

def linked : List NotificationEvent :=
  registered ++
    [ .issue (issueRequest challenge) (inputs 0),
      .link (linkRequest challenge signature 0) (inputs 10) ]

def linkedTables : Tables where
  service := ⟨.contracted, .ready, 0, 0, true, false, false⟩
  installations :=
    ⟨[⟨installationId, some "7c04df00709970098da1e698293fa2a10c7d71ab8bd4696a9fad63bf38be0801",
      "d1312678dd337ab7ece28251ac8ba80310ebab44ed0c454d35a8f4cc377389f1", "v1", .active, 1, 0⟩],
      by simp [Table.UniqueKeys]⟩
  pushTokens :=
    ⟨[⟨"55555555555555555555555555555555", installationId, fingerprint,
      "330d3f9a1decd0c877bd578e9605f19d739aa267e56aba1245ef9e9c31fd1091", true⟩],
      by simp [Table.UniqueKeys]⟩
  challenges :=
    ⟨[⟨"ef10d747dfd582f69c152750b7a36498feefcd01028cc5206b9ac0e7437db150",
      "7c04df00709970098da1e698293fa2a10c7d71ab8bd4696a9fad63bf38be0801", installationId,
      .testnet, account, account, .accountLink, linkDigest, "https://notify.example",
      1700000000000, 1700000300000, true⟩], by simp [Table.UniqueKeys]⟩
  accountLinks :=
    ⟨[⟨accountLinkId, installationId, .testnet, account, account, .active, 0,
      "70fdad70e40d4eb73fa73b67f6d3c0d318762c4bf3c9a384c8ddb59f331b9271", "v1"⟩],
      by simp [Table.UniqueKeys]⟩
  rules := .empty
  alerts := .empty
  outbox := .empty
  permits := .empty
  operations := .empty
  tombstones := .empty
  tickets := .empty
  dedupeKeys := []
  monitorLeases := []

def linkedWorld : NotificationWorld := ⟨linkedTables, [], [], [], [⟨0, 0, []⟩], none⟩

theorem run_linked : run (NotificationWorld.step recorded) .initial linked = linkedWorld := by
  decide +kernel

end Sample

end Notifications

end HyperTrader
