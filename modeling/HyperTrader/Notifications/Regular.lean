import HyperTrader.Notifications.Scopes
import HyperTrader.Notifications.Steps

/-!
# What holds in every run

The rows of the scopes and the items of the ledger have the codes of their scopes, an
operation's deletion id names its scope, the ledger is numbered without gaps, and a request
that is committing has read an operation that is there. Backups are of databases of which
the same holds, and a replay goes on with the part of the ledger that it read.
-/

namespace HyperTrader

open Library

namespace Notifications

variable {primitives : StorePrimitives}

def scopeCode (primitives : StorePrimitives) (kind : DeletionScopeKind) (scopeId : String) :
    String :=
  primitives.scopeMac primitives.tombstoneKeyVersion kind scopeId

structure Coded (primitives : StorePrimitives) (tables : Tables) : Prop where
  installations : ∀ scopeId row, tables.installations.find? scopeId = some row →
    row.recoveryScopeMac = scopeCode primitives .installation scopeId ∧
      row.recoveryKeyVersion = primitives.tombstoneKeyVersion
  accountLinks : ∀ scopeId row, tables.accountLinks.find? scopeId = some row →
    row.recoveryScopeMac = scopeCode primitives .accountLink scopeId ∧
      row.recoveryKeyVersion = primitives.tombstoneKeyVersion

structure DeletionTombstoneItem.Coded (primitives : StorePrimitives)
    (item : DeletionTombstoneItem) : Prop where
  scopeKind : item.scopeKind = item.deletionId.kind
  scopeMac : item.scopeMac =
    scopeCode primitives item.deletionId.kind item.deletionId.scopeId

structure TablesRegular (primitives : StorePrimitives) (tables : Tables) : Prop where
  contracted : tables.service.schemaPhase = .contracted
  coded : Coded primitives tables
  names : ∀ operation ∈ tables.operations.rows, operation.Names

section

variable {tables tables' : Tables} {clock : String → FenceClock} {u : Unit}
  {limited : Option String} {now : ℤ}

theorem Coded.succeeds (h : Coded primitives tables) (hnext : tables.Succeeds tables') :
    Coded primitives tables' where
  installations := by
    intro scopeId row' hrow'
    obtain ⟨row, hrow, hsucceeds⟩ := hnext.installations scopeId row' hrow'
    rw [hsucceeds.recoveryScopeMac, hsucceeds.recoveryKeyVersion]
    exact h.installations scopeId row hrow
  accountLinks := by
    intro scopeId row' hrow'
    obtain ⟨row, hrow, hsucceeds⟩ := hnext.accountLinks scopeId row' hrow'
    rw [hsucceeds.recoveryScopeMac, hsucceeds.recoveryKeyVersion]
    exact h.accountLinks scopeId row hrow

theorem TablesRegular.retires (h : TablesRegular primitives tables)
    (hnext : tables.Retires tables') : TablesRegular primitives tables' where
  contracted := (congrArg Prod.fst hnext.restore).trans h.contracted
  coded := h.coded.succeeds hnext.succeeds
  names := by
    intro operation' hoperation'
    rcases hnext.operations.backward operation' hoperation' with
      ⟨operation, hoperation, -, hcontinues⟩ | ⟨hnames, -⟩
    · have hnames := h.names operation hoperation
      exact ⟨by rw [hcontinues.deletionId, hcontinues.scopeKind, hnames.kind],
        by rw [hcontinues.deletionId, hcontinues.scopeId, hnames.scopeId]⟩
    · exact hnames

theorem TablesRegular.withService (h : TablesRegular primitives tables) {service : ServiceState}
    (hcontracted : service.schemaPhase = .contracted) :
    TablesRegular primitives { tables with service := service } :=
  ⟨hcontracted, ⟨h.coded.installations, h.coded.accountLinks⟩, h.names⟩

variable {watermark : ℕ} {request : RegisterInstallationRequest} {item : DeletionTombstoneItem}
  {items : List DeletionTombstoneItem}

theorem TablesRegular.prepareRestore (h : TablesRegular primitives tables) :
    TablesRegular primitives (Notifications.prepareRestore watermark tables) := by
  unfold Notifications.prepareRestore
  rw [if_pos h.contracted]
  exact h.withService h.contracted

theorem operations_prepareRestore (watermark : ℕ) (tables : Tables) :
    (Notifications.prepareRestore watermark tables).operations = tables.operations := by
  unfold Notifications.prepareRestore
  split <;> rfl

/-! ### Insertions of scopes -/

theorem Registered.find? (h : Registered primitives request tables tables') :
    ∃ installation, installation.installationId = request.installationId ∧
      installation.state = .active ∧ installation.revocationGeneration = 0 ∧
      installation.recoveryScopeMac = scopeCode primitives .installation request.installationId ∧
      installation.recoveryKeyVersion = primitives.tombstoneKeyVersion ∧
      tables.installations.find? request.installationId = none ∧
      ∀ scopeId, tables'.installations.find? scopeId =
        if request.installationId = scopeId then some installation
        else tables.installations.find? scopeId := by
  obtain ⟨installation, hid, hactive, hgeneration, hmac, hkeyVersion, hinsert⟩ := h.installations
  refine ⟨installation, hid, hactive, hgeneration, hmac, hkeyVersion, ?_, ?_⟩
  · rw [← hid]
    exact Keyed.find?_eq_none.mpr (Keyed.insert?_eq_some.mp hinsert).1
  · intro scopeId
    rw [Keyed.find?_insert hinsert, hid]

theorem Registered.accountLinks (h : Registered primitives request tables tables') :
    tables'.accountLinks = tables.accountLinks := by
  rw [h.others]

theorem Registered.operations (h : Registered primitives request tables tables') :
    tables'.operations = tables.operations := by
  rw [h.others]

theorem Registered.service (h : Registered primitives request tables tables') :
    tables'.service = tables.service := by
  rw [h.others]

theorem AccountLinked.find? {request : VerifyAccountLinkRequest}
    (h : AccountLinked primitives request tables tables') :
    ∃ link, link.accountLinkId = request.accountLinkId ∧
      link.installationId = request.installationId ∧ link.state = .active ∧
      link.revocationGeneration = 0 ∧
      link.recoveryScopeMac = scopeCode primitives .accountLink request.accountLinkId ∧
      link.recoveryKeyVersion = primitives.tombstoneKeyVersion ∧
      tables.accountLinks.find? request.accountLinkId = none ∧
      ∀ scopeId, tables'.accountLinks.find? scopeId =
        if request.accountLinkId = scopeId then some link
        else tables.accountLinks.find? scopeId := by
  obtain ⟨link, hid, howner, hactive, hgeneration, hmac, hkeyVersion, hinsert⟩ := h.accountLinks
  refine ⟨link, hid, howner, hactive, hgeneration, hmac, hkeyVersion, ?_, ?_⟩
  · rw [← hid]
    exact Keyed.find?_eq_none.mpr (Keyed.insert?_eq_some.mp hinsert).1
  · intro scopeId
    rw [Keyed.find?_insert hinsert, hid]

theorem AccountLinked.installations {request : VerifyAccountLinkRequest}
    (h : AccountLinked primitives request tables tables') :
    tables'.installations = tables.installations := by
  rw [h.others]

theorem AccountLinked.operations {request : VerifyAccountLinkRequest}
    (h : AccountLinked primitives request tables tables') :
    tables'.operations = tables.operations := by
  rw [h.others]

theorem AccountLinked.service {request : VerifyAccountLinkRequest}
    (h : AccountLinked primitives request tables tables') : tables'.service = tables.service := by
  rw [h.others]

theorem TablesRegular.registered (h : TablesRegular primitives tables)
    (hnext : Registered primitives request tables tables') : TablesRegular primitives tables' := by
  obtain ⟨installation, -, -, -, hmac, hkeyVersion, -, hfind⟩ := hnext.find?
  constructor
  · rw [hnext.service]
    exact h.contracted
  · constructor
    · intro scopeId row hrow
      rw [hfind] at hrow
      split at hrow
      · rename_i hsame
        cases hrow
        exact ⟨hsame ▸ hmac, hkeyVersion⟩
      · exact h.coded.installations scopeId row hrow
    · rw [hnext.accountLinks]
      exact h.coded.accountLinks
  · rw [hnext.operations]
    exact h.names

theorem TablesRegular.linked (h : TablesRegular primitives tables)
    {request : VerifyAccountLinkRequest} (hnext : AccountLinked primitives request tables tables') :
    TablesRegular primitives tables' := by
  obtain ⟨link, -, -, -, -, hmac, hkeyVersion, -, hfind⟩ := hnext.find?
  constructor
  · rw [hnext.service]
    exact h.contracted
  · constructor
    · rw [hnext.installations]
      exact h.coded.installations
    · intro scopeId row hrow
      rw [hfind] at hrow
      split at hrow
      · rename_i hsame
        cases hrow
        exact ⟨hsame ▸ hmac, hkeyVersion⟩
      · exact h.coded.accountLinks scopeId row hrow
  · rw [hnext.operations]
    exact h.names

/-! ### More statements that retire scopes -/

theorem retires_rotate {installationId credential newCredential : String} {generation : ℕ}
    (h : rotateInstallationCredential primitives installationId credential newCredential limited
      tables = .ok (generation, tables')) : tables.Retires tables' := by
  obtain ⟨-, newHash, rfl⟩ := credentialRotated_of_eq_ok h
  refine .of_succeeds ?_ rfl rfl
  refine .installationUpdate ?_ rfl (.inl rfl) ?_
  · intro row
    rfl
  · intro row _ _
    exact ⟨rfl, rfl, id⟩

theorem retires_issue {request : IssueChallengeRequest} {record : ChallengeRow}
    (h : issueAccountLinkChallenge primitives request limited now tables =
      .ok (record, tables')) : tables.Retires tables' := by
  obtain ⟨-, challenges, -, rfl⟩ := issueAccountLinkChallenge_eq_ok h
  exact .of_succeeds (.of_eq rfl rfl) rfl rfl

theorem retires_elsewhere (tables other : Tables) :
    tables.Retires (NotificationWorld.elsewhere tables other) :=
  .of_succeeds (.of_eq rfl rfl) rfl rfl

theorem activateWorkerGates_eq_ok
    (h : Notifications.activateWorkerGates tables = .ok (u, tables')) :
    (∀ operation ∈ tables.operations.rows, operation.draining = false) ∧
      tables' = { tables with service :=
        { tables.service with monitorsEnabled := true, deliveryEnabled := true } } := by
  simp only [Notifications.activateWorkerGates, Transaction.bind_eq_ok, Transaction.read_eq_ok,
    Transaction.ensure_eq_ok, change_eq_ok] at h
  obtain ⟨_, _, ⟨rfl, rfl⟩, _, _, ⟨-, rfl⟩, _, _, ⟨⟨-, hdrained⟩, rfl⟩, rfl⟩ := h
  exact ⟨hdrained, rfl⟩

theorem retires_activateWorkerGates
    (h : Notifications.activateWorkerGates tables = .ok (u, tables')) : tables.Retires tables' := by
  obtain ⟨-, rfl⟩ := activateWorkerGates_eq_ok h
  exact .of_succeeds (.of_eq rfl rfl) rfl rfl

theorem retires_foldl {α : Type} {f : Tables → α → Tables}
    (hf : ∀ tables a, Tables.Retires tables (f tables a)) (as : List α) (tables : Tables) :
    tables.Retires (as.foldl f tables) := by
  induction as generalizing tables with
  | nil => exact .refl tables
  | cons a as ih => exact (hf tables a).trans (ih _)

theorem retires_replayInstallation (tables : Tables) (installation : InstallationRow) :
    tables.Retires (replayInstallation item clock tables installation) :=
  retires_fence.trans retires_revokeInstallationRows

theorem retires_replayAccountLink (tables : Tables) (link : AccountLinkRow) :
    tables.Retires (replayAccountLink item clock tables link) :=
  retires_fence.trans retires_unlinkAccountRows

theorem retires_replayScope : tables.Retires (replayScope item clock tables) := by
  unfold replayScope
  cases item.scopeKind with
  | installation => exact retires_foldl retires_replayInstallation _ _
  | accountLink => exact retires_foldl retires_replayAccountLink _ _
  | pushToken => exact .of_succeeds (.of_eq rfl rfl) rfl rfl

theorem retires_replayItems {currentHead : ℕ}
    (h : replayItems currentHead clock items tables = .ok (u, tables')) :
    tables.Retires tables' := by
  induction items generalizing tables with
  | nil =>
    obtain ⟨-, rfl⟩ := Transaction.pure_eq_ok.mp h
    exact .refl tables
  | cons item items ih =>
    simp only [replayItems, Transaction.bind_eq_ok, change_eq_ok] at h
    obtain ⟨_, _, rfl, _, _, hrecord, hrest⟩ := h
    exact (retires_replayScope.trans (retires_recordDeletionTombstone hrecord)).trans (ih hrest)

theorem replayRestore_eq_ok {head confirmed : ℕ}
    (hcontracted : tables.service.schemaPhase = .contracted)
    (h : replayRestore watermark head items clock confirmed tables = .ok (u, tables')) :
    tables.service.restoreState = .replaying ∧ tables.service.ledgerWatermark = watermark ∧
      confirmed = head ∧ ∃ middle, replayItems head clock items tables = .ok ((), middle) ∧
        tables' = { middle with service :=
          { middle.service with
            restoreState := .ready
            ledgerWatermark := head
            ledgerHead := head
            mutationsEnabled := true
            monitorsEnabled := false
            deliveryEnabled := false } } := by
  simp only [replayRestore, Transaction.bind_eq_ok, Transaction.read_eq_ok,
    Transaction.ensure_eq_ok, change_eq_ok] at h
  obtain ⟨_, _, ⟨rfl, rfl⟩, _, _, ⟨⟨hreplaying, hwatermark⟩, rfl⟩, _, middle, hitems, _, _,
    ⟨hhead, rfl⟩, rfl⟩ := h
  have hphase : middle.service.schemaPhase = .contracted :=
    (congrArg Prod.fst (retires_replayItems hitems).restore).trans hcontracted
  rw [if_pos hphase]
  exact ⟨hreplaying, hwatermark, hhead, middle, hitems, rfl⟩

theorem retires_commit {kind : DeletionScopeKind} (hkind : kind ≠ .pushToken)
    {operationId : String} {view : OperationView}
    {receipt : DeletionLedgerReceipt} {inputs : Inputs}
    (h : NotificationWorld.commit kind operationId view item receipt inputs tables =
      .ok (u, tables')) : tables.Retires tables' := by
  cases kind with
  | accountLink => exact retires_commitAccountLink h
  | installation => exact retires_commitInstallation h
  | pushToken => exact absurd rfl hkind

end

/-! ### Requests -/

namespace CommitStage

def view : CommitStage → Option OperationView
  | .reading => none
  | .counting view => some view
  | .appending view => some view
  | .committing view _ _ => some view

end CommitStage

structure ViewSound (primitives : StorePrimitives) (tables : Tables) (kind : DeletionScopeKind)
    (operationId : String) (view : OperationView) : Prop where
  operation : ∃ operation ∈ tables.operations.rows, operation.operationId = operationId ∧
    operation.scopeKind = kind ∧ operation.scopeId = view.scopeId ∧
      operation.deletionId = view.deletionId
  keyVersion : view.recoveryKeyVersion = primitives.tombstoneKeyVersion

def StageSound (primitives : StorePrimitives) (tables : Tables) (kind : DeletionScopeKind)
    (stage : RequestStage) : Prop :=
  ∀ results operationId commitStage rest view,
    stage = .committing results operationId commitStage rest → commitStage.view = some view →
      ViewSound primitives tables kind operationId view

variable {kind : DeletionScopeKind} {operationId : String} {results : List DrainResponse}
  {rest : List String}

theorem ViewSound.kept {tables tables' : Tables} {view : OperationView}
    (h : ViewSound primitives tables kind operationId view)
    (hkept : ∀ operation ∈ tables.operations.rows, ∃ operation' ∈ tables'.operations.rows,
      operation.Continues operation') : ViewSound primitives tables' kind operationId view where
  operation := by
    obtain ⟨operation, hoperation, hid, hkind, hscopeId, hdeletionId⟩ := h.operation
    obtain ⟨operation', hoperation', hcontinues⟩ := hkept operation hoperation
    exact ⟨operation', hoperation', hcontinues.operationId.trans hid,
      hcontinues.scopeKind.trans hkind, hcontinues.scopeId.trans hscopeId,
      hcontinues.deletionId.trans hdeletionId⟩
  keyVersion := h.keyVersion

theorem stageSound_nextStage {tables : Tables}
    : StageSound primitives tables kind (nextStage results rest) := by
  intro _ _ _ _ view hstage hview
  cases rest with
  | nil => cases hstage
  | cons operationId rest =>
    cases hstage
    cases hview

theorem stageSound_answered {tables : Tables} {result : Except StoreFailure (List DrainResponse)} :
    StageSound primitives tables kind (.answered result) := by
  intro _ _ _ _ _ hstage _
  cases hstage

theorem stageSound_committing {tables : Tables} {commitStage : CommitStage} {view : OperationView}
    (h : ViewSound primitives tables kind operationId view) (hview : commitStage.view = some view) :
    StageSound primitives tables kind (.committing results operationId commitStage rest) := by
  intro _ _ _ _ view' hstage hview'
  cases hstage
  rw [hview] at hview'
  cases hview'
  exact h

theorem viewSound_readOperation {tables : Tables}
    {view : OperationView} (hcoded : Coded primitives tables) (hkind : kind ≠ .pushToken)
    (h : NotificationWorld.readOperation kind operationId tables = .ok view)
    (hdraining : view.ledgerSequence = none) :
    ViewSound primitives tables kind operationId view := by
  cases kind with
  | installation =>
    simp only [NotificationWorld.readOperation, readInstallationOperation] at h
    split at h
    · cases h
    · rename_i operation hfound
      split at h
      · rename_i hscopeKind
        split at h
        · cases h
        · rename_i installation hinstallation
          cases h
          obtain ⟨hmem, hid⟩ := Keyed.find?_eq_some.mp hfound
          exact ⟨⟨operation, hmem, hid, hscopeKind, rfl, rfl⟩,
            (hcoded.installations _ _ hinstallation).2⟩
      · cases h
  | accountLink =>
    simp only [NotificationWorld.readOperation, readAccountLinkOperation] at h
    split at h
    · cases h
    · rename_i operation hfound
      split at h
      · rename_i hscopeKind
        split at h
        · split at h
          · cases h
          · rename_i hcommitted
            cases h
            have hsome : operation.ledgerSequence ≠ none := by
              simpa [OperationRow.draining] using hcommitted
            exact absurd hdraining hsome
        · rename_i link hlink
          cases h
          obtain ⟨hmem, hid⟩ := Keyed.find?_eq_some.mp hfound
          exact ⟨⟨operation, hmem, hid, hscopeKind, rfl, rfl⟩, (hcoded.accountLinks _ _ hlink).2⟩
      · cases h
  | pushToken => exact absurd rfl hkind

theorem RevocationRequest.kind_ne (request : RevocationRequest) : request.kind ≠ .pushToken := by
  cases request <;> simp [RevocationRequest.kind]

def OperationsKept (tables tables' : Tables) : Prop :=
  ∀ operation ∈ tables.operations.rows, ∃ operation' ∈ tables'.operations.rows,
    operation.Continues operation'

theorem OperationsKept.of_eq {tables tables' : Tables}
    (h : tables'.operations = tables.operations) : OperationsKept tables tables' := by
  intro operation hoperation
  rw [h]
  exact ⟨operation, hoperation, .refl operation⟩

theorem Tables.Retires.operationsKept {tables tables' : Tables} (h : tables.Retires tables') :
    OperationsKept tables tables' := by
  intro operation hoperation
  obtain ⟨operation', hoperation', -, hcontinues⟩ := h.operations.forward operation hoperation
  exact ⟨operation', hoperation', hcontinues⟩

namespace NotificationWorld

structure Regular (primitives : StorePrimitives) (world : NotificationWorld) : Prop where
  sequences : ∀ (i : ℕ) (item : DeletionTombstoneItem), world.ledger[i]? = some item →
    item.sequence = i + 1
  items : ∀ item ∈ world.ledger, item.Coded primitives
  tables : TablesRegular primitives world.tables
  backups : ∀ backup ∈ world.backups,
    TablesRegular primitives backup.tables ∧ backup.head ≤ world.ledger.length
  requests : ∀ (i : ℕ) (process : RequestProcess), world.requests[i]? = some process →
    StageSound primitives world.tables process.request.kind process.stage
  replays : ∀ replay ∈ world.replays, replay.head ≤ world.ledger.length ∧
    replay.items = readRange world.ledger replay.watermark replay.head
  missing : ∀ head, world.missing = some head → head ≤ world.ledger.length ∧
    world.tables.service.restoreState = .replaying

variable {world : NotificationWorld} {item : DeletionTombstoneItem} {i watermark : ℕ}
  {request : RevocationRequest} {stage : RequestStage} {inputs : Inputs} {kind : DeletionScopeKind}
  {operationId : String} {deletedAt : ℤ} {ledger : List DeletionTombstoneItem}

theorem Regular.sequence_le (h : world.Regular primitives)
    (hitem : item ∈ world.ledger) : item.sequence ≤ world.ledger.length := by
  obtain ⟨i, hi⟩ := List.getElem?_of_mem hitem
  have hlt := (List.getElem?_eq_some_iff.mp hi).1
  have hsequence := h.sequences i item hi
  omega

theorem Regular.replaceTables (h : world.Regular primitives) {tables : Tables}
    (htables : TablesRegular primitives tables) (hkept : OperationsKept world.tables tables)
    (hrestore : tables.restore = world.tables.restore) :
    Regular primitives { world with tables := tables } where
  sequences := h.sequences
  items := h.items
  tables := htables
  backups := h.backups
  requests := by
    intro i process hprocess results operationId commitStage rest view hstage hview
    exact (h.requests i process hprocess results operationId commitStage rest view hstage
      hview).kept hkept
  replays := h.replays
  missing := by
    intro head hhead
    obtain ⟨hle, hreplaying⟩ := h.missing head hhead
    obtain ⟨hstate, -⟩ := Prod.mk.inj (Prod.mk.inj hrestore).2
    exact ⟨hle, hstate.trans hreplaying⟩

theorem Regular.retires (h : world.Regular primitives) {tables : Tables}
    (htables : world.tables.Retires tables) : Regular primitives { world with tables := tables } :=
  h.replaceTables (h.tables.retires htables) htables.operationsKept htables.restore

theorem Regular.setStage (h : world.Regular primitives)
    (hstage : StageSound primitives world.tables request.kind stage) :
    Regular primitives (world.setStage i request stage) where
  sequences := h.sequences
  items := h.items
  tables := h.tables
  backups := h.backups
  requests := by
    intro j process hprocess
    rcases getElem?_set_cases hprocess with ⟨-, rfl⟩ | ⟨-, hold⟩
    · exact hstage
    · exact h.requests j process hold
  replays := h.replays
  missing := h.missing

theorem Regular.transact (h : world.Regular primitives) {α : Type}
    {statement : Statement α} (hstatement : ∀ a tables, statement world.tables = .ok (a, tables) →
      world.tables.Retires tables) : Regular primitives (world.transact inputs statement) := by
  rcases transact_cases with hsame | ⟨a, tables, hok, hnext⟩
  · rw [hsame]
    exact h
  · rw [hnext]
    exact h.retires (hstatement a tables hok)

theorem append_coded (h : world.Regular primitives) {view : OperationView}
    (hview : ViewSound primitives world.tables kind operationId view) :
    ∀ item ∈ (append primitives world kind view deletedAt).2, item.Coded primitives := by
  unfold append appendItem
  split
  · exact h.items
  · obtain ⟨⟨operation, hoperation, -, hkind, hscopeId, hdeletionId⟩, hkeyVersion⟩ := hview
    have hnames := h.tables.names operation hoperation
    intro item hitem
    rcases List.mem_append.mp hitem with hold | hlast
    · exact h.items item hold
    · rw [List.mem_singleton.mp hlast]
      constructor
      · exact (hdeletionId ▸ hnames.kind.trans hkind).symm
      · change primitives.scopeMac view.recoveryKeyVersion kind view.scopeId = _
        rw [hkeyVersion, ← hdeletionId, hnames.kind, hnames.scopeId, hkind, hscopeId]
        rfl

theorem append_cases (primitives : StorePrimitives) (world : NotificationWorld)
    (kind : DeletionScopeKind) (view : OperationView) (deletedAt : ℤ) :
    (append primitives world kind view deletedAt).2 = world.ledger ∨
      ∃ item : DeletionTombstoneItem, item.sequence = world.ledger.length + 1 ∧
        item.deletionId = view.deletionId ∧
        (append primitives world kind view deletedAt).2 = world.ledger ++ [item] := by
  unfold append appendItem
  split
  · exact .inl rfl
  · exact .inr ⟨_, rfl, rfl, rfl⟩

theorem readRange_append {head : ℕ} (hitem : head < item.sequence) :
    readRange (ledger ++ [item]) watermark head = readRange ledger watermark head := by
  unfold readRange
  rw [List.filter_append]
  simp [Nat.not_le.mpr hitem]

theorem Regular.append (h : world.Regular primitives) {view : OperationView}
    (hview : ViewSound primitives world.tables kind operationId view) :
    Regular primitives
      { world with ledger := (append primitives world kind view deletedAt).2 } := by
  have hcoded : ∀ item ∈ (NotificationWorld.append primitives world kind view deletedAt).2,
      item.Coded primitives := append_coded h hview
  rcases append_cases primitives world kind view deletedAt with
    hsame | ⟨item, hsequence, -, hledger⟩
  · rw [hsame]
    exact h
  · rw [hledger] at hcoded ⊢
    have hlength : world.ledger.length ≤ (world.ledger ++ [item]).length := by simp
    constructor
    · intro i other hother
      rcases getElem?_append_cases hother with hold | ⟨hlast, rfl⟩
      · exact h.sequences i other hold
      · rw [hlast, hsequence]
    · exact hcoded
    · exact h.tables
    · intro backup hbackup
      obtain ⟨htables, hhead⟩ := h.backups backup hbackup
      exact ⟨htables, hhead.trans hlength⟩
    · exact h.requests
    · intro replay hreplay
      obtain ⟨hhead, hitems⟩ := h.replays replay hreplay
      refine ⟨hhead.trans hlength, ?_⟩
      rw [hitems, readRange_append]
      omega
    · intro head hhead
      obtain ⟨hle, hrest⟩ := h.missing head hhead
      exact ⟨hle.trans hlength, hrest⟩

theorem Progress.effects {stage' : RequestStage} {tables : Tables}
    (h : Progress primitives world request inputs stage stage' ledger tables)
    (hregular : world.Regular primitives)
    (hstage : StageSound primitives world.tables request.kind stage) :
    world.tables.Retires tables ∧ StageSound primitives tables request.kind stage' ∧
      Regular primitives { world with ledger := ledger } := by
  cases h with
  | started h => exact ⟨retires_start h, stageSound_nextStage, hregular⟩
  | refused h => exact ⟨.refl _, stageSound_answered, hregular⟩
  | failed failure => exact ⟨.refl _, stageSound_answered, hregular⟩
  | done hread hsequence => exact ⟨.refl _, stageSound_nextStage, hregular⟩
  | read hread hsequence =>
    have hview := viewSound_readOperation hregular.tables.coded request.kind_ne hread hsequence
    exact ⟨.refl _, stageSound_committing hview rfl, hregular⟩
  | pending hpending => exact ⟨.refl _, stageSound_nextStage, hregular⟩
  | counted hidle =>
    have hview := hstage _ _ _ _ _ rfl rfl
    exact ⟨.refl _, stageSound_committing hview rfl, hregular⟩
  | lost failure =>
    have hview := hstage _ _ _ _ _ rfl rfl
    exact ⟨.refl _, stageSound_answered, hregular.append hview⟩
  | appended =>
    have hview := hstage _ _ _ _ _ rfl rfl
    exact ⟨.refl _, stageSound_committing hview rfl, hregular.append hview⟩
  | committed _ h => exact ⟨retires_commit request.kind_ne h, stageSound_nextStage, hregular⟩
  | postponed => exact ⟨.refl _, stageSound_nextStage, hregular⟩
  | answered => exact ⟨.refl _, stageSound_answered, hregular⟩

theorem Regular.proceed (h : world.Regular primitives) {process : RequestProcess}
    (hprocess : world.requests[i]? = some process) :
    (world.proceed primitives i process inputs).Regular primitives := by
  obtain ⟨stage, ledger, tables, hprogress, hworld⟩ := proceed_cases primitives inputs hprocess
  obtain ⟨hretires, hsound, hregular⟩ := hprogress.effects h (h.requests i process hprocess)
  rw [hworld]
  exact (hregular.retires hretires).setStage hsound

theorem Regular.restore (h : world.Regular primitives) {backup : Backup}
    (hbackup : backup ∈ world.backups) :
    Regular primitives
      { world with
        tables := Notifications.prepareRestore backup.head backup.tables
        requests := []
        replays := []
        missing := some backup.head } := by
  obtain ⟨htables, hhead⟩ := h.backups backup hbackup
  constructor
  · exact h.sequences
  · exact h.items
  · exact htables.prepareRestore
  · exact h.backups
  · intro i process hprocess
    simp at hprocess
  · intro replay hreplay
    simp at hreplay
  · intro head hmissing
    obtain rfl : backup.head = head := Option.some.inj hmissing
    change _ ∧ (Notifications.prepareRestore _ _).service.restoreState = _
    rw [Notifications.prepareRestore, if_pos htables.contracted]
    exact ⟨hhead, rfl⟩

theorem Regular.prepareRestore (h : world.Regular primitives) :
    Regular primitives
      { world with tables := Notifications.prepareRestore watermark world.tables } := by
  constructor
  · exact h.sequences
  · exact h.items
  · exact h.tables.prepareRestore
  · exact h.backups
  · intro i process hprocess results operationId commitStage rest view hstage hview
    apply (h.requests i process hprocess results operationId commitStage rest view hstage
      hview).kept
    exact OperationsKept.of_eq (operations_prepareRestore watermark world.tables)
  · exact h.replays
  · intro head hhead
    change _ ∧ (Notifications.prepareRestore _ _).service.restoreState = _
    rw [Notifications.prepareRestore, if_pos h.tables.contracted]
    exact ⟨(h.missing head hhead).1, rfl⟩

theorem startReplay_cases (primitives : StorePrimitives) (world : NotificationWorld) :
    world.startReplay primitives = world ∨
      (world.tables.service.restoreState = .replaying ∧
        verifyTombstoneReplay primitives world.tables.service.ledgerWatermark
          world.ledger.length (readRange world.ledger world.tables.service.ledgerWatermark
            world.ledger.length) = .ok () ∧
        world.startReplay primitives = { world with
          replays := world.replays ++ [⟨world.tables.service.ledgerWatermark,
            world.ledger.length, readRange world.ledger world.tables.service.ledgerWatermark
              world.ledger.length⟩] }) := by
  unfold NotificationWorld.startReplay
  simp only
  split
  · rename_i hready
    split
    · rename_i hverified
      exact .inr ⟨hready.2, hverified, rfl⟩
    · exact .inl rfl
  · exact .inl rfl

theorem Regular.startReplay (h : world.Regular primitives) :
    (world.startReplay primitives).Regular primitives := by
  rcases startReplay_cases primitives world with hsame | ⟨-, -, hnext⟩
  · rw [hsame]
    exact h
  · rw [hnext]
    refine ⟨h.sequences, h.items, h.tables, h.backups, h.requests, ?_, h.missing⟩
    intro replay hreplay
    rcases List.mem_append.mp hreplay with hold | hlast
    · exact h.replays replay hold
    · rw [List.mem_singleton.mp hlast]
      exact ⟨le_refl _, rfl⟩

theorem finishReplay_cases (world : NotificationWorld) (replay : Replay) (inputs : Inputs) :
    world.finishReplay replay inputs = world ∨
      ∃ tables, replayRestore replay.watermark replay.head replay.items inputs.clock
          world.ledger.length world.tables = .ok ((), tables) ∧
        world.finishReplay replay inputs = { world with tables := tables, missing := none } := by
  unfold NotificationWorld.finishReplay
  split
  · rename_i tables hresult
    exact .inr ⟨tables, (Transaction.atomically_eq_ok.mp hresult).2, rfl⟩
  · exact .inl rfl

theorem Regular.finishReplay (h : world.Regular primitives) {replay : Replay}
    : (world.finishReplay replay inputs).Regular primitives := by
  rcases finishReplay_cases world replay inputs with hsame | ⟨tables, hreplay, hnext⟩
  · rw [hsame]
    exact h
  · rw [hnext]
    obtain ⟨-, -, -, middle, hitems, rfl⟩ := replayRestore_eq_ok h.tables.contracted hreplay
    have hretires := retires_replayItems hitems
    have hmiddle := h.tables.retires hretires
    constructor
    · exact h.sequences
    · exact h.items
    · exact hmiddle.withService hmiddle.contracted
    · exact h.backups
    · intro i process hprocess results operationId commitStage rest view hstage hview
      exact (h.requests i process hprocess results operationId commitStage rest view hstage
        hview).kept hretires.operationsKept
    · exact h.replays
    · intro head hhead
      cases hhead

theorem Regular.register (h : world.Regular primitives) {request : RegisterInstallationRequest}
    : Regular primitives
      (world.transact inputs (registerInstallation primitives request inputs.limited)) := by
  rcases transact_cases with hsame | ⟨u, tables, hok, hnext⟩
  · rw [hsame]
    exact h
  · rw [hnext]
    have hregistered := registered_of_eq_ok hok
    apply h.replaceTables (h.tables.registered hregistered)
    · exact OperationsKept.of_eq hregistered.operations
    · unfold Tables.restore
      rw [hregistered.service]

theorem Regular.link (h : world.Regular primitives) {request : VerifyAccountLinkRequest}
    : Regular primitives (world.transact inputs
        (verifyAccountLinkProof primitives request inputs.limited inputs.now)) := by
  rcases transact_cases with hsame | ⟨u, tables, hok, hnext⟩
  · rw [hsame]
    exact h
  · rw [hnext]
    have hlinked := accountLinked_of_eq_ok hok
    apply h.replaceTables (h.tables.linked hlinked)
    · exact OperationsKept.of_eq hlinked.operations
    · unfold Tables.restore
      rw [hlinked.service]

theorem Regular.step (h : world.Regular primitives) (event : NotificationEvent) :
    (world.step primitives event).Regular primitives := by
  cases event with
  | register request inputs => exact h.register
  | link request inputs => exact h.link
  | rotate installationId credential newCredential inputs =>
    exact h.transact fun _ _ => retires_rotate
  | issue request inputs => exact h.transact fun _ _ => retires_issue
  | elsewhere tables => exact h.retires (retires_elsewhere _ _)
  | arrive request =>
    refine ⟨h.sequences, h.items, h.tables, h.backups, ?_, h.replays, h.missing⟩
    intro i process hprocess
    rcases getElem?_append_cases hprocess with hold | ⟨-, rfl⟩
    · exact h.requests i process hold
    · intro _ _ _ _ _ hstage _
      cases hstage
  | proceed i inputs =>
    simp only [NotificationWorld.step]
    split
    · rename_i process hprocess
      exact h.proceed hprocess
    · exact h
  | activateWorkerGates inputs => exact h.transact fun _ _ => retires_activateWorkerGates
  | backup =>
    refine ⟨h.sequences, h.items, h.tables, ?_, h.requests, h.replays, h.missing⟩
    intro backup hbackup
    rcases List.mem_append.mp hbackup with hold | hlast
    · exact h.backups backup hold
    · rw [List.mem_singleton.mp hlast]
      refine ⟨h.tables, ?_⟩
      cases hmissing : world.missing with
      | none => exact le_refl _
      | some head => exact (h.missing head hmissing).1
  | restore i =>
    simp only [NotificationWorld.step]
    split
    · rename_i backup hbackup
      exact h.restore (List.mem_of_getElem? hbackup)
    · exact h
  | prepareRestore watermark => exact h.prepareRestore
  | startReplay => exact h.startReplay
  | finishReplay i inputs =>
    simp only [NotificationWorld.step]
    split
    · exact h.finishReplay
    · exact h

theorem regular_initial : initial.Regular primitives := by
  constructor
  · intro i item hitem
    simp [initial] at hitem
  · intro item hitem
    simp [initial] at hitem
  · refine ⟨rfl, ⟨?_, ?_⟩, ?_⟩ <;> intro _ <;> simp [initial]
  · intro backup hbackup
    simp [initial] at hbackup
  · intro i process hprocess
    simp [initial] at hprocess
  · intro replay hreplay
    simp [initial] at hreplay
  · intro head hhead
    cases hhead

/-! ### Where a replay begins -/

/-- The operator prepares the replay of a restored backup from no watermark beyond it. -/
def PreparesBackup (world : NotificationWorld) : NotificationEvent → Prop
  | .prepareRestore backupWatermark => ∀ head ∈ world.missing, backupWatermark ≤ head
  | .register .. | .rotate .. | .issue .. | .link .. | .elsewhere _ | .arrive _ | .proceed ..
  | .activateWorkerGates _ | .backup | .restore _ | .startReplay | .finishReplay .. => True

instance (world : NotificationWorld) (event : NotificationEvent) :
    Decidable (world.PreparesBackup event) :=
  match event with
  | .prepareRestore _ => inferInstanceAs (Decidable (∀ head ∈ world.missing, _ ≤ head))
  | .register .. | .rotate .. | .issue .. | .link .. | .elsewhere _ | .arrive _ | .proceed ..
  | .activateWorkerGates _ | .backup | .restore _ | .startReplay | .finishReplay .. =>
    inferInstanceAs (Decidable True)

def Marked (world : NotificationWorld) : Prop :=
  ∀ head, world.missing = some head → world.tables.service.ledgerWatermark ≤ head

theorem Marked.of_restore (h : world.Marked) {after : NotificationWorld}
    (hmissing : after.missing = world.missing)
    (hrestore : after.tables.restore = world.tables.restore) : after.Marked := by
  intro head hhead
  have hwatermark := (Prod.mk.inj (Prod.mk.inj hrestore).2).2
  exact hwatermark.le.trans (h head (hmissing.symm.trans hhead))

theorem Marked.transact (h : world.Marked) {α : Type} {statement : Statement α}
    (hstatement : ∀ a tables, statement world.tables = .ok (a, tables) →
      tables.restore = world.tables.restore) : Marked (world.transact inputs statement) := by
  rcases transact_cases with hsame | ⟨a, tables, hok, hnext⟩
  · rw [hsame]
    exact h
  · rw [hnext]
    exact h.of_restore rfl (hstatement a tables hok)

theorem Marked.step (h : world.Marked) (hregular : world.Regular primitives)
    {event : NotificationEvent} (hevent : world.PreparesBackup event) :
    (world.step primitives event).Marked := by
  cases event with
  | register request inputs =>
    refine h.transact fun u tables hok => ?_
    unfold Tables.restore
    rw [(registered_of_eq_ok hok).service]
  | link request inputs =>
    refine h.transact fun u tables hok => ?_
    unfold Tables.restore
    rw [(accountLinked_of_eq_ok hok).service]
  | rotate installationId credential newCredential inputs =>
    exact h.transact fun _ _ hok => (retires_rotate hok).restore
  | issue request inputs => exact h.transact fun _ _ hok => (retires_issue hok).restore
  | elsewhere tables => exact h.of_restore rfl (retires_elsewhere _ _).restore
  | arrive request => exact h
  | proceed i inputs =>
    simp only [NotificationWorld.step]
    split
    · rename_i process hprocess
      obtain ⟨stage, ledger, tables, hprogress, hworld⟩ :=
        proceed_cases primitives inputs hprocess
      rw [hworld]
      exact h.of_restore rfl
        (hprogress.effects hregular (hregular.requests i process hprocess)).1.restore
    · exact h
  | activateWorkerGates inputs =>
    exact h.transact fun _ _ hok => (retires_activateWorkerGates hok).restore
  | backup => exact h
  | restore i =>
    simp only [NotificationWorld.step]
    split
    · rename_i backup hbackup
      rintro head ⟨⟩
      have hcontracted := (hregular.backups backup (List.mem_of_getElem? hbackup)).1.contracted
      change (Notifications.prepareRestore _ _).service.ledgerWatermark ≤ _
      rw [Notifications.prepareRestore, if_pos hcontracted]
    · exact h
  | prepareRestore watermark =>
    intro head hhead
    have hle : watermark ≤ head := hevent head hhead
    change (Notifications.prepareRestore _ _).service.ledgerWatermark ≤ _
    rw [Notifications.prepareRestore, if_pos hregular.tables.contracted]
    exact hle
  | startReplay =>
    simp only [NotificationWorld.step]
    rcases startReplay_cases primitives world with hsame | ⟨-, -, hnext⟩
    · rw [hsame]
      exact h
    · rw [hnext]
      exact h
  | finishReplay i inputs =>
    simp only [NotificationWorld.step]
    split
    · rename_i replay hreplay
      rcases finishReplay_cases world replay inputs with hsame | ⟨tables, -, hnext⟩
      · rw [hsame]
        exact h
      · rw [hnext]
        rintro head ⟨⟩
    · exact h

theorem marked_initial : initial.Marked := by
  rintro head ⟨⟩

end NotificationWorld

end Notifications

end HyperTrader
