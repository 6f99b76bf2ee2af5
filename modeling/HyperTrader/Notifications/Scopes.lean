import HyperTrader.Notifications.Requests

/-!
# Scopes across transactions

What the statements do to the rows of the scopes, the installations and the account links.
Fences and deletions of rules leave them as they are. No statement makes a scope active
that was not, apart from the insertions of new ones: `Succeeds` says so of two databases,
and `Retires` adds that the operations that are new name scopes that are not active.
-/

namespace HyperTrader

open Library

namespace Notifications

section

variable {tables tables' : Tables} {selects : String → Option String → Option String → Bool}
  {scope : Option String → Option String} {deletionId : DeletionId} {force : Bool}
  {clock : FenceClock} {installationId accountLinkId : String} {state : ScopeState}

/-! ### What each statement leaves alone -/

variable {rules : RuleRow → Bool} {links : AccountLinkRow → Bool}

variable {generation : InstallationRow → ℕ}

@[simp] theorem accountLinks_revokeInstallationRows :
    (revokeInstallationRows installationId generation tables).accountLinks =
      tables.accountLinks.delete fun link => link.installationId = installationId := rfl

@[simp] theorem accountLinks_unlinkAccountRows :
    (unlinkAccountRows accountLinkId tables).accountLinks =
      tables.accountLinks.delete fun link => link.accountLinkId = accountLinkId := rfl

theorem recordDeletionTombstone_eq_ok {item : DeletionTombstoneItem}
    {receipt : DeletionLedgerReceipt} {u : Unit}
    (h : recordDeletionTombstone item receipt tables = .ok (u, tables')) :
    tables' = { tables with tombstones := tables'.tombstones } := by
  unfold recordDeletionTombstone at h
  rw [Transaction.write_eq_ok] at h
  split at h
  · split at h
    · cases h
      rfl
    · cases h
  · split at h
    · cases h
    · split at h
      · cases h
        rfl
      · cases h

theorem commitOperation_eq_ok {operationId : String} {sequence : ℕ} {u : Unit}
    (h : commitOperation operationId sequence tables = .ok (u, tables')) :
    tables' = { tables with
      operations := tables.operations.update
        (fun operation => operation.operationId = operationId)
        (fun operation => { operation with ledgerSequence := some sequence }) fun _ => rfl } := by
  unfold commitOperation at h
  rw [Transaction.write_eq_ok] at h
  split at h
  · cases h
  · cases h
    rfl

end

/-! ### Scopes that are not revived -/

namespace InstallationRow

structure Succeeds (row row' : InstallationRow) : Prop where
  recoveryScopeMac : row'.recoveryScopeMac = row.recoveryScopeMac
  recoveryKeyVersion : row'.recoveryKeyVersion = row.recoveryKeyVersion
  active : row'.state = .active → row.state = .active

end InstallationRow

namespace AccountLinkRow

structure Succeeds (row row' : AccountLinkRow) : Prop where
  installationId : row'.installationId = row.installationId
  recoveryScopeMac : row'.recoveryScopeMac = row.recoveryScopeMac
  recoveryKeyVersion : row'.recoveryKeyVersion = row.recoveryKeyVersion
  active : row'.state = .active → row.state = .active

end AccountLinkRow

namespace Tables

def scopeState (tables : Tables) : DeletionScopeKind → String → Option ScopeState
  | .installation, scopeId => (tables.installations.find? scopeId).map InstallationRow.state
  | .accountLink, scopeId => (tables.accountLinks.find? scopeId).map AccountLinkRow.state
  | .pushToken, _ => none

@[simp] theorem scopeState_installation (tables : Tables) (scopeId : String) :
    tables.scopeState .installation scopeId =
      (tables.installations.find? scopeId).map InstallationRow.state := rfl

@[simp] theorem scopeState_accountLink (tables : Tables) (scopeId : String) :
    tables.scopeState .accountLink scopeId =
      (tables.accountLinks.find? scopeId).map AccountLinkRow.state := rfl

@[simp] theorem scopeState_pushToken (tables : Tables) (scopeId : String) :
    tables.scopeState .pushToken scopeId = none := rfl

structure Succeeds (tables tables' : Tables) : Prop where
  installations : ∀ scopeId row', tables'.installations.find? scopeId = some row' →
    ∃ row, tables.installations.find? scopeId = some row ∧ row.Succeeds row'
  accountLinks : ∀ scopeId row', tables'.accountLinks.find? scopeId = some row' →
    ∃ row, tables.accountLinks.find? scopeId = some row ∧ row.Succeeds row'

variable {tables tables' tables'' : Tables}

theorem Succeeds.refl (tables : Tables) : Succeeds tables tables where
  installations := fun _ row h => ⟨row, h, rfl, rfl, id⟩
  accountLinks := fun _ row h => ⟨row, h, rfl, rfl, rfl, id⟩

theorem Succeeds.trans (h : Succeeds tables tables') (h' : Succeeds tables' tables'') :
    Succeeds tables tables'' where
  installations := by
    intro scopeId row'' hrow''
    obtain ⟨row', hrow', hnext⟩ := h'.installations scopeId row'' hrow''
    obtain ⟨row, hrow, hfirst⟩ := h.installations scopeId row' hrow'
    exact ⟨row, hrow, hnext.recoveryScopeMac.trans hfirst.recoveryScopeMac,
      hnext.recoveryKeyVersion.trans hfirst.recoveryKeyVersion,
      fun hactive => hfirst.active (hnext.active hactive)⟩
  accountLinks := by
    intro scopeId row'' hrow''
    obtain ⟨row', hrow', hnext⟩ := h'.accountLinks scopeId row'' hrow''
    obtain ⟨row, hrow, hfirst⟩ := h.accountLinks scopeId row' hrow'
    exact ⟨row, hrow, hnext.installationId.trans hfirst.installationId,
      hnext.recoveryScopeMac.trans hfirst.recoveryScopeMac,
      hnext.recoveryKeyVersion.trans hfirst.recoveryKeyVersion,
      fun hactive => hfirst.active (hnext.active hactive)⟩

theorem Succeeds.of_eq (hinstallations : tables'.installations = tables.installations)
    (haccountLinks : tables'.accountLinks = tables.accountLinks) : Succeeds tables tables' := by
  constructor
  · intro scopeId row hrow
    rw [hinstallations] at hrow
    exact ⟨row, hrow, rfl, rfl, id⟩
  · intro scopeId row hrow
    rw [haccountLinks] at hrow
    exact ⟨row, hrow, rfl, rfl, rfl, id⟩

theorem Succeeds.not_active (h : Succeeds tables tables') {kind : DeletionScopeKind}
    {scopeId : String} (hstate : tables.scopeState kind scopeId ≠ some .active) :
    tables'.scopeState kind scopeId ≠ some .active := by
  intro hactive
  apply hstate
  cases kind with
  | installation =>
    obtain ⟨row', hrow', hactive⟩ := Option.map_eq_some_iff.mp hactive
    obtain ⟨row, hrow, hsucceeds⟩ := h.installations scopeId row' hrow'
    exact Option.map_eq_some_iff.mpr ⟨row, hrow, hsucceeds.active hactive⟩
  | accountLink =>
    obtain ⟨row', hrow', hactive⟩ := Option.map_eq_some_iff.mp hactive
    obtain ⟨row, hrow, hsucceeds⟩ := h.accountLinks scopeId row' hrow'
    exact Option.map_eq_some_iff.mpr ⟨row, hrow, hsucceeds.active hactive⟩
  | pushToken => cases hactive

theorem Succeeds.installationUpdate {wher : InstallationRow → Bool}
    {set : InstallationRow → InstallationRow}
    (hset : ∀ row, (set row).installationId = row.installationId)
    (hinstallations : tables'.installations = tables.installations.update wher set hset)
    (haccountLinks : tables'.accountLinks = tables.accountLinks ∨
      ∃ links, tables'.accountLinks = tables.accountLinks.delete links)
    (hsucceeds : ∀ row ∈ tables.installations.rows, wher row = true → row.Succeeds (set row)) :
    Succeeds tables tables' where
  installations := by
    intro scopeId row' hrow'
    rw [hinstallations, Keyed.find?_update, Option.map_eq_some_iff] at hrow'
    obtain ⟨row, hrow, rfl⟩ := hrow'
    refine ⟨row, hrow, ?_⟩
    split
    · rename_i hwher
      exact hsucceeds row (Keyed.find?_eq_some.mp hrow).1 hwher
    · exact ⟨rfl, rfl, id⟩
  accountLinks := by
    intro scopeId row hrow
    rcases haccountLinks with hsame | ⟨links, hdeleted⟩
    · rw [hsame] at hrow
      exact ⟨row, hrow, rfl, rfl, rfl, id⟩
    · rw [hdeleted, Keyed.find?_delete, Option.filter_eq_some_iff] at hrow
      exact ⟨row, hrow.1, rfl, rfl, rfl, id⟩

theorem Succeeds.accountLinkUpdate {wher : AccountLinkRow → Bool}
    {set : AccountLinkRow → AccountLinkRow}
    (hset : ∀ row, (set row).accountLinkId = row.accountLinkId)
    (hinstallations : tables'.installations = tables.installations)
    (haccountLinks : tables'.accountLinks = tables.accountLinks.update wher set hset)
    (hsucceeds : ∀ row : AccountLinkRow, row.Succeeds (set row)) :
    Succeeds tables tables' where
  installations := by
    intro scopeId row hrow
    rw [hinstallations] at hrow
    exact ⟨row, hrow, rfl, rfl, id⟩
  accountLinks := by
    intro scopeId row' hrow'
    rw [haccountLinks, Keyed.find?_update, Option.map_eq_some_iff] at hrow'
    obtain ⟨row, hrow, rfl⟩ := hrow'
    refine ⟨row, hrow, ?_⟩
    split
    · exact hsucceeds row
    · exact ⟨rfl, rfl, rfl, id⟩

theorem Succeeds.accountLinkDelete {links : AccountLinkRow → Bool}
    (hinstallations : tables'.installations = tables.installations)
    (haccountLinks : tables'.accountLinks = tables.accountLinks.delete links) :
    Succeeds tables tables' where
  installations := by
    intro scopeId row hrow
    rw [hinstallations] at hrow
    exact ⟨row, hrow, rfl, rfl, id⟩
  accountLinks := by
    intro scopeId row hrow
    rw [haccountLinks, Keyed.find?_delete, Option.filter_eq_some_iff] at hrow
    exact ⟨row, hrow.1, rfl, rfl, rfl, id⟩

end Tables

/-! ### Scopes that are retired -/

namespace OperationRow

structure Continues (operation operation' : OperationRow) : Prop where
  operationId : operation'.operationId = operation.operationId
  deletionId : operation'.deletionId = operation.deletionId
  scopeKind : operation'.scopeKind = operation.scopeKind
  scopeId : operation'.scopeId = operation.scopeId

theorem Continues.refl (operation : OperationRow) : operation.Continues operation :=
  ⟨rfl, rfl, rfl, rfl⟩

theorem Continues.trans {first second third : OperationRow} (h : first.Continues second)
    (h' : second.Continues third) : first.Continues third :=
  ⟨h'.operationId.trans h.operationId, h'.deletionId.trans h.deletionId,
    h'.scopeKind.trans h.scopeKind, h'.scopeId.trans h.scopeId⟩

structure Names (operation : OperationRow) : Prop where
  kind : operation.deletionId.kind = operation.scopeKind
  scopeId : operation.deletionId.scopeId = operation.scopeId

end OperationRow

namespace Tables

def restore (tables : Tables) : SchemaPhase × RestoreState × ℕ :=
  (tables.service.schemaPhase, tables.service.restoreState, tables.service.ledgerWatermark)

/-- No scope is revived, and the operations go on; one that is new names a scope that is not
active. -/
structure Retires (tables tables' : Tables) : Prop where
  restore : tables'.restore = tables.restore
  succeeds : Succeeds tables tables'
  operations : Table.Follows OperationRow.operationId OperationRow.Continues
    (fun operation => operation.Names ∧
      tables'.scopeState operation.scopeKind operation.scopeId ≠ some .active)
    tables.operations.rows tables'.operations.rows

variable {tables tables' tables'' : Tables}

theorem Retires.refl (tables : Tables) : Retires tables tables :=
  ⟨rfl, .refl tables, .refl OperationRow.Continues.refl _⟩

theorem Retires.trans (h : Retires tables tables') (h' : Retires tables' tables'') :
    Retires tables tables'' where
  restore := h'.restore.trans h.restore
  succeeds := h.succeeds.trans h'.succeeds
  operations := by
    apply Table.Follows.trans (fun _ _ _ hfirst hnext => hfirst.trans hnext) _ _ h'.operations
    · rintro operation operation' ⟨⟨hkind, hscopeId⟩, hstate⟩ hcontinues
      rw [hcontinues.scopeKind, hcontinues.scopeId]
      exact ⟨⟨by rw [hcontinues.deletionId, hcontinues.scopeKind, hkind],
        by rw [hcontinues.deletionId, hcontinues.scopeId, hscopeId]⟩, hstate⟩
    · apply h.operations.mono
      · exact fun _ _ _ hcontinues => hcontinues
      · exact fun _ _ hfresh => ⟨hfresh.1, h'.succeeds.not_active hfresh.2⟩

theorem Retires.of_succeeds (h : Succeeds tables tables')
    (hoperations : tables'.operations = tables.operations)
    (hrestore : tables'.restore = tables.restore) : Retires tables tables' := by
  refine ⟨hrestore, h, ?_⟩
  rw [hoperations]
  exact .refl OperationRow.Continues.refl _

end Tables

/-! ### The statements that retire scopes -/

section

variable {primitives : StorePrimitives} {tables tables' : Tables} {limited : Option String}
  {clock : FenceClock} {now : ℤ} {u : Unit}

open HyperTrader.Notifications.Tables

theorem retires_fence {selects : String → Option String → Option String → Bool}
    {scope : Option String → Option String} {deletionId : DeletionId} {force : Bool} :
    Retires tables (fenceDispatchWork selects scope deletionId force clock tables) :=
  .of_succeeds (.of_eq rfl rfl) rfl rfl

theorem retires_setAccountLinkState {wher : AccountLinkRow → Bool} {state : ScopeState}
    (hstate : state ≠ .active) : Retires tables (setAccountLinkState wher state tables) := by
  refine .of_succeeds ?_ rfl rfl
  refine .accountLinkUpdate ?_ rfl rfl ?_
  · intro row
    rfl
  · intro row
    exact ⟨rfl, rfl, rfl, fun hactive => absurd hactive hstate⟩

theorem retires_revokeInstallationRows {installationId : String}
    {generation : InstallationRow → ℕ} :
    Retires tables (revokeInstallationRows installationId generation tables) := by
  refine .of_succeeds ?_ rfl rfl
  refine .installationUpdate ?_ rfl (.inr ⟨_, rfl⟩) ?_
  · intro row
    rfl
  · intro row _ _
    refine ⟨rfl, rfl, ?_⟩
    intro hactive
    cases hactive

theorem retires_unlinkAccountRows {accountLinkId : String} :
    Retires tables (unlinkAccountRows accountLinkId tables) :=
  .of_succeeds (.accountLinkDelete rfl rfl) rfl rfl

variable {item : DeletionTombstoneItem} {receipt : DeletionLedgerReceipt}
  {operationId credential : String} {request : LostInstallationRevokeRequest}
  {selected : List InstallationRow} {clocks : String → FenceClock} {operationIds : List String}
  {view : OperationView}

theorem retires_recordDeletionTombstone
    (h : recordDeletionTombstone item receipt tables = .ok (u, tables')) :
    Retires tables tables' := by
  rw [recordDeletionTombstone_eq_ok h]
  exact .of_succeeds (.of_eq rfl rfl) rfl rfl

theorem retires_commitOperation {sequence : ℕ}
    (h : commitOperation operationId sequence tables = .ok (u, tables')) :
    Retires tables tables' := by
  obtain rfl := commitOperation_eq_ok h
  refine ⟨rfl, .of_eq rfl rfl, ?_, ?_⟩
  · intro operation hoperation
    by_cases hid : operation.operationId = operationId
    · exact ⟨_, Table.mem_update.mpr ⟨operation, hoperation, .inl ⟨by simpa using hid, rfl⟩⟩,
        rfl, rfl, rfl, rfl, rfl⟩
    · exact ⟨operation, Table.mem_update.mpr ⟨operation, hoperation,
        .inr ⟨by simpa using hid, rfl⟩⟩, rfl, .refl operation⟩
  · intro operation hoperation
    obtain ⟨old, hold, ⟨-, rfl⟩ | ⟨-, rfl⟩⟩ := Table.mem_update.mp hoperation
    · exact .inl ⟨old, hold, rfl, rfl, rfl, rfl, rfl⟩
    · exact .inl ⟨old, hold, rfl, .refl old⟩

theorem retires_insertOperation {row : OperationRow}
    (h : insertOperation row tables = .ok (u, tables')) (hnames : row.Names)
    (hstate : tables.scopeState row.scopeKind row.scopeId ≠ some .active) :
    Retires tables tables' := by
  obtain ⟨-, operations, hinsert, rfl⟩ := insertOperation_eq_ok.mp h
  refine ⟨rfl, .of_eq rfl rfl, ?_⟩
  rw [(Keyed.insert?_eq_some.mp hinsert).2]
  exact Table.follows_append OperationRow.Continues.refl _ ⟨hnames, hstate⟩

theorem scopeState_setInstallationState {installationId : String} {state : ScopeState} :
    (setInstallationState installationId state tables).scopeState .installation installationId =
      (tables.installations.find? installationId).map fun _ => state := by
  rw [scopeState_installation, setInstallationState, Keyed.find?_update, Option.map_map]
  apply Option.map_congr
  intro row hrow
  simp [Keyed.key_of_find? hrow]

theorem scopeState_setAccountLinkState {accountLinkId : String} {state : ScopeState} :
    (setAccountLinkState (fun row => row.accountLinkId = accountLinkId) state tables).scopeState
        .accountLink accountLinkId =
      (tables.accountLinks.find? accountLinkId).map fun _ => state := by
  rw [scopeState_accountLink, setAccountLinkState, Keyed.find?_update, Option.map_map]
  apply Option.map_congr
  intro row hrow
  simp [Keyed.key_of_find? hrow]

theorem map_const_ne {α : Type} {o : Option α} {state : ScopeState} (h : state ≠ .active) :
    (o.map fun _ => state) ≠ some .active := by
  cases o with
  | none => simp
  | some value => simpa using h

theorem retires_drainInstallation {installation : InstallationRow}
    (h : drainInstallation installation operationId clock tables = .ok (u, tables')) :
    Retires tables tables' := by
  unfold drainInstallation at h
  simp only [Transaction.bind_eq_ok, change_eq_ok] at h
  obtain ⟨_, _, rfl, _, _, hinsert, rfl⟩ := h
  have hdraining : Retires tables
      (setInstallationState installation.installationId .draining tables) := by
    refine .of_succeeds ?_ rfl rfl
    refine .installationUpdate ?_ rfl (.inl rfl) ?_
    · intro row
      rfl
    · intro row _ _
      refine ⟨rfl, rfl, ?_⟩
      intro hactive
      cases hactive
  refine (hdraining.trans (retires_insertOperation hinsert ⟨rfl, rfl⟩ ?_)).trans retires_fence
  rw [scopeState_setInstallationState]
  exact map_const_ne (by decide)

theorem retires_drainAccountLink {link : AccountLinkRow}
    (h : drainAccountLink link operationId clock tables = .ok (u, tables')) :
    Retires tables tables' := by
  unfold drainAccountLink at h
  simp only [Transaction.bind_eq_ok, change_eq_ok] at h
  obtain ⟨_, _, rfl, _, _, hinsert, rfl⟩ := h
  refine ((retires_setAccountLinkState (by decide)).trans
    (retires_insertOperation hinsert ⟨rfl, rfl⟩ ?_)).trans retires_fence
  rw [scopeState_setAccountLinkState]
  exact map_const_ne (by decide)

theorem drainingAlready_eq_ok {kind : DeletionScopeKind} {scopeId message : String}
    (h : drainingAlready kind scopeId operationId message tables = .ok (u, tables')) :
    tables' = tables ∧ ∃ operation ∈ tables.operations.rows,
      operation.operationId = operationId ∧ operation.scopeKind = kind ∧
        operation.scopeId = scopeId ∧ operation.draining = true := by
  unfold drainingAlready at h
  simp only [Transaction.bind_eq_ok, Transaction.read_eq_ok, Transaction.ensure_eq_ok] at h
  obtain ⟨_, _, ⟨rfl, rfl⟩, hany, rfl⟩ := h
  rw [Option.any_eq_true] at hany
  obtain ⟨operation, hfound, hoperation⟩ := hany
  simp only [Bool.and_eq_true, decide_eq_true_eq] at hoperation
  obtain ⟨hmem, hid⟩ := Keyed.find?_eq_some.mp hfound
  exact ⟨rfl, operation, hmem, hid, hoperation.1.1, hoperation.1.2, hoperation.2⟩

theorem startInstallationDrain_eq_ok {installationId : String}
    (h : startInstallationDrain primitives installationId credential operationId clock tables =
      .ok (u, tables')) :
    ∃ installation, tables.installations.find? installationId = some installation ∧
      installation.credentialHash =
        some (primitives.hashInstallationCredential credential) ∧
      (installation.state = .draining ∧ drainingAlready .installation installationId operationId
            "installation is already draining" tables = .ok (u, tables') ∨
        installation.state = .active ∧
          drainInstallation installation operationId clock tables = .ok (u, tables')) := by
  unfold startInstallationDrain at h
  simp only [Transaction.bind_eq_ok, assertMutable_eq_ok, Transaction.read_eq_ok] at h
  obtain ⟨_, _, ⟨-, rfl⟩, _, _, ⟨rfl, rfl⟩, hrest⟩ := h
  cases hfound : tables.installations.find? installationId with
  | none =>
    rw [hfound] at hrest
    cases hrest
  | some installation =>
    simp only [hfound, Transaction.bind_eq_ok, Transaction.ensure_eq_ok] at hrest
    obtain ⟨_, _, ⟨hcredential, rfl⟩, hrest⟩ := hrest
    refine ⟨installation, rfl, hcredential, ?_⟩
    cases hstate : installation.state with
    | active =>
      rw [hstate] at hrest
      exact .inr ⟨rfl, hrest⟩
    | draining =>
      rw [hstate] at hrest
      exact .inl ⟨rfl, hrest⟩
    | inactive =>
      rw [hstate] at hrest
      cases hrest

theorem startAccountLinkDrain_eq_ok {installationId accountLinkId : String}
    (h : startAccountLinkDrain primitives installationId credential accountLinkId operationId
      limited clock tables = .ok (u, tables')) :
    ∃ installation link, tables.installations.find? installationId = some installation ∧
      installation.credentialHash =
        some (primitives.hashInstallationCredential credential) ∧
      installation.state = .active ∧
      tables.accountLinks.find? accountLinkId = some link ∧
      link.installationId = installationId ∧
      (link.state = .draining ∧ drainingAlready .accountLink accountLinkId operationId
            "account link is already draining" tables = .ok (u, tables') ∨ link.state = .active ∧
          drainAccountLink link operationId clock tables = .ok (u, tables')) := by
  unfold startAccountLinkDrain at h
  simp only [Transaction.bind_eq_ok, assertMutable_eq_ok, lockAuthenticated_eq_ok,
    admitMutation_eq_ok, Transaction.read_eq_ok] at h
  obtain ⟨_, _, ⟨-, rfl⟩, installation, _, ⟨⟨hinstallation, hcredential, hactive⟩, rfl⟩, _, _,
    ⟨-, rfl⟩, _, _, ⟨rfl, rfl⟩, hrest⟩ := h
  cases hfound : tables.accountLinks.find? accountLinkId with
  | none =>
    rw [hfound] at hrest
    cases hrest
  | some link =>
    simp only [hfound, Transaction.bind_eq_ok, Transaction.ensure_eq_ok] at hrest
    obtain ⟨_, _, ⟨hlink, rfl⟩, hrest⟩ := hrest
    refine ⟨installation, link, hinstallation, hcredential, hactive, rfl, hlink, ?_⟩
    cases hstate : link.state with
    | active =>
      rw [hstate] at hrest
      exact .inr ⟨rfl, hrest⟩
    | draining =>
      rw [hstate] at hrest
      exact .inl ⟨rfl, hrest⟩
    | inactive =>
      rw [hstate] at hrest
      cases hrest

theorem lockSelected_tables {installationIds : List String}
    (h : lockSelected request installationIds tables = .ok (selected, tables')) :
    tables' = tables := by
  induction installationIds generalizing selected tables' with
  | nil => exact (Transaction.pure_eq_ok.mp h).2.symm
  | cons installationId rest ih =>
    simp only [lockSelected, Transaction.bind_eq_ok, Transaction.read_eq_ok] at h
    obtain ⟨_, _, ⟨rfl, rfl⟩, hrest⟩ := h
    cases hfound : tables.installations.find? installationId with
    | none =>
      rw [hfound] at hrest
      cases hrest
    | some installation =>
      simp only [hfound, Transaction.bind_eq_ok, Transaction.ensure_eq_ok,
        Transaction.pure_eq_ok] at hrest
      obtain ⟨_, _, ⟨-, rfl⟩, _, _, hselected, -, rfl⟩ := hrest
      exact ih hselected

/-- What a lost-installation request goes on from: the selected rows, each active in the
tables before, and the challenge that is consumed. -/
theorem verifyLostInstallationRevokeProof_eq_ok
    (h : verifyLostInstallationRevokeProof primitives request limited now clocks tables =
      .ok (operationIds, tables')) :
    sortedAndUnique request.selectedInstallationIds = true ∧
      ∃ selected challenges, lockSelected request request.selectedInstallationIds tables =
        .ok (selected, tables) ∧
      drainSelected primitives request clocks selected
        { tables with challenges := challenges } = .ok (operationIds, tables') := by
  unfold verifyLostInstallationRevokeProof consumeChallenge loadChallenge at h
  simp only [Transaction.bind_eq_ok, Transaction.ensure_eq_ok, assertMutable_eq_ok,
    lockAuthenticated_eq_ok, admitMutation_eq_ok, Transaction.read_eq_ok,
    Transaction.check_eq_ok, change_eq_ok] at h
  obtain ⟨_, _, ⟨⟨-, -, hsorted⟩, rfl⟩, _, _, ⟨-, rfl⟩, _, _, ⟨-, rfl⟩, _, _, ⟨-, rfl⟩,
    _, _, ⟨-, rfl⟩, _, _, ⟨-, rfl⟩, _, _, ⟨-, rfl⟩, _, _, ⟨rfl, rfl⟩, _, _, ⟨-, rfl⟩,
    selected, _, hselected, _, _, ⟨_, _, ⟨rfl, rfl⟩, _, _, ⟨-, rfl⟩, rfl⟩, hdrain⟩ := h
  have hsame := lockSelected_tables hselected
  subst hsame
  exact ⟨hsorted, selected, _, hselected, hdrain⟩

theorem retires_drainSelected
    (h : drainSelected primitives request clocks selected tables = .ok (operationIds, tables')) :
    Retires tables tables' := by
  induction selected generalizing tables operationIds with
  | nil =>
    obtain ⟨-, rfl⟩ := Transaction.pure_eq_ok.mp h
    exact .refl tables
  | cons installation rest ih =>
    simp only [drainSelected, Transaction.bind_eq_ok, change_eq_ok, Transaction.pure_eq_ok] at h
    obtain ⟨_, _, rfl, _, _, hdrain, _, _, hrest, -, rfl⟩ := h
    exact ((retires_setAccountLinkState (by decide)).trans
      (retires_drainInstallation hdrain)).trans (ih hrest)

theorem retires_start {request : RevocationRequest} {inputs : Inputs}
    (h : request.start primitives inputs tables = .ok (operationIds, tables')) :
    Retires tables tables' := by
  cases request with
  | revokeInstallation installationId credential operationId =>
    simp only [RevocationRequest.start, Transaction.bind_eq_ok, Transaction.pure_eq_ok] at h
    obtain ⟨_, _, hstart, -, rfl⟩ := h
    obtain ⟨_, -, -, ⟨-, halready⟩ | ⟨-, hdrain⟩⟩ := startInstallationDrain_eq_ok hstart
    · rw [(drainingAlready_eq_ok halready).1]
      exact .refl tables
    · exact retires_drainInstallation hdrain
  | unlinkAccount installationId credential accountLinkId operationId =>
    simp only [RevocationRequest.start, Transaction.bind_eq_ok, Transaction.pure_eq_ok] at h
    obtain ⟨_, _, hstart, -, rfl⟩ := h
    obtain ⟨_, _, -, -, -, -, -, ⟨-, halready⟩ | ⟨-, hdrain⟩⟩ :=
      startAccountLinkDrain_eq_ok hstart
    · rw [(drainingAlready_eq_ok halready).1]
      exact .refl tables
    · exact retires_drainAccountLink hdrain
  | revokeLostInstallations request =>
    obtain ⟨-, selected, challenges, -, hdrain⟩ := verifyLostInstallationRevokeProof_eq_ok h
    have hconsumed : Retires tables { tables with challenges := challenges } :=
      .of_succeeds (.of_eq rfl rfl) rfl rfl
    exact hconsumed.trans (retires_drainSelected hdrain)

/-- The transaction that commits the revocation of an installation: it was committed, or the
installation is draining without a request in flight. -/
theorem commitInstallation_eq_ok
    (h : commitInstallation operationId view item receipt clock now tables = .ok (u, tables')) :
    (committed tables operationId = true ∧ tables' = tables) ∨
      committed tables operationId = false ∧ ∃ installation middle,
        tables.installations.find? view.scopeId = some installation ∧
        installation.state = .draining ∧
        inFlight (fenceInstallationDispatchWork view.scopeId view.deletionId false clock tables)
          .installation view.scopeId now = false ∧
        recordDeletionTombstone item receipt (revokeInstallationRows view.scopeId
          (fun row => row.revocationGeneration + 1)
          (fenceInstallationDispatchWork view.scopeId view.deletionId false clock tables)) =
            .ok ((), middle) ∧
        commitOperation operationId receipt.sequence middle = .ok (u, tables') := by
  unfold commitInstallation at h
  by_cases hcommitted : committed tables operationId = true
  · rw [if_pos hcommitted, Except.ok.injEq, Prod.mk.injEq] at h
    exact .inl ⟨hcommitted, h.2.symm⟩
  · rw [if_neg hcommitted] at h
    right
    refine ⟨by simpa using hcommitted, ?_⟩
    simp only [commitInstallationWork, Transaction.bind_eq_ok, Transaction.read_eq_ok] at h
    obtain ⟨_, _, ⟨rfl, rfl⟩, hrest⟩ := h
    cases hfound : tables.installations.find? view.scopeId with
    | none =>
      rw [hfound] at hrest
      cases hrest
    | some installation =>
      simp only [hfound, Transaction.bind_eq_ok, Transaction.ensure_eq_ok, change_eq_ok,
        Transaction.read_eq_ok] at hrest
      obtain ⟨_, _, ⟨hdraining, rfl⟩, _, _, rfl, _, _, ⟨rfl, rfl⟩, _, _, ⟨hidle, rfl⟩, _, _,
        ⟨-, rfl⟩, _, _, rfl, _, middle, hrecord, hcommit⟩ := hrest
      exact ⟨installation, middle, rfl, hdraining, hidle, hrecord, hcommit⟩

theorem commitAccountLink_eq_ok
    (h : commitAccountLink operationId view item receipt clock now tables = .ok (u, tables')) :
    (committed tables operationId = true ∧ tables' = tables) ∨
      committed tables operationId = false ∧ ∃ link middle,
        tables.accountLinks.find? view.scopeId = some link ∧ link.state = .draining ∧
        inFlight (fenceAccountLinkDispatchWork view.scopeId view.deletionId false clock tables)
          .accountLink view.scopeId now = false ∧
        recordDeletionTombstone item receipt (unlinkAccountRows view.scopeId
          (fenceAccountLinkDispatchWork view.scopeId view.deletionId false clock tables)) =
            .ok ((), middle) ∧
        commitOperation operationId receipt.sequence middle = .ok (u, tables') := by
  unfold commitAccountLink at h
  by_cases hcommitted : committed tables operationId = true
  · rw [if_pos hcommitted, Except.ok.injEq, Prod.mk.injEq] at h
    exact .inl ⟨hcommitted, h.2.symm⟩
  · rw [if_neg hcommitted] at h
    right
    refine ⟨by simpa using hcommitted, ?_⟩
    simp only [commitAccountLinkWork, Transaction.bind_eq_ok, Transaction.read_eq_ok] at h
    obtain ⟨_, _, ⟨rfl, rfl⟩, hrest⟩ := h
    cases hfound : tables.accountLinks.find? view.scopeId with
    | none =>
      rw [hfound] at hrest
      cases hrest
    | some link =>
      simp only [hfound, Transaction.bind_eq_ok, Transaction.ensure_eq_ok, change_eq_ok,
        Transaction.read_eq_ok] at hrest
      obtain ⟨_, _, ⟨hdraining, rfl⟩, _, _, rfl, _, _, ⟨rfl, rfl⟩, _, _, ⟨hidle, rfl⟩, _, _,
        rfl, _, middle, hrecord, hcommit⟩ := hrest
      exact ⟨link, middle, rfl, hdraining, hidle, hrecord, hcommit⟩

theorem retires_commitInstallation
    (h : commitInstallation operationId view item receipt clock now tables =
      .ok (u, tables')) : Retires tables tables' := by
  rcases commitInstallation_eq_ok h with ⟨-, rfl⟩ |
    ⟨-, installation, middle, -, -, -, hrecord, hcommit⟩
  · exact .refl _
  · exact ((retires_fence.trans retires_revokeInstallationRows).trans
      (retires_recordDeletionTombstone hrecord)).trans (retires_commitOperation hcommit)

theorem retires_commitAccountLink
    (h : commitAccountLink operationId view item receipt clock now tables =
      .ok (u, tables')) : Retires tables tables' := by
  rcases commitAccountLink_eq_ok h with ⟨-, rfl⟩ | ⟨-, link, middle, -, -, -, hrecord, hcommit⟩
  · exact .refl _
  · exact ((retires_fence.trans retires_unlinkAccountRows).trans
      (retires_recordDeletionTombstone hrecord)).trans (retires_commitOperation hcommit)

end

end Notifications

end HyperTrader
