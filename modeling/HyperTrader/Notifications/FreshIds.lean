import HyperTrader.Notifications.Regular

/-!
# Deletion ids

A deletion id is recorded by an operation and in the ledger for ever. As long as scopes
are made only under ids that no recorded deletion names, and a restored backup is replayed
from no watermark beyond it, no recorded deletion names an active scope, and so the drain
of an active scope finds its deletion id unused. An account link that is made again under
the id of one that was unlinked breaks this.
-/

namespace HyperTrader

open Library

namespace Notifications

variable {primitives : StorePrimitives}

def Spent (tables : Tables) (deletionId : DeletionId) : Prop :=
  tables.scopeState deletionId.kind deletionId.scopeId ≠ some .active

/-- No recorded deletion names an active scope, as far as the ledger up to `head` goes. -/
structure TablesFresh (ledger : List DeletionTombstoneItem) (head : ℕ) (tables : Tables) :
    Prop where
  operations : ∀ operation ∈ tables.operations.rows, Spent tables operation.deletionId
  ledger : ∀ item ∈ ledger, item.sequence ≤ head → Spent tables item.deletionId

section

variable {tables tables' : Tables} {ledger : List DeletionTombstoneItem} {head : ℕ}
  {clock : String → FenceClock} {u : Unit} {deletionId : DeletionId} {item : DeletionTombstoneItem}

theorem Spent.retires (h : Spent tables deletionId)
    (hnext : tables.Retires tables') : Spent tables' deletionId :=
  hnext.succeeds.not_active h

theorem TablesFresh.retires (h : TablesFresh ledger head tables)
    (hnext : tables.Retires tables') : TablesFresh ledger head tables' where
  operations := by
    intro operation' hoperation'
    rcases hnext.operations.backward operation' hoperation' with
      ⟨operation, hoperation, -, hcontinues⟩ | ⟨hnames, hstate⟩
    · rw [hcontinues.deletionId]
      exact (h.operations operation hoperation).retires hnext
    · unfold Spent
      rwa [hnames.kind, hnames.scopeId]
  ledger := by
    intro item hitem hle
    exact (h.ledger item hitem hle).retires hnext

theorem TablesFresh.append {head' : ℕ}
    (h : TablesFresh ledger head tables) (hhead : ∀ other ∈ ledger,
      other.sequence ≤ head' → other.sequence ≤ head)
    (hitem : item.sequence ≤ head' → Spent tables item.deletionId) :
    TablesFresh (ledger ++ [item]) head' tables where
  operations := h.operations
  ledger := by
    intro other hother hle
    rcases List.mem_append.mp hother with hold | hlast
    · exact h.ledger other hold (hhead other hold hle)
    · rw [List.mem_singleton.mp hlast] at hle ⊢
      exact hitem hle

theorem TablesFresh.withService (h : TablesFresh ledger head tables) {service : ServiceState} :
    TablesFresh ledger head { tables with service := service } :=
  ⟨h.operations, h.ledger⟩

theorem TablesFresh.prepareRestore {watermark : ℕ} (h : TablesFresh ledger head tables) :
    TablesFresh ledger head (Notifications.prepareRestore watermark tables) := by
  unfold Notifications.prepareRestore
  split
  · exact h.withService
  · exact h

/-! ### Replays -/

theorem spent_foldl {α : Type} {f : Tables → α → Tables}
    (hf : ∀ tables a, Tables.Retires tables (f tables a)) {as : List α} {a : α} (ha : a ∈ as)
    (hspent : ∀ tables, Spent (f tables a) deletionId)
    (tables : Tables) : Spent (as.foldl f tables) deletionId := by
  obtain ⟨before, after, rfl⟩ := List.append_of_mem ha
  rw [List.foldl_append, List.foldl_cons]
  exact (hspent _).retires (retires_foldl hf after _)

theorem scopeState_revokeInstallationRows {installationId : String}
    {generation : InstallationRow → ℕ} :
    (revokeInstallationRows installationId generation tables).scopeState .installation
      installationId = (tables.installations.find? installationId).map fun _ => .inactive := by
  rw [Tables.scopeState_installation, revokeInstallationRows, Keyed.find?_update, Option.map_map]
  apply Option.map_congr
  intro row hrow
  simp [Keyed.key_of_find? hrow]

theorem scopeState_unlinkAccountRows {accountLinkId : String} :
    (unlinkAccountRows accountLinkId tables).scopeState .accountLink accountLinkId = none := by
  rw [Tables.scopeState_accountLink, accountLinks_unlinkAccountRows, Keyed.find?_delete,
    Option.map_eq_none_iff, Option.filter_eq_none_iff]
  intro row hrow
  simp [Keyed.key_of_find? hrow]

theorem spent_replayScope (hcoded : Coded primitives tables)
    (hitem : item.Coded primitives) : Spent (replayScope item clock tables) item.deletionId := by
  have hmac := hitem.scopeMac
  unfold replayScope Spent
  rw [hitem.scopeKind]
  cases hkind : item.deletionId.kind with
  | installation =>
    rw [hkind] at hmac
    cases hfound : tables.installations.find? item.deletionId.scopeId with
    | none =>
      apply Tables.Succeeds.not_active (retires_foldl retires_replayInstallation _ _).succeeds
      simp [hfound]
    | some row =>
      have hkey := Keyed.key_of_find? hfound
      have hmem : row ∈ tables.installations.rows.filter fun row =>
          row.recoveryScopeMac = item.scopeMac := by
        apply List.mem_filter.mpr
        refine ⟨(Keyed.find?_eq_some.mp hfound).1, ?_⟩
        rw [(hcoded.installations _ row hfound).1, hmac]
        exact decide_eq_true rfl
      have hspent : Spent ((tables.installations.rows.filter fun row =>
          row.recoveryScopeMac = item.scopeMac).foldl (replayInstallation item clock) tables)
          item.deletionId := by
        apply spent_foldl retires_replayInstallation hmem
        intro tables
        unfold Spent replayInstallation
        rw [hkind, ← hkey, scopeState_revokeInstallationRows]
        exact map_const_ne (by decide)
      unfold Spent at hspent
      rwa [hkind] at hspent
  | accountLink =>
    rw [hkind] at hmac
    cases hfound : tables.accountLinks.find? item.deletionId.scopeId with
    | none =>
      apply Tables.Succeeds.not_active (retires_foldl retires_replayAccountLink _ _).succeeds
      simp [hfound]
    | some row =>
      have hkey := Keyed.key_of_find? hfound
      have hmem : row ∈ tables.accountLinks.rows.filter fun row =>
          row.recoveryScopeMac = item.scopeMac := by
        apply List.mem_filter.mpr
        refine ⟨(Keyed.find?_eq_some.mp hfound).1, ?_⟩
        rw [(hcoded.accountLinks _ row hfound).1, hmac]
        exact decide_eq_true rfl
      have hspent : Spent ((tables.accountLinks.rows.filter fun row =>
          row.recoveryScopeMac = item.scopeMac).foldl (replayAccountLink item clock) tables)
          item.deletionId := by
        apply spent_foldl retires_replayAccountLink hmem
        intro tables
        unfold Spent replayAccountLink
        rw [hkind, ← hkey, scopeState_unlinkAccountRows]
        simp
      unfold Spent at hspent
      rwa [hkind] at hspent
  | pushToken => simp

theorem spent_replayItems {currentHead : ℕ} {items : List DeletionTombstoneItem}
    (h : replayItems currentHead clock items tables = .ok (u, tables'))
    (hcoded : Coded primitives tables) (hitems : ∀ item ∈ items, item.Coded primitives) :
    ∀ item ∈ items, Spent tables' item.deletionId := by
  induction items generalizing tables with
  | nil => simp
  | cons item items ih =>
    simp only [replayItems, Transaction.bind_eq_ok, change_eq_ok] at h
    obtain ⟨_, _, rfl, _, middle, hrecord, hrest⟩ := h
    have hscope : tables.Retires middle :=
      retires_replayScope.trans (retires_recordDeletionTombstone hrecord)
    intro other hother
    rcases List.mem_cons.mp hother with rfl | hlater
    · have hspent : Spent (replayScope other clock tables) other.deletionId :=
        spent_replayScope hcoded (hitems other List.mem_cons_self)
      exact (hspent.retires (retires_recordDeletionTombstone hrecord)).retires
        (retires_replayItems hrest)
    · exact ih hrest (hcoded.succeeds hscope.succeeds)
        (fun item hitem => hitems item (List.mem_cons_of_mem _ hitem)) other hlater

end

/-! ### Runs -/

namespace NotificationWorld

/-- A scope is only made under an id that no recorded deletion names. -/
def FreshId (world : NotificationWorld) (kind : DeletionScopeKind) (scopeId : String) : Prop :=
  (∀ operation ∈ world.tables.operations.rows,
    ¬ (operation.deletionId.kind = kind ∧ operation.deletionId.scopeId = scopeId)) ∧
  ∀ item ∈ world.ledger, ¬ (item.deletionId.kind = kind ∧ item.deletionId.scopeId = scopeId)

instance (world : NotificationWorld) (kind : DeletionScopeKind) (scopeId : String) :
    Decidable (world.FreshId kind scopeId) :=
  inferInstanceAs (Decidable (_ ∧ _))

def accepts {α : Type} (world : NotificationWorld) (inputs : Inputs)
    (statement : Statement α) : Bool :=
  (Transaction.atomically inputs.failure statement world.tables).1.isOk

/-- A registration or a link that goes through makes its scope under a fresh id. -/
def FreshScopes (primitives : StorePrimitives) (world : NotificationWorld) :
    NotificationEvent → Prop
  | .register request inputs =>
    world.accepts inputs (registerInstallation primitives request inputs.limited) = true →
      world.FreshId .installation request.installationId
  | .link request inputs =>
    world.accepts inputs
        (verifyAccountLinkProof primitives request inputs.limited inputs.now) = true →
      world.FreshId .accountLink request.accountLinkId
  | .rotate .. | .issue .. | .elsewhere _ | .arrive _ | .proceed .. | .activateWorkerGates _
  | .backup | .restore _ | .prepareRestore _ | .startReplay | .finishReplay .. => True

instance (world : NotificationWorld) (event : NotificationEvent) :
    Decidable (world.FreshScopes primitives event) :=
  match event with
  | .register .. | .link .. => inferInstanceAs (Decidable (_ = true → world.FreshId _ _))
  | .rotate .. | .issue .. | .elsewhere _ | .arrive _ | .proceed .. | .activateWorkerGates _
  | .backup | .restore _ | .prepareRestore _ | .startReplay | .finishReplay .. =>
    inferInstanceAs (Decidable True)

/-- No recorded deletion names an active scope, in the database and in its backups. -/
structure Fresh (world : NotificationWorld) : Prop where
  tables : TablesFresh world.ledger (world.missing.getD world.ledger.length) world.tables
  backups : ∀ backup ∈ world.backups, TablesFresh world.ledger backup.head backup.tables

variable {world : NotificationWorld}

theorem Fresh.retires (h : world.Fresh) {tables : Tables}
    (htables : world.tables.Retires tables) : Fresh { world with tables := tables } :=
  ⟨h.tables.retires htables, h.backups⟩

variable {inputs : Inputs} {kind : DeletionScopeKind} {operationId credential : String}
  {installation : InstallationRow}

theorem transact_accepts {α : Type} {statement : Statement α} :
    world.transact inputs statement = world ∨
      world.accepts inputs statement = true ∧ ∃ a tables, statement world.tables = .ok (a, tables) ∧
        world.transact inputs statement = { world with tables := tables } := by
  unfold accepts transact
  rcases Transaction.atomically_cases inputs.failure statement world.tables with
    hsame | ⟨a, tables, hok, hresult⟩
  · rw [hsame]
    exact .inl rfl
  · rw [hresult]
    exact .inr ⟨rfl, a, tables, hok, rfl⟩

theorem Fresh.transact (h : world.Fresh) {α : Type}
    {statement : Statement α} (hstatement : ∀ a tables, statement world.tables = .ok (a, tables) →
      world.tables.Retires tables) : Fresh (world.transact inputs statement) := by
  rcases transact_cases with hsame | ⟨a, tables, hok, hnext⟩
  · rw [hsame]
    exact h
  · rw [hnext]
    exact h.retires (hstatement a tables hok)

theorem Fresh.append (h : world.Fresh) (hregular : world.Regular primitives)
    {view : OperationView} {deletedAt : ℤ}
    (hview : ViewSound primitives world.tables kind operationId view) :
    Fresh { world with ledger := (append primitives world kind view deletedAt).2 } := by
  rcases append_cases primitives world kind view deletedAt with
    hsame | ⟨item, hsequence, hdeletionId, hledger⟩
  · rw [hsame]
    exact h
  · obtain ⟨operation, hoperation, -, -, -, hrecorded⟩ := hview.operation
    have hspent : Spent world.tables item.deletionId := by
      rw [hdeletionId, ← hrecorded]
      exact h.tables.operations operation hoperation
    rw [hledger]
    constructor
    · cases hmissing : world.missing with
      | none =>
        have htables := h.tables
        rw [hmissing] at htables
        apply htables.append
        · intro other hother _
          exact hregular.sequence_le hother
        · intro _
          exact hspent
      | some head =>
        have htables := h.tables
        rw [hmissing] at htables
        apply htables.append
        · intro other _ hle
          exact hle
        · intro _
          exact hspent
    · intro backup hbackup
      apply (h.backups backup hbackup).append
      · intro other _ hle
        exact hle
      · intro hle
        have hhead := (hregular.backups backup hbackup).2
        rw [hsequence] at hle
        exact absurd hle (by omega)

theorem Progress.fresh {request : RevocationRequest}
    {stage stage' : RequestStage} {ledger : List DeletionTombstoneItem} {tables : Tables}
    (h : Progress primitives world request inputs stage stage' ledger tables)
    (hfresh : world.Fresh) (hregular : world.Regular primitives)
    (hstage : StageSound primitives world.tables request.kind stage) :
    Fresh { world with ledger := ledger } := by
  cases h with
  | lost failure => exact hfresh.append hregular (hstage _ _ _ _ _ rfl rfl)
  | appended => exact hfresh.append hregular (hstage _ _ _ _ _ rfl rfl)
  | started _ => exact hfresh
  | refused _ => exact hfresh
  | failed _ => exact hfresh
  | done _ _ => exact hfresh
  | read _ _ => exact hfresh
  | pending _ => exact hfresh
  | counted _ => exact hfresh
  | committed _ _ => exact hfresh
  | postponed => exact hfresh
  | answered => exact hfresh

theorem Fresh.proceed (h : world.Fresh) (hregular : world.Regular primitives) {i : ℕ}
    {process : RequestProcess} (hprocess : world.requests[i]? = some process)
    : (world.proceed primitives i process inputs).Fresh := by
  obtain ⟨stage, ledger, tables, hprogress, hworld⟩ := proceed_cases primitives inputs hprocess
  have hstage := hregular.requests i process hprocess
  have hfresh := hprogress.fresh h hregular hstage
  obtain ⟨hretires, -, -⟩ := hprogress.effects hregular hstage
  rw [hworld]
  exact ⟨hfresh.tables.retires hretires, hfresh.backups⟩

theorem Fresh.insert (h : world.Fresh) {scopeId : String}
    (hfresh : world.FreshId kind scopeId) {tables : Tables}
    (hothers : ∀ kind' scopeId', ¬ (kind' = kind ∧ scopeId' = scopeId) →
      tables.scopeState kind' scopeId' = world.tables.scopeState kind' scopeId')
    (hoperations : tables.operations = world.tables.operations) :
    Fresh { world with tables := tables } := by
  refine ⟨⟨?_, ?_⟩, h.backups⟩
  · intro operation hoperation
    rw [hoperations] at hoperation
    unfold Spent
    rw [hothers _ _ (hfresh.1 operation hoperation)]
    exact h.tables.operations operation hoperation
  · intro item hitem hle
    unfold Spent
    rw [hothers _ _ (hfresh.2 item hitem)]
    exact h.tables.ledger item hitem hle

theorem Fresh.register (h : world.Fresh) {request : RegisterInstallationRequest}
    (hfresh : world.FreshScopes primitives (.register request inputs)) :
    Fresh (world.transact inputs (registerInstallation primitives request inputs.limited)) := by
  rcases transact_accepts with hsame | ⟨haccepts, u, tables, hok, hnext⟩
  · rw [hsame]
    exact h
  · rw [hnext]
    have hregistered := registered_of_eq_ok hok
    obtain ⟨installation, -, -, -, -, -, -, hfind⟩ := hregistered.find?
    apply h.insert (hfresh haccepts)
    · intro kind' scopeId' hother
      cases kind' with
      | installation =>
        rw [Tables.scopeState_installation, Tables.scopeState_installation, hfind, if_neg]
        intro hsame
        exact hother ⟨rfl, hsame.symm⟩
      | accountLink =>
        rw [Tables.scopeState_accountLink, Tables.scopeState_accountLink, hregistered.accountLinks]
      | pushToken => rfl
    · exact hregistered.operations

theorem Fresh.link (h : world.Fresh) {request : VerifyAccountLinkRequest}
    (hfresh : world.FreshScopes primitives (.link request inputs)) :
    Fresh (world.transact inputs
      (verifyAccountLinkProof primitives request inputs.limited inputs.now)) := by
  rcases transact_accepts with hsame | ⟨haccepts, u, tables, hok, hnext⟩
  · rw [hsame]
    exact h
  · rw [hnext]
    have hlinked := accountLinked_of_eq_ok hok
    obtain ⟨link, -, -, -, -, -, -, -, hfind⟩ := hlinked.find?
    apply h.insert (hfresh haccepts)
    · intro kind' scopeId' hother
      cases kind' with
      | installation =>
        rw [Tables.scopeState_installation, Tables.scopeState_installation, hlinked.installations]
      | accountLink =>
        rw [Tables.scopeState_accountLink, Tables.scopeState_accountLink, hfind, if_neg]
        intro hsame
        exact hother ⟨rfl, hsame.symm⟩
      | pushToken => rfl
    · exact hlinked.operations

theorem Fresh.finishReplay (h : world.Fresh) (hregular : world.Regular primitives)
    (hmarked : world.Marked) {replay : Replay} (hreplay : replay ∈ world.replays) :
    (world.finishReplay replay inputs).Fresh := by
  rcases finishReplay_cases world replay inputs with hsame | ⟨tables, hrun, hnext⟩
  · rw [hsame]
    exact h
  · rw [hnext]
    obtain ⟨-, hwatermark, hhead, middle, hitems, rfl⟩ :=
      replayRestore_eq_ok hregular.tables.contracted hrun
    obtain ⟨hle, hrange⟩ := hregular.replays replay hreplay
    have hmiddle := h.tables.retires (retires_replayItems hitems)
    have hspent := spent_replayItems hitems hregular.tables.coded
      (fun item hitem => hregular.items item (by
        rw [hrange] at hitem
        exact (List.mem_filter.mp hitem).1))
    have hfresh : TablesFresh world.ledger world.ledger.length middle := by
      refine ⟨hmiddle.operations, ?_⟩
      intro item hitem hsequence
      by_cases hbefore : item.sequence ≤ world.missing.getD world.ledger.length
      · exact hmiddle.ledger item hitem hbefore
      · apply hspent
        rw [hrange]
        apply List.mem_filter.mpr
        refine ⟨hitem, ?_⟩
        have hlater : replay.watermark < item.sequence := by
          cases hmissing : world.missing with
          | none =>
            rw [hmissing] at hbefore
            exact absurd hsequence hbefore
          | some head =>
            have hmark := hmarked head hmissing
            rw [hmissing] at hbefore
            rw [hwatermark] at hmark
            exact hmark.trans_lt (Nat.lt_of_not_le hbefore)
        simp [hlater, ← hhead, hsequence]
    exact ⟨hfresh.withService, h.backups⟩

theorem Fresh.step (h : world.Fresh) (hregular : world.Regular primitives)
    (hmarked : world.Marked) {event : NotificationEvent}
    (hevent : world.FreshScopes primitives event) :
    (world.step primitives event).Fresh := by
  cases event with
  | register request inputs => exact h.register hevent
  | link request inputs => exact h.link hevent
  | rotate installationId credential newCredential inputs =>
    exact h.transact fun _ _ => retires_rotate
  | issue request inputs => exact h.transact fun _ _ => retires_issue
  | elsewhere tables => exact h.retires (retires_elsewhere _ _)
  | arrive request => exact ⟨h.tables, h.backups⟩
  | proceed i inputs =>
    simp only [NotificationWorld.step]
    split
    · rename_i process hprocess
      exact h.proceed hregular hprocess
    · exact h
  | activateWorkerGates inputs => exact h.transact fun _ _ => retires_activateWorkerGates
  | backup =>
    refine ⟨h.tables, ?_⟩
    intro backup hbackup
    rcases List.mem_append.mp hbackup with hold | hlast
    · exact h.backups backup hold
    · rw [List.mem_singleton.mp hlast]
      exact h.tables
  | restore i =>
    simp only [NotificationWorld.step]
    split
    · rename_i backup hbackup
      exact ⟨(h.backups backup (List.mem_of_getElem? hbackup)).prepareRestore, h.backups⟩
    · exact h
  | prepareRestore watermark => exact ⟨h.tables.prepareRestore, h.backups⟩
  | startReplay =>
    simp only [NotificationWorld.step]
    rcases startReplay_cases primitives world with hsame | ⟨-, -, hnext⟩
    · rw [hsame]
      exact h
    · rw [hnext]
      exact ⟨h.tables, h.backups⟩
  | finishReplay i inputs =>
    simp only [NotificationWorld.step]
    split
    · rename_i replay hreplay
      exact h.finishReplay hregular hmarked (List.mem_of_getElem? hreplay)
    · exact h

theorem fresh_initial : initial.Fresh := by
  refine ⟨⟨?_, ?_⟩, ?_⟩ <;> intro _ <;> simp [initial]

theorem fresh_run {events : List NotificationEvent}
    (hevents : Along (step primitives) (FreshScopes primitives) initial events)
    (hprepares : Along (step primitives) PreparesBackup initial events) :
    (run (step primitives) initial events).Regular primitives ∧
      (run (step primitives) initial events).Fresh := by
  have hstep : ∀ (world : NotificationWorld) event,
      world.Regular primitives ∧ world.Marked ∧ world.Fresh →
      world.FreshScopes primitives event ∧ world.PreparesBackup event →
      (world.step primitives event).Regular primitives ∧
        (world.step primitives event).Marked ∧ (world.step primitives event).Fresh := by
    rintro world event ⟨hregular, hmarked, hfresh⟩ ⟨hevent, hprepare⟩
    exact ⟨hregular.step event, hmarked.step hregular hprepare,
      hfresh.step hregular hmarked hevent⟩
  obtain ⟨hregular, -, hfresh⟩ := run_invariant_along hstep
    ⟨regular_initial, marked_initial, fresh_initial⟩ (along_and.mpr ⟨hevents, hprepares⟩)
  exact ⟨hregular, hfresh⟩

/-- The deletion id of the scope's next drain is in no operation and not in the ledger. -/
def Unrecorded (world : NotificationWorld) (deletionId : DeletionId) : Prop :=
  (∀ operation ∈ world.tables.operations.rows, operation.deletionId ≠ deletionId) ∧
    ∀ item ∈ world.ledger, item.deletionId ≠ deletionId

def Mutable (world : NotificationWorld) : Prop :=
  world.tables.service.serving = true ∧ world.tables.service.mutationsEnabled = true

theorem Regular.missing_eq_none (h : world.Regular primitives) (hmutable : world.Mutable) :
    world.missing = none := by
  cases hmissing : world.missing with
  | none => rfl
  | some head =>
    have hserving := hmutable.1
    simp [ServiceState.serving, (h.missing head hmissing).2] at hserving

theorem Fresh.unrecorded (h : world.Fresh) (hregular : world.Regular primitives)
    (hmutable : world.Mutable) {deletionId : DeletionId}
    (hactive : world.tables.scopeState deletionId.kind deletionId.scopeId = some .active) :
    world.Unrecorded deletionId := by
  constructor
  · rintro operation hoperation rfl
    exact h.tables.operations operation hoperation hactive
  · rintro item hitem rfl
    apply h.tables.ledger item hitem _ hactive
    rw [hregular.missing_eq_none hmutable]
    exact hregular.sequence_le hitem

theorem insertOperation_of_unused {tables : Tables} {row : OperationRow}
    (hoperationId : tables.operations.find? row.operationId = none)
    (hdeletionId : ∀ operation ∈ tables.operations.rows, operation.deletionId ≠ row.deletionId) :
    ∃ tables', insertOperation row tables = .ok ((), tables') := by
  have hnew := Keyed.find?_eq_none.mp hoperationId
  exact ⟨_, insertOperation_eq_ok.mpr ⟨hdeletionId,
    ⟨tables.operations.rows ++ [row], tables.operations.unique.insert hnew⟩,
    Keyed.insert?_eq_some.mpr ⟨hnew, rfl⟩, rfl⟩⟩

theorem Fresh.startInstallationDrain (h : world.Fresh) (hregular : world.Regular primitives)
    (hmutable : world.Mutable) {clock : FenceClock}
    (hinstallation : installation ∈ world.tables.installations.rows)
    (hactive : installation.state = .active) (hcredential : installation.credentialHash =
      some (primitives.hashInstallationCredential credential))
    (hoperationId : world.tables.operations.find? operationId = none) :
    ∃ tables, Notifications.startInstallationDrain primitives installation.installationId
      credential operationId clock world.tables = .ok ((), tables) := by
  have hfound := Keyed.find?_of_mem hinstallation
  have hunrecorded : world.Unrecorded ⟨.installation, installation.installationId,
      installation.revocationGeneration + 1⟩ := by
    apply h.unrecorded hregular hmutable
    simp [hfound, hactive]
  obtain ⟨tables, hinsert⟩ : ∃ tables, insertOperation ⟨operationId,
      ⟨.installation, installation.installationId, installation.revocationGeneration + 1⟩,
      .installation, installation.installationId, none⟩
      (setInstallationState installation.installationId .draining world.tables) =
        .ok ((), tables) :=
    insertOperation_of_unused hoperationId hunrecorded.1
  refine ⟨fenceInstallationDispatchWork installation.installationId
    ⟨.installation, installation.installationId, installation.revocationGeneration + 1⟩ false
    clock tables, ?_⟩
  unfold Notifications.startInstallationDrain
  simp only [Transaction.bind_eq_ok, assertMutable_eq_ok, Transaction.read_eq_ok]
  refine ⟨(), _, ⟨hmutable, rfl⟩, _, _, ⟨rfl, rfl⟩, ?_⟩
  rw [hfound]
  simp only [hactive, drainInstallation, Transaction.bind_eq_ok, Transaction.ensure_eq_ok,
    change_eq_ok]
  exact ⟨(), _, ⟨hcredential, rfl⟩, (), _, rfl, (), tables, hinsert, rfl⟩

theorem Fresh.startAccountLinkDrain (h : world.Fresh) (hregular : world.Regular primitives)
    (hmutable : world.Mutable) {link : AccountLinkRow}
    {clock : FenceClock} (hinstallation : installation ∈ world.tables.installations.rows)
    (hactive : installation.state = .active) (hcredential : installation.credentialHash =
      some (primitives.hashInstallationCredential credential))
    (hlink : link ∈ world.tables.accountLinks.rows) (hlinkActive : link.state = .active)
    (howner : link.installationId = installation.installationId)
    (hoperationId : world.tables.operations.find? operationId = none) :
    ∃ tables, Notifications.startAccountLinkDrain primitives installation.installationId
      credential link.accountLinkId operationId none clock world.tables = .ok ((), tables) := by
  have hinstallationFound := Keyed.find?_of_mem hinstallation
  have hfound := Keyed.find?_of_mem hlink
  have hunrecorded : world.Unrecorded
      ⟨.accountLink, link.accountLinkId, link.revocationGeneration + 1⟩ := by
    apply h.unrecorded hregular hmutable
    simp [hfound, hlinkActive]
  obtain ⟨tables, hinsert⟩ : ∃ tables, insertOperation ⟨operationId,
      ⟨.accountLink, link.accountLinkId, link.revocationGeneration + 1⟩, .accountLink,
      link.accountLinkId, none⟩
      (setAccountLinkState (fun row => row.accountLinkId = link.accountLinkId) .draining
        world.tables) = .ok ((), tables) :=
    insertOperation_of_unused hoperationId hunrecorded.1
  refine ⟨fenceAccountLinkDispatchWork link.accountLinkId
    ⟨.accountLink, link.accountLinkId, link.revocationGeneration + 1⟩ false clock tables, ?_⟩
  unfold Notifications.startAccountLinkDrain
  simp only [Transaction.bind_eq_ok, assertMutable_eq_ok, lockAuthenticated_eq_ok,
    admitMutation_eq_ok, Transaction.read_eq_ok]
  refine ⟨(), _, ⟨hmutable, rfl⟩, installation, _,
    ⟨⟨hinstallationFound, hcredential, hactive⟩, rfl⟩, (), _, ⟨trivial, rfl⟩, _, _, ⟨rfl, rfl⟩, ?_⟩
  rw [hfound]
  simp only [hlinkActive, drainAccountLink, Transaction.bind_eq_ok, Transaction.ensure_eq_ok,
    change_eq_ok]
  exact ⟨(), _, ⟨howner, rfl⟩, (), _, rfl, (), tables, hinsert, rfl⟩

/-- While the service takes mutations, the deletion ids of the active scopes are unrecorded,
and every one of these scopes can be drained. -/
theorem active_scopes_drainable (primitives : StorePrimitives) (events : List NotificationEvent)
    (hevents : Along (step primitives) (FreshScopes primitives) initial events)
    (hprepares : Along (step primitives) PreparesBackup initial events)
    (hmutable : (run (step primitives) initial events).Mutable) :
    ∀ installation ∈ (run (step primitives) initial events).tables.installations.rows,
      installation.state = .active →
        (run (step primitives) initial events).Unrecorded
          ⟨.installation, installation.installationId, installation.revocationGeneration + 1⟩ ∧
        ∀ credential, installation.credentialHash =
            some (primitives.hashInstallationCredential credential) →
          ∀ operationId, (run (step primitives) initial events).tables.operations.find?
              operationId = none →
            (∀ clock, ∃ tables, Notifications.startInstallationDrain primitives
              installation.installationId credential operationId clock
              (run (step primitives) initial events).tables = .ok ((), tables)) ∧
            ∀ link ∈ (run (step primitives) initial events).tables.accountLinks.rows,
              link.state = .active → link.installationId = installation.installationId →
                (run (step primitives) initial events).Unrecorded
                  ⟨.accountLink, link.accountLinkId, link.revocationGeneration + 1⟩ ∧
                ∀ clock, ∃ tables, Notifications.startAccountLinkDrain primitives
                  installation.installationId credential link.accountLinkId operationId none
                  clock (run (step primitives) initial events).tables = .ok ((), tables) := by
  obtain ⟨hregular, h⟩ := fresh_run hevents hprepares
  intro installation hinstallation hactive
  refine ⟨?_, ?_⟩
  · apply h.unrecorded hregular hmutable
    simp [Keyed.find?_of_mem hinstallation, hactive]
  · intro credential hcredential operationId hoperationId
    refine ⟨?_, ?_⟩
    · intro clock
      exact h.startInstallationDrain hregular hmutable hinstallation hactive hcredential
        hoperationId
    · intro link hlink hlinkActive howner
      refine ⟨?_, ?_⟩
      · apply h.unrecorded hregular hmutable
        simp [Keyed.find?_of_mem hlink, hlinkActive]
      · intro clock
        exact h.startAccountLinkDrain hregular hmutable hinstallation hactive hcredential hlink
          hlinkActive howner hoperationId

end NotificationWorld

/-! ### An account link that is made again -/

namespace Sample

def unlinking : List NotificationEvent :=
  [ .arrive (.unlinkAccount installationId credential accountLinkId
      "33333333333333333333333333333333"), .proceed 0 (inputs 20), .proceed 0 (inputs 30),
    .proceed 0 (inputs 40), .proceed 0 (inputs 50), .proceed 0 (inputs 60) ]

/-- The account is linked and unlinked; the link is asked for again with the proof that was
consumed, and is refused. -/
def unlinked : List NotificationEvent :=
  linked ++ (unlinking ++ [ .link (linkRequest challenge signature 0) (inputs 70) ])

def installationRow : InstallationRow :=
  ⟨installationId, some "7c04df00709970098da1e698293fa2a10c7d71ab8bd4696a9fad63bf38be0801",
    "d1312678dd337ab7ece28251ac8ba80310ebab44ed0c454d35a8f4cc377389f1", "v1", .active, 1, 0⟩

def relinking : List NotificationEvent :=
  [ .issue (issueRequest secondChallenge) (inputs 100),
    .link (linkRequest secondChallenge secondSignature 100) (inputs 110) ]

end Sample

open NotificationWorld

theorem fresh_unlinked : Along (step Sample.recorded)
    (fun world event => world.FreshScopes Sample.recorded event ∧ world.PreparesBackup event)
    initial Sample.unlinked := by
  rw [Sample.unlinked, along_append, Sample.run_linked]
  exact ⟨by decide +kernel, by decide +kernel⟩

theorem run_unlinked :
    let world := run (step Sample.recorded) initial Sample.unlinked
    (world.tables.service.serving = true ∧ world.tables.service.mutationsEnabled = true) ∧
      Sample.installationRow ∈ world.tables.installations.rows ∧
      world.tables.operations.find? "44444444444444444444444444444444" = none ∧
      world.ledger.length = 1 := by
  rw [Sample.unlinked, run_append, Sample.run_linked]
  decide +kernel

/-- The link was unlinked, and one under its spent id was refused: the installation can be
drained. -/
theorem active_scopes_drainable_unlinked :
    (run (step Sample.recorded) initial Sample.unlinked).ledger.length = 1 ∧
      ∃ tables, startInstallationDrain Sample.recorded Sample.installationRow.installationId
        Sample.credential "44444444444444444444444444444444" ⟨1700000120000000, 1700000120000000⟩
        (run (step Sample.recorded) initial Sample.unlinked).tables = .ok ((), tables) := by
  obtain ⟨hmutable, hmem, hunused, hlength⟩ := run_unlinked
  obtain ⟨hfresh, hprepares⟩ := along_and.mp fresh_unlinked
  have hcredential : Sample.installationRow.credentialHash =
      some (Sample.recorded.hashInstallationCredential Sample.credential) := by decide
  obtain ⟨-, hscopes⟩ := active_scopes_drainable Sample.recorded Sample.unlinked hfresh hprepares
    hmutable Sample.installationRow hmem rfl
  exact ⟨hlength, (hscopes Sample.credential hcredential _ hunused).1 _⟩

/-- An account link that is made again under its id cannot be drained: the deletion id that
its new row gives is the one of the operation that unlinked it before. -/
theorem relinked_account_not_drainable :
    ∃ tables, tables = (run (step Sample.recorded) initial
        (Sample.linked ++ (Sample.unlinking ++ Sample.relinking))).tables ∧
      tables.scopeState .accountLink Sample.accountLinkId = some .active ∧
      tables.service = ⟨.contracted, .ready, 0, 0, true, false, false⟩ ∧
      tables.operations.find? "44444444444444444444444444444444" = none ∧
      startAccountLinkDrain Sample.recorded Sample.installationId Sample.credential
          Sample.accountLinkId "44444444444444444444444444444444" none
          ⟨1700000120000000, 1700000120000000⟩ tables = .error .uniqueViolation := by
  refine ⟨_, rfl, ?_⟩
  rw [run_append, Sample.run_linked]
  decide +kernel

end Notifications

end HyperTrader
