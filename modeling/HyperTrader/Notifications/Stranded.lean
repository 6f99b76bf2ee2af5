import HyperTrader.Notifications.Regular

/-!
# Stranded operations

An operation that is draining needs the row of its scope, draining, to be committed. The
commit of an unlink deletes the link of its own operation only, but the commit of an
installation's revocation also deletes the links of the installation, and a replay deletes
the scopes that the ledger names, whatever operations the database has. As long as neither
removes a scope that another operation drains, every operation that drains is attended.
-/

namespace HyperTrader

open Library

namespace Notifications

variable {primitives : StorePrimitives}

def Undrained (tables : Tables) (kind : DeletionScopeKind) (scopeId : String) : Prop :=
  ∀ operation ∈ tables.operations.rows, operation.draining = true →
    ¬ (operation.scopeKind = kind ∧ operation.scopeId = scopeId)

def LinksUndrained (tables : Tables) (installationId : String) : Prop :=
  ∀ link ∈ tables.accountLinks.rows, link.installationId = installationId →
    Undrained tables .accountLink link.accountLinkId

/-- Every operation that drains names a scope that is draining, and no scope is drained by
two of them. -/
structure Attended (tables : Tables) : Prop where
  draining : ∀ operation ∈ tables.operations.rows, operation.draining = true →
    tables.scopeState operation.scopeKind operation.scopeId = some .draining
  single : ∀ operation ∈ tables.operations.rows, ∀ other ∈ tables.operations.rows,
    operation.draining = true → other.draining = true →
      operation.scopeKind = other.scopeKind → operation.scopeId = other.scopeId →
        operation = other

section

variable {tables tables' : Tables} {clock : FenceClock} {u : Unit} {limited : Option String}
  {now : ℤ} {kind : DeletionScopeKind} {scopeId operationId installationId : String}
  {installation : InstallationRow} {installationIds operationIds : List String}
  {request : LostInstallationRevokeRequest} {selected : List InstallationRow}
  {clocks : String → FenceClock} {operation : OperationRow} {generation : InstallationRow → ℕ}
  {view : OperationView} {item : DeletionTombstoneItem} {receipt : DeletionLedgerReceipt}

theorem Attended.undrained (h : Attended tables)
    (hstate : tables.scopeState kind scopeId ≠ some .draining) : Undrained tables kind scopeId := by
  rintro operation hoperation hdraining ⟨rfl, rfl⟩
  exact hstate (h.draining operation hoperation hdraining)

theorem Attended.keep (h : Attended tables)
    (hoperations : ∀ operation ∈ tables'.operations.rows, operation.draining = true →
      operation ∈ tables.operations.rows ∧
        (tables.scopeState operation.scopeKind operation.scopeId = some .draining →
          tables'.scopeState operation.scopeKind operation.scopeId = some .draining)) :
    Attended tables' where
  draining := by
    intro operation hoperation hdraining
    obtain ⟨hold, hkept⟩ := hoperations operation hoperation hdraining
    exact hkept (h.draining operation hold hdraining)
  single := by
    intro operation hoperation other hother hdraining hdraining' hkind hscopeId
    exact h.single operation (hoperations operation hoperation hdraining).1 other
      (hoperations other hother hdraining').1 hdraining hdraining' hkind hscopeId

theorem Attended.of_scopes (h : Attended tables)
    (hoperations : tables'.operations = tables.operations)
    (hscopes : ∀ kind scopeId, tables.scopeState kind scopeId = some .draining →
      tables'.scopeState kind scopeId = some .draining) : Attended tables' := by
  apply h.keep
  intro operation hoperation _
  rw [hoperations] at hoperation
  exact ⟨hoperation, hscopes _ _⟩

theorem Attended.insert (h : Attended tables) {row : OperationRow}
    (hundrained : Undrained tables row.scopeKind row.scopeId)
    (hoperations : tables'.operations.rows = tables.operations.rows ++ [row])
    (hscopes : ∀ kind scopeId, tables.scopeState kind scopeId = some .draining →
      tables'.scopeState kind scopeId = some .draining)
    (hstate : tables'.scopeState row.scopeKind row.scopeId = some .draining) :
    Attended tables' where
  draining := by
    intro operation hoperation hdraining
    rw [hoperations] at hoperation
    rcases List.mem_append.mp hoperation with hold | hlast
    · exact hscopes _ _ (h.draining operation hold hdraining)
    · rw [List.mem_singleton.mp hlast]
      exact hstate
  single := by
    intro operation hoperation other hother hdraining hdraining' hkind hscopeId
    rw [hoperations] at hoperation hother
    rcases List.mem_append.mp hoperation with hold | hlast <;>
      rcases List.mem_append.mp hother with hold' | hlast'
    · exact h.single operation hold other hold' hdraining hdraining' hkind hscopeId
    · rw [List.mem_singleton.mp hlast'] at hkind hscopeId
      exact absurd ⟨hkind, hscopeId⟩ (hundrained operation hold hdraining)
    · rw [List.mem_singleton.mp hlast] at hkind hscopeId
      exact absurd ⟨hkind.symm, hscopeId.symm⟩ (hundrained other hold' hdraining')
    · rw [List.mem_singleton.mp hlast, List.mem_singleton.mp hlast']

/-! ### Drains -/

theorem scopeState_congr (hinstallations : tables'.installations = tables.installations)
    (haccountLinks : tables'.accountLinks = tables.accountLinks) (kind : DeletionScopeKind)
    (scopeId : String) : tables'.scopeState kind scopeId = tables.scopeState kind scopeId := by
  cases kind with
  | installation => rw [Tables.scopeState_installation, Tables.scopeState_installation,
      hinstallations]
  | accountLink => rw [Tables.scopeState_accountLink, Tables.scopeState_accountLink, haccountLinks]
  | pushToken => rfl

theorem scopeState_drainedInstallation (installationId : String) (kind : DeletionScopeKind)
    (scopeId : String) :
    (setInstallationState installationId .draining tables).scopeState kind scopeId =
      if kind = .installation ∧ scopeId = installationId then
        (tables.scopeState kind scopeId).map fun _ => .draining
      else tables.scopeState kind scopeId := by
  cases kind with
  | installation =>
    rw [Tables.scopeState_installation, Tables.scopeState_installation, setInstallationState,
      Keyed.find?_update]
    cases hfound : tables.installations.find? scopeId with
    | none => simp
    | some row =>
      have hkey := Keyed.key_of_find? hfound
      by_cases hsame : scopeId = installationId <;> simp [hkey, hsame]
  | accountLink => simp [setInstallationState]
  | pushToken => simp

theorem scopeState_drainedAccountLinks (wher : AccountLinkRow → Bool)
    (kind : DeletionScopeKind) (scopeId : String) :
    (setAccountLinkState wher .draining tables).scopeState kind scopeId =
        tables.scopeState kind scopeId ∨
      kind = .accountLink ∧ (setAccountLinkState wher .draining tables).scopeState kind scopeId =
        some .draining := by
  cases kind with
  | installation => exact .inl rfl
  | pushToken => exact .inl rfl
  | accountLink =>
    rw [Tables.scopeState_accountLink, Tables.scopeState_accountLink, setAccountLinkState,
      Keyed.find?_update]
    cases hfound : tables.accountLinks.find? scopeId with
    | none => exact .inl rfl
    | some row =>
      by_cases hwher : wher row = true
      · exact .inr ⟨rfl, by simp [hwher]⟩
      · exact .inl (by simp [hwher])

theorem Attended.setAccountLinkState (h : Attended tables) {wher : AccountLinkRow → Bool} :
    Attended (Notifications.setAccountLinkState wher .draining tables) := by
  have hoperations : (Notifications.setAccountLinkState wher .draining tables).operations =
      tables.operations := rfl
  apply h.of_scopes hoperations
  intro kind scopeId hstate
  rcases scopeState_drainedAccountLinks wher kind scopeId with hsame | ⟨-, hdraining⟩
  · exact hsame.trans hstate
  · exact hdraining

theorem drainInstallation_eq_ok
    (h : drainInstallation installation operationId clock tables = .ok (u, tables')) :
    tables'.operations.rows = tables.operations.rows ++ [⟨operationId,
        ⟨.installation, installation.installationId, installation.revocationGeneration + 1⟩,
        .installation, installation.installationId, none⟩] ∧
      ∀ kind scopeId, tables'.scopeState kind scopeId =
        if kind = .installation ∧ scopeId = installation.installationId then
          (tables.scopeState kind scopeId).map fun _ => .draining
        else tables.scopeState kind scopeId := by
  unfold drainInstallation at h
  simp only [Transaction.bind_eq_ok, change_eq_ok] at h
  obtain ⟨_, _, rfl, _, _, hinsert, rfl⟩ := h
  obtain ⟨-, operations, hrows, rfl⟩ := insertOperation_eq_ok.mp hinsert
  refine ⟨(Keyed.insert?_eq_some.mp hrows).2, ?_⟩
  intro kind scopeId
  rw [← scopeState_drainedInstallation]
  exact scopeState_congr rfl rfl kind scopeId

theorem drainAccountLink_eq_ok {link : AccountLinkRow}
    (h : drainAccountLink link operationId clock tables = .ok (u, tables')) :
    tables'.operations.rows = tables.operations.rows ++ [⟨operationId,
        ⟨.accountLink, link.accountLinkId, link.revocationGeneration + 1⟩,
        .accountLink, link.accountLinkId, none⟩] ∧
      ∀ kind scopeId, tables'.scopeState kind scopeId = (setAccountLinkState
        (fun row => row.accountLinkId = link.accountLinkId) .draining tables).scopeState
          kind scopeId := by
  unfold drainAccountLink at h
  simp only [Transaction.bind_eq_ok, change_eq_ok] at h
  obtain ⟨_, _, rfl, _, _, hinsert, rfl⟩ := h
  obtain ⟨-, operations, hrows, rfl⟩ := insertOperation_eq_ok.mp hinsert
  refine ⟨(Keyed.insert?_eq_some.mp hrows).2, ?_⟩
  intro kind scopeId
  exact scopeState_congr rfl rfl kind scopeId

theorem Attended.drainInstallation (h : Attended tables)
    (hactive : tables.scopeState .installation installation.installationId = some .active)
    (hdrain : drainInstallation installation operationId clock tables = .ok (u, tables')) :
    Attended tables' := by
  obtain ⟨hoperations, hscopes⟩ := drainInstallation_eq_ok hdrain
  have hundrained : Undrained tables .installation installation.installationId := by
    apply h.undrained
    rw [hactive]
    decide
  apply h.insert hundrained hoperations
  · intro kind scopeId hstate
    rw [hscopes, hstate]
    split <;> rfl
  · rw [hscopes, hactive]
    simp

theorem Attended.drainAccountLink (h : Attended tables) {link : AccountLinkRow}
    (hactive : tables.scopeState .accountLink link.accountLinkId = some .active)
    (hdrain : drainAccountLink link operationId clock tables = .ok (u, tables')) :
    Attended tables' := by
  obtain ⟨hoperations, hscopes⟩ := drainAccountLink_eq_ok hdrain
  have hundrained : Undrained tables .accountLink link.accountLinkId := by
    apply h.undrained
    rw [hactive]
    decide
  apply h.insert hundrained hoperations
  · intro kind scopeId hstate
    rw [hscopes]
    rcases scopeState_drainedAccountLinks (fun row => row.accountLinkId = link.accountLinkId)
      kind scopeId with hsame | ⟨-, hdraining⟩
    · exact hsame.trans hstate
    · exact hdraining
  · rw [hscopes, scopeState_setAccountLinkState]
    obtain ⟨row, hrow, -⟩ := Option.map_eq_some_iff.mp hactive
    rw [hrow]
    rfl

theorem nodup_of_sortedAndUnique
    (h : sortedAndUnique installationIds = true) : installationIds.Nodup := by
  have hchain : installationIds.IsChain (· < ·) := by
    fun_induction sortedAndUnique installationIds with
    | case1 => exact .nil
    | case2 installationId => exact .singleton installationId
    | case3 installationId next rest ih =>
      simp only [Bool.and_eq_true, decide_eq_true_eq] at h
      exact .cons_cons h.1.2 (ih h.2)
  have hpairwise : installationIds.Pairwise (· < ·) := hchain.pairwise
  exact hpairwise.imp fun hlt => String.ne_of_lt hlt

theorem lockSelected_eq_ok
    (h : lockSelected request installationIds tables = .ok (selected, tables')) :
    selected.map InstallationRow.installationId = installationIds ∧
      ∀ installation ∈ selected,
        tables.scopeState .installation installation.installationId = some .active := by
  induction installationIds generalizing selected tables' with
  | nil =>
    obtain ⟨rfl, -⟩ := Transaction.pure_eq_ok.mp h
    simp
  | cons installationId rest ih =>
    simp only [lockSelected, Transaction.bind_eq_ok, Transaction.read_eq_ok] at h
    obtain ⟨_, _, ⟨rfl, rfl⟩, hrest⟩ := h
    cases hfound : tables.installations.find? installationId with
    | none =>
      rw [hfound] at hrest
      cases hrest
    | some installation =>
      simp only [hfound, Transaction.bind_eq_ok, Transaction.ensure_eq_ok,
        Transaction.pure_eq_ok] at hrest
      obtain ⟨_, _, ⟨⟨hactive, -⟩, rfl⟩, others, _, hothers, rfl, rfl⟩ := hrest
      obtain ⟨hids, hrestActive⟩ := ih hothers
      have hkey := Keyed.key_of_find? hfound
      refine ⟨by rw [List.map_cons, hids, hkey], ?_⟩
      intro other hother
      rcases List.mem_cons.mp hother with rfl | hlater
      · simp [hkey, hfound, hactive]
      · exact hrestActive other hlater

theorem Attended.drainSelected (h : Attended tables)
    (hdistinct : (selected.map InstallationRow.installationId).Nodup)
    (hactive : ∀ installation ∈ selected,
      tables.scopeState .installation installation.installationId = some .active)
    (hdrain : drainSelected primitives request clocks selected tables =
      .ok (operationIds, tables')) : Attended tables' := by
  induction selected generalizing tables operationIds with
  | nil =>
    obtain ⟨-, rfl⟩ := Transaction.pure_eq_ok.mp hdrain
    exact h
  | cons installation rest ih =>
    simp only [Notifications.drainSelected, Transaction.bind_eq_ok, change_eq_ok,
      Transaction.pure_eq_ok] at hdrain
    obtain ⟨_, _, rfl, _, middle, hfirst, _, _, hrest, -, rfl⟩ := hdrain
    obtain ⟨hnew, hothers⟩ := List.nodup_cons.mp hdistinct
    have hlinks : Attended (Notifications.setAccountLinkState
        (request.proven installation.installationId) .draining tables) := h.setAccountLinkState
    have hmiddle := hlinks.drainInstallation (hactive installation List.mem_cons_self) hfirst
    apply ih hmiddle hothers _ hrest
    intro other hother
    rw [(drainInstallation_eq_ok hfirst).2, if_neg]
    · exact hactive other (List.mem_cons_of_mem _ hother)
    · rintro ⟨-, hsame⟩
      exact hnew (hsame ▸ List.mem_map_of_mem hother)

theorem Attended.start (h : Attended tables) {request : RevocationRequest} {inputs : Inputs}
    (hstart : request.start primitives inputs tables = .ok (operationIds, tables')) :
    Attended tables' := by
  cases request with
  | revokeInstallation installationId credential operationId =>
    simp only [RevocationRequest.start, Transaction.bind_eq_ok, Transaction.pure_eq_ok] at hstart
    obtain ⟨_, _, hstart, -, rfl⟩ := hstart
    obtain ⟨installation, hfound, -, ⟨-, halready⟩ | ⟨hactive, hdrain⟩⟩ :=
      startInstallationDrain_eq_ok hstart
    · rw [(drainingAlready_eq_ok halready).1]
      exact h
    · apply h.drainInstallation _ hdrain
      simp [Keyed.key_of_find? hfound, hfound, hactive]
  | unlinkAccount installationId credential accountLinkId operationId =>
    simp only [RevocationRequest.start, Transaction.bind_eq_ok, Transaction.pure_eq_ok] at hstart
    obtain ⟨_, _, hstart, -, rfl⟩ := hstart
    obtain ⟨_, link, -, -, -, hfound, -, ⟨-, halready⟩ | ⟨hactive, hdrain⟩⟩ :=
      startAccountLinkDrain_eq_ok hstart
    · rw [(drainingAlready_eq_ok halready).1]
      exact h
    · apply h.drainAccountLink _ hdrain
      simp [Keyed.key_of_find? hfound, hfound, hactive]
  | revokeLostInstallations request =>
    obtain ⟨hsorted, selected, challenges, hlock, hdrain⟩ :=
      verifyLostInstallationRevokeProof_eq_ok hstart
    obtain ⟨hids, hactive⟩ := lockSelected_eq_ok hlock
    have hconsumed : Attended { tables with challenges := challenges } :=
      h.of_scopes rfl fun kind scopeId hstate =>
        (scopeState_congr rfl rfl kind scopeId).trans hstate
    apply hconsumed.drainSelected _ _ hdrain
    · rw [hids]
      exact nodup_of_sortedAndUnique hsorted
    · intro installation hinstallation
      exact (scopeState_congr rfl rfl _ _).trans (hactive installation hinstallation)

/-! ### Commits -/

theorem draining_commitOperation {sequence : ℕ} {operations : Keyed OperationRow.operationId}
    (hoperation : operation ∈ (operations.update
      (fun operation => operation.operationId = operationId)
      (fun operation => { operation with ledgerSequence := some sequence })
      fun _ => rfl).rows) (hdraining : operation.draining = true) :
    operation ∈ operations.rows ∧ operation.operationId ≠ operationId := by
  obtain ⟨old, hold, ⟨-, rfl⟩ | ⟨hother, rfl⟩⟩ := Table.mem_update.mp hoperation
  · cases hdraining
  · exact ⟨hold, by simpa using hother⟩

theorem draining_of_committed (hoperation : operation ∈ tables.operations.rows)
    (hid : operation.operationId = operationId)
    (hcommitted : committed tables operationId = false) : operation.draining = true := by
  have hfound := Keyed.find?_of_mem hoperation
  rw [hid] at hfound
  unfold committed at hcommitted
  rw [hfound] at hcommitted
  simpa using hcommitted

theorem find?_revokeInstallationRows (hother : scopeId ≠ installationId) :
    (revokeInstallationRows installationId generation tables).installations.find? scopeId =
      tables.installations.find? scopeId := by
  rw [revokeInstallationRows, Keyed.find?_update]
  change (tables.installations.find? scopeId).map _ = _
  cases hfound : tables.installations.find? scopeId with
  | none => rfl
  | some row => simp [Keyed.key_of_find? hfound, hother]

theorem scopeState_revokeInstallationRows_of_ne
    (hinstallation : kind = .installation → scopeId ≠ installationId)
    (hlink : kind = .accountLink → ∀ link, tables.accountLinks.find? scopeId = some link →
      link.installationId ≠ installationId)
    (hstate : tables.scopeState kind scopeId = some .draining) :
    (revokeInstallationRows installationId generation tables).scopeState kind scopeId =
      some .draining := by
  cases kind with
  | installation =>
    rw [Tables.scopeState_installation, find?_revokeInstallationRows (hinstallation rfl)]
    exact hstate
  | accountLink =>
    rw [Tables.scopeState_accountLink, accountLinks_revokeInstallationRows, Keyed.find?_delete]
    obtain ⟨link, hfound, hdraining⟩ := Option.map_eq_some_iff.mp hstate
    have hkept := hlink rfl link hfound
    simp [hfound, hkept, hdraining]
  | pushToken => cases hstate

theorem scopeState_unlinkAccountRows_of_ne {accountLinkId : String}
    (hlink : kind = .accountLink → scopeId ≠ accountLinkId)
    (hstate : tables.scopeState kind scopeId = some .draining) :
    (unlinkAccountRows accountLinkId tables).scopeState kind scopeId = some .draining := by
  cases kind with
  | installation => exact hstate
  | accountLink =>
    rw [Tables.scopeState_accountLink, accountLinks_unlinkAccountRows, Keyed.find?_delete]
    obtain ⟨link, hfound, hdraining⟩ := Option.map_eq_some_iff.mp hstate
    simp [hfound, Keyed.key_of_find? hfound, hlink rfl, hdraining]
  | pushToken => cases hstate

theorem Attended.commitInstallation (h : Attended tables)
    (hview : ViewSound primitives tables .installation operationId view)
    (hspared : committed tables operationId = false →
      inFlight (fenceInstallationDispatchWork view.scopeId view.deletionId false clock tables)
          .installation view.scopeId now = false → LinksUndrained tables view.scopeId)
    (hcommit : commitInstallation operationId view item receipt clock now tables =
      .ok (u, tables')) : Attended tables' := by
  rcases commitInstallation_eq_ok hcommit with
    ⟨-, rfl⟩ | ⟨hcommitted, installation, middle, -, -, hidle, hrecord, hlast⟩
  · exact h
  · obtain ⟨own, hown, hownId, hownKind, hownScope, -⟩ := hview.operation
    have hownDraining := draining_of_committed hown hownId hcommitted
    have hlinks := hspared hcommitted hidle
    rw [commitOperation_eq_ok hlast, recordDeletionTombstone_eq_ok hrecord]
    apply h.keep
    intro operation hoperation hdraining
    obtain ⟨hold, hother⟩ := draining_commitOperation hoperation hdraining
    refine ⟨hold, ?_⟩
    intro hstate
    have hkept : (revokeInstallationRows view.scopeId (fun row => row.revocationGeneration + 1)
        tables).scopeState operation.scopeKind operation.scopeId = some .draining := by
      apply scopeState_revokeInstallationRows_of_ne _ _ hstate
      · intro hkind hsame
        have heq := h.single operation hold own hown hdraining hownDraining
          (hkind.trans hownKind.symm) (hsame.trans hownScope.symm)
        exact hother (heq ▸ hownId)
      · intro hkind link hfound howner
        obtain ⟨hmem, hid⟩ := Keyed.find?_eq_some.mp hfound
        exact hlinks link hmem howner operation hold hdraining ⟨hkind, hid.symm⟩
    exact (scopeState_congr rfl rfl _ _).trans hkept

theorem Attended.commitAccountLink (h : Attended tables)
    (hview : ViewSound primitives tables .accountLink operationId view)
    (hcommit : commitAccountLink operationId view item receipt clock now tables =
      .ok (u, tables')) : Attended tables' := by
  rcases commitAccountLink_eq_ok hcommit with
    ⟨-, rfl⟩ | ⟨hcommitted, link, middle, -, -, -, hrecord, hlast⟩
  · exact h
  · obtain ⟨own, hown, hownId, hownKind, hownScope, -⟩ := hview.operation
    have hownDraining := draining_of_committed hown hownId hcommitted
    rw [commitOperation_eq_ok hlast, recordDeletionTombstone_eq_ok hrecord]
    apply h.keep
    intro operation hoperation hdraining
    obtain ⟨hold, hother⟩ := draining_commitOperation hoperation hdraining
    refine ⟨hold, ?_⟩
    intro hstate
    have hkept : (unlinkAccountRows view.scopeId tables).scopeState operation.scopeKind
        operation.scopeId = some .draining := by
      apply scopeState_unlinkAccountRows_of_ne _ hstate
      intro hkind hsame
      have heq := h.single operation hold own hown hdraining hownDraining
        (hkind.trans hownKind.symm) (hsame.trans hownScope.symm)
      exact hother (heq ▸ hownId)
    exact (scopeState_congr rfl rfl _ _).trans hkept

/-! ### Replays -/

/-- No operation drains a scope that the replayed deletion removes. -/
def SparedBy (tables : Tables) (item : DeletionTombstoneItem) : Prop :=
  match item.scopeKind with
  | .installation => ∀ row ∈ tables.installations.rows, row.recoveryScopeMac = item.scopeMac →
      Undrained tables .installation row.installationId ∧
        LinksUndrained tables row.installationId
  | .accountLink => ∀ link ∈ tables.accountLinks.rows, link.recoveryScopeMac = item.scopeMac →
      Undrained tables .accountLink link.accountLinkId
  | .pushToken => True

theorem Undrained.of_eq
    (h : Undrained tables kind scopeId) (hoperations : tables'.operations = tables.operations) :
    Undrained tables' kind scopeId := by
  intro operation hoperation
  rw [hoperations] at hoperation
  exact h operation hoperation

theorem LinksUndrained.succeeds
    (h : LinksUndrained tables installationId) (hnext : tables.Succeeds tables')
    (hoperations : tables'.operations = tables.operations) :
    LinksUndrained tables' installationId := by
  intro link' hlink' howner
  obtain ⟨link, hfound, hsucceeds⟩ := hnext.accountLinks _ link' (Keyed.find?_of_mem hlink')
  obtain ⟨hmem, hid⟩ := Keyed.find?_eq_some.mp hfound
  rw [← hid]
  exact (h link hmem (hsucceeds.installationId.symm.trans howner)).of_eq hoperations

theorem SparedBy.succeeds (h : SparedBy tables item)
    (hnext : tables.Succeeds tables') (hoperations : tables'.operations = tables.operations) :
    SparedBy tables' item := by
  unfold SparedBy at h ⊢
  cases hkind : item.scopeKind with
  | installation =>
    rw [hkind] at h
    intro row' hrow' hmac
    obtain ⟨row, hfound, hsucceeds⟩ := hnext.installations _ row' (Keyed.find?_of_mem hrow')
    obtain ⟨hmem, hid⟩ := Keyed.find?_eq_some.mp hfound
    obtain ⟨hundrained, hlinks⟩ := h row hmem (hsucceeds.recoveryScopeMac.symm.trans hmac)
    rw [← hid]
    exact ⟨hundrained.of_eq hoperations, hlinks.succeeds hnext hoperations⟩
  | accountLink =>
    rw [hkind] at h
    intro link' hlink' hmac
    obtain ⟨link, hfound, hsucceeds⟩ := hnext.accountLinks _ link' (Keyed.find?_of_mem hlink')
    obtain ⟨hmem, hid⟩ := Keyed.find?_eq_some.mp hfound
    rw [← hid]
    exact (h link hmem (hsucceeds.recoveryScopeMac.symm.trans hmac)).of_eq hoperations
  | pushToken => trivial

theorem Attended.replayInstallation (h : Attended tables)
    (hundrained : Undrained tables .installation installation.installationId)
    (hlinks : LinksUndrained tables installation.installationId) :
    Attended (Notifications.replayInstallation item clocks tables installation) := by
  have hoperations : (Notifications.replayInstallation item clocks tables
      installation).operations = tables.operations := rfl
  apply h.keep
  intro operation hoperation hdraining
  rw [hoperations] at hoperation
  refine ⟨hoperation, ?_⟩
  intro hstate
  apply scopeState_revokeInstallationRows_of_ne
  · intro hkind hsame
    exact hundrained operation hoperation hdraining ⟨hkind, hsame⟩
  · intro hkind link hfound howner
    obtain ⟨hmem, hid⟩ := Keyed.find?_eq_some.mp hfound
    exact hlinks link hmem howner operation hoperation hdraining ⟨hkind, hid.symm⟩
  · exact (scopeState_congr rfl rfl _ _).trans hstate

theorem Attended.replayAccountLink (h : Attended tables) {link : AccountLinkRow}
    (hundrained : Undrained tables .accountLink link.accountLinkId) :
    Attended (Notifications.replayAccountLink item clocks tables link) := by
  have hoperations : (Notifications.replayAccountLink item clocks tables link).operations =
      tables.operations := rfl
  apply h.keep
  intro operation hoperation hdraining
  rw [hoperations] at hoperation
  refine ⟨hoperation, ?_⟩
  intro hstate
  apply scopeState_unlinkAccountRows_of_ne
  · intro hkind hsame
    exact hundrained operation hoperation hdraining ⟨hkind, hsame⟩
  · exact (scopeState_congr rfl rfl _ _).trans hstate

theorem operations_replayScope :
    (replayScope item clocks tables).operations = tables.operations := by
  have hinstallations : ∀ (rows : List InstallationRow) (tables : Tables),
      (rows.foldl (Notifications.replayInstallation item clocks) tables).operations =
        tables.operations := by
    intro rows
    induction rows with
    | nil => exact fun _ => rfl
    | cons row rows ih => exact fun tables => ih _
  have hlinks : ∀ (rows : List AccountLinkRow) (tables : Tables),
      (rows.foldl (Notifications.replayAccountLink item clocks) tables).operations =
        tables.operations := by
    intro rows
    induction rows with
    | nil => exact fun _ => rfl
    | cons row rows ih => exact fun tables => ih _
  unfold replayScope
  cases item.scopeKind with
  | installation => exact hinstallations _ _
  | accountLink => exact hlinks _ _
  | pushToken => rfl

theorem Attended.replayScope (h : Attended tables) (hspared : SparedBy tables item) :
    Attended (Notifications.replayScope item clocks tables) := by
  unfold SparedBy at hspared
  unfold Notifications.replayScope
  cases hkind : item.scopeKind with
  | installation =>
    rw [hkind] at hspared
    have hstable : ∀ (tables : Tables) (row later : InstallationRow),
        Undrained tables .installation later.installationId ∧
          LinksUndrained tables later.installationId →
        Undrained (Notifications.replayInstallation item clocks tables row) .installation
            later.installationId ∧
          LinksUndrained (Notifications.replayInstallation item clocks tables row)
            later.installationId := by
      intro tables row later hlater
      exact ⟨hlater.1.of_eq rfl,
        hlater.2.succeeds (retires_replayInstallation tables row).succeeds rfl⟩
    have halong : Along (Notifications.replayInstallation item clocks)
        (fun tables row => Undrained tables .installation row.installationId ∧
          LinksUndrained tables row.installationId) tables
        (tables.installations.rows.filter fun row => row.recoveryScopeMac = item.scopeMac) := by
      apply along_of_stable hstable
      intro row hrow
      obtain ⟨hmem, hmac⟩ := List.mem_filter.mp hrow
      exact hspared row hmem (by simpa using hmac)
    apply run_invariant_along _ h halong
    intro tables row htables hrow
    exact htables.replayInstallation hrow.1 hrow.2
  | accountLink =>
    rw [hkind] at hspared
    have hstable : ∀ (tables : Tables) (link later : AccountLinkRow),
        Undrained tables .accountLink later.accountLinkId →
        Undrained (Notifications.replayAccountLink item clocks tables link) .accountLink
          later.accountLinkId := by
      intro tables link later hlater
      exact hlater.of_eq rfl
    have halong : Along (Notifications.replayAccountLink item clocks)
        (fun tables link => Undrained tables .accountLink link.accountLinkId) tables
        (tables.accountLinks.rows.filter fun row => row.recoveryScopeMac = item.scopeMac) := by
      apply along_of_stable hstable
      intro link hlink
      obtain ⟨hmem, hmac⟩ := List.mem_filter.mp hlink
      exact hspared link hmem (by simpa using hmac)
    apply run_invariant_along _ h halong
    intro tables link htables hlink
    exact htables.replayAccountLink hlink
  | pushToken => exact h.of_scopes rfl fun kind scopeId hstate =>
    (scopeState_congr rfl rfl kind scopeId).trans hstate

theorem Attended.replayItems (h : Attended tables) {currentHead : ℕ}
    {items : List DeletionTombstoneItem} (hspared : ∀ item ∈ items, SparedBy tables item)
    (hreplay : replayItems currentHead clocks items tables = .ok (u, tables')) :
    Attended tables' := by
  induction items generalizing tables with
  | nil =>
    obtain ⟨-, rfl⟩ := Transaction.pure_eq_ok.mp hreplay
    exact h
  | cons item items ih =>
    simp only [Notifications.replayItems, Transaction.bind_eq_ok, change_eq_ok] at hreplay
    obtain ⟨_, _, rfl, _, middle, hrecord, hrest⟩ := hreplay
    have hscope : Attended (Notifications.replayScope item clocks tables) :=
      h.replayScope (hspared item List.mem_cons_self)
    have hmiddle : Attended middle := by
      rw [recordDeletionTombstone_eq_ok hrecord]
      exact hscope.of_scopes rfl fun kind scopeId hstate =>
        (scopeState_congr rfl rfl kind scopeId).trans hstate
    have hretires := retires_replayScope.trans (retires_recordDeletionTombstone hrecord)
    have hsucceeds := hretires.succeeds
    have hoperations : middle.operations = tables.operations := by
      rw [recordDeletionTombstone_eq_ok hrecord]
      exact operations_replayScope
    apply ih hmiddle _ hrest
    intro later hlater
    exact (hspared later (List.mem_cons_of_mem _ hlater)).succeeds hsucceeds hoperations

theorem Attended.readOperation (h : Attended tables)
    (hoperation : operation ∈ tables.operations.rows) (hdraining : operation.draining = true) :
    ∃ view, NotificationWorld.readOperation operation.scopeKind operation.operationId tables =
        .ok view ∧
      view.deletionId = operation.deletionId ∧ view.scopeId = operation.scopeId ∧
        view.ledgerSequence = none := by
  have hfound := Keyed.find?_of_mem hoperation
  have hsequence : operation.ledgerSequence = none := by
    simpa [OperationRow.draining] using hdraining
  have hstate := h.draining operation hoperation hdraining
  cases hkind : operation.scopeKind with
  | installation =>
    rw [hkind] at hstate
    obtain ⟨row, hrow, -⟩ := Option.map_eq_some_iff.mp hstate
    simp [NotificationWorld.readOperation, readInstallationOperation, hfound, hkind, hrow,
      hsequence]
  | accountLink =>
    rw [hkind] at hstate
    obtain ⟨link, hlink, -⟩ := Option.map_eq_some_iff.mp hstate
    simp [NotificationWorld.readOperation, readAccountLinkOperation, hfound, hkind, hlink,
      hsequence]
  | pushToken =>
    rw [hkind] at hstate
    cases hstate

end

/-! ### Runs -/

instance (tables : Tables) (kind : DeletionScopeKind) (scopeId : String) :
    Decidable (Undrained tables kind scopeId) := by
  unfold Undrained
  infer_instance

instance (tables : Tables) (installationId : String) :
    Decidable (LinksUndrained tables installationId) := by
  unfold LinksUndrained
  infer_instance

instance (tables : Tables) (item : DeletionTombstoneItem) : Decidable (SparedBy tables item) := by
  unfold SparedBy
  split <;> infer_instance

namespace NotificationWorld

/-- The commit of an installation's revocation that goes through removes no link that an
operation drains. -/
def CommitSpares (world : NotificationWorld) (inputs : Inputs) (process : RequestProcess) : Prop :=
  match process.stage with
  | .committing _ operationId (.committing view _ _) _ =>
    process.request.kind = .installation → inputs.fault = none →
      committed world.tables operationId = false →
        inFlight (fenceInstallationDispatchWork view.scopeId view.deletionId false
            (inputs.clock view.scopeId) world.tables) .installation view.scopeId inputs.now =
          false → LinksUndrained world.tables view.scopeId
  | .committing _ _ (.reading) _ | .committing _ _ (.counting _) _
  | .committing _ _ (.appending _) _ | .starting | .answered _ => True

/-- The replay that goes through removes no scope that an operation drains. -/
def ReplaySpares (world : NotificationWorld) (inputs : Inputs) (replay : Replay) : Prop :=
  inputs.fault = none → world.tables.service.restoreState = .replaying →
    world.tables.service.ledgerWatermark = replay.watermark →
      world.ledger.length = replay.head → ∀ item ∈ replay.items, SparedBy world.tables item

/-- No deletion goes through that removes a scope that another operation drains. -/
def SparesDrains (world : NotificationWorld) : NotificationEvent → Prop
  | .proceed i inputs => ∀ process ∈ world.requests[i]?, world.CommitSpares inputs process
  | .finishReplay i inputs => ∀ replay ∈ world.replays[i]?, world.ReplaySpares inputs replay
  | .register .. | .rotate .. | .issue .. | .link .. | .elsewhere _ | .arrive _
  | .activateWorkerGates _ | .backup | .restore _ | .prepareRestore _ | .startReplay => True

instance (world : NotificationWorld) (inputs : Inputs) (process : RequestProcess) :
    Decidable (world.CommitSpares inputs process) := by
  unfold CommitSpares
  split <;> infer_instance

instance (world : NotificationWorld) (inputs : Inputs) (replay : Replay) :
    Decidable (world.ReplaySpares inputs replay) := by
  unfold ReplaySpares
  infer_instance

instance (world : NotificationWorld) (event : NotificationEvent) :
    Decidable (world.SparesDrains event) := by
  unfold SparesDrains
  split <;> infer_instance

/-- Every operation that drains is attended, in the database and in its backups. -/
structure AllAttended (world : NotificationWorld) : Prop where
  tables : Attended world.tables
  backups : ∀ backup ∈ world.backups, Attended backup.tables

variable {world : NotificationWorld}

theorem AllAttended.of_tables (h : world.AllAttended) {tables : Tables}
    (htables : Attended tables) : AllAttended { world with tables := tables } :=
  ⟨htables, h.backups⟩

variable {inputs : Inputs}

theorem AllAttended.transact (h : world.AllAttended) {α : Type}
    {statement : Statement α} (hstatement : ∀ a tables, statement world.tables = .ok (a, tables) →
      tables.operations = world.tables.operations ∧ ∀ kind scopeId,
        world.tables.scopeState kind scopeId = some .draining →
          tables.scopeState kind scopeId = some .draining) :
    AllAttended (world.transact inputs statement) := by
  rcases transact_cases with hsame | ⟨a, tables, hok, hnext⟩
  · rw [hsame]
    exact h
  · rw [hnext]
    obtain ⟨hoperations, hscopes⟩ := hstatement a tables hok
    exact h.of_tables (h.tables.of_scopes hoperations hscopes)

theorem Progress.attended {request : RevocationRequest}
    {stage stage' : RequestStage} {ledger : List DeletionTombstoneItem} {tables : Tables}
    (h : Progress primitives world request inputs stage stage' ledger tables)
    (hattended : Attended world.tables)
    (hstage : StageSound primitives world.tables request.kind stage)
    (hspared : world.CommitSpares inputs ⟨request, stage⟩) : Attended tables := by
  cases h with
  | started h => exact hattended.start h
  | committed hfault h =>
    have hview := hstage _ _ _ _ _ rfl rfl
    cases hkind : request.kind with
    | installation =>
      rw [hkind] at h hview
      apply hattended.commitInstallation hview _ h
      intro hcommitted hidle
      exact hspared hkind hfault hcommitted hidle
    | accountLink =>
      rw [hkind] at h hview
      exact hattended.commitAccountLink hview h
    | pushToken => exact absurd hkind request.kind_ne
  | refused _ => exact hattended
  | failed _ => exact hattended
  | done _ _ => exact hattended
  | read _ _ => exact hattended
  | pending _ => exact hattended
  | counted _ => exact hattended
  | lost _ => exact hattended
  | appended => exact hattended
  | postponed => exact hattended
  | answered => exact hattended

theorem AllAttended.proceed (h : world.AllAttended) (hregular : world.Regular primitives)
    {i : ℕ} {process : RequestProcess} (hprocess : world.requests[i]? = some process)
    (hspared : world.CommitSpares inputs process) :
    (world.proceed primitives i process inputs).AllAttended := by
  obtain ⟨stage, ledger, tables, hprogress, hworld⟩ := proceed_cases primitives inputs hprocess
  have hstage := hregular.requests i process hprocess
  rw [hworld]
  exact ⟨hprogress.attended h.tables hstage hspared, h.backups⟩

theorem AllAttended.finishReplay (h : world.AllAttended) (hregular : world.Regular primitives)
    {replay : Replay} (hspared : world.ReplaySpares inputs replay) :
    (world.finishReplay replay inputs).AllAttended := by
  unfold NotificationWorld.finishReplay
  split
  · rename_i tables hresult
    obtain ⟨hfailure, hrun⟩ := Transaction.atomically_eq_ok.mp hresult
    obtain ⟨hreplaying, hwatermark, hhead, middle, hitems, rfl⟩ :=
      replayRestore_eq_ok hregular.tables.contracted hrun
    have hall := hspared (Option.map_eq_none_iff.mp hfailure) hreplaying hwatermark hhead
    have hmiddle : Attended middle := h.tables.replayItems hall hitems
    refine ⟨?_, h.backups⟩
    exact hmiddle.of_scopes rfl fun kind scopeId hstate =>
      (scopeState_congr rfl rfl kind scopeId).trans hstate
  · exact h

theorem attended_prepareRestore {tables : Tables} (h : Attended tables) (watermark : ℕ) :
    Attended (Notifications.prepareRestore watermark tables) := by
  unfold Notifications.prepareRestore
  split
  · exact h.of_scopes rfl fun kind scopeId hstate =>
      (scopeState_congr rfl rfl kind scopeId).trans hstate
  · exact h

theorem AllAttended.register (h : world.AllAttended) {request : RegisterInstallationRequest}
    : AllAttended
      (world.transact inputs (registerInstallation primitives request inputs.limited)) := by
  apply h.transact
  intro u tables hok
  have hregistered := registered_of_eq_ok hok
  obtain ⟨installation, -, -, -, -, -, hnew, hfind⟩ := hregistered.find?
  refine ⟨hregistered.operations, ?_⟩
  intro kind scopeId hstate
  cases kind with
  | installation =>
    rw [Tables.scopeState_installation, hfind, if_neg]
    · exact hstate
    · rintro rfl
      rw [Tables.scopeState_installation, hnew] at hstate
      cases hstate
  | accountLink =>
    rw [Tables.scopeState_accountLink, hregistered.accountLinks]
    exact hstate
  | pushToken => cases hstate

theorem AllAttended.link (h : world.AllAttended) {request : VerifyAccountLinkRequest}
    : AllAttended (world.transact inputs
      (verifyAccountLinkProof primitives request inputs.limited inputs.now)) := by
  apply h.transact
  intro u tables hok
  have hlinked := accountLinked_of_eq_ok hok
  obtain ⟨link, -, -, -, -, -, -, hnew, hfind⟩ := hlinked.find?
  refine ⟨hlinked.operations, ?_⟩
  intro kind scopeId hstate
  cases kind with
  | installation =>
    rw [Tables.scopeState_installation, hlinked.installations]
    exact hstate
  | accountLink =>
    rw [Tables.scopeState_accountLink, hfind, if_neg]
    · exact hstate
    · rintro rfl
      rw [Tables.scopeState_accountLink, hnew] at hstate
      cases hstate
  | pushToken => cases hstate

theorem AllAttended.rotate (h : world.AllAttended)
    {installationId credential newCredential : String} :
    AllAttended (world.transact inputs (rotateInstallationCredential primitives installationId
      credential newCredential inputs.limited)) := by
  apply h.transact
  intro generation tables hok
  obtain ⟨-, newHash, rfl⟩ := credentialRotated_of_eq_ok hok
  refine ⟨rfl, ?_⟩
  intro kind scopeId hstate
  cases kind with
  | installation =>
    rw [Tables.scopeState_installation, Keyed.find?_update]
    obtain ⟨row, hrow, hdraining⟩ := Option.map_eq_some_iff.mp hstate
    rw [hrow]
    simp only [Option.map_some, Option.some.injEq]
    split <;> exact hdraining
  | accountLink => exact hstate
  | pushToken => cases hstate

theorem AllAttended.step (h : world.AllAttended) (hregular : world.Regular primitives)
    {event : NotificationEvent} (hspared : world.SparesDrains event) :
    (world.step primitives event).AllAttended := by
  cases event with
  | register request inputs => exact h.register
  | rotate installationId credential newCredential inputs => exact h.rotate
  | issue request inputs =>
    apply h.transact
    intro record tables hok
    obtain ⟨-, challenges, -, rfl⟩ := issueAccountLinkChallenge_eq_ok hok
    exact ⟨rfl, fun kind scopeId hstate => (scopeState_congr rfl rfl kind scopeId).trans hstate⟩
  | link request inputs => exact h.link
  | elsewhere tables =>
    apply h.of_tables
    exact h.tables.of_scopes rfl fun kind scopeId hstate =>
      (scopeState_congr rfl rfl kind scopeId).trans hstate
  | arrive request => exact ⟨h.tables, h.backups⟩
  | proceed i inputs =>
    simp only [NotificationWorld.step]
    split
    · rename_i process hprocess
      exact h.proceed hregular hprocess (hspared process hprocess)
    · exact h
  | activateWorkerGates inputs =>
    apply h.transact
    intro u tables hok
    obtain ⟨-, rfl⟩ := activateWorkerGates_eq_ok hok
    exact ⟨rfl, fun kind scopeId hstate => (scopeState_congr rfl rfl kind scopeId).trans hstate⟩
  | backup =>
    refine ⟨h.tables, ?_⟩
    intro backup hbackup
    rcases List.mem_append.mp hbackup with hold | hlast
    · exact h.backups backup hold
    · rw [List.mem_singleton.mp hlast]
      exact h.tables
  | restore i =>
    simp only [NotificationWorld.step]
    split
    · rename_i backup hbackup
      exact ⟨attended_prepareRestore (h.backups backup (List.mem_of_getElem? hbackup)) _, h.backups⟩
    · exact h
  | prepareRestore watermark => exact ⟨attended_prepareRestore h.tables _, h.backups⟩
  | startReplay =>
    simp only [NotificationWorld.step]
    rcases startReplay_cases primitives world with hsame | ⟨-, -, hnext⟩
    · rw [hsame]
      exact h
    · rw [hnext]
      exact ⟨h.tables, h.backups⟩
  | finishReplay i inputs =>
    simp only [NotificationWorld.step]
    split
    · rename_i replay hreplay
      exact h.finishReplay hregular (hspared replay hreplay)
    · exact h

theorem allAttended_initial : initial.AllAttended := by
  refine ⟨⟨?_, ?_⟩, ?_⟩ <;> intro _ <;> simp [initial]

theorem allAttended_run {events : List NotificationEvent}
    (hevents : Along (step primitives) SparesDrains initial events) :
    (run (step primitives) initial events).Regular primitives ∧
      (run (step primitives) initial events).AllAttended := by
  have hstep : ∀ (world : NotificationWorld) event,
      world.Regular primitives ∧ world.AllAttended → world.SparesDrains event →
      (world.step primitives event).Regular primitives ∧
        (world.step primitives event).AllAttended := by
    intro world event h hevent
    exact ⟨h.1.step event, h.2.step h.1 hevent⟩
  exact run_invariant_along hstep ⟨regular_initial, allAttended_initial⟩ hevents

/-- Every operation that drains names a scope that is there and drains, and the first
statement of its commit finds it. -/
theorem draining_operations_attended (primitives : StorePrimitives)
    (events : List NotificationEvent)
    (hevents : Along (step primitives) SparesDrains initial events) :
    ∀ operation ∈ (run (step primitives) initial events).tables.operations.rows,
      operation.draining = true →
        (run (step primitives) initial events).tables.scopeState operation.scopeKind
            operation.scopeId = some .draining ∧
        ∃ view, readOperation operation.scopeKind operation.operationId
            (run (step primitives) initial events).tables = .ok view ∧
          view.deletionId = operation.deletionId ∧ view.scopeId = operation.scopeId ∧
            view.ledgerSequence = none := by
  obtain ⟨-, h⟩ := allAttended_run hevents
  intro operation hoperation hdraining
  exact ⟨h.tables.draining operation hoperation hdraining,
    h.tables.readOperation hoperation hdraining⟩

end NotificationWorld

/-! ### An unlink under way when its installation is revoked -/

namespace Sample

/-- The installation begins to unlink its account, and is revoked before the unlink is
committed. -/
def revoking : List NotificationEvent :=
  [ .arrive (.unlinkAccount installationId credential accountLinkId
      "33333333333333333333333333333333"), .proceed 0 (inputs 20),
    .arrive (.revokeInstallation installationId credential "44444444444444444444444444444444"),
    .proceed 1 (inputs 30), .proceed 1 (inputs 40), .proceed 1 (inputs 50), .proceed 1 (inputs 60),
    .proceed 1 (inputs 70) ]

/-- The unlink is committed while the revocation of the installation drains, and so is the
replay of the unlink after a backup was restored. -/
def sparing : List NotificationEvent :=
  [ .arrive (.unlinkAccount installationId credential accountLinkId
      "33333333333333333333333333333333"), .proceed 0 (inputs 20),
    .arrive (.revokeInstallation installationId credential "44444444444444444444444444444444"),
    .proceed 1 (inputs 30), .proceed 0 (inputs 40), .proceed 0 (inputs 50), .proceed 0 (inputs 60),
    .proceed 0 (inputs 70), .backup, .restore 0, .prepareRestore 0, .startReplay,
    .finishReplay 0 (inputs 80) ]

def revocation : OperationRow where
  operationId := "44444444444444444444444444444444"
  deletionId := ⟨.installation, installationId, 1⟩
  scopeKind := .installation
  scopeId := installationId
  ledgerSequence := none

end Sample

open NotificationWorld

theorem sparesDrains_sparing : Along (step Sample.recorded) SparesDrains initial
    (Sample.linked ++ Sample.sparing) := by
  have hlinked : Along (step Sample.recorded) SparesDrains initial Sample.linked := by
    decide
  have hsparing : Along (step Sample.recorded) SparesDrains Sample.linkedWorld
      Sample.sparing := by
    decide +kernel
  rw [along_append, Sample.run_linked]
  exact ⟨hlinked, hsparing⟩

theorem run_sparing : ∃ tables,
    tables = (run (step Sample.recorded) initial (Sample.linked ++ Sample.sparing)).tables ∧
      Sample.revocation ∈ tables.operations.rows ∧ tables.service.restoreState = .ready ∧
      (tables.operations.find? "33333333333333333333333333333333").any
        (fun operation => !operation.draining) = true := by
  refine ⟨_, rfl, ?_⟩
  rw [run_append, Sample.run_linked]
  decide +kernel

/-- A commit and a replay went through while the revocation of the installation drains. -/
theorem draining_operations_attended_replayed : ∃ tables,
    tables = (run (step Sample.recorded) initial (Sample.linked ++ Sample.sparing)).tables ∧
      tables.service.restoreState = .ready ∧
      (tables.operations.find? "33333333333333333333333333333333").any
        (fun operation => !operation.draining) = true ∧
      tables.scopeState Sample.revocation.scopeKind Sample.revocation.scopeId =
        some .draining := by
  obtain ⟨tables, htables, hmem, hready, hcommitted⟩ := run_sparing
  refine ⟨tables, htables, hready, hcommitted, ?_⟩
  rw [htables] at hmem ⊢
  exact (draining_operations_attended Sample.recorded (Sample.linked ++ Sample.sparing)
    sparesDrains_sparing Sample.revocation hmem rfl).1

/-- The commit of the revocation deletes the link that the unlink is about: the unlink can
never be committed, and the workers' gates stay closed. -/
theorem revoked_unlink_stranded :
    ∃ tables, tables = (run (step Sample.recorded) initial
        (Sample.linked ++ Sample.revoking)).tables ∧
      tables.operations.find? "33333333333333333333333333333333" =
        some ⟨"33333333333333333333333333333333", ⟨.accountLink, Sample.accountLinkId, 1⟩,
          .accountLink, Sample.accountLinkId, none⟩ ∧
      tables.scopeState .accountLink Sample.accountLinkId = none ∧
      readOperation .accountLink "33333333333333333333333333333333" tables =
        .error (.conflict "draining account link is unavailable") ∧
      activateWorkerGates tables =
        .error (.notReady "notification authorization fence is not ready") := by
  refine ⟨_, rfl, ?_⟩
  rw [run_append, Sample.run_linked]
  decide

end Notifications

end HyperTrader
