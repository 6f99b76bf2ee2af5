import HyperTrader.Journal.Statements
import HyperTrader.Nonce.Repository

/-!
# The statements of the nonce repository, one by one

What each transaction over the signer scopes did when it committed. Only a
reservation writes a high-water mark, and it writes the nonce of the row it
inserts; the other statements change the status of a scope or add one.
-/

namespace HyperTrader

open Library

abbrev SignerScopeRow.key (scope : SignerScopeRow) : HyperliquidNetwork × String :=
  (scope.network, scope.agentAddress)

abbrev PreparedActionInput.signer (row : PreparedActionInput) : HyperliquidNetwork × String :=
  (row.network, row.agentAddress)

abbrev SignerBinding.signer (binding : SignerBinding) : HyperliquidNetwork × String :=
  (binding.network, binding.agentAddress)

variable {scope : SignerScopeRow} {network : HyperliquidNetwork} {agentAddress : String}
  {viem : Viem} {binding : SignerBinding} {before after : Database} {wher : SignerScopeRow → Bool}
  {set : SignerScopeRow → SignerScopeRow} {changes : ℕ} {activatedAt now : ℤ} {u : Unit}
  {input : RetiredSignerTombstoneInput} {tombstone : TombstoneRow}

theorem SignerScopeRow.keyed_iff :
    scope.keyed network agentAddress = true ↔
      scope.key = (network, agentAddress) := by
  simp [SignerScopeRow.keyed]

theorem Database.uniqueScopes (database : Database) :
    Table.UniqueKeys SignerScopeRow.key database.signerScopes :=
  database.consistent.scopeKeys.imp fun {a b} h heq => by
    simp only [SignerScopeRow.key, Prod.mk.injEq] at heq
    exact h heq

theorem Database.scope_eq_some {database : Database} :
    database.scope network agentAddress = some scope ↔
      scope ∈ database.signerScopes ∧ scope.key = (network, agentAddress) := by
  unfold Database.scope
  constructor
  · intro h
    have hkeyed : scope.keyed network agentAddress = true := by
      simpa using List.find?_some h
    exact ⟨List.mem_of_find?_eq_some h, SignerScopeRow.keyed_iff.mp hkeyed⟩
  · rintro ⟨hmem, hkey⟩
    cases hfind : database.signerScopes.find?
        fun scope => scope.keyed network agentAddress with
    | none =>
      exact absurd (SignerScopeRow.keyed_iff.mpr hkey)
        (List.find?_eq_none.mp hfind scope hmem)
    | some other =>
      have hkeyed : other.keyed network agentAddress = true := by
        simpa using List.find?_some hfind
      have hother := SignerScopeRow.keyed_iff.mp hkeyed
      rw [database.uniqueScopes.eq_of_mem hmem
        (List.mem_of_find?_eq_some hfind) (hkey.trans hother.symm)]

theorem requireScope_eq_ok {missing : String} :
    requireScope viem binding missing before = .ok (scope, after) ↔
      (scope ∈ before.signerScopes ∧ scope.key = binding.signer ∧
        assertSignerBinding viem binding (bindingFromScope scope) = .ok ()) ∧
      before = after := by
  unfold requireScope
  simp only [Transaction.bind_eq_ok, Transaction.read_eq_ok]
  constructor
  · rintro ⟨_, _, ⟨rfl, rfl⟩, h⟩
    cases hscope : before.scope binding.network binding.agentAddress with
    | none => simp [hscope] at h
    | some found =>
      simp only [hscope, Transaction.bind_eq_ok, Transaction.check_eq_ok,
        Transaction.pure_eq_ok] at h
      obtain ⟨_, _, ⟨hbinding, rfl⟩, rfl, rfl⟩ := h
      obtain ⟨hmem, hkey⟩ := Database.scope_eq_some.mp hscope
      exact ⟨⟨hmem, hkey, hbinding⟩, rfl⟩
  · rintro ⟨⟨hmem, hkey, hbinding⟩, rfl⟩
    refine ⟨before, before, ⟨rfl, rfl⟩, ?_⟩
    have hscope := Database.scope_eq_some.mpr ⟨hmem, hkey⟩
    rw [hscope]
    exact Transaction.bind_eq_ok.mpr
      ⟨(), before, Transaction.check_eq_ok.mpr ⟨hbinding, rfl⟩, rfl⟩

theorem updateScopes_eq_ok :
    updateScopes wher set before = .ok (changes, after) ↔
      changes = Table.changes before.signerScopes wher ∧
      after.toTables = { before.toTables with
        signerScopes := Table.update before.signerScopes wher set } := by
  unfold updateScopes
  simp only [Transaction.bind_eq_ok, Transaction.read_eq_ok,
    Transaction.write_eq_ok, Tables.store_eq_ok, Transaction.pure_eq_ok]
  constructor
  · rintro ⟨_, _, ⟨rfl, rfl⟩, _, _, hstore, hchanges, rfl⟩
    exact ⟨hchanges.symm, hstore⟩
  · rintro ⟨rfl, hstore⟩
    exact ⟨before, before, ⟨rfl, rfl⟩, (), after, hstore, rfl, rfl⟩

/-- What a statement may do to the signer scopes when it gives out no nonce:
keep each high-water mark, and add scopes that have none. -/
def ScopesKept (before after : Database) : Prop :=
  Table.Follows SignerScopeRow.key
    (fun scope scope' => scope'.lastIssuedNonce = scope.lastIssuedNonce)
    (fun scope => scope.lastIssuedNonce = none)
    before.signerScopes after.signerScopes

theorem ScopesKept.of_eq
    (h : after.signerScopes = before.signerScopes) : ScopesKept before after := by
  unfold ScopesKept
  rw [h]
  refine Table.Follows.refl ?_ _
  exact fun _ => rfl

theorem updateScopes_cases (key : HyperliquidNetwork × String)
    (h : updateScopes wher set before = .ok (changes, after))
    (hwher : ∀ row, wher row = true → row.key = key) (hset : ∀ row, (set row).key = row.key) :
    (changes = 0 ∧ after = before) ∨
      (changes = 1 ∧ after.actionJournal = before.actionJournal ∧
        ∃ row, wher row = true ∧ Table.Rewrites SignerScopeRow.key
          before.signerScopes after.signerScopes row (set row)) := by
  obtain ⟨rfl, hafter⟩ := updateScopes_eq_ok.mp h
  rcases Table.update_cases before.uniqueScopes (fun row _ => hwher row) hset with
    ⟨hzero, hsame⟩ | ⟨hone, row, hsel, hrewrites⟩
  · left
    refine ⟨hzero, Database.ext_tables ?_⟩
    rw [hafter, hsame]
  · right
    refine ⟨hone, by rw [hafter], row, hsel, ?_⟩
    rw [hafter]
    exact hrewrites

/-- What a statement that gives out no nonce may do to one scope: its clock
columns stay, and its status only moves towards retirement. -/
structure ScopeKept (scope scope' : SignerScopeRow) : Prop where
  issued : scope'.lastIssuedNonce = scope.lastIssuedNonce
  observed : scope'.lastObservedWallMs = scope.lastObservedWallMs
  status : scope'.status = scope.status ∨
    (scope.status = .active ∧ scope'.status = .retiring) ∨
    (scope.status = .retiring ∧ scope'.status = .retired)

theorem ScopeKept.refl (scope : SignerScopeRow) : ScopeKept scope scope :=
  ⟨rfl, rfl, .inl rfl⟩

structure FreshScope (signer : HyperliquidNetwork × String)
    (scope : SignerScopeRow) : Prop where
  key : scope.key = signer
  active : scope.status = .active
  unissued : scope.lastIssuedNonce = none
  unobserved : scope.lastObservedWallMs = none

/-- The scopes after a statement that gives out no nonce: each kept, and
`fresh` ones. -/
def ScopesFollow (fresh : SignerScopeRow → Prop) (before after : Database) : Prop :=
  Table.Follows SignerScopeRow.key ScopeKept fresh before.signerScopes
    after.signerScopes

theorem ScopesFollow.refl (fresh : SignerScopeRow → Prop) (database : Database) :
    ScopesFollow fresh database database :=
  Table.Follows.refl ScopeKept.refl _

theorem ScopesFollow.kept {fresh : SignerScopeRow → Prop} (h : ScopesFollow fresh before after)
    (hfresh : ∀ scope, fresh scope → scope.lastIssuedNonce = none) : ScopesKept before after :=
  h.mono (fun _ _ _ hkept => hkept.issued) (fun scope _ => hfresh scope)

theorem updateScopes_follow (key : HyperliquidNetwork × String)
    (h : updateScopes wher set before = .ok (changes, after))
    (hwher : ∀ row, wher row = true → row.key = key) (hkey : ∀ row, (set row).key = row.key)
    (hset : ∀ row, wher row = true → ScopeKept row (set row)) :
    ScopesFollow (fun _ => False) before after ∧
      after.actionJournal = before.actionJournal := by
  rcases updateScopes_cases key h hwher hkey with
    ⟨-, rfl⟩ | ⟨-, hjournal, row, hsel, hrewrites⟩
  · exact ⟨ScopesFollow.refl _ _, rfl⟩
  · refine ⟨?_, hjournal⟩
    exact hrewrites.follows ScopeKept.refl before.uniqueScopes
      after.uniqueScopes (hset row hsel)

theorem registerStatement_scopes
    (h : registerStatement viem binding activatedAt before = .ok (u, after)) :
    ScopesFollow (FreshScope binding.signer) before after ∧
      after.actionJournal = before.actionJournal ∧
      ∀ scope ∈ before.signerScopes, scope.key = binding.signer →
        scope.status = .active := by
  unfold registerStatement at h
  simp only [Transaction.bind_eq_ok, Transaction.check_eq_ok,
    Transaction.read_eq_ok, Transaction.ensure_eq_ok] at h
  obtain ⟨fingerprint, _, ⟨-, rfl⟩, _, _, ⟨rfl, rfl⟩, _, _, ⟨-, rfl⟩, h⟩ := h
  cases hscope : before.scope binding.network binding.agentAddress with
  | some existing =>
    simp only [hscope, Transaction.bind_eq_ok, Transaction.check_eq_ok,
      Transaction.ensure_eq_ok] at h
    obtain ⟨_, _, ⟨-, rfl⟩, hactive, rfl⟩ := h
    refine ⟨ScopesFollow.refl _ _, rfl, fun scope hmem hkey => ?_⟩
    have hsome := Database.scope_eq_some.mpr ⟨hmem, hkey⟩
    rw [hscope, Option.some.injEq] at hsome
    exact hsome ▸ hactive
  | none =>
    simp only [hscope, insertScope, Transaction.write_eq_ok, Tables.store_eq_ok] at h
    refine ⟨?_, by rw [h], fun scope hmem hkey => ?_⟩
    · unfold ScopesFollow
      rw [h]
      exact Table.follows_append ScopeKept.refl _ ⟨rfl, rfl, rfl, rfl⟩
    · rw [Database.scope_eq_some.mpr ⟨hmem, hkey⟩] at hscope
      cases hscope

theorem registerStatement_spec
    (h : registerStatement viem binding activatedAt before = .ok (u, after)) :
    ScopesKept before after ∧ after.actionJournal = before.actionJournal := by
  obtain ⟨hscopes, hjournal, -⟩ := registerStatement_scopes h
  exact ⟨hscopes.kept fun _ hfresh => hfresh.unissued, hjournal⟩

theorem markRetiringStatement_scopes
    (h : markRetiringStatement viem binding now before = .ok (u, after)) :
    ScopesFollow (fun _ => False) before after ∧
      after.actionJournal = before.actionJournal := by
  unfold markRetiringStatement at h
  simp only [Transaction.bind_eq_ok, requireScope_eq_ok] at h
  obtain ⟨scope, _, ⟨-, rfl⟩, h⟩ := h
  split at h
  · obtain ⟨-, rfl⟩ := Transaction.pure_eq_ok.mp h
    exact ⟨ScopesFollow.refl _ _, rfl⟩
  · simp only [Transaction.bind_eq_ok, Transaction.ensure_eq_ok, Transaction.pure_eq_ok] at h
    obtain ⟨_, _, ⟨-, rfl⟩, changes, _, hupdate, -, rfl⟩ := h
    refine updateScopes_follow binding.signer hupdate (fun row hrow => ?_)
      (fun _ => rfl) (fun row hrow => ?_)
    · rw [Bool.and_eq_true] at hrow
      exact SignerScopeRow.keyed_iff.mp hrow.1
    · rw [Bool.and_eq_true, beq_iff_eq] at hrow
      exact ⟨rfl, rfl, .inr (.inl ⟨hrow.2, rfl⟩)⟩

theorem markRetiringStatement_spec
    (h : markRetiringStatement viem binding now before = .ok (u, after)) :
    ScopesKept before after ∧ after.actionJournal = before.actionJournal := by
  obtain ⟨hscopes, hjournal⟩ := markRetiringStatement_scopes h
  exact ⟨hscopes.kept fun _ hfalse => hfalse.elim, hjournal⟩

theorem retireStatement_scopes
    (h : retireStatement viem binding input before = .ok (tombstone, after)) :
    ScopesFollow (fun _ => False) before after ∧
      after.actionJournal = before.actionJournal ∧
      (input.reason = .rotated ∨ input.reason = .expired →
        ∀ row ∈ before.actionJournal, row.signer = binding.signer →
          isTerminalJournalState row.state = true) := by
  unfold retireStatement at h
  simp only [Transaction.bind_eq_ok, requireScope_eq_ok,
    Transaction.ensure_eq_ok, Transaction.read_eq_ok] at h
  obtain ⟨scope, _, ⟨-, rfl⟩, _, _, ⟨-, rfl⟩, _, _, ⟨rfl, rfl⟩, _, _, ⟨hterminal, rfl⟩, h⟩ := h
  cases hchain : before.verifyTombstoneChain viem with
  | invalid reason => simp [hchain] at h
  | valid head =>
    simp only [hchain, Transaction.bind_eq_ok, Transaction.check_eq_ok,
      Transaction.ensure_eq_ok, Transaction.pure_eq_ok, insertTombstone,
      Transaction.write_eq_ok, Tables.store_eq_ok] at h
    obtain ⟨fingerprint, _, ⟨-, rfl⟩, _, _, ⟨-, rfl⟩, made, _, ⟨-, rfl⟩, _, mid,
      hinsert, changes, last, hupdate, _, _, ⟨-, rfl⟩, -, rfl⟩ := h
    obtain ⟨hkept, hjournal⟩ := updateScopes_follow binding.signer hupdate
      (fun row hrow => by
        rw [Bool.and_eq_true] at hrow
        exact SignerScopeRow.keyed_iff.mp hrow.1)
      (fun _ => rfl)
      (fun row hrow => by
        rw [Bool.and_eq_true, beq_iff_eq] at hrow
        exact ⟨rfl, rfl, .inr (.inr ⟨hrow.2, rfl⟩)⟩)
    have hmid : mid.signerScopes = before.signerScopes := by rw [hinsert]
    have hmid' : mid.actionJournal = before.actionJournal := by rw [hinsert]
    refine ⟨?_, hjournal.trans hmid', fun hreason row hrow hsigner => ?_⟩
    · unfold ScopesFollow at hkept ⊢
      rwa [hmid] at hkept
    · rw [Prod.mk.injEq] at hsigner
      exact hterminal hreason row hrow hsigner.1 hsigner.2

theorem retireStatement_spec
    (h : retireStatement viem binding input before = .ok (tombstone, after)) :
    ScopesKept before after ∧ after.actionJournal = before.actionJournal := by
  obtain ⟨hscopes, hjournal, -⟩ := retireStatement_scopes h
  exact ⟨hscopes.kept fun _ hfalse => hfalse.elim, hjournal⟩

structure Reserved (binding : SignerBinding)
    (input : AtomicActionReservationInput) (before after : Database)
    (record : PreparedActionRecord) (allocation : NonceAllocation)
    (scope : SignerScopeRow) : Prop where
  key : scope.key = binding.signer
  active : scope.status = .active
  allocated : allocateNonce
    { input.clock with lastObservedWallMs := scope.lastObservedWallMs }
    scope.lastIssuedNonce = .ok allocation
  row : record = preparedRow binding input.capturedContextEpoch
    input.preparedAction allocation
  stored : StoredRecord record
  scopes : Table.Rewrites SignerScopeRow.key before.signerScopes
    after.signerScopes scope (scope.issued allocation)
  journal : after.actionJournal = before.actionJournal ++ [record]

theorem reserveStatement_spec {input : AtomicActionReservationInput} {record : PreparedActionRecord}
    (h : reserveStatement viem binding input before = .ok (record, after)) :
    ∃ allocation scope,
      Reserved binding input before after record allocation scope := by
  unfold reserveStatement at h
  simp only [Transaction.bind_eq_ok, requireScope_eq_ok,
    Transaction.ensure_eq_ok, Transaction.check_eq_ok, insertAction,
    Transaction.write_eq_ok, Tables.store_eq_ok, requireAction_eq_ok] at h
  obtain ⟨scope, _, ⟨⟨hscope, hkey, -⟩, rfl⟩, _, _, ⟨hactive, rfl⟩, allocation, _,
    ⟨halloc, rfl⟩, changes, mid, hupdate, _, _, ⟨hone, rfl⟩, _, last, hinsert,
    ⟨hmem, hid, hstored⟩, rfl⟩ := h
  have hscopes : last.signerScopes = mid.signerScopes := by rw [hinsert]
  rcases updateScopes_cases binding.signer hupdate
      (fun row hrow => by
        rw [Bool.and_eq_true, Bool.and_eq_true] at hrow
        exact SignerScopeRow.keyed_iff.mp hrow.1.1)
      (fun row => rfl) with ⟨hzero, -⟩ | ⟨-, hmid, row, hsel, hrewrites⟩
  · simp [hzero] at hone
  · rw [Bool.and_eq_true, Bool.and_eq_true] at hsel
    obtain rfl := before.uniqueScopes.eq_of_mem hrewrites.mem hscope
      ((SignerScopeRow.keyed_iff.mp hsel.1.1).trans hkey.symm)
    have hjournal : last.actionJournal = before.actionJournal ++
        [preparedRow binding input.capturedContextEpoch input.preparedAction
          allocation] := by rw [hinsert, ← hmid]
    obtain rfl : record = preparedRow binding input.capturedContextEpoch
        input.preparedAction allocation :=
      last.uniqueIds.eq_of_mem hmem (by rw [hjournal]; simp) hid
    refine ⟨allocation, row, hkey, hactive, halloc, rfl, hstored, ?_, hjournal⟩
    rw [hscopes]
    exact hrewrites

end HyperTrader
