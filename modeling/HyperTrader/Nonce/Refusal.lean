import HyperTrader.Journal.WellFormed
import HyperTrader.Library.Ascii
import HyperTrader.Nonce.Correspondence

/-!
# When a reservation is refused

For a well-formed action and a store that does not fail, a reservation is
refused for the reasons its design states: the signer's scope is not the active
one it names, the context epoch is stale, the clock and expiry gate refuses, an
identifier was used before, or an equivalent action is not settled. There is one
more: the journal keeps one row for each `cloid` of an account, and a cancel by
`cloid` is stored under the `cloid` of the order it names. So no order of the
journal can be cancelled by `cloid`, and no cancel by `cloid` can follow another.
-/

namespace HyperTrader

open Library

/-- The reasons to refuse a reservation under the normal binding `binding`. -/
inductive StatedRefusal (viem : Viem) (authority : ContextEpochAuthority)
    (database : Database) (binding : SignerBinding) (input : AtomicActionReservationInput) : Prop
  | scope (h : ∀ scope ∈ database.signerScopes, scope.key = binding.signer →
      ¬ (assertSignerBinding viem binding (bindingFromScope scope) = .ok () ∧
        scope.status = .active))
  | epoch {failure : Failure}
      (h : authority binding input.capturedContextEpoch = .error failure)
  | clock {scope : SignerScopeRow} {failure : Failure}
      (mem : scope ∈ database.signerScopes) (key : scope.key = binding.signer)
      (h : allocateNonce { input.clock with lastObservedWallMs := scope.lastObservedWallMs }
        scope.lastIssuedNonce = .error failure)
  | used {row : PreparedActionRecord} (mem : row ∈ database.actionJournal)
      (h : row.journalId = input.preparedAction.journalId ∨
        row.correlationId = input.preparedAction.correlationId)
  | equivalent {row : PreparedActionRecord} (mem : row ∈ database.actionJournal)
      (unsettled : isTerminalJournalState row.state = false)
      (h : row.network = binding.network ∧ row.masterAccount = binding.masterAccount ∧
        row.targetAccount = binding.targetAccount ∧
        row.actionType = input.preparedAction.actionType ∧ row.equivalenceFingerprint =
          input.preparedAction.equivalenceFingerprint)

/-- The action names a `cloid` that a row of the account already has. -/
def CloidTaken (database : Database) (binding : SignerBinding) (action : PreparedAction) : Prop :=
  action.cloid.isSome = true ∧ ∃ row ∈ database.actionJournal,
    row.cloid = action.cloid ∧ row.network = binding.network ∧
      row.targetAccount = binding.targetAccount

/-! ### The row of a well-formed action reads back -/

variable {viem : Viem} {binding : SignerBinding} {input : AtomicActionReservationInput}
  {clock : ClockGateInput} {allocation : NonceAllocation} {before database : Database}
  {scope : SignerScopeRow} {authority : ContextEpochAuthority} {repository : Repository}

theorem normalizeAddress_pattern (hviem : viem.Checksums)
    {address normal : String} (h : normalizeAddress viem address = .ok normal) :
    lowercaseAddressPattern.test normal = true := by
  obtain ⟨checksummed, hchecksummed, rfl⟩ := normalizeAddress_eq_ok.mp h
  have hpattern := hviem.getAddress_pattern address checksummed hchecksummed
  refine TextPattern.test_asciiLower addressPattern _ ?_ ?_ rfl rfl hpattern
  · decide
  · intro byte hbyte
    exact isLowerHexDigit_lowerByte hbyte

theorem assertReservationIdentifiers_eq_ok {action : PreparedAction} {text : String} :
    assertReservationIdentifiers action = .ok text ↔
      (journalIdPattern.test action.journalId = true ∧
        correlationIdPattern.test action.correlationId = true) ∧
      (lowercaseHashPattern.test action.intentDigest = true ∧
        lowercaseHashPattern.test action.equivalenceFingerprint = true) ∧
      assertPreparedActionFields action.actionType action.intentVersion
        action.cloid action.assetId action.targetOid action.reconciliationKey =
          .ok () ∧
      serializeSecretFreeIntent action.normalizedSecretFreeIntent = .ok text := by
  unfold assertReservationIdentifiers
  simp only [except_bind_eq_ok, require_eq_ok]
  constructor
  · rintro ⟨_, hjournal, _, hcorrelation, _, hdigests, _, hfields, htext⟩
    exact ⟨⟨hjournal, hcorrelation⟩, hdigests, hfields, htext⟩
  · rintro ⟨⟨hjournal, hcorrelation⟩, hdigests, hfields, htext⟩
    exact ⟨(), hjournal, (), hcorrelation, (), hdigests, (), hfields, htext⟩

/-- A well-formed action: what `reservePreparedAction` checks of its input
before it asks the authority. -/
structure WellFormedReservation (viem : Viem) (binding : SignerBinding)
    (input : AtomicActionReservationInput) : Prop where
  binding : normalizeSignerBinding viem input.binding = .ok binding
  epoch : isSafeInteger input.capturedContextEpoch ∧
    0 ≤ input.capturedContextEpoch
  identifiers : ∃ text,
    assertReservationIdentifiers input.preparedAction = .ok text

theorem WellFormedReservation.stored (hviem : viem.Checksums)
    (h : WellFormedReservation viem binding input) {last : Option ℤ}
    (hallocated : AllocatedAfter clock last allocation) :
    StoredRecord (preparedRow binding input.capturedContextEpoch
      input.preparedAction allocation) := by
  obtain ⟨hgeneration, -, hgen, hmaster, htarget, hagent⟩ :=
    normalizeSignerBinding_eq_ok.mp h.binding
  obtain ⟨text, htext⟩ := h.identifiers
  obtain ⟨hids, hdigests, hfields, hserialized⟩ :=
    assertReservationIdentifiers_eq_ok.mp htext
  have hwindow := hallocated.window
  obtain ⟨hobserved, hexpiry, hwall, hle, hlt, hsafe, -⟩ := hallocated
  constructor
  · exact ⟨hids, ⟨normalizeAddress_pattern hviem hmaster, normalizeAddress_pattern hviem htarget,
      normalizeAddress_pattern hviem hagent⟩, hdigests, hwindow, hfields, text, hserialized⟩
  · rw [← hgen] at hgeneration
    have hepoch := h.epoch
    unfold isSafeInteger actionExpiryMs at *
    simp only [PreparedActionRecord.numbers, preparedRow, List.forall_mem_cons]
    rw [hobserved]
    refine ⟨?_, ?_, ?_, ?_, ?_, ?_, ?_, ?_, ?_, by simp⟩ <;> omega
  · rfl
  · exact ⟨by rintro _ ⟨⟩, by simp [preparedRow]⟩
  · exact ⟨rfl, by rintro _ ⟨⟩⟩

theorem StoredRecord.checks {record : PreparedActionRecord}
    (h : StoredRecord record) : record.checks := by
  have hnumbers := h.numbers
  simp only [PreparedActionRecord.numbers, List.forall_mem_cons] at hnumbers
  have hfields := h.captured.fields
  unfold assertPreparedActionFields at hfields
  simp only [except_bind_eq_ok, require_eq_ok] at hfields
  obtain ⟨_, hversion, -⟩ := hfields
  exact ⟨hnumbers.1.2, hnumbers.2.1.2, by omega⟩

/-! ### The statements of an unrefused reservation -/

theorem updateScopes_succeeds (wher : SignerScopeRow → Bool) (set : SignerScopeRow → SignerScopeRow)
    (hset : ∀ row, (set row).key = row.key ∧
      (set row).signerGeneration = row.signerGeneration) (before : Database) :
    ∃ after, updateScopes wher set before =
      .ok (Table.changes before.signerScopes wher, after) := by
  have hkept : ∀ row, (if wher row then set row else row).key = row.key ∧
      (if wher row then set row else row).signerGeneration =
        row.signerGeneration := by
    intro row
    split
    · exact hset row
    · exact ⟨rfl, rfl⟩
  obtain ⟨hchecks, hkeys, h3, h4, h5, h6, hscope⟩ := before.consistent
  have hconsistent : Tables.Consistent { before.toTables with
      signerScopes := Table.update before.signerScopes wher set } := by
    refine ⟨?_, ?_, h3, h4, h5, h6, ?_⟩
    · intro row hrow
      obtain ⟨old, hold, rfl⟩ := List.mem_map.mp hrow
      rw [(hkept old).2]
      exact hchecks old hold
    · refine List.pairwise_map.mpr (hkeys.imp fun {a b} hab hclash => hab ?_)
      have hsame := (hkept a).1.symm.trans
        ((Prod.ext hclash.1 hclash.2).trans (hkept b).1)
      exact (Prod.mk.injEq ..).mp hsame
    · intro row hrow
      obtain ⟨old, hold, hkey⟩ := hscope row hrow
      have hsame := (hkept old).1.trans (Prod.ext hkey.1 hkey.2 :
        old.key = (row.network, row.agentAddress))
      exact ⟨_, List.mem_map_of_mem hold, (Prod.mk.injEq ..).mp hsame⟩
  exact ⟨⟨_, hconsistent⟩, updateScopes_eq_ok.mpr ⟨rfl, rfl⟩⟩

theorem insertAction_succeeds {row : PreparedActionRecord}
    (hchecks : row.checks) (hfree : ∀ old ∈ before.actionJournal, ¬ old.clash row)
    (hscope : ∃ scope ∈ before.signerScopes, scope.network = row.network ∧
      scope.agentAddress = row.agentAddress) :
    ∃ after, insertAction row before = .ok ((), after) ∧
      after.actionJournal = before.actionJournal ++ [row] := by
  obtain ⟨h1, h2, h3, h4, h5, hkeys, h7⟩ := before.consistent
  have hconsistent : Tables.Consistent { before.toTables with
      actionJournal := before.actionJournal ++ [row] } := by
    refine ⟨h1, h2, h3, h4, ?_, ?_, ?_⟩
    · exact List.forall_mem_append.mpr
        ⟨h5, List.forall_mem_singleton.mpr hchecks⟩
    · refine List.pairwise_append.mpr ⟨hkeys, List.pairwise_singleton _ _, ?_⟩
      intro old hold new hnew
      rw [List.mem_singleton.mp hnew]
      exact hfree old hold
    · exact List.forall_mem_append.mpr
        ⟨h7, List.forall_mem_singleton.mpr hscope⟩
  refine ⟨⟨_, hconsistent⟩, ?_, rfl⟩
  exact Transaction.write_eq_ok.mpr (Tables.store_eq_ok.mpr rfl)

/-- The rows the reservation's update selects: `WHERE network = ? AND
agent_address = ? AND status = 'active' AND signer_generation = ?`. -/
def SignerBinding.issuable (binding : SignerBinding) (row : SignerScopeRow) : Bool :=
  row.keyed binding.network binding.agentAddress && row.status == .active &&
    row.signerGeneration == binding.generation

theorem changes_issuable (hmem : scope ∈ database.signerScopes)
    (hkey : scope.key = binding.signer) (hactive : scope.status = .active)
    (hgeneration : scope.signerGeneration = binding.generation) :
    Table.changes database.signerScopes binding.issuable = 1 := by
  have hkeyed : ∀ row ∈ database.signerScopes, binding.issuable row = true →
      row.key = binding.signer := by
    intro row _ hrow
    rw [SignerBinding.issuable, Bool.and_eq_true, Bool.and_eq_true] at hrow
    exact SignerScopeRow.keyed_iff.mp hrow.1.1
  have hmost := Table.changes_le_one database.uniqueScopes hkeyed
  have hleast : 0 < Table.changes database.signerScopes binding.issuable := by
    refine List.countP_pos_iff.mpr ⟨scope, hmem, ?_⟩
    rw [SignerBinding.issuable, Bool.and_eq_true, Bool.and_eq_true, beq_iff_eq, beq_iff_eq]
    exact ⟨⟨SignerScopeRow.keyed_iff.mpr hkey, hactive⟩, hgeneration⟩
  omega

/-- The transaction commits exactly when the signer's scope is the active one
the binding names, the allocator gives a nonce, and the row clashes with none. -/
theorem reserveStatement_commits (hviem : viem.Checksums)
    (hinput : WellFormedReservation viem binding input) :
    (∃ record after, reserveStatement viem binding input before = .ok (record, after)) ↔
      ∃ scope ∈ before.signerScopes, scope.key = binding.signer ∧
        assertSignerBinding viem binding (bindingFromScope scope) = .ok () ∧
        scope.status = .active ∧
        ∃ allocation, allocateNonce
          { input.clock with lastObservedWallMs := scope.lastObservedWallMs }
          scope.lastIssuedNonce = .ok allocation ∧
        ∀ old ∈ before.actionJournal, ¬ old.clash (preparedRow binding
          input.capturedContextEpoch input.preparedAction allocation) := by
  constructor
  · rintro ⟨record, after, h⟩
    obtain ⟨allocation, scope, hreserved⟩ := reserveStatement_spec h
    have hbinding : ∃ other ∈ before.signerScopes, other.key = binding.signer ∧
        assertSignerBinding viem binding (bindingFromScope other) = .ok () := by
      unfold reserveStatement at h
      simp only [Transaction.bind_eq_ok, requireScope_eq_ok] at h
      obtain ⟨other, _, ⟨hother, -⟩, -⟩ := h
      exact ⟨other, hother⟩
    obtain ⟨other, hother, hkey, hassert⟩ := hbinding
    obtain rfl := before.uniqueScopes.eq_of_mem hother hreserved.scopes.mem
      (hkey.trans hreserved.key.symm)
    refine ⟨other, hother, hkey, hassert, hreserved.active, allocation, hreserved.allocated, ?_⟩
    have hkeys := after.consistent.recordKeys
    rw [hreserved.journal, List.pairwise_append, hreserved.row] at hkeys
    intro old hold
    exact hkeys.2.2 old hold _ (List.mem_singleton_self _)
  · rintro ⟨scope, hmem, hkey, hassert, hactive, allocation, hallocated, hfree⟩
    obtain ⟨normal, hnormal, hscope⟩ := assertSignerBinding_eq_ok.mp hassert
    have hgeneration : scope.signerGeneration = binding.generation := by
      have hleft := (normalizeSignerBinding_eq_ok.mp hnormal).2.2.1
      have hright := (normalizeSignerBinding_eq_ok.mp hscope).2.2.1
      exact hright.symm.trans hleft
    obtain ⟨mid, hupdate⟩ := updateScopes_succeeds binding.issuable
      (SignerScopeRow.issued allocation) (fun _ => ⟨rfl, rfl⟩) before
    rw [changes_issuable hmem hkey hactive hgeneration] at hupdate
    obtain ⟨-, hmid⟩ := updateScopes_eq_ok.mp hupdate
    have hjournal : mid.actionJournal = before.actionJournal := by rw [hmid]
    have hraised : scope.issued allocation ∈ mid.signerScopes := by
      rw [hmid]
      refine Table.mem_update.mpr ⟨scope, hmem, .inl ⟨?_, rfl⟩⟩
      rw [SignerBinding.issuable, Bool.and_eq_true, Bool.and_eq_true, beq_iff_eq, beq_iff_eq]
      exact ⟨⟨SignerScopeRow.keyed_iff.mpr hkey, hactive⟩, hgeneration⟩
    have hstored := hinput.stored hviem (allocateNonce_spec hallocated)
    obtain ⟨last, hinsert, hlast⟩ := insertAction_succeeds hstored.checks
      (hjournal ▸ hfree) ⟨_, hraised, (Prod.mk.injEq ..).mp hkey⟩
    have hinserted : preparedRow binding input.capturedContextEpoch
        input.preparedAction allocation ∈ last.actionJournal := by
      rw [hlast]
      exact List.mem_append_right _ (List.mem_singleton_self _)
    refine ⟨preparedRow binding input.capturedContextEpoch input.preparedAction
      allocation, last, ?_⟩
    unfold reserveStatement
    simp only [Transaction.bind_eq_ok]
    exact ⟨scope, before, requireScope_eq_ok.mpr ⟨⟨hmem, hkey, hassert⟩, rfl⟩,
      (), before, Transaction.ensure_eq_ok.mpr ⟨hactive, rfl⟩,
      allocation, before, Transaction.check_eq_ok.mpr ⟨hallocated, rfl⟩,
      1, mid, hupdate, (), mid, Transaction.ensure_eq_ok.mpr ⟨rfl, rfl⟩,
      (), last, hinsert, requireAction_eq_ok.mpr ⟨⟨hinserted, rfl, hstored⟩, rfl⟩⟩

/-! ### The reasons, exactly -/

/-- The new row clashes with a row of the journal exactly for a used identifier,
a taken `cloid` or an equivalent action; its nonce is above those of the
signer. -/
theorem clash_preparedRow_iff (hcover : SignersCover database)
    (hmem : scope ∈ database.signerScopes) (hkey : scope.key = binding.signer)
    (hallocated : AllocatedAfter clock scope.lastIssuedNonce allocation) :
    (∃ old ∈ database.actionJournal, old.clash (preparedRow binding
        input.capturedContextEpoch input.preparedAction allocation)) ↔
      (∃ old ∈ database.actionJournal, old.journalId = input.preparedAction.journalId ∨
          old.correlationId = input.preparedAction.correlationId) ∨
      CloidTaken database binding input.preparedAction ∨
      ∃ old ∈ database.actionJournal,
        isTerminalJournalState old.state = false ∧
          old.sameFingerprint (preparedRow binding input.capturedContextEpoch
            input.preparedAction allocation) := by
  have hnonce : ∀ old ∈ database.actionJournal, old.network = binding.network →
      old.agentAddress = binding.agentAddress →
      old.nonce ≠ allocation.nonce := by
    intro old hold hnetwork hagent
    obtain ⟨covering, hcovering, hcoverkey, last, hlast, hle⟩ := hcover old hold
    have hsame : covering = scope := database.uniqueScopes.eq_of_mem hcovering hmem
      (hcoverkey.trans ((Prod.ext hnetwork hagent : old.signer = binding.signer).trans hkey.symm))
    rw [hsame] at hlast
    have hlt := hallocated.increasing last hlast
    omega
  constructor
  · rintro ⟨old, hold, hid | hid | ⟨hnetwork, hagent, hsame⟩ |
      ⟨hsome, hcloid, hnetwork, htarget⟩ | ⟨hunsettled, -, hsame⟩⟩
    · exact .inl ⟨old, hold, .inl hid⟩
    · exact .inl ⟨old, hold, .inr hid⟩
    · exact absurd hsame (hnonce old hold hnetwork hagent)
    · have hnamed : old.cloid = input.preparedAction.cloid := hcloid
      exact .inr (.inl ⟨hnamed ▸ hsome, old, hold, hnamed, hnetwork, htarget⟩)
    · exact .inr (.inr ⟨old, hold, hunsettled, hsame⟩)
  · rintro (⟨old, hold, hid | hid⟩ | ⟨hsome, old, hold, hcloid, hnetwork, htarget⟩ |
      ⟨old, hold, hunsettled, hsame⟩)
    · exact ⟨old, hold, .inl hid⟩
    · exact ⟨old, hold, .inr (.inl hid)⟩
    · exact ⟨old, hold, .inr (.inr (.inr (.inl ⟨hcloid ▸ hsome, hcloid, hnetwork, htarget⟩)))⟩
    · exact ⟨old, hold, .inr (.inr (.inr (.inr ⟨hunsettled, rfl, hsame⟩)))⟩

theorem reservePreparedAction_commits (hinput : WellFormedReservation viem binding input) :
    (∃ record after, reservePreparedAction viem authority none input repository =
        (.ok record, after)) ↔
      authority binding input.capturedContextEpoch = .ok () ∧
      ∃ record after, reserveStatement viem binding input repository.database =
        .ok (record, after) := by
  obtain ⟨text, htext⟩ := hinput.identifiers
  unfold reservePreparedAction
  simp only [Action.bind_eq_ok, Action.check_apply, Action.modify_apply,
    Action.pure_apply, Prod.mk.injEq, hinput.binding, htext, Except.ok.injEq,
    assertTradingActionCapability_eq_ok, require_of hinput.epoch, immediate_eq_ok]
  constructor
  · rintro ⟨record, after, _, _, ⟨rfl, rfl⟩, _, _, ⟨-, rfl⟩, _, _, ⟨-, rfl⟩, _, _,
      ⟨-, rfl⟩, _, _, ⟨hauthority, rfl⟩, made, _, ⟨-, database, hrun, rfl⟩, -⟩
    exact ⟨hauthority, made, database, hrun⟩
  · rintro ⟨hauthority, record, database, hrun⟩
    exact ⟨record, _, binding, repository, ⟨rfl, rfl⟩, (), repository,
      ⟨trivial, rfl⟩, (), repository, ⟨trivial, rfl⟩, text, repository,
      ⟨rfl, rfl⟩, (), repository, ⟨hauthority, rfl⟩, record, _,
      ⟨trivial, database, hrun, rfl⟩, (), _, ⟨trivial, rfl⟩, rfl, rfl⟩

/-- **What refuses a reservation**: a stated reason, or a taken `cloid`. -/
theorem reservation_fails_iff (hviem : viem.Checksums) (hcover : SignersCover repository.database)
    (hinput : WellFormedReservation viem binding input) :
    (∀ record after, reservePreparedAction viem authority none input repository ≠
        (.ok record, after)) ↔
      StatedRefusal viem authority repository.database binding input ∨
        CloidTaken repository.database binding input.preparedAction := by
  have hcommits : (∃ record after, reservePreparedAction viem authority none input repository =
        (.ok record, after)) ↔ _ :=
    (reservePreparedAction_commits hinput).trans
      (and_congr_right' (reserveStatement_commits hviem hinput))
  constructor
  · intro hfails
    by_contra hnone
    rw [not_or] at hnone
    obtain ⟨hstated, hcloid⟩ := hnone
    have hauthority : authority binding input.capturedContextEpoch = .ok () := by
      cases hresult : authority binding input.capturedContextEpoch with
      | error failure => exact absurd (.epoch hresult) hstated
      | ok u => rfl
    have hscope : ∃ scope ∈ repository.database.signerScopes,
        scope.key = binding.signer ∧
        assertSignerBinding viem binding (bindingFromScope scope) = .ok () ∧
        scope.status = .active := by
      by_contra hno
      push Not at hno
      exact hstated (.scope fun scope hmem hkey h => hno scope hmem hkey h.1 h.2)
    obtain ⟨scope, hmem, hkey, hassert, hactive⟩ := hscope
    obtain ⟨allocation, hallocated⟩ : ∃ allocation, allocateNonce
        { input.clock with lastObservedWallMs := scope.lastObservedWallMs }
        scope.lastIssuedNonce = .ok allocation := by
      cases hresult : allocateNonce
          { input.clock with lastObservedWallMs := scope.lastObservedWallMs }
          scope.lastIssuedNonce with
      | error failure => exact absurd (.clock hmem hkey hresult) hstated
      | ok allocation => exact ⟨allocation, rfl⟩
    have hfree : ∀ old ∈ repository.database.actionJournal,
        ¬ old.clash (preparedRow binding input.capturedContextEpoch
          input.preparedAction allocation) := by
      intro old hold hclash
      rcases (clash_preparedRow_iff hcover hmem hkey
          (allocateNonce_spec hallocated)).mp ⟨old, hold, hclash⟩ with
        ⟨row, hrow, hused⟩ | htaken | ⟨row, hrow, hunsettled, hsame⟩
      · exact hstated (.used hrow hused)
      · exact hcloid htaken
      · exact hstated (.equivalent hrow hunsettled hsame)
    obtain ⟨record, after, hok⟩ := hcommits.mpr
      ⟨hauthority, scope, hmem, hkey, hassert, hactive, allocation, hallocated, hfree⟩
    exact hfails record after hok
  · intro hrefusal record after hok
    obtain ⟨hauthority, scope, hmem, hkey, hassert, hactive, allocation,
      hallocated, hfree⟩ := hcommits.mp ⟨record, after, hok⟩
    have hclash : ¬ ∃ old ∈ repository.database.actionJournal,
        old.clash (preparedRow binding input.capturedContextEpoch
          input.preparedAction allocation) := by
      rintro ⟨old, hold, h⟩
      exact hfree old hold h
    rw [clash_preparedRow_iff hcover hmem hkey (allocateNonce_spec hallocated)]
      at hclash
    rcases hrefusal with hstated | htaken
    · cases hstated with
      | scope h => exact h scope hmem hkey ⟨hassert, hactive⟩
      | epoch h =>
        rw [hauthority] at h
        cases h
      | clock mem key h =>
        rw [repository.database.uniqueScopes.eq_of_mem mem hmem
          (key.trans hkey.symm), hallocated] at h
        cases h
      | used mem h => exact hclash (.inl ⟨_, mem, h⟩)
      | equivalent mem unsettled h =>
        exact hclash (.inr (.inr ⟨_, mem, unsettled, h⟩))
    · exact hclash (.inr (.inl htaken))

theorem signersCover_of_run (viem : Viem) (calls : List RepositoryCall) :
    SignersCover (run (perform viem) .initial calls).database := by
  have hcall : ∀ before call, SignersCover before.database →
      SignersCover (perform viem before call).database :=
    fun _ call h => h.perform viem call
  exact run_invariant hcall signersCover_initial calls

/-- **A reservation is refused as stated, but for its `cloid`.** In every state
that repository calls lead to from a new installation, and for every well-formed
action, the reservation fails exactly for the stated reasons if and only if the
action names no `cloid` that the journal already has for the account, or is
refused for a stated reason anyway. -/
theorem reservation_refused_as_stated_iff (viem : Viem) (hviem : viem.Checksums)
    (calls : List RepositoryCall) (authority : ContextEpochAuthority)
    (binding : SignerBinding) (input : AtomicActionReservationInput)
    (hinput : WellFormedReservation viem binding input) :
    ((∀ record after, reservePreparedAction viem authority none input
          (run (perform viem) .initial calls) ≠ (.ok record, after)) ↔ StatedRefusal viem authority
          (run (perform viem) .initial calls).database binding input) ↔
      (CloidTaken (run (perform viem) .initial calls).database binding input.preparedAction →
        StatedRefusal viem authority
          (run (perform viem) .initial calls).database binding input) := by
  rw [reservation_fails_iff hviem (signersCover_of_run viem calls) hinput]
  constructor
  · intro h htaken
    exact h.mp (.inr htaken)
  · intro h
    exact ⟨fun hrefusal => hrefusal.elim id h, .inl⟩

/-! ### A cancel by `cloid` -/

def journaledOrder : PreparedAction where
  journalId := "jrnl_00000000000000000000000000000002"
  correlationId := "act_00000000000000000000000000000002"
  actionType := .limitOrder
  intentVersion := 1
  normalizedSecretFreeIntent := .object
    [("type", .string "limit_order"), ("assetId", .number 0),
      ("side", .string "buy"), ("size", .string "1"),
      ("limitPrice", .string "100"), ("timeInForce", .string "Gtc"), ("reduceOnly", .bool false),
      ("cloid", .string "0x00000000000000000000000000000002")]
  intentDigest :=
    "0x5847480f29115e8acf60b4f4ac9e67c579e35bcbde4faa6eb37d928f314eb537"
  equivalenceFingerprint :=
    "0x5847480f29115e8acf60b4f4ac9e67c579e35bcbde4faa6eb37d928f314eb537"
  cloid := some "0x00000000000000000000000000000002"
  assetId := some 0
  targetOid := none
  reconciliationKey := "order:0:cloid:0x00000000000000000000000000000002"

def cancelByCloid : PreparedAction where
  journalId := "jrnl_00000000000000000000000000000003"
  correlationId := "act_00000000000000000000000000000003"
  actionType := .cancel
  intentVersion := 1
  normalizedSecretFreeIntent := .object
    [("type", .string "cancel"), ("assetId", .number 0),
      ("target", .object [("kind", .string "cloid"),
        ("cloid", .string "0x00000000000000000000000000000002")])]
  intentDigest :=
    "0x37d81e5242a254e685d7b82530c0bc784936a4b90dae87cf6b64a2ed31084b5c"
  equivalenceFingerprint :=
    "0x37d81e5242a254e685d7b82530c0bc784936a4b90dae87cf6b64a2ed31084b5c"
  cloid := some "0x00000000000000000000000000000002"
  assetId := some 0
  targetOid := none
  reconciliationKey := "cancel:0:cloid:0x00000000000000000000000000000002"

def cancelReservation : AtomicActionReservationInput where
  binding := sampleBinding
  capturedContextEpoch := 0
  clock := sampleClock 2000
  preparedAction := cancelByCloid

def acceptedOrderCalls : List RepositoryCall :=
  [.registerActiveSignerScope none ⟨sampleBinding, 1000⟩,
    .reservePreparedAction (fun _ _ => .ok ()) none
      { sampleReservation with preparedAction := journaledOrder },
    .markSubmissionStarted none journaledOrder.journalId 1001,
    .transitionAction none journaledOrder.journalId .accepted (some .accepted) 1500]

def acceptedOrderScope : SignerScopeRow where
  network := .testnet
  agentAddress := sampleBinding.agentAddress
  masterAccount := sampleBinding.masterAccount
  targetAccount := sampleBinding.targetAccount
  signerGeneration := 1
  status := .active
  lastIssuedNonce := some 1000
  lastObservedWallMs := some 1000
  activatedAt := 1000
  updatedAt := 1000

def acceptedOrderRow : PreparedActionRecord :=
  { preparedRow sampleBinding 0 journaledOrder ⟨1000, 16000, 1000⟩ with
    state := .accepted
    submissionStartedAt := some 1001
    lastResultClass := some .accepted
    updatedAt := 1500 }

theorem acceptedOrder_tables :
    (run (perform sampleViem) .initial
        acceptedOrderCalls).database.signerScopes = [acceptedOrderScope] ∧
      (run (perform sampleViem) .initial
        acceptedOrderCalls).database.actionJournal = [acceptedOrderRow] := by
  decide +kernel

theorem cancelReservation_wellFormed :
    WellFormedReservation sampleViem sampleBinding cancelReservation where
  binding := by decide
  epoch := by decide
  identifiers :=
    ⟨cancelByCloid.normalizedSecretFreeIntent.stringify, by decide⟩

/-- None of the stated reasons refuses the cancel, and it is refused. -/
theorem cancel_by_cloid_not_reserved :
    ¬ ∀ (viem : Viem), viem.Checksums → ∀ (calls : List RepositoryCall)
      (authority : ContextEpochAuthority) (binding : SignerBinding)
      (input : AtomicActionReservationInput),
      WellFormedReservation viem binding input →
      ((∀ record after, reservePreparedAction viem authority none input
          (run (perform viem) .initial calls) ≠ (.ok record, after)) ↔ StatedRefusal viem authority
          (run (perform viem) .initial calls).database binding input) := by
  intro h
  obtain ⟨hscopes, hjournal⟩ := acceptedOrder_tables
  have htaken : CloidTaken
      (run (perform sampleViem) .initial acceptedOrderCalls).database
      sampleBinding cancelByCloid := by
    refine ⟨rfl, acceptedOrderRow, ?_, rfl, rfl, rfl⟩
    rw [hjournal]
    exact List.mem_singleton_self _
  have hfails : ∀ record after, reservePreparedAction sampleViem
      (fun _ _ => .ok ()) none cancelReservation
      (run (perform sampleViem) .initial acceptedOrderCalls) ≠
        (.ok record, after) :=
    (reservation_fails_iff sampleViem_checksums (signersCover_of_run sampleViem acceptedOrderCalls)
      cancelReservation_wellFormed).mpr (.inr htaken)
  cases (h sampleViem sampleViem_checksums acceptedOrderCalls _ sampleBinding
    cancelReservation cancelReservation_wellFormed).mp hfails with
  | scope hscope =>
    rw [hscopes] at hscope
    exact hscope _ (List.mem_singleton_self _) rfl ⟨by decide, rfl⟩
  | epoch hepoch => cases hepoch
  | clock mem key hclock =>
    rw [hscopes, List.mem_singleton] at mem
    have hallocates : allocateNonce { cancelReservation.clock with
          lastObservedWallMs := acceptedOrderScope.lastObservedWallMs }
        acceptedOrderScope.lastIssuedNonce = .ok ⟨2000, 17000, 2000⟩ := by
      decide
    rw [mem, hallocates] at hclock
    cases hclock
  | used mem hused =>
    rw [hjournal, List.mem_singleton] at mem
    rw [mem] at hused
    revert hused
    decide
  | equivalent mem unsettled hsame =>
    rw [hjournal, List.mem_singleton] at mem
    rw [mem] at unsettled
    cases unsettled

def secondReservation : AtomicActionReservationInput where
  binding := sampleBinding
  capturedContextEpoch := 0
  clock := sampleClock 2000
  preparedAction := { journaledOrder with
    journalId := "jrnl_00000000000000000000000000000004"
    correlationId := "act_00000000000000000000000000000004"
    intentDigest := cancelByCloid.intentDigest
    equivalenceFingerprint := cancelByCloid.equivalenceFingerprint
    cloid := some "0x00000000000000000000000000000004"
    reconciliationKey := "order:0:cloid:0x00000000000000000000000000000004" }

theorem secondReservation_wellFormed :
    WellFormedReservation sampleViem sampleBinding secondReservation where
  binding := by decide
  epoch := by decide
  identifiers :=
    ⟨secondReservation.preparedAction.normalizedSecretFreeIntent.stringify, by decide +kernel⟩

/-- Beside the accepted order of the journal, an order under another `cloid` is reserved: no
stated reason refuses it. -/
theorem reservation_refused_as_stated_iff_secondOrder :
    (reservePreparedAction sampleViem (fun _ _ => .ok ()) none secondReservation
        (run (perform sampleViem) .initial acceptedOrderCalls)).1.isOk = true ∧
      ¬ StatedRefusal sampleViem (fun _ _ => .ok ())
        (run (perform sampleViem) .initial acceptedOrderCalls).database sampleBinding
        secondReservation := by
  have hmade : (reservePreparedAction sampleViem (fun _ _ => .ok ()) none secondReservation
      (run (perform sampleViem) .initial acceptedOrderCalls)).1.isOk = true := by
    decide +kernel
  have hfree : ¬ CloidTaken (run (perform sampleViem) .initial acceptedOrderCalls).database
      sampleBinding secondReservation.preparedAction := by
    rintro ⟨-, row, hrow, hcloid, -⟩
    rw [acceptedOrder_tables.2, List.mem_singleton] at hrow
    rw [hrow] at hcloid
    revert hcloid
    decide
  have hiff := (reservation_refused_as_stated_iff sampleViem sampleViem_checksums
    acceptedOrderCalls (fun _ _ => .ok ()) sampleBinding secondReservation
    secondReservation_wellFormed).mpr fun htaken => absurd htaken hfree
  refine ⟨hmade, fun hstated => ?_⟩
  have hfails := hiff.mpr hstated
  cases hresult : reservePreparedAction sampleViem (fun _ _ => .ok ()) none secondReservation
      (run (perform sampleViem) .initial acceptedOrderCalls) with
  | mk result after =>
    rw [hresult] at hmade
    cases result with
    | error failure => cases hmade
    | ok record => exact hfails record after hresult

end HyperTrader
