import HyperTrader.Journal.WellFormed
import HyperTrader.Nonce.Scopes

/-!
# Retired signers stay retired

A scope's status only moves towards retirement, a scope is never removed, and
its key is the signer's address in its normal form. So once a signer's scope has
left `active`, whatever is called later, a reservation or a registration of that
signer fails, in whatever letter case its address is written.
-/

namespace HyperTrader

open Library

def SignerClosed (signer : HyperliquidNetwork × String) (database : Database) : Prop :=
  ∃ scope ∈ database.signerScopes, scope.key = signer ∧ scope.status ≠ .active

variable {scope : SignerScopeRow} {viem : Viem} {made : Option PreparedActionRecord}
  {before after : Database} {repository : Repository} {binding : SignerBinding}
  {fault : Option Failure}

theorem ScopeKept.inactive {scope' : SignerScopeRow}
    (h : ScopeKept scope scope') (hstatus : scope.status ≠ .active) : scope'.status ≠ .active := by
  rcases h.status with hsame | ⟨hactive, -⟩ | ⟨-, hretired⟩
  · rw [hsame]
    exact hstatus
  · exact absurd hactive hstatus
  · rw [hretired]
    decide

theorem SignerClosed.step {signer : HyperliquidNetwork × String}
    (h : SignerClosed signer before) (hstep : ScopesStep viem made before after) :
    SignerClosed signer after := by
  obtain ⟨scope, hmem, hkey, hstatus⟩ := h
  cases hstep with
  | kept follow =>
    obtain ⟨scope', hmem', hkey', hkept⟩ := follow.forward scope hmem
    exact ⟨scope', hmem', hkey'.trans hkey, hkept.inactive hstatus⟩
  | @reserved _ _ _ _ raised _ reservation =>
    refine ⟨scope, (reservation.scopes.others scope ?_).mpr hmem, hkey, hstatus⟩
    intro hsame
    have heq : scope = raised :=
      before.uniqueScopes.eq_of_mem hmem reservation.scopes.mem hsame
    exact hstatus (heq ▸ reservation.active)

theorem SignerClosed.run (viem : Viem) {signer : HyperliquidNetwork × String}
    (h : SignerClosed signer repository.database) (calls : List RepositoryCall) :
    SignerClosed signer (Library.run (perform viem) repository calls).database := by
  have hcall : ∀ before call, SignerClosed signer before.database →
      SignerClosed signer (perform viem before call).database := by
    intro before call hbefore
    rcases perform_scopes viem before call with hsame | hstep
    · rw [hsame]
      exact hbefore
    · exact hbefore.step hstep
  exact run_invariant hcall h calls

def NormalScopes (viem : Viem) (database : Database) : Prop :=
  ∀ scope ∈ database.signerScopes,
    ∃ address, normalizeAddress viem address = .ok scope.agentAddress

theorem NormalScopes.step (h : NormalScopes viem before)
    (hstep : ScopesStep viem made before after) : NormalScopes viem after := by
  intro scope hscope
  cases hstep with
  | kept follow =>
    rcases follow.backward scope hscope with ⟨old, hold, hkey, -⟩ | hnew
    · have hagent : scope.agentAddress = old.agentAddress :=
        congrArg Prod.snd hkey
      rw [hagent]
      exact h old hold
    · exact hnew.normal
  | @reserved _ _ _ allocation raised _ reservation =>
    by_cases hkey : scope.key = raised.key
    · have hissued : scope = raised.issued allocation :=
        after.uniqueScopes.eq_of_mem hscope reservation.scopes.mem_after hkey
      rw [hissued]
      exact h raised reservation.scopes.mem
    · exact h scope ((reservation.scopes.others scope hkey).mp hscope)

theorem normalScopes_of_run (viem : Viem) (calls : List RepositoryCall) :
    NormalScopes viem (run (perform viem) .initial calls).database := by
  have hcall : ∀ before call, NormalScopes viem before.database →
      NormalScopes viem (perform viem before call).database := by
    intro before call hbefore
    rcases perform_scopes viem before call with hsame | hstep
    · rw [hsame]
      exact hbefore
    · exact hbefore.step hstep
  refine run_invariant hcall ?_ calls
  intro scope hscope
  simp [Repository.initial, Database.empty] at hscope

theorem normalizeAddress_lower (hviem : viem.Checksums)
    {address normal : String} (h : normalizeAddress viem address = .ok normal) :
    normal = asciiLower address := by
  obtain ⟨checksummed, hchecksummed, rfl⟩ := normalizeAddress_eq_ok.mp h
  exact hviem.getAddress_case address checksummed hchecksummed

theorem NormalScopes.signer (hviem : viem.Checksums)
    {database : Database} (h : NormalScopes viem database) (hscope : scope ∈ database.signerScopes)
    {normal : SignerBinding} (hnormal : normalizeSignerBinding viem binding = .ok normal)
    (hnetwork : binding.network = scope.network)
    (hagent : asciiLower binding.agentAddress = asciiLower scope.agentAddress) :
    normal.signer = scope.key := by
  obtain ⟨-, hnetwork', -, -, -, hagent'⟩ :=
    normalizeSignerBinding_eq_ok.mp hnormal
  obtain ⟨address, haddress⟩ := h scope hscope
  have hlower : asciiLower scope.agentAddress = scope.agentAddress := by
    rw [normalizeAddress_lower hviem haddress, asciiLower_asciiLower]
  refine Prod.ext (hnetwork'.trans hnetwork) ?_
  calc normal.agentAddress
      = asciiLower binding.agentAddress := normalizeAddress_lower hviem hagent'
    _ = scope.agentAddress := hagent.trans hlower

theorem registerActiveSignerScope_active
    {input : SignerScopeRegistration} {after : Repository} {u : Unit}
    (h : registerActiveSignerScope viem fault input repository = (.ok u, after)) :
    ∃ normal, normalizeSignerBinding viem input.binding = .ok normal ∧
      ∀ scope ∈ repository.database.signerScopes, scope.key = normal.signer →
        scope.status = .active := by
  unfold registerActiveSignerScope at h
  simp only [Action.bind_eq_ok, Action.check_apply, Prod.mk.injEq] at h
  obtain ⟨normal, _, ⟨hnormal, rfl⟩, _, _, ⟨-, rfl⟩, _, _, ⟨-, rfl⟩, h⟩ := h
  obtain ⟨-, _, hrun, -⟩ := immediate_eq_ok.mp h
  obtain ⟨-, -, hactive⟩ := registerStatement_scopes hrun
  exact ⟨normal, hnormal, hactive⟩

theorem retireSignerScope_terminal {input : RetiredSignerTombstoneInput}
    {after : Repository} {tombstone : TombstoneRow}
    (h : retireSignerScope viem fault binding input repository = (.ok tombstone, after)) :
    ∃ normal, normalizeSignerBinding viem binding = .ok normal ∧
      (input.reason = .rotated ∨ input.reason = .expired →
        ∀ row ∈ repository.database.actionJournal, row.signer = normal.signer →
          isTerminalJournalState row.state = true) := by
  unfold retireSignerScope at h
  simp only [Action.bind_eq_ok, Action.check_apply, Prod.mk.injEq] at h
  obtain ⟨normal, _, ⟨hnormal, rfl⟩, h⟩ := h
  obtain ⟨-, _, hrun, -⟩ := immediate_eq_ok.mp h
  obtain ⟨-, -, hterminal⟩ := retireStatement_scopes hrun
  exact ⟨normal, hnormal, hterminal⟩

theorem SignerClosed.refused (h : ∀ normal, normalizeSignerBinding viem binding = .ok normal →
      SignerClosed normal.signer repository.database) :
    (∀ fault activatedAt u after,
      registerActiveSignerScope viem fault ⟨binding, activatedAt⟩ repository ≠ (.ok u, after)) ∧
    ∀ authority fault input record after, input.binding = binding →
      reservePreparedAction viem authority fault input repository ≠ (.ok record, after) := by
  constructor
  · intro fault activatedAt u after hok
    obtain ⟨normal, hnormal, hactive⟩ := registerActiveSignerScope_active hok
    obtain ⟨scope, hmem, hkey, hstatus⟩ := h normal hnormal
    exact hstatus (hactive scope hmem hkey)
  · intro authority fault input record after hbinding hok
    obtain ⟨normal, _, raised, hnormal, hreserved⟩ := reservePreparedAction_ok hok
    rw [hbinding] at hnormal
    obtain ⟨scope, hmem, hkey, hstatus⟩ := h normal hnormal
    have hsame : scope = raised := repository.database.uniqueScopes.eq_of_mem hmem
      hreserved.scopes.mem (hkey.trans hreserved.key.symm)
    exact hstatus (hsame ▸ hreserved.active)

/-- **Retired signers never return.** Once, in a run of repository calls from a
new installation, a signer's scope is retiring or retired, no registration and
no reservation of that signer on that network succeeds after any further calls,
in whatever letter case its address is written; and an ordinary retirement never
commits while the signer has a record that is not terminal. -/
theorem retired_signers_never_return (viem : Viem) (hviem : viem.Checksums)
    (calls : List RepositoryCall) :
    (∀ scope ∈ (run (perform viem) .initial calls).database.signerScopes, scope.status ≠ .active →
      ∀ later binding, binding.network = scope.network →
        asciiLower binding.agentAddress = asciiLower scope.agentAddress →
        (∀ fault activatedAt u after, registerActiveSignerScope viem fault ⟨binding, activatedAt⟩
            (run (perform viem) .initial (calls ++ later)) ≠ (.ok u, after)) ∧
        ∀ authority fault input record after, input.binding = binding →
          reservePreparedAction viem authority fault input
            (run (perform viem) .initial (calls ++ later)) ≠ (.ok record, after)) ∧
    ∀ fault binding input tombstone after,
      retireSignerScope viem fault binding input
          (run (perform viem) .initial calls) = (.ok tombstone, after) →
        input.reason = .rotated ∨ input.reason = .expired →
        ∀ row ∈ (run (perform viem) .initial calls).database.actionJournal,
          row.network = binding.network →
          asciiLower row.agentAddress = asciiLower binding.agentAddress →
          isTerminalJournalState row.state = true := by
  have hnormals := normalScopes_of_run viem calls
  constructor
  · intro scope hscope hstatus later binding hnetwork hagent
    apply SignerClosed.refused
    intro normal hnormal
    rw [run_append]
    refine SignerClosed.run viem ?_ later
    exact ⟨scope, hscope, (hnormals.signer hviem hscope hnormal hnetwork hagent).symm, hstatus⟩
  · intro fault binding input tombstone after hretire hreason row hrow hnetwork
      hagent
    obtain ⟨normal, hnormal, hterminal⟩ := retireSignerScope_terminal hretire
    obtain ⟨scope, hscope, hnetwork', hagent'⟩ :=
      (run (perform viem) .initial calls).database.consistent.recordScope row hrow
    refine hterminal hreason row hrow ?_
    have hkey : scope.key = row.signer := Prod.ext hnetwork' hagent'
    rw [← hkey]
    refine (hnormals.signer hviem hscope hnormal ?_ ?_).symm
    · exact hnetwork.symm.trans hnetwork'.symm
    · rw [← hagent, hagent']

def retiringCalls : List RepositoryCall :=
  [.registerActiveSignerScope none ⟨sampleBinding, 1000⟩,
    .markSignerRetiring none sampleBinding 1001]

/-- Its scope is not active, and it cannot be registered again. -/
theorem retired_signers_never_return_retiringCalls :
    ∃ scope ∈ (run (perform sampleViem) .initial retiringCalls).database.signerScopes,
      scope.status = .retiring ∧
      ∀ fault activatedAt u after,
        registerActiveSignerScope sampleViem fault ⟨sampleBinding, activatedAt⟩
          (run (perform sampleViem) .initial (retiringCalls ++ [])) ≠ (.ok u, after) := by
  have hscope : { network := .testnet
                  agentAddress := sampleBinding.agentAddress
                  masterAccount := sampleBinding.masterAccount
                  targetAccount := sampleBinding.targetAccount
                  signerGeneration := 1
                  status := .retiring
                  lastIssuedNonce := none
                  lastObservedWallMs := none
                  activatedAt := 1000
                  updatedAt := 1001 } ∈
      (run (perform sampleViem) .initial retiringCalls).database.signerScopes := by
    decide
  refine ⟨_, hscope, rfl, ?_⟩
  exact ((retired_signers_never_return sampleViem sampleViem_checksums
    retiringCalls).1 _ hscope (by decide) [] sampleBinding rfl rfl).1

end HyperTrader
