import HyperTrader.Nonce.Calls

/-!
# What a call does to the signer scopes

A reservation raises the clock columns of one active scope. No other call
writes them: a call keeps every scope, moves its status only towards retirement
and adds a scope only under a signer that has none.
-/

namespace HyperTrader

open Library

/-- The scope of a registration: active, never used, and under an address in
its normal form. -/
structure NewScope (viem : Viem) (scope : SignerScopeRow) : Prop where
  normal : ∃ address, normalizeAddress viem address = .ok scope.agentAddress
  fresh : FreshScope scope.key scope

/-- The scopes after a call: those of the reservation it committed, or each kept
and new ones. -/
inductive ScopesStep (viem : Viem) (made : Option PreparedActionRecord)
    (before after : Database) : Prop
  | kept (follow : ScopesFollow (NewScope viem) before after)
  | reserved {binding : SignerBinding} {input : AtomicActionReservationInput}
      {record : PreparedActionRecord} {allocation : NonceAllocation}
      {scope : SignerScopeRow} (committed : made = some record)
      (reservation : Reserved binding input before after record allocation scope)

variable {viem : Viem} {made : Option PreparedActionRecord} {before after : Database}

theorem ScopesStep.of_eq (h : after.signerScopes = before.signerScopes) :
    ScopesStep viem made before after := by
  apply ScopesStep.kept
  unfold ScopesFollow
  rw [h]
  exact Table.Follows.refl ScopeKept.refl _

theorem ScopesFollow.step (h : ScopesFollow (fun _ => False) before after) :
    ScopesStep viem made before after :=
  .kept (h.mono (fun _ _ _ hkept => hkept) (fun _ _ hfalse => hfalse.elim))

theorem registerActiveSignerScope_scopes (viem : Viem) (fault : Option Failure)
    (input : SignerScopeRegistration) :
    Effect (ScopesStep viem none) (registerActiveSignerScope viem fault input) := by
  refine Effect.check_bind fun binding hbinding => ?_
  refine Effect.check_bind fun _ _ => Effect.check_bind fun _ _ => ?_
  refine Effect.immediate fun a before after h => ?_
  obtain ⟨hscopes, -, -⟩ := registerStatement_scopes h
  refine .kept (hscopes.mono (fun _ _ _ hkept => hkept) ?_)
  intro scope _ hfresh
  obtain ⟨-, -, -, -, -, hagent⟩ := normalizeSignerBinding_eq_ok.mp hbinding
  have hkey : scope.agentAddress = binding.agentAddress :=
    congrArg Prod.snd hfresh.key
  refine ⟨⟨input.binding.agentAddress, ?_⟩, hfresh.key ▸ hfresh⟩
  rw [hkey]
  exact hagent

/-- A repository call that commits anything is one step of the signer scopes. -/
theorem perform_scopes (viem : Viem) (repository : Repository) (call : RepositoryCall) :
    (perform viem repository call).database = repository.database ∨
      ScopesStep viem (committedReservation viem repository call)
        repository.database (perform viem repository call).database := by
  cases call with
  | registerActiveSignerScope fault input =>
    exact registerActiveSignerScope_scopes viem fault input repository
  | reservePreparedAction authority fault input =>
    cases hrun : reservePreparedAction viem authority fault input repository with
    | mk result after =>
      simp only [perform, committedReservation, hrun]
      cases result with
      | error failure =>
        rw [reservePreparedAction_error hrun]
        exact .inl rfl
      | ok record =>
        obtain ⟨binding, allocation, scope, -, hreserved⟩ :=
          reservePreparedAction_ok hrun
        exact .inr (.reserved rfl hreserved)
  | markSignerRetiring fault binding now =>
    refine Effect.check_bind (fun binding _ => ?_) repository
    refine Effect.check_bind fun _ _ => ?_
    refine Effect.immediate fun a before after h => ?_
    exact (markRetiringStatement_scopes h).1.step
  | retireSignerScope fault binding input =>
    refine Effect.check_bind (fun binding _ => ?_) repository
    refine Effect.immediate fun a before after h => ?_
    exact (retireStatement_scopes h).1.step
  | markSubmissionStarted fault journalId now =>
    refine Effect.check_bind (fun _ _ => ?_) repository
    refine Effect.get_bind fun s => Effect.check_bind fun expiry _ => ?_
    refine Effect.modify_bind (fun s => ?_) ?_
    · split <;> rfl
    · refine Effect.immediate_bind (fun a before after h => ?_) fun _ _ => rfl
      obtain ⟨row, -, -, -, -, -, hrewrite⟩ := markStatement_spec h
      exact .of_eq hrewrite.scopes
  | transitionAction fault journalId next resultClass now =>
    refine Effect.check_bind (fun _ _ => ?_) repository
    refine Effect.immediate_bind (fun a before after h => ?_) fun _ _ => rfl
    obtain ⟨row, -, -, -, -, -, -, hrewrite⟩ := transitionStatement_spec h
    exact .of_eq hrewrite.scopes
  | claimReconciliationLease fault journalId owner now leaseDurationMs =>
    refine Effect.check_bind (fun _ _ => ?_) repository
    refine Effect.check_bind fun _ _ => Effect.check_bind fun _ _ => ?_
    refine Effect.immediate fun a before after h => ?_
    cases a with
    | none =>
      rw [claimStatement_none h]
      exact .of_eq rfl
    | some lease =>
      obtain ⟨-, row, -, -, -, hrewrite⟩ := claimStatement_some h
      exact .of_eq hrewrite.scopes
  | claimNextReconciliation fault owner now leaseDurationMs =>
    refine Effect.check_bind (fun _ _ => ?_) repository
    refine Effect.check_bind fun _ _ => Effect.check_bind fun _ _ => ?_
    refine Effect.immediate fun a before after h => ?_
    cases a with
    | none =>
      rw [claimNextStatement_none h]
      exact .of_eq rfl
    | some claimed =>
      obtain ⟨-, -, row, -, -, -, hrewrite⟩ := claimNextStatement_some h
      exact .of_eq hrewrite.scopes
  | renewReconciliationLease fault lease now leaseDurationMs =>
    refine Effect.check_bind (fun _ _ => ?_) repository
    refine Effect.check_bind fun _ _ => Effect.check_bind fun _ _ => ?_
    refine Effect.immediate fun a before after h => ?_
    cases a with
    | none =>
      rw [renewStatement_none h]
      exact .of_eq rfl
    | some renewed =>
      obtain ⟨-, row, -, -, hrewrite⟩ := renewStatement_some h
      exact .of_eq hrewrite.scopes
  | releaseReconciliationLease fault lease now =>
    refine Effect.check_bind (fun _ _ => ?_) repository
    refine Effect.check_bind fun _ _ => ?_
    refine Effect.immediate fun a before after h => ?_
    cases a with
    | false =>
      rw [releaseStatement_false h]
      exact .of_eq rfl
    | true =>
      obtain ⟨row, -, hrewrite⟩ := releaseStatement_true h
      exact .of_eq hrewrite.scopes
  | scheduleReconciliation fault journalId owner now nextAttemptAt =>
    refine Effect.check_bind (fun _ _ => ?_) repository
    refine Effect.check_bind fun _ _ => Effect.check_bind fun _ _ => ?_
    refine Effect.check_bind fun _ _ => ?_
    refine Effect.immediate fun a before after h => ?_
    obtain ⟨row, -, -, -, -, -, hrewrite⟩ := scheduleStatement_spec h
    exact .of_eq hrewrite.scopes
  | recoverAfterRestart fault now =>
    refine Effect.check_bind (fun _ _ => ?_) repository
    refine Effect.modify_bind (fun _ => rfl) ?_
    refine Effect.immediate fun a before after h => ?_
    exact .of_eq (recoverStatement_spec h).2
  | restart => exact .inl rfl

end HyperTrader
