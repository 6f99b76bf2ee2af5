import HyperTrader.Library.Machine
import HyperTrader.Library.Text

/-!
# The life of an account operation

An operation on an account locks it, waits for a step outside of the app, proves that the
old agent is inactive, writes the tombstone of its nonces, deletes its secret and, for an
unlink, its alerts. A failure after the external step restricts the account until a proof
lets the operation go on from where the clean-up stood. The reason is cut to 160 code
units, so it is the list of its code units here.
-/

namespace HyperTrader

open Library

namespace AccountLifecycle

inductive AccountLifecycleOperation
  | rotate
  | revokeExternal
  | unlinkVerified
  | unlinkLocal
  | repair
  deriving DecidableEq

inductive AccountOperationPhase
  | idle
  | locking
  | externalStep
  | verifying
  | restricted
  | tombstoning
  | deletingLocal
  | deletingAlerts
  | complete
  | failed
  deriving DecidableEq

inductive AlertDeletion
  | notStarted
  | pending
  | complete
  | failed
  deriving DecidableEq

structure AccountOperationState where
  operation : Option AccountLifecycleOperation
  phase : AccountOperationPhase
  generation : ℕ
  completed : Bool
  newAgentActive : Bool
  oldAgentInactive : Bool
  nonceScopeTombstoned : Bool
  localSecretDeleted : Bool
  localCleanupComplete : Bool
  alertDeletion : AlertDeletion
  reason : Option (List ℕ)

def initialAccountOperation : AccountOperationState where
  operation := none
  phase := .idle
  generation := 0
  completed := false
  newAgentActive := false
  oldAgentInactive := false
  nonceScopeTombstoned := false
  localSecretDeleted := false
  localCleanupComplete := false
  alertDeletion := .notStarted
  reason := none

inductive AccountOperationAction
  | start (operation : AccountLifecycleOperation)
  | localLocked
  | externalStepReturned
  | authoritativeProof (newAgentActive oldAgentInactive : Bool)
  | acknowledgeUnverifiedLocalUnlink
  | nonceScopeTombstoned
  | localSecretDeleted
  | alertDataDeleted
  | alertDataDeletionFailed (reason : List ℕ)
  | fail (reason : List ℕ)
  | reset

def needsNewAgent (operation : Option AccountLifecycleOperation) : Bool :=
  operation = some .rotate || operation = some .repair

def needsAlertDeletion (operation : Option AccountLifecycleOperation) : Bool :=
  operation = some .unlinkVerified || operation = some .unlinkLocal

def cleanupPhaseAfterAuthoritativeProof (state : AccountOperationState) : AccountOperationPhase :=
  if state.nonceScopeTombstoned = false then .tombstoning
  else if state.localSecretDeleted = false then .deletingLocal
  else if needsAlertDeletion state.operation = true ∧ state.alertDeletion ≠ .complete then
    .deletingAlerts
  else .complete

def canStartOperation (phase : AccountOperationPhase) : Bool :=
  phase = .idle || phase = .complete

def canResetOperation (phase : AccountOperationPhase) : Bool :=
  phase = .idle || phase = .complete || phase = .failed

def failureNeedsAuthoritativeResolution : AccountOperationPhase → Bool
  | .externalStep | .verifying | .restricted | .tombstoning | .deletingLocal
  | .deletingAlerts => true
  | .idle | .locking | .complete | .failed => false

def verifiedBy (operation : Option AccountLifecycleOperation)
    (newAgentActive oldAgentInactive : Bool) : Bool :=
  oldAgentInactive && (!needsNewAgent operation || newAgentActive)

def reduceAccountOperation (state : AccountOperationState) :
    AccountOperationAction → AccountOperationState
  | .start operation =>
    if canStartOperation state.phase then
      { initialAccountOperation with
        operation := some operation
        phase := .locking
        generation := state.generation + 1 }
    else state
  | .localLocked =>
    if state.phase = .locking then
      { state with
        phase := if state.operation = some .repair then .verifying else .externalStep }
    else state
  | .externalStepReturned =>
    if state.phase = .externalStep then { state with phase := .verifying } else state
  | .authoritativeProof newAgentActive oldAgentInactive =>
    if state.phase = .verifying ∨ state.phase = .restricted then
      let verified := verifiedBy state.operation newAgentActive oldAgentInactive
      let verifiedPhase :=
        if verified then cleanupPhaseAfterAuthoritativeProof state else .restricted
      { state with
        phase := verifiedPhase
        completed := verifiedPhase = .complete
        newAgentActive := newAgentActive
        oldAgentInactive := oldAgentInactive
        reason :=
          if verified then none
          else some (utf16 ("Authoritative state has not proved the old agent inactive " ++
            "and the replacement active.")) }
    else state
  | .acknowledgeUnverifiedLocalUnlink =>
    if state.operation = some .unlinkLocal ∧ state.phase = .externalStep then
      { state with
        phase := .tombstoning
        reason := some (utf16 ("External revocation is unconfirmed. " ++
          "This device will remain visibly restricted.")) }
    else state
  | .nonceScopeTombstoned =>
    if state.phase = .tombstoning then
      { state with phase := .deletingLocal, nonceScopeTombstoned := true }
    else state
  | .localSecretDeleted =>
    if state.phase = .deletingLocal ∧ state.nonceScopeTombstoned = true then
      if needsAlertDeletion state.operation then
        { state with
          phase := .deletingAlerts
          localSecretDeleted := true
          alertDeletion := .pending }
      else
        { state with
          phase := .complete
          completed := true
          localSecretDeleted := true
          localCleanupComplete := true }
    else state
  | .alertDataDeleted =>
    if state.phase = .deletingAlerts then
      if state.operation = some .unlinkLocal ∧ state.oldAgentInactive = false then
        { state with
          phase := .restricted
          completed := false
          localCleanupComplete := true
          alertDeletion := .complete
          reason := some (utf16 ("Local unlink finished, " ++
            "but external agent revocation remains unconfirmed.")) }
      else
        { state with
          phase := .complete
          completed := true
          localCleanupComplete := true
          alertDeletion := .complete
          reason := none }
    else state
  | .alertDataDeletionFailed reason =>
    if state.phase = .deletingAlerts then
      { state with
        phase := .restricted
        completed := false
        localCleanupComplete := true
        alertDeletion := .failed
        reason := some (reason.take 160) }
    else state
  | .fail reason =>
    if state.phase = .complete then state
    else
      { state with
        phase :=
          if failureNeedsAuthoritativeResolution state.phase then .restricted else .failed
        completed := false
        reason := some (reason.take 160) }
  | .reset =>
    if canResetOperation state.phase then
      { initialAccountOperation with generation := state.generation + 1 }
    else state

structure Ordered (state : AccountOperationState) : Prop where
  completed : state.completed = true ↔ state.phase = .complete
  secret : state.localSecretDeleted = true → state.nonceScopeTombstoned = true
  /-- An operation without alerts is complete when its secret is deleted. -/
  secretLast : state.localSecretDeleted = true → needsAlertDeletion state.operation = false →
    state.phase = .complete
  alerts : state.alertDeletion = .complete → state.localCleanupComplete = true
  /-- The clean-up goes on from a proof, or from the acknowledgement of a local unlink. -/
  proven : (state.phase = .tombstoning ∨ state.phase = .deletingLocal ∨
      state.phase = .deletingAlerts ∨ state.phase = .complete) →
    verifiedBy state.operation state.newAgentActive state.oldAgentInactive = true ∨
      state.operation = some .unlinkLocal
  deletingLocal : state.phase = .deletingLocal → state.nonceScopeTombstoned = true
  deletingAlerts : state.phase = .deletingAlerts →
    state.localSecretDeleted = true ∧ needsAlertDeletion state.operation = true
  complete : state.phase = .complete → state.oldAgentInactive = true ∧
    state.localSecretDeleted = true ∧ state.localCleanupComplete = true ∧
      (needsAlertDeletion state.operation = true → state.alertDeletion = .complete)

variable {state : AccountOperationState}

theorem ordered_initial : Ordered initialAccountOperation := by
  constructor <;> simp [initialAccountOperation]

theorem cleanupPhase_eq_complete (h : cleanupPhaseAfterAuthoritativeProof state = .complete) :
    state.nonceScopeTombstoned = true ∧ state.localSecretDeleted = true ∧
      (needsAlertDeletion state.operation = true → state.alertDeletion = .complete) := by
  unfold cleanupPhaseAfterAuthoritativeProof at h
  split at h
  · cases h
  · split at h
    · cases h
    · split at h
      · cases h
      · rename_i htombstoned hdeleted halerts
        refine ⟨by simpa using htombstoned, by simpa using hdeleted, ?_⟩
        intro hneeds
        by_contra hincomplete
        exact halerts ⟨hneeds, hincomplete⟩

theorem Ordered.authoritativeProof (h : Ordered state)
    (hphase : state.phase = .verifying ∨ state.phase = .restricted)
    (newAgentActive oldAgentInactive : Bool) :
    Ordered (reduceAccountOperation state
      (.authoritativeProof newAgentActive oldAgentInactive)) := by
  have hincomplete : state.phase ≠ .complete := by
    rcases hphase with hphase | hphase <;> rw [hphase] <;> decide
  have halerted : state.localSecretDeleted = true →
      needsAlertDeletion state.operation = true := by
    intro hdeleted
    by_contra hneeds
    exact hincomplete (h.secretLast hdeleted (by simpa using hneeds))
  simp only [reduceAccountOperation, if_pos hphase]
  cases hverified : verifiedBy state.operation newAgentActive oldAgentInactive with
  | false =>
    constructor
    · simp
    · exact h.secret
    · intro hdeleted hneeds
      simp [halerted hdeleted] at hneeds
    · exact h.alerts
    · simp
    · simp
    · simp
    · simp
  | true =>
    constructor
    · simp
    · exact h.secret
    · intro hdeleted hneeds
      simp [halerted hdeleted] at hneeds
    · exact h.alerts
    · intro _
      exact .inl hverified
    · intro hphase'
      unfold cleanupPhaseAfterAuthoritativeProof at hphase'
      grind -linarith
    · intro hphase'
      unfold cleanupPhaseAfterAuthoritativeProof at hphase'
      grind -linarith
    · intro hcomplete
      obtain ⟨-, hdeleted, halerts⟩ := cleanupPhase_eq_complete hcomplete
      have hinactive : oldAgentInactive = true := by
        simp only [verifiedBy, Bool.and_eq_true] at hverified
        exact hverified.1
      exact ⟨hinactive, hdeleted, h.alerts (halerts (halerted hdeleted)), halerts⟩

theorem Ordered.inactive (h : Ordered state)
    (hphase : state.phase = .tombstoning ∨ state.phase = .deletingLocal ∨
      state.phase = .deletingAlerts ∨ state.phase = .complete)
    (hlocal : state.operation ≠ some .unlinkLocal) : state.oldAgentInactive = true := by
  rcases h.proven hphase with hverified | hunlink
  · simp only [verifiedBy, Bool.and_eq_true] at hverified
    exact hverified.1
  · exact absurd hunlink hlocal

/-- Whatever is reduced, each part of an operation still comes after those it needs. -/
theorem Ordered.step (h : Ordered state) (action : AccountOperationAction) :
    Ordered (reduceAccountOperation state action) := by
  cases action with
  | start operation =>
    simp only [reduceAccountOperation]
    split
    · constructor <;> simp [initialAccountOperation]
    · exact h
  | localLocked =>
    simp only [reduceAccountOperation]
    split
    · rename_i hphase
      constructor
      · grind -linarith [h.completed]
      · exact h.secret
      · grind -linarith [h.secretLast]
      · exact h.alerts
      · grind -linarith
      · grind -linarith
      · grind -linarith
      · grind -linarith
    · exact h
  | externalStepReturned =>
    simp only [reduceAccountOperation]
    split
    · rename_i hphase
      constructor <;> grind -linarith [Ordered]
    · exact h
  | authoritativeProof newAgentActive oldAgentInactive =>
    by_cases hphase : state.phase = .verifying ∨ state.phase = .restricted
    · exact h.authoritativeProof hphase _ _
    · simp only [reduceAccountOperation, if_neg hphase]
      exact h
  | acknowledgeUnverifiedLocalUnlink =>
    simp only [reduceAccountOperation]
    split
    · constructor <;> grind -linarith [Ordered]
    · exact h
  | nonceScopeTombstoned =>
    simp only [reduceAccountOperation]
    split
    · constructor <;> grind -linarith [Ordered]
    · exact h
  | localSecretDeleted =>
    simp only [reduceAccountOperation]
    split
    · rename_i hphase
      split
      · constructor <;> grind -linarith [Ordered]
      · rename_i hneeds
        have hinactive : state.oldAgentInactive = true := by
          apply h.inactive (.inr (.inl hphase.1))
          intro hlocal
          exact hneeds (by simp [needsAlertDeletion, hlocal])
        constructor <;> grind -linarith [Ordered]
    · exact h
  | alertDataDeleted =>
    simp only [reduceAccountOperation]
    split
    · rename_i hphase
      split
      · constructor <;> grind -linarith [Ordered]
      · rename_i hproven
        have hinactive : state.oldAgentInactive = true := by
          by_cases hlocal : state.operation = some .unlinkLocal
          · by_contra hactive
            exact hproven ⟨hlocal, by simpa using hactive⟩
          · exact h.inactive (.inr (.inr (.inl hphase))) hlocal
        constructor <;> grind -linarith [Ordered]
    · exact h
  | alertDataDeletionFailed reason =>
    simp only [reduceAccountOperation]
    split
    · constructor <;> grind -linarith [Ordered]
    · exact h
  | fail reason =>
    simp only [reduceAccountOperation]
    split
    · exact h
    · constructor <;> grind -linarith [Ordered]
  | reset =>
    simp only [reduceAccountOperation]
    split
    · constructor <;> simp [initialAccountOperation]
    · exact h

theorem ordered_run (actions : List AccountOperationAction) :
    Ordered (run reduceAccountOperation initialAccountOperation actions) :=
  run_invariant (fun _ action h => h.step action) ordered_initial actions

theorem reduce_of_complete (hcomplete : state.phase = .complete)
    (action : AccountOperationAction) (hstart : ∀ operation, action ≠ .start operation)
    (hreset : action ≠ .reset) : reduceAccountOperation state action = state := by
  cases action with
  | start operation => exact absurd rfl (hstart operation)
  | reset => exact absurd rfl hreset
  | localLocked => simp [reduceAccountOperation, hcomplete]
  | externalStepReturned => simp [reduceAccountOperation, hcomplete]
  | authoritativeProof newAgentActive oldAgentInactive =>
    simp [reduceAccountOperation, hcomplete]
  | acknowledgeUnverifiedLocalUnlink => simp [reduceAccountOperation, hcomplete]
  | nonceScopeTombstoned => simp [reduceAccountOperation, hcomplete]
  | localSecretDeleted => simp [reduceAccountOperation, hcomplete]
  | alertDataDeleted => simp [reduceAccountOperation, hcomplete]
  | alertDataDeletionFailed reason => simp [reduceAccountOperation, hcomplete]
  | fail reason => simp [reduceAccountOperation, hcomplete]

theorem localSecretDeleted_reduce (state : AccountOperationState)
    (action : AccountOperationAction) :
    (reduceAccountOperation state action).localSecretDeleted = false ∨
      (reduceAccountOperation state action).localSecretDeleted = state.localSecretDeleted ∨
      state.nonceScopeTombstoned = true := by
  cases action with
  | start operation =>
    simp only [reduceAccountOperation]
    split
    · exact .inl rfl
    · exact .inr (.inl rfl)
  | reset =>
    simp only [reduceAccountOperation]
    split
    · exact .inl rfl
    · exact .inr (.inl rfl)
  | localSecretDeleted =>
    simp only [reduceAccountOperation]
    split
    · rename_i hphase
      exact .inr (.inr hphase.2)
    · exact .inr (.inl rfl)
  | localLocked | externalStepReturned | authoritativeProof newAgentActive oldAgentInactive
  | acknowledgeUnverifiedLocalUnlink | nonceScopeTombstoned | alertDataDeletionFailed reason
  | fail reason =>
    simp only [reduceAccountOperation]
    split <;> exact .inr (.inl rfl)
  | alertDataDeleted =>
    simp only [reduceAccountOperation]
    split
    · split <;> exact .inr (.inl rfl)
    · exact .inr (.inl rfl)

theorem tombstoned_of_deletes {action : AccountOperationAction}
    (hkept : state.localSecretDeleted = false)
    (hdeleted : (reduceAccountOperation state action).localSecretDeleted = true) :
    state.nonceScopeTombstoned = true := by
  rcases localSecretDeleted_reduce state action with hfalse | hsame | htombstoned
  · rw [hfalse] at hdeleted
    cases hdeleted
  · rw [hsame, hkept] at hdeleted
    cases hdeleted
  · exact htombstoned

/-- A completed operation has done all that its kind asks for, its secret was deleted after
the tombstone was written, and it stays as it is until the next start or reset. -/
theorem completed_operations_finished (actions : List AccountOperationAction) :
    let state := run reduceAccountOperation initialAccountOperation actions
    (state.completed = true ↔ state.phase = .complete) ∧
    (state.completed = true → state.oldAgentInactive = true ∧ state.nonceScopeTombstoned = true ∧
      state.localSecretDeleted = true ∧ state.localCleanupComplete = true ∧
      (state.operation = some .rotate ∨ state.operation = some .repair →
        state.newAgentActive = true) ∧
      (state.operation = some .unlinkVerified ∨ state.operation = some .unlinkLocal →
        state.alertDeletion = .complete) ∧
      ∀ action, (∀ operation, action ≠ .start operation) → action ≠ .reset →
        reduceAccountOperation state action = state) ∧
    (state.localSecretDeleted = true → state.nonceScopeTombstoned = true) ∧
    ∀ action, state.localSecretDeleted = false →
      (reduceAccountOperation state action).localSecretDeleted = true →
        state.nonceScopeTombstoned = true := by
  intro state
  have h : Ordered state := ordered_run actions
  refine ⟨h.completed, ?_, h.secret, fun action => tombstoned_of_deletes⟩
  intro hcompleted
  have hphase := h.completed.mp hcompleted
  obtain ⟨hinactive, hdeleted, hcleanup, halerts⟩ := h.complete hphase
  refine ⟨hinactive, h.secret hdeleted, hdeleted, hcleanup, ?_, ?_, ?_⟩
  · intro hoperation
    have hneeds : needsNewAgent state.operation = true := by
      rcases hoperation with hoperation | hoperation <;> rw [hoperation] <;> rfl
    rcases h.proven (.inr (.inr (.inr hphase))) with hverified | hlocal
    · simp only [verifiedBy, hneeds, Bool.and_eq_true, Bool.not_true, Bool.false_or] at hverified
      exact hverified.2
    · rw [hlocal] at hneeds
      cases hneeds
  · intro hoperation
    apply halerts
    rcases hoperation with hoperation | hoperation <;> rw [hoperation] <;> rfl
  · exact reduce_of_complete hphase

end AccountLifecycle

end HyperTrader
