import HyperTrader.Notifications.Requests

/-!
# The steps of a revocation request

What a request can do when it goes on: `Progress` has a case for each of its steps, with
what the step reads and the failures that it meets, and the step of the machine follows one
of them. A transaction that fails leaves the tables as they were.
-/

namespace HyperTrader

open Library

namespace Notifications

namespace NotificationWorld

/-- A step of a request from one stage to the next, with the ledger and the tables that it
leaves. -/
inductive Progress (primitives : StorePrimitives) (world : NotificationWorld)
    (request : RevocationRequest) (inputs : Inputs) :
    RequestStage → RequestStage → List DeletionTombstoneItem → Tables → Prop
  | started {operationIds : List String} {tables : Tables}
      (h : request.start primitives inputs world.tables = .ok (operationIds, tables)) :
      Progress primitives world request inputs .starting (nextStage [] operationIds)
        world.ledger tables
  | refused {failure : StoreFailure}
      (h : (Transaction.atomically inputs.failure (request.start primitives inputs)
        world.tables).1 = .error failure) :
      Progress primitives world request inputs .starting (.answered (.error failure))
        world.ledger world.tables
  | failed {results : List DrainResponse} {operationId : String} {stage : CommitStage}
      {rest : List String} (failure : StoreFailure) :
      Progress primitives world request inputs (.committing results operationId stage rest)
        (.answered (.error failure)) world.ledger world.tables
  | done {results : List DrainResponse} {operationId : String} {rest : List String}
      {view : OperationView} {sequence : ℕ}
      (hread : readOperation request.kind operationId world.tables = .ok view)
      (hsequence : view.ledgerSequence = some sequence) :
      Progress primitives world request inputs (.committing results operationId .reading rest)
        (nextStage (results ++ [⟨operationId, some sequence⟩]) rest) world.ledger world.tables
  | read {results : List DrainResponse} {operationId : String} {rest : List String}
      {view : OperationView}
      (hread : readOperation request.kind operationId world.tables = .ok view)
      (hsequence : view.ledgerSequence = none) :
      Progress primitives world request inputs (.committing results operationId .reading rest)
        (.committing results operationId (.counting view) rest) world.ledger world.tables
  | pending {results : List DrainResponse} {operationId : String} {rest : List String}
      {view : OperationView}
      (hpending : inFlight world.tables request.kind view.scopeId inputs.now = true) :
      Progress primitives world request inputs
        (.committing results operationId (.counting view) rest)
        (nextStage (results ++ [⟨operationId, none⟩]) rest) world.ledger world.tables
  | counted {results : List DrainResponse} {operationId : String} {rest : List String}
      {view : OperationView}
      (hidle : inFlight world.tables request.kind view.scopeId inputs.now = false) :
      Progress primitives world request inputs
        (.committing results operationId (.counting view) rest)
        (.committing results operationId (.appending view) rest) world.ledger world.tables
  | lost {results : List DrainResponse} {operationId : String} {rest : List String}
      {view : OperationView} (failure : StoreFailure) :
      Progress primitives world request inputs
        (.committing results operationId (.appending view) rest)
        (.answered (.error failure))
        (append primitives world request.kind view inputs.deletedAt).2 world.tables
  | appended {results : List DrainResponse} {operationId : String} {rest : List String}
      {view : OperationView} :
      Progress primitives world request inputs
        (.committing results operationId (.appending view) rest)
        (.committing results operationId
          (.committing view (append primitives world request.kind view inputs.deletedAt).1
            ⟨(append primitives world request.kind view inputs.deletedAt).1.sequence,
              (append primitives world request.kind view inputs.deletedAt).2.length⟩) rest)
        (append primitives world request.kind view inputs.deletedAt).2 world.tables
  | committed {results : List DrainResponse} {operationId : String} {rest : List String}
      {view : OperationView} {item : DeletionTombstoneItem} {receipt : DeletionLedgerReceipt}
      {tables : Tables} (hfault : inputs.fault = none)
      (h : commit request.kind operationId view item receipt inputs world.tables =
        .ok ((), tables)) :
      Progress primitives world request inputs
        (.committing results operationId (.committing view item receipt) rest)
        (nextStage (results ++ [⟨operationId, some receipt.sequence⟩]) rest) world.ledger tables
  | postponed {results : List DrainResponse} {operationId : String} {rest : List String}
      {view : OperationView} {item : DeletionTombstoneItem} {receipt : DeletionLedgerReceipt} :
      Progress primitives world request inputs
        (.committing results operationId (.committing view item receipt) rest)
        (nextStage (results ++ [⟨operationId, none⟩]) rest) world.ledger world.tables
  | answered {result : Except StoreFailure (List DrainResponse)} :
      Progress primitives world request inputs (.answered result) (.answered result)
        world.ledger world.tables

variable {primitives : StorePrimitives} {world : NotificationWorld} {inputs : Inputs}

theorem progress_proceedCommit {request : RevocationRequest} {results : List DrainResponse}
    {operationId : String} {rest : List String} {commitStage : CommitStage}
    {stage : RequestStage} {world' : NotificationWorld}
    (h : proceedCommit primitives world request.kind inputs results operationId rest
      commitStage = (stage, world')) :
    ∃ ledger tables, Progress primitives world request inputs
        (.committing results operationId commitStage rest) stage ledger tables ∧
      world' = { world with ledger := ledger, tables := tables } := by
  cases commitStage with
  | reading =>
    simp only [proceedCommit] at h
    split at h
    · rename_i failure _
      cases h
      exact ⟨_, _, .failed failure, rfl⟩
    · rename_i failure _ _
      cases h
      exact ⟨_, _, .failed failure, rfl⟩
    · rename_i view _ hread
      split at h
      · rename_i sequence hsequence
        cases h
        exact ⟨_, _, .done hread hsequence, rfl⟩
      · rename_i hsequence
        cases h
        exact ⟨_, _, .read hread hsequence, rfl⟩
  | counting view =>
    simp only [proceedCommit] at h
    split at h
    · rename_i failure _
      cases h
      exact ⟨_, _, .failed failure, rfl⟩
    · split at h
      · rename_i hpending
        cases h
        exact ⟨_, _, .pending hpending, rfl⟩
      · rename_i hidle
        cases h
        exact ⟨_, _, .counted (by simpa using hidle), rfl⟩
  | appending view =>
    simp only [proceedCommit] at h
    split at h
    · rename_i failure _
      cases h
      exact ⟨_, _, .failed failure, rfl⟩
    · split at h
      · rename_i failure _
        split at h
        · cases h
          exact ⟨_, _, .lost failure, rfl⟩
        · cases h
          exact ⟨_, _, .failed failure, rfl⟩
      · cases h
        exact ⟨_, _, .appended, rfl⟩
  | committing view item receipt =>
    simp only [proceedCommit] at h
    split at h
    · rename_i tables hresult
      obtain ⟨hfailure, hcommit⟩ := Transaction.atomically_eq_ok.mp hresult
      cases h
      exact ⟨_, _, .committed (Option.map_eq_none_iff.mp hfailure) hcommit, rfl⟩
    · rename_i tables hresult
      cases h
      rw [Transaction.atomically_error hresult]
      exact ⟨_, _, .postponed, rfl⟩
    · rename_i failure tables _ hresult
      cases h
      rw [Transaction.atomically_error hresult]
      exact ⟨_, _, .failed failure, rfl⟩

theorem proceed_cases (primitives : StorePrimitives) (inputs : Inputs) {i : ℕ}
    {process : RequestProcess} (hprocess : world.requests[i]? = some process) :
    ∃ stage ledger tables,
      Progress primitives world process.request inputs process.stage stage ledger tables ∧
      world.proceed primitives i process inputs = { world with
        ledger := ledger
        tables := tables
        requests := world.requests.set i ⟨process.request, stage⟩ } := by
  obtain ⟨request, stage⟩ := process
  cases stage with
  | starting =>
    simp only [proceed]
    split
    · rename_i operationIds tables hresult
      exact ⟨_, _, _, .started (Transaction.atomically_eq_ok.mp hresult).2, rfl⟩
    · rename_i failure tables hresult
      have hsame := Transaction.atomically_error hresult
      subst hsame
      exact ⟨_, _, _, .refused (congrArg Prod.fst hresult), rfl⟩
  | committing results operationId commitStage rest =>
    cases hcommit : proceedCommit primitives world request.kind inputs results operationId rest
      commitStage with
    | mk stage world' =>
      obtain ⟨ledger, tables, hprogress, rfl⟩ := progress_proceedCommit hcommit
      refine ⟨stage, ledger, tables, hprogress, ?_⟩
      simp only [proceed, hcommit]
      rfl
  | answered result =>
    refine ⟨_, _, _, .answered, ?_⟩
    obtain ⟨hi, hget⟩ := List.getElem?_eq_some_iff.mp hprocess
    have hset : world.requests.set i ⟨request, .answered result⟩ = world.requests := by
      rw [← hget, List.set_getElem_self]
    simp only [proceed, hset]

theorem transact_cases {α : Type} {statement : Statement α} :
    world.transact inputs statement = world ∨
      ∃ a tables, statement world.tables = .ok (a, tables) ∧
        world.transact inputs statement = { world with tables := tables } := by
  unfold transact
  rcases Transaction.atomically_cases inputs.failure statement world.tables with
    hsame | ⟨a, tables, hok, hresult⟩
  · rw [hsame]
    exact .inl rfl
  · rw [hresult]
    exact .inr ⟨a, tables, hok, rfl⟩

end NotificationWorld

end Notifications

end HyperTrader
