import HyperTrader.Custody.Activation
import HyperTrader.Library.Triple

/-!
# The generations of a setup target

The repository is a machine whose events are its calls, with any arguments and at any
time. A stored attempt is only ever consumed or cancelled, its key is never free again,
and an activation moves the active binding of the target aside in the transaction that
enters the new one. The numbers of the generations come from `nextGeneration`; when
every created attempt carries one of those, the generations of a target increase.
-/

namespace HyperTrader

open Library

inductive SetupOperation where
  | nextGeneration (input : SetupTarget)
  | createAttempt (fault : Option Failure) (attempt : SetupAttempt)
  | consumeAndActivate (fault : Option Failure) (attemptId : String)
      (expected : SetupAttempt) (effectiveExpiry now : ℤ)
  | cancelAttempt (fault : Option Failure) (id reason : String)

structure SetupRepository where
  tables : SetupTables
  supplied : List (SetupTarget × ℤ)

namespace SetupRepository

def opened : SetupRepository := ⟨⟨[], []⟩, []⟩

def supply (viem : Viem) (tables : SetupTables) (input : SetupTarget) :
    Outcome (SetupTarget × ℤ) := do
  let target ← normalizeSetupTarget viem input
  let generation ← tables.nextGeneration viem input
  pure (target, generation)

def step (viem : Viem) (repository : SetupRepository) :
    SetupOperation → SetupRepository
  | .nextGeneration input =>
    match supply viem repository.tables input with
    | .ok generation =>
      { repository with supplied := repository.supplied ++ [generation] }
    | .error _ => repository
  | .createAttempt fault attempt =>
    { repository with tables :=
        (Transaction.atomically fault (createAttempt viem attempt)
          repository.tables).2 }
  | .consumeAndActivate fault attemptId expected effectiveExpiry now =>
    { repository with tables :=
        (consumeAndActivate viem fault attemptId expected effectiveExpiry now
          repository.tables).2 }
  | .cancelAttempt fault id reason =>
    { repository with tables := (cancelAttempt fault id reason repository.tables).2 }

def Supplied (viem : Viem) (repository : SetupRepository) : SetupOperation → Prop
  | .createAttempt _ attempt =>
    ((normalizeSetupTarget viem attempt.binding.setupTarget).toOption.all fun target =>
      (target, attempt.registrationGeneration) ∈ repository.supplied) = true
  | .nextGeneration _ | .consumeAndActivate .. | .cancelAttempt .. => True

instance decidableSupplied (viem : Viem) (repository : SetupRepository) :
    ∀ operation, Decidable (repository.Supplied viem operation)
  | .createAttempt _ _ => inferInstanceAs (Decidable (_ = true))
  | .nextGeneration _ | .consumeAndActivate .. | .cancelAttempt .. =>
    inferInstanceAs (Decidable True)

end SetupRepository

namespace SetupTables

/-! ### What a call does to the tables -/

def activated (tables : SetupTables) (id : String) (effectiveExpiry now : ℤ)
    (entered : ApiWalletBindingRow) : SetupTables where
  attempts := (tables.updateAttempts (fun row => row.consumable id now) fun row =>
    { row with
      status := .consumed
      effectiveExpiry := some effectiveExpiry
      consumedAt := some now }).attempts
  bindings := (tables.bindings.map fun row =>
    if row.binding.setupTarget = entered.binding.setupTarget ∧ row.status = .active then
      { row with status := .retiring, updatedAt := now } else row) ++ [entered]

inductive Written (viem : Viem) (before : SetupTables) : SetupTables → Prop
  | nothing : Written viem before before
  | created {row : SetupAttemptRow} (normal : row.attempt.binding.Normal viem)
      (pending : row.status = .pending)
      (free : ∀ other ∈ before.attempts, ¬ other.clash row) :
      Written viem before { before with attempts := before.attempts ++ [row] }
  | cancelled (id reason : String) :
      Written viem before (before.updateAttempts
        (fun row => row.attempt.id == id && row.status == .pending) fun row =>
          { row with status := .cancelled, failureReason := some reason })
  | activated {stored : SetupAttemptRow} {effectiveExpiry now : ℤ}
      {entered : ApiWalletBindingRow} (mem : stored ∈ before.attempts)
      (consumable : stored.consumable stored.attempt.id now = true)
      (active : entered.status = .active)
      (binding : entered.binding = stored.attempt.binding)
      (free : ∀ other ∈ before.bindings, ¬ other.binding.clash entered.binding) :
      Written viem before
        (before.activated stored.attempt.id effectiveExpiry now entered)

/-- The rows of the attempts are normal and share no key. A pending row is the last of
its target, and every binding is that of a consumed attempt. -/
structure Kept (viem : Viem) (tables : SetupTables) : Prop where
  normal : ∀ row ∈ tables.attempts, row.attempt.binding.Normal viem
  attempts : tables.attempts.Pairwise fun a b => ¬ a.clash b
  bindings : tables.bindings.Pairwise fun a b => ¬ a.clash b
  origin : ∀ entered ∈ tables.bindings, ∃ row ∈ tables.attempts,
    row.status = .consumed ∧ row.attempt.binding = entered.binding
  last : tables.attempts.Pairwise fun a b =>
    a.attempt.binding.setupTarget = b.attempt.binding.setupTarget → a.status ≠ .pending

theorem createAttempt_cases {viem : Viem} (fault : Option Failure)
    (attempt : SetupAttempt) (tables : SetupTables) :
    let after := (Transaction.atomically fault (createAttempt viem attempt) tables).2
    after = tables ∨ ∃ row : SetupAttemptRow,
      normalizeSignerBinding viem attempt.binding = .ok row.attempt.binding ∧
      assertSignerAccessCapability row.attempt.network = .ok () ∧
      row.status = .pending ∧ (∀ other ∈ tables.attempts, ¬ other.clash row) ∧
      after = { tables with attempts := tables.attempts ++ [row] } := by
  intro after
  rcases Transaction.atomically_cases fault (createAttempt viem attempt) tables with
    hnone | ⟨_, after', hrun, hsome⟩
  · exact .inl hnone
  · have hafter : after = after' := congrArg Prod.snd hsome
    rw [hafter]
    simp only [createAttempt, Transaction.bind_eq_ok, Transaction.check_eq_ok,
      Transaction.write_eq_ok] at hrun
    obtain ⟨_, _, ⟨-, rfl⟩, binding, _, ⟨hbinding, rfl⟩, _, _, ⟨hcapable, rfl⟩, hwrite⟩ := hrun
    unfold insertAttempt at hwrite
    split at hwrite
    · rename_i hfree
      obtain rfl := Except.ok.inj hwrite
      refine .inr ⟨_, ?_, ?_, ?_, hfree, rfl⟩
      · exact hbinding
      · exact hcapable
      · rfl
    · cases hwrite

theorem written_createAttempt {viem : Viem} (hviem : viem.Documented)
    (fault : Option Failure) (attempt : SetupAttempt) (tables : SetupTables) :
    Written viem tables (Transaction.atomically fault (createAttempt viem attempt) tables).2 := by
  rcases createAttempt_cases fault attempt tables with
    hsame | ⟨row, hbinding, -, hpending, hfree, hafter⟩
  · rw [hsame]
    exact .nothing
  · rw [hafter]
    exact .created (normalizeSignerBinding_normal hviem hbinding) hpending hfree

theorem written_cancelAttempt {viem : Viem} (fault : Option Failure) (id reason : String)
    (tables : SetupTables) : Written viem tables (cancelAttempt fault id reason tables).2 := by
  unfold cancelAttempt
  rcases Transaction.atomically_cases fault _ tables with hnone | ⟨_, after, hrun, hsome⟩
  · rw [hnone]
    exact .nothing
  · rw [hsome]
    rw [Transaction.write_eq_ok] at hrun
    obtain rfl := Except.ok.inj hrun
    exact .cancelled id _

theorem activateStatement_ok {viem : Viem} {attemptId : String} {expected : SetupAttempt}
    {binding : SignerBinding} {effectiveExpiry now : ℤ} {tables after : SetupTables}
    {activated : Bool} (hnormal : ∀ row ∈ tables.attempts, row.attempt.binding.Normal viem)
    (hbinding : binding.Normal viem)
    (h : activateStatement viem attemptId expected binding effectiveExpiry now tables =
      .ok (activated, after)) :
    (activated = false ∧ after = tables) ∨
      (activated = true ∧ ∃ stored ∈ tables.attempts, ∃ entered : ApiWalletBindingRow,
        stored.attempt.id = attemptId ∧ stored.consumable attemptId now = true ∧
        entered.status = .active ∧ entered.binding = stored.attempt.binding ∧
        (∀ other ∈ tables.bindings, ¬ other.binding.clash entered.binding) ∧
        after = tables.activated attemptId effectiveExpiry now entered) := by
  simp only [activateStatement, Transaction.bind_eq_ok, Transaction.read_eq_ok,
    Transaction.check_eq_ok] at h
  obtain ⟨_, _, ⟨rfl, rfl⟩, found, _, ⟨hfound, rfl⟩, h⟩ := h
  cases found with
  | none =>
    rw [Transaction.pure_eq_ok] at h
    exact .inl ⟨h.1.symm, h.2.symm⟩
  | some found =>
    simp only [Transaction.bind_eq_ok, Transaction.check_eq_ok] at h
    obtain ⟨storedBinding, _, ⟨hstored, rfl⟩, _, _, ⟨hassert, rfl⟩, h⟩ := h
    split at h
    · rw [Transaction.pure_eq_ok] at h
      exact .inl ⟨h.1.symm, h.2.symm⟩
    · rename_i hexpected
      split at h
      · rw [Transaction.pure_eq_ok] at h
        exact .inl ⟨h.1.symm, h.2.symm⟩
      · simp only [Transaction.bind_eq_ok, Transaction.write_eq_ok, Transaction.pure_eq_ok] at h
        obtain ⟨_, _, hconsume, _, _, hretire, _, _, hinsert, rfl, rfl⟩ := h
        obtain ⟨stored, hmem, hpending, rfl, hid⟩ := getPendingAttempt_some hnormal hfound
        have hsame : binding = stored.attempt.binding := by
          obtain ⟨normal, hleft, hright⟩ := assertSignerBinding_eq_ok.mp hassert
          have hstoredNormal := hnormal stored hmem
          rw [SignerBinding.Normal] at hbinding hstoredNormal
          rw [hbinding] at hleft
          rw [bindingFromAttempt, hstoredNormal] at hstored
          obtain rfl := Except.ok.inj hstored
          rw [hstoredNormal] at hright
          exact (Except.ok.inj hleft).trans (Except.ok.inj hright).symm
        have hlive : now < stored.attempt.expiresAt := by
          by_contra hexpired
          simp [sameAttempt, hexpired] at hexpected
        obtain rfl := Except.ok.inj hconsume
        obtain rfl := Except.ok.inj hretire
        unfold insertBinding at hinsert
        split at hinsert
        · rename_i hfree
          obtain rfl := Except.ok.inj hinsert
          refine .inr ⟨rfl, stored, hmem,
            { binding := binding
              registrationName := expected.registrationName
              requestedExpiry := expected.requestedExpiry
              effectiveExpiry := effectiveExpiry
              status := .active
              activatedAt := now
              updatedAt := now }, hid, ?_, rfl, hsame, ?_, rfl⟩
          · simp [SetupAttemptRow.consumable, hid, hpending, hlive]
          · intro other hother hclash
            refine hfree _ (List.mem_map_of_mem hother) (.inl ?_)
            split
            · exact hclash
            · exact hclash
        · cases hinsert

/-- A call of `consumeAndActivate` changes nothing, or returns `true` and activates a
pending attempt before its expiry. -/
theorem consumeAndActivate_cases {viem : Viem} (hviem : viem.Documented) {tables : SetupTables}
    (hnormal : ∀ row ∈ tables.attempts, row.attempt.binding.Normal viem)
    (fault : Option Failure) (attemptId : String) (expected : SetupAttempt)
    (effectiveExpiry now : ℤ) :
    let outcome :=
      consumeAndActivate viem fault attemptId expected effectiveExpiry now tables
    (outcome.1 ≠ .ok true ∧ outcome.2 = tables) ∨
      (outcome.1 = .ok true ∧ ∃ stored ∈ tables.attempts, ∃ entered : ApiWalletBindingRow,
          stored.attempt.id = attemptId ∧ stored.consumable attemptId now = true ∧
          entered.status = .active ∧ entered.binding = stored.attempt.binding ∧
          (∀ other ∈ tables.bindings, ¬ other.binding.clash entered.binding) ∧
          outcome.2 = tables.activated attemptId effectiveExpiry now entered) := by
  have hmeets : Action.Meets (fun before => before = tables)
      (consumeAndActivate viem fault attemptId expected effectiveExpiry now)
      (fun activated after => (activated = false ∧ after = tables) ∨ (activated = true ∧
          ∃ stored ∈ tables.attempts, ∃ entered : ApiWalletBindingRow,
            stored.attempt.id = attemptId ∧ stored.consumable attemptId now = true ∧
            entered.status = .active ∧ entered.binding = stored.attempt.binding ∧
            (∀ other ∈ tables.bindings, ¬ other.binding.clash entered.binding) ∧
            after = tables.activated attemptId effectiveExpiry now entered))
      (fun after => after = tables) := by
    unfold consumeAndActivate
    have hsame : ∀ before : SetupTables, before = tables → before = tables :=
      fun _ h => h
    apply Action.Meets.check_bind hsame
    intro _ _
    apply Action.Meets.check_bind hsame
    intro binding hbinding
    apply Action.Meets.check_bind hsame
    intro _ _
    apply Action.Meets.check_bind hsame
    intro _ _
    apply Action.Meets.atomically hsame
    rintro _ activated after rfl hcommit
    exact activateStatement_ok hnormal (normalizeSignerBinding_normal hviem hbinding)
      hcommit
  intro outcome
  cases hresult : outcome.1 with
  | error failure =>
    refine .inl ⟨?_, hmeets.throws tables failure _ rfl (Prod.ext hresult rfl)⟩
    intro h
    cases h
  | ok activated =>
    rcases hmeets.returns tables activated _ rfl (Prod.ext hresult rfl) with
      ⟨rfl, hsame⟩ | ⟨rfl, hactivated⟩
    · refine .inl ⟨?_, hsame⟩
      intro h
      cases h
    · exact .inr ⟨rfl, hactivated⟩

theorem written_consumeAndActivate {viem : Viem} (hviem : viem.Documented) {tables : SetupTables}
    (hnormal : ∀ row ∈ tables.attempts, row.attempt.binding.Normal viem)
    (fault : Option Failure) (attemptId : String) (expected : SetupAttempt)
    (effectiveExpiry now : ℤ) :
    Written viem tables
      (consumeAndActivate viem fault attemptId expected effectiveExpiry now tables).2 := by
  rcases consumeAndActivate_cases hviem hnormal fault attemptId expected effectiveExpiry
      now with ⟨-, hsame⟩ | ⟨-, stored, hmem, entered, rfl, hconsumable, hactive,
        hbinding, hfree, hafter⟩
  · rw [hsame]
    exact .nothing
  · rw [hafter]
    exact .activated hmem hconsumable hactive hbinding hfree

/-! ### What every call keeps -/

structure Settles (set : SetupAttemptRow → SetupAttemptRow) : Prop where
  attempt : ∀ row, (set row).attempt = row.attempt
  settled : ∀ row : SetupAttemptRow, row.status ≠ .pending → set row = row

variable {set : SetupAttemptRow → SetupAttemptRow}

theorem Settles.pending (h : Settles set)
    {row : SetupAttemptRow} (hpending : (set row).status = .pending) : row.status = .pending := by
  by_contra hsettled
  rw [h.settled row hsettled] at hpending
  exact hsettled hpending

theorem settles_ite {wher : SetupAttemptRow → Bool}
    (hwher : ∀ row, wher row = true → row.status = .pending)
    (hset : ∀ row, (set row).attempt = row.attempt) :
    Settles fun row => if wher row then set row else row where
  attempt row := by
    split
    · exact hset row
    · rfl
  settled row hsettled := by
    have hfalse : ¬ wher row = true := fun h => hsettled (hwher row h)
    simp [hfalse]

theorem SetupAttemptRow.clash_of_settles
    (h : Settles set) {a b : SetupAttemptRow} (hclash : (set a).clash (set b)) : a.clash b := by
  unfold SetupAttemptRow.clash at hclash ⊢
  rw [h.attempt, h.attempt] at hclash
  rcases hclash with hid | hbinding | ⟨ha, hb, htarget⟩
  · exact .inl hid
  · exact .inr (.inl hbinding)
  · exact .inr (.inr ⟨h.pending ha, h.pending hb, htarget⟩)

section Kept

variable {viem : Viem} {tables : SetupTables}

theorem kept_empty (viem : Viem) : Kept viem ⟨[], []⟩ where
  normal _ hrow := absurd hrow List.not_mem_nil
  attempts := .nil
  bindings := .nil
  origin _ hrow := absurd hrow List.not_mem_nil
  last := .nil

theorem Kept.created (h : tables.Kept viem) {row : SetupAttemptRow}
    (hnormal : row.attempt.binding.Normal viem) (hpending : row.status = .pending)
    (hfree : ∀ other ∈ tables.attempts, ¬ other.clash row) :
    Kept viem { tables with attempts := tables.attempts ++ [row] } where
  normal other hother := by
    rcases List.mem_append.mp hother with hold | hnew
    · exact h.normal other hold
    · rw [List.mem_singleton.mp hnew]
      exact hnormal
  attempts := by
    refine List.pairwise_append.mpr ⟨h.attempts, List.pairwise_singleton _ _, ?_⟩
    intro old hold new hnew
    rw [List.mem_singleton.mp hnew]
    exact hfree old hold
  bindings := h.bindings
  origin entered hentered := by
    obtain ⟨old, hold, hfacts⟩ := h.origin entered hentered
    exact ⟨old, List.mem_append_left _ hold, hfacts⟩
  last := by
    refine List.pairwise_append.mpr ⟨h.last, List.pairwise_singleton _ _, ?_⟩
    intro old hold new hnew htarget holdPending
    rw [List.mem_singleton.mp hnew] at htarget
    exact hfree old hold (.inr (.inr ⟨holdPending, hpending, htarget⟩))

theorem Kept.settled (h : tables.Kept viem) {set : SetupAttemptRow → SetupAttemptRow}
    (hset : Settles set) :
    Kept viem { tables with attempts := tables.attempts.map set } where
  normal other hother := by
    obtain ⟨row, hrow, rfl⟩ := List.mem_map.mp hother
    rw [hset.attempt]
    exact h.normal row hrow
  attempts := by
    refine List.pairwise_map.mpr (h.attempts.imp ?_)
    intro a b hclash hset'
    exact hclash (SetupAttemptRow.clash_of_settles hset hset')
  bindings := h.bindings
  origin entered hentered := by
    obtain ⟨row, hrow, hconsumed, hbinding⟩ := h.origin entered hentered
    have hsettled : set row = row := by
      apply hset.settled
      rw [hconsumed]
      decide
    refine ⟨row, ?_, hconsumed, hbinding⟩
    rw [← hsettled]
    exact List.mem_map_of_mem hrow
  last := by
    refine List.pairwise_map.mpr (h.last.imp ?_)
    intro a b hlast htarget hpending
    rw [hset.attempt, hset.attempt] at htarget
    exact hlast htarget (hset.pending hpending)

def consume (id : String) (effectiveExpiry now : ℤ) (row : SetupAttemptRow) : SetupAttemptRow :=
  if row.consumable id now then
    { row with
      status := .consumed
      effectiveExpiry := some effectiveExpiry
      consumedAt := some now }
  else row

def retire (target : SetupTarget) (now : ℤ) (row : ApiWalletBindingRow) : ApiWalletBindingRow :=
  if row.binding.setupTarget = target ∧ row.status = .active then
    { row with status := .retiring, updatedAt := now }
  else row

theorem activated_eq (id : String) (effectiveExpiry now : ℤ) (entered : ApiWalletBindingRow) :
    tables.activated id effectiveExpiry now entered =
      { attempts := tables.attempts.map (consume id effectiveExpiry now)
        bindings := tables.bindings.map (retire entered.binding.setupTarget now) ++
          [entered] } := rfl

theorem settles_consume (id : String) (effectiveExpiry now : ℤ) :
    Settles (consume id effectiveExpiry now) := by
  apply settles_ite
  · intro row hrow
    simp only [SetupAttemptRow.consumable, Bool.and_eq_true, beq_iff_eq] at hrow
    exact hrow.1.2
  · intro row
    rfl

theorem retire_binding (target : SetupTarget) (now : ℤ) (row : ApiWalletBindingRow) :
    (retire target now row).binding = row.binding := by
  unfold retire
  split
  · rfl
  · rfl

variable {now : ℤ}

theorem retire_active {target : SetupTarget} {row : ApiWalletBindingRow}
    (h : (retire target now row).status = .active) :
    row.status = .active ∧ row.binding.setupTarget ≠ target := by
  unfold retire at h
  split at h
  · cases h
  · rename_i hother
    exact ⟨h, fun htarget => hother ⟨htarget, h⟩⟩

theorem Kept.activated (h : tables.Kept viem) {stored : SetupAttemptRow}
    {effectiveExpiry : ℤ} {entered : ApiWalletBindingRow} (hmem : stored ∈ tables.attempts)
    (hconsumable : stored.consumable stored.attempt.id now = true)
    (hbinding : entered.binding = stored.attempt.binding)
    (hfree : ∀ other ∈ tables.bindings, ¬ other.binding.clash entered.binding) :
    Kept viem (tables.activated stored.attempt.id effectiveExpiry now entered) := by
  have hsettled := h.settled
    (settles_consume stored.attempt.id effectiveExpiry now)
  rw [activated_eq]
  refine ⟨hsettled.normal, hsettled.attempts, ?_, ?_, hsettled.last⟩
  · refine List.pairwise_append.mpr ⟨List.pairwise_map.mpr (h.bindings.imp ?_),
      List.pairwise_singleton _ _, ?_⟩
    · intro a b hclash hretired
      unfold ApiWalletBindingRow.clash at hclash hretired
      rw [retire_binding, retire_binding] at hretired
      rcases hretired with hkey | ⟨ha, hb, htarget⟩
      · exact hclash (.inl hkey)
      · exact hclash (.inr ⟨(retire_active ha).1, (retire_active hb).1, htarget⟩)
    · intro old hold new hnew hclash
      rw [List.mem_singleton.mp hnew] at hclash
      obtain ⟨before, hbefore, rfl⟩ := List.mem_map.mp hold
      unfold ApiWalletBindingRow.clash at hclash
      rw [retire_binding] at hclash
      rcases hclash with hkey | ⟨hold, -, htarget⟩
      · exact hfree before hbefore hkey
      · exact (retire_active hold).2 htarget
  · intro row hrow
    rcases List.mem_append.mp hrow with hold | hnew
    · obtain ⟨before, hbefore, rfl⟩ := List.mem_map.mp hold
      rw [retire_binding]
      exact hsettled.origin before hbefore
    · rw [List.mem_singleton.mp hnew]
      refine ⟨_, List.mem_map_of_mem hmem, ?_, ?_⟩
      · simp [consume, hconsumable]
      · rw [(settles_consume _ _ _).attempt, hbinding]

theorem Kept.written (h : tables.Kept viem) {after : SetupTables}
    (hwritten : Written viem tables after) : after.Kept viem := by
  cases hwritten with
  | nothing => exact h
  | created normal pending free => exact h.created normal pending free
  | cancelled id reason =>
    apply h.settled
    apply settles_ite
    · intro row hrow
      simp only [Bool.and_eq_true, beq_iff_eq] at hrow
      exact hrow.2
    · intro row
      rfl
  | activated mem consumable active binding free =>
    exact h.activated mem consumable binding free

theorem Written.settled {after : SetupTables} (hwritten : Written viem tables after)
    {row : SetupAttemptRow} (hrow : row ∈ tables.attempts)
    (hsettled : row.status ≠ .pending) : row ∈ after.attempts := by
  have hmap : ∀ {set : SetupAttemptRow → SetupAttemptRow}, Settles set →
      row ∈ tables.attempts.map set := by
    intro set hset
    exact List.mem_map.mpr ⟨row, hrow, hset.settled row hsettled⟩
  cases hwritten with
  | nothing => exact hrow
  | created normal pending free => exact List.mem_append_left _ hrow
  | cancelled id reason =>
    apply hmap
    apply settles_ite
    · intro other hother
      simp only [Bool.and_eq_true, beq_iff_eq] at hother
      exact hother.2
    · intro other
      rfl
  | activated mem consumable active binding free =>
    exact hmap (settles_consume _ _ _)

theorem Kept.eq_of_id (h : tables.Kept viem) {a b : SetupAttemptRow}
    (ha : a ∈ tables.attempts) (hb : b ∈ tables.attempts)
    (hid : a.attempt.id = b.attempt.id) : a = b := by
  have hids : (tables.attempts.map fun row => row.attempt.id).Nodup := by
    refine List.pairwise_map.mpr (h.attempts.imp ?_)
    intro x y hclash hxy
    exact hclash (.inl hxy)
  exact List.inj_on_of_nodup_map hids ha hb hid

end Kept

/-! ### Generations that were handed out -/

def Used (tables : SetupTables) (target : SetupTarget) (generation : ℤ) : Prop :=
  ∃ row ∈ tables.attempts, row.attempt.binding.setupTarget = target ∧
    row.attempt.registrationGeneration = generation

/-- The generations of a target increase in the order of its attempts, and in the order
of its bindings. -/
structure Increasing (tables : SetupTables) : Prop where
  attempts : tables.attempts.Pairwise fun a b =>
    a.attempt.binding.setupTarget = b.attempt.binding.setupTarget →
      a.attempt.registrationGeneration < b.attempt.registrationGeneration
  bindings : tables.bindings.Pairwise fun a b =>
    a.binding.setupTarget = b.binding.setupTarget →
      a.binding.generation < b.binding.generation

theorem foldl_max_mem (generations : List ℤ) (least : ℤ) :
    generations.foldl max least = least ∨ generations.foldl max least ∈ generations := by
  induction generations generalizing least with
  | nil => exact .inl rfl
  | cons generation rest ih =>
    rcases ih (max least generation) with hmax | hmem
    · rw [List.foldl_cons, hmax]
      rcases Int.le_total generation least with hle | hle
      · exact .inl (Int.max_eq_left hle)
      · rw [Int.max_eq_right hle]
        exact .inr List.mem_cons_self
    · exact .inr (List.mem_cons_of_mem _ hmem)

end SetupTables

namespace SetupRepository

open SetupTables

/-- With supplied generations, those below one that was used or handed out are used,
so a new one is above all others. -/
structure Orderly (repository : SetupRepository) : Prop where
  increasing : repository.tables.Increasing
  used : ∀ row ∈ repository.tables.attempts, ∀ generation, 1 ≤ generation →
    generation < row.attempt.registrationGeneration →
      repository.tables.Used row.attempt.binding.setupTarget generation
  supplied : ∀ target limit, (target, limit) ∈ repository.supplied →
    ∀ generation, 1 ≤ generation → generation < limit →
      repository.tables.Used target generation

theorem orderly_opened : opened.Orderly where
  increasing := ⟨.nil, .nil⟩
  used _ hrow := absurd hrow List.not_mem_nil
  supplied _ _ hsupplied := absurd hsupplied List.not_mem_nil

variable {viem : Viem} {repository : SetupRepository}

theorem Orderly.supply (h : repository.Orderly) (hkept : repository.tables.Kept viem)
    {input target : SetupTarget} {limit : ℤ}
    (hsupply : supply viem repository.tables input = .ok (target, limit)) :
    Orderly { repository with supplied := repository.supplied ++ [(target, limit)] } where
  increasing := h.increasing
  used := h.used
  supplied other bound hgiven generation hleast hlt := by
    rcases List.mem_append.mp hgiven with hold | hnew
    · exact h.supplied other bound hold generation hleast hlt
    · cases List.mem_singleton.mp hnew
      simp only [SetupRepository.supply, SetupTables.nextGeneration, except_bind_eq_ok,
        require_eq_ok] at hsupply
      obtain ⟨target', htarget, next, ⟨target'', htarget'', _, -, hnext⟩, hpair⟩ := hsupply
      cases hpair
      obtain rfl : target = target'' := by
        rw [htarget] at htarget''
        exact Except.ok.inj htarget''
      obtain rfl := Except.ok.inj hnext
      rcases foldl_max_mem (((repository.tables.bindings.map ApiWalletBindingRow.binding ++
          repository.tables.attempts.map fun row => row.attempt.binding).filter
            fun binding => binding.setupTarget == target).map
              SignerBinding.generation) 0 with hzero | hmax
      · rw [hzero] at hlt
        omega
      · obtain ⟨binding, hbinding, hgeneration⟩ := List.mem_map.mp hmax
        rw [← hgeneration] at hlt
        simp only [List.mem_filter, List.mem_append, List.mem_map, beq_iff_eq] at hbinding
        obtain ⟨hmem, rfl⟩ := hbinding
        have hrow : ∃ row ∈ repository.tables.attempts, row.attempt.binding = binding := by
          rcases hmem with ⟨entered, hentered, rfl⟩ | hattempt
          · obtain ⟨row, hrow, -, hbinding⟩ := hkept.origin entered hentered
            exact ⟨row, hrow, hbinding⟩
          · exact hattempt
        obtain ⟨row, hrow, rfl⟩ := hrow
        by_cases hsame : generation = row.attempt.registrationGeneration
        · exact ⟨row, hrow, rfl, hsame.symm⟩
        · apply h.used row hrow generation hleast
          change generation < row.attempt.registrationGeneration + 1 at hlt
          omega

theorem normalizeSetupTarget_eq_ok {binding normal : SignerBinding}
    (h : normalizeSignerBinding viem binding = .ok normal)
    (hcapable : assertSignerAccessCapability normal.network = .ok ()) :
    normalizeSetupTarget viem binding.setupTarget = .ok normal.setupTarget := by
  obtain ⟨-, hnetwork, -, hmaster, htarget, -⟩ := normalizeSignerBinding_eq_ok.mp h
  have haddress : ∀ address result, normalizeAddress viem address = .ok result →
      normalizeSetupAddress viem address = .ok result := by
    intro address result haddress
    obtain ⟨checksummed, hchecksummed, rfl⟩ := normalizeAddress_eq_ok.mp haddress
    simp [normalizeSetupAddress, hchecksummed]
  rw [hnetwork] at hcapable
  simp only [normalizeSetupTarget, SignerBinding.setupTarget, hcapable,
    haddress _ _ hmaster, haddress _ _ htarget, hnetwork]
  rfl

variable {row : SetupAttemptRow}

theorem Orderly.created (h : repository.Orderly) (hleast : 1 ≤ row.attempt.registrationGeneration)
    (hfree : ∀ other ∈ repository.tables.attempts, ¬ other.clash row)
    (hsupplied : (row.attempt.binding.setupTarget, row.attempt.registrationGeneration) ∈
      repository.supplied) :
    Orderly { repository with tables :=
      { repository.tables with attempts := repository.tables.attempts ++ [row] } } := by
  have hgrown : ∀ target generation, repository.tables.Used target generation →
      SetupTables.Used { repository.tables with
        attempts := repository.tables.attempts ++ [row] } target generation := by
    rintro target generation ⟨old, hold, hfacts⟩
    exact ⟨old, List.mem_append_left _ hold, hfacts⟩
  have hunused : ¬ repository.tables.Used row.attempt.binding.setupTarget
      row.attempt.registrationGeneration := by
    rintro ⟨old, hold, htarget, hgeneration⟩
    exact hfree old hold (.inr (.inl (.inr ⟨htarget, hgeneration⟩)))
  refine ⟨⟨?_, h.increasing.bindings⟩, ?_, ?_⟩
  · refine List.pairwise_append.mpr
      ⟨h.increasing.attempts, List.pairwise_singleton _ _, ?_⟩
    intro old hold new hnew htarget
    rw [List.mem_singleton.mp hnew] at htarget ⊢
    by_contra hle
    rcases Int.le_iff_eq_or_lt.mp (Int.not_lt.mp hle) with hsame | hlt
    · exact hunused ⟨old, hold, htarget, hsame.symm⟩
    · apply hunused
      rw [← htarget]
      exact h.used old hold _ hleast hlt
  · intro other hother generation hone hlt
    apply hgrown
    rcases List.mem_append.mp hother with hold | hnew
    · exact h.used other hold generation hone hlt
    · rw [List.mem_singleton.mp hnew] at hlt ⊢
      exact h.supplied _ _ hsupplied generation hone hlt
  · intro target limit hmem generation hone hlt
    exact hgrown target generation (h.supplied target limit hmem generation hone hlt)

theorem Orderly.settled (h : repository.Orderly)
    {set : SetupAttemptRow → SetupAttemptRow} (hset : Settles set)
    {bindings : List ApiWalletBindingRow} (hbindings : bindings.Pairwise fun a b =>
      a.binding.setupTarget = b.binding.setupTarget → a.binding.generation < b.binding.generation) :
    Orderly { repository with tables :=
      ⟨repository.tables.attempts.map set, bindings⟩ } := by
  have hgrown : ∀ target generation, repository.tables.Used target generation →
      SetupTables.Used ⟨repository.tables.attempts.map set, bindings⟩ target
        generation := by
    rintro target generation ⟨old, hold, hfacts⟩
    refine ⟨set old, List.mem_map_of_mem hold, ?_⟩
    rw [hset.attempt]
    exact hfacts
  refine ⟨⟨?_, hbindings⟩, ?_, ?_⟩
  · refine List.pairwise_map.mpr (h.increasing.attempts.imp ?_)
    intro a b hab
    rw [hset.attempt, hset.attempt]
    exact hab
  · intro other hother generation hone hlt
    obtain ⟨row, hrow, rfl⟩ := List.mem_map.mp hother
    rw [hset.attempt] at hlt ⊢
    exact hgrown _ generation (h.used row hrow generation hone hlt)
  · intro target limit hmem generation hone hlt
    exact hgrown target generation (h.supplied target limit hmem generation hone hlt)

theorem Orderly.activated (h : repository.Orderly)
    (hkept : repository.tables.Kept viem) {stored : SetupAttemptRow}
    (hmem : stored ∈ repository.tables.attempts) (hpending : stored.status = .pending)
    {entered : ApiWalletBindingRow} (hbinding : entered.binding = stored.attempt.binding)
    (id : String) (effectiveExpiry now : ℤ) :
    Orderly { repository with tables :=
      repository.tables.activated id effectiveExpiry now entered } := by
  rw [activated_eq]
  apply h.settled (settles_consume id effectiveExpiry now)
  refine List.pairwise_append.mpr ⟨List.pairwise_map.mpr (h.increasing.bindings.imp ?_),
    List.pairwise_singleton _ _, ?_⟩
  · intro a b hab
    rw [retire_binding, retire_binding]
    exact hab
  · intro old hold new hnew htarget
    rw [List.mem_singleton.mp hnew] at htarget ⊢
    obtain ⟨before, hbefore, rfl⟩ := List.mem_map.mp hold
    rw [retire_binding] at htarget ⊢
    obtain ⟨row, hrow, hconsumed, hsame⟩ := hkept.origin before hbefore
    rw [hbinding, ← hsame] at htarget ⊢
    have hne : row ≠ stored := by
      rintro rfl
      rw [hconsumed] at hpending
      cases hpending
    have hordered := h.increasing.attempts.and hkept.last
    obtain ⟨front, back, hsplit⟩ := List.append_of_mem hmem
    rw [hsplit] at hordered hrow
    obtain ⟨-, hback, hfront⟩ := List.pairwise_append.mp hordered
    rcases List.mem_append.mp hrow with hearlier | hlater
    · exact (hfront row hearlier stored List.mem_cons_self).1 htarget
    · rcases List.mem_cons.mp hlater with rfl | hlater
      · exact absurd rfl hne
      · exact absurd hpending
          ((List.pairwise_cons.mp hback).1 row hlater |>.2 htarget.symm)

theorem kept_step (hviem : viem.Documented) (h : repository.tables.Kept viem)
    (operation : SetupOperation) : (repository.step viem operation).tables.Kept viem := by
  cases operation with
  | nextGeneration input =>
    unfold step
    dsimp only
    split
    · exact h
    · exact h
  | createAttempt fault attempt =>
    exact h.written (written_createAttempt hviem fault attempt repository.tables)
  | consumeAndActivate fault attemptId expected effectiveExpiry now =>
    exact h.written (written_consumeAndActivate hviem h.normal fault attemptId expected
      effectiveExpiry now)
  | cancelAttempt fault id reason =>
    exact h.written (written_cancelAttempt fault id reason repository.tables)

theorem Orderly.step (hviem : viem.Documented) (hkept : repository.tables.Kept viem)
    (h : repository.Orderly) {operation : SetupOperation}
    (hsupplied : repository.Supplied viem operation) :
    (repository.step viem operation).Orderly := by
  cases operation with
  | nextGeneration input =>
    unfold SetupRepository.step
    dsimp only
    split
    · rename_i generation hsupply
      exact h.supply hkept hsupply
    · exact h
  | createAttempt fault attempt =>
    unfold SetupRepository.step
    dsimp only
    rcases createAttempt_cases fault attempt repository.tables with
      hsame | ⟨row, hbinding, hcapable, -, hfree, hafter⟩
    · rw [hsame]
      exact h
    · rw [hafter]
      obtain ⟨⟨-, hleast⟩, -, hgeneration, -⟩ := normalizeSignerBinding_eq_ok.mp hbinding
      have hsame : row.attempt.registrationGeneration =
          attempt.registrationGeneration := hgeneration
      apply h.created
      · rw [hsame]
        exact hleast
      · exact hfree
      · have htarget := normalizeSetupTarget_eq_ok hbinding hcapable
        dsimp only [Supplied] at hsupplied
        rw [htarget] at hsupplied
        rw [hsame]
        simpa [Except.toOption] using hsupplied
  | consumeAndActivate fault attemptId expected effectiveExpiry now =>
    unfold SetupRepository.step
    dsimp only
    rcases consumeAndActivate_cases hviem hkept.normal fault attemptId expected
        effectiveExpiry now with
      ⟨-, hsame⟩ | ⟨-, stored, hmem, entered, hid, hconsumable, -, hbinding, -, hafter⟩
    · rw [hsame]
      exact h
    · rw [hafter]
      simp only [SetupAttemptRow.consumable, Bool.and_eq_true, beq_iff_eq] at hconsumable
      exact h.activated hkept hmem hconsumable.1.2 hbinding attemptId effectiveExpiry now
  | cancelAttempt fault id reason =>
    unfold SetupRepository.step cancelAttempt
    dsimp only
    rcases Transaction.atomically_cases fault _ repository.tables with
      hnone | ⟨_, after, hrun, hsome⟩
    · rw [hnone]
      exact h
    · rw [hsome]
      rw [Transaction.write_eq_ok] at hrun
      obtain rfl := Except.ok.inj hrun
      refine h.settled (settles_ite ?_ ?_) h.increasing.bindings
      · intro row hrow
        simp only [Bool.and_eq_true, beq_iff_eq] at hrow
        exact hrow.2
      · intro row
        rfl

theorem kept_of_run (hviem : viem.Documented) (operations : List SetupOperation) :
    (run (step viem) opened operations).tables.Kept viem := by
  have hstep : ∀ (before : SetupRepository) (operation : SetupOperation),
      before.tables.Kept viem → (before.step viem operation).tables.Kept viem :=
    fun _ operation h => kept_step hviem h operation
  exact run_invariant hstep (kept_empty viem) operations

theorem orderly_of_run (hviem : viem.Documented) {operations : List SetupOperation}
    (h : Along (step viem) (Supplied viem) opened operations) :
    (run (step viem) opened operations).Orderly := by
  have hstep : ∀ (before : SetupRepository) (operation : SetupOperation),
      (before.tables.Kept viem ∧ before.Orderly) → before.Supplied viem operation →
      (before.step viem operation).tables.Kept viem ∧
        (before.step viem operation).Orderly :=
    fun before operation hbefore hsupplied =>
      ⟨kept_step hviem hbefore.1 operation, hbefore.2.step hviem hbefore.1 hsupplied⟩
  exact (run_invariant_along hstep ⟨kept_empty viem, orderly_opened⟩ h).2

theorem settled_run (hviem : viem.Documented) (hkept : repository.tables.Kept viem)
    (hrow : row ∈ repository.tables.attempts)
    (hsettled : row.status ≠ .pending) (operations : List SetupOperation) :
    (run (step viem) repository operations).tables.Kept viem ∧
      row ∈ (run (step viem) repository operations).tables.attempts := by
  have hstep : ∀ (before : SetupRepository) (operation : SetupOperation),
      (before.tables.Kept viem ∧ row ∈ before.tables.attempts) →
      (before.step viem operation).tables.Kept viem ∧
        row ∈ (before.step viem operation).tables.attempts := by
    rintro before operation ⟨hbefore, hmem⟩
    refine ⟨kept_step hviem hbefore operation, ?_⟩
    cases operation with
    | nextGeneration input =>
      unfold step
      dsimp only
      split
      · exact hmem
      · exact hmem
    | createAttempt fault attempt =>
      exact (written_createAttempt hviem fault attempt _).settled hmem hsettled
    | consumeAndActivate fault attemptId expected effectiveExpiry now =>
      exact (written_consumeAndActivate hviem hbefore.normal fault attemptId expected
        effectiveExpiry now).settled hmem hsettled
    | cancelAttempt fault id reason =>
      have hwritten : Written viem before.tables
          (cancelAttempt fault id reason before.tables).2 :=
        written_cancelAttempt fault id reason before.tables
      exact hwritten.settled hmem hsettled
  exact run_invariant hstep ⟨hkept, hrow⟩ operations

theorem not_consumed (hviem : viem.Documented) (hkept : repository.tables.Kept viem)
    (hrow : row ∈ repository.tables.attempts)
    (hsettled : row.status ≠ .pending) (fault : Option Failure) (expected : SetupAttempt)
    (effectiveExpiry now : ℤ) :
    (consumeAndActivate viem fault row.attempt.id expected effectiveExpiry now
      repository.tables).1 ≠ .ok true := by
  rcases consumeAndActivate_cases hviem hkept.normal fault row.attempt.id expected
      effectiveExpiry now with
    ⟨hresult, -⟩ | ⟨-, stored, hmem, entered, hid, hconsumable, -⟩
  · exact hresult
  · obtain rfl := hkept.eq_of_id hmem hrow hid
    simp only [SetupAttemptRow.consumable, Bool.and_eq_true, beq_iff_eq] at hconsumable
    exact absurd hconsumable.1.2 hsettled

end SetupRepository

theorem countP_le_one {α : Type*} {rows : List α} {clash : α → α → Prop} {p : α → Bool}
    (hrows : rows.Pairwise fun a b => ¬ clash a b)
    (hclash : ∀ a b, p a = true → p b = true → clash a b) : rows.countP p ≤ 1 := by
  rw [List.countP_eq_length_filter]
  cases hfiltered : rows.filter p with
  | nil => exact Nat.zero_le _
  | cons a rest =>
    cases rest with
    | nil => exact Nat.le_refl _
    | cons b rest =>
      have hpair := hrows.filter p
      rw [hfiltered] at hpair
      have ha : a ∈ rows.filter p := by simp [hfiltered]
      have hb : b ∈ rows.filter p := by simp [hfiltered]
      have hnot := (List.pairwise_cons.mp hpair).1 b List.mem_cons_self
      exact absurd (hclash a b (List.mem_filter.mp ha).2 (List.mem_filter.mp hb).2) hnot

/-- What an activation at `now` does: it consumes the pending attempt under `id` before
its expiry and, in the same transaction, moves what was active for the target to
`retiring` and enters the attempt's binding as active. -/
structure Activates (before after : SetupTables) (id : String) (now : ℤ) : Prop where
  consumed : ∃ row ∈ before.attempts, row.attempt.id = id ∧ row.status = .pending ∧
    now < row.attempt.expiresAt ∧
    (∃ consumed ∈ after.attempts, consumed.attempt = row.attempt ∧
      consumed.status = .consumed ∧ consumed.consumedAt = some now) ∧
    (∃ entered ∈ after.bindings, entered.binding = row.attempt.binding ∧ entered.status = .active) ∧
    ∀ old ∈ before.bindings, old.status = .active →
      old.binding.setupTarget = row.attempt.binding.setupTarget →
        { old with status := .retiring, updatedAt := now } ∈ after.bindings

theorem activates_activated {tables : SetupTables} {stored : SetupAttemptRow}
    {effectiveExpiry now : ℤ} {entered : ApiWalletBindingRow} (hmem : stored ∈ tables.attempts)
    (hconsumable : stored.consumable stored.attempt.id now = true)
    (hactive : entered.status = .active) (hbinding : entered.binding = stored.attempt.binding) :
    Activates tables (tables.activated stored.attempt.id effectiveExpiry now entered)
      stored.attempt.id now := by
  have hfacts := hconsumable
  simp only [SetupAttemptRow.consumable, Bool.and_eq_true, beq_iff_eq, decide_eq_true_eq] at hfacts
  rw [SetupTables.activated_eq]
  refine ⟨stored, hmem, rfl, hfacts.1.2, hfacts.2, ?_, ?_, ?_⟩
  · refine ⟨_, List.mem_map_of_mem hmem, ?_, ?_, ?_⟩
    · exact (SetupTables.settles_consume _ _ _).attempt stored
    · simp [SetupTables.consume, hconsumable]
    · simp [SetupTables.consume, hconsumable]
  · exact ⟨entered, List.mem_append_right _ (List.mem_singleton.mpr rfl), hbinding, hactive⟩
  · intro old hold holdActive htarget
    refine List.mem_append_left _ (List.mem_map.mpr ⟨old, hold, ?_⟩)
    rw [← hbinding] at htarget
    simp [SetupTables.retire, holdActive, htarget]

/-- **Setup generations.** After any calls of the repository every target has at most
one active binding and at most one pending attempt, and no generation of a target is
used twice. When every created attempt carries a generation that `nextGeneration`
handed out for its target, the generations of a target increase. A call of
`consumeAndActivate` either changes nothing, or it consumes a pending attempt before
its expiry, moves the active binding aside in the same transaction, and no later call
consumes that attempt again. -/
theorem setup_generations (viem : Viem) (hviem : viem.Documented)
    (operations : List SetupOperation) :
    let repository := run (SetupRepository.step viem) .opened operations
    let tables := repository.tables
    (∀ target : SetupTarget, tables.bindings.countP (fun row =>
        row.binding.setupTarget = target ∧ row.status = .active) ≤ 1 ∧
      tables.attempts.countP (fun row =>
        row.attempt.binding.setupTarget = target ∧ row.status = .pending) ≤ 1) ∧
    (tables.attempts.Pairwise fun a b =>
      a.attempt.binding.setupTarget = b.attempt.binding.setupTarget →
        a.attempt.registrationGeneration ≠ b.attempt.registrationGeneration) ∧
    (tables.bindings.Pairwise fun a b => a.binding.setupTarget = b.binding.setupTarget →
        a.binding.generation ≠ b.binding.generation) ∧
    (Along (SetupRepository.step viem) (SetupRepository.Supplied viem) .opened
      operations → tables.Increasing) ∧
    ∀ fault id expected effectiveExpiry now,
      let outcome := consumeAndActivate viem fault id expected effectiveExpiry now tables
      (outcome.1 ≠ .ok true → outcome.2 = tables) ∧
      (outcome.1 = .ok true → Activates tables outcome.2 id now ∧
        ∀ later fault' expected' effectiveExpiry' now',
          (consumeAndActivate viem fault' id expected' effectiveExpiry' now'
            (run (SetupRepository.step viem) (repository.step viem
              (.consumeAndActivate fault id expected effectiveExpiry now))
              later).tables).1 ≠ .ok true) := by
  intro repository tables
  have hkept : tables.Kept viem := SetupRepository.kept_of_run hviem operations
  refine ⟨?_, ?_, ?_, ?_, ?_⟩
  · intro target
    constructor
    · apply countP_le_one hkept.bindings
      intro a b ha hb
      simp only [decide_eq_true_eq] at ha hb
      exact .inr ⟨ha.2, hb.2, ha.1.trans hb.1.symm⟩
    · apply countP_le_one hkept.attempts
      intro a b ha hb
      simp only [decide_eq_true_eq] at ha hb
      exact .inr (.inr ⟨ha.2, hb.2, ha.1.trans hb.1.symm⟩)
  · apply hkept.attempts.imp
    intro a b hclash htarget hgeneration
    exact hclash (.inr (.inl (.inr ⟨htarget, hgeneration⟩)))
  · apply hkept.bindings.imp
    intro a b hclash htarget hgeneration
    exact hclash (.inl (.inr ⟨htarget, hgeneration⟩))
  · intro hsupplied
    exact (SetupRepository.orderly_of_run hviem hsupplied).increasing
  · intro fault id expected effectiveExpiry now outcome
    rcases SetupTables.consumeAndActivate_cases hviem hkept.normal fault id expected
        effectiveExpiry now with
      ⟨hresult, hsame⟩ | ⟨hresult, stored, hmem, entered, rfl, hconsumable, hactive,
        hbinding, -, hafter⟩
    · exact ⟨fun _ => hsame, fun h => absurd h hresult⟩
    · refine ⟨fun h => absurd hresult h, fun _ => ?_⟩
      have hactivates : Activates tables outcome.2 stored.attempt.id now := by
        rw [show outcome.2 = _ from hafter]
        exact activates_activated hmem hconsumable hactive hbinding
      refine ⟨hactivates, ?_⟩
      obtain ⟨row, hrow, hid, -, -, ⟨consumed, hconsumed, hattempt, hstatus, -⟩, -⟩ :=
        hactivates.consumed
      have hsettled : consumed.status ≠ .pending := by
        rw [hstatus]
        decide
      intro later fault' expected' effectiveExpiry' now'
      obtain ⟨hlater, hkeeps⟩ := SetupRepository.settled_run hviem
        (SetupRepository.kept_step hviem hkept
          (.consumeAndActivate fault stored.attempt.id expected effectiveExpiry now))
        hconsumed hsettled later
      rw [← hid, ← hattempt]
      rw [← hid, ← hattempt] at hlater hkeeps
      exact SetupRepository.not_consumed hviem hlater hkeeps hsettled fault' expected'
        effectiveExpiry' now'

/-! ### Two attempts of one target -/

def sampleAddress (digit : Char) : String :=
  "0x" ++ String.ofList (List.replicate 40 digit)

def generationsViem : Viem where
  getAddress address :=
    if address = sampleAddress '1' ∨ address = sampleAddress '3' ∨
        address = sampleAddress '4' then some address
    else none
  keccak256 _ := ""
  keccak256Bytes _ := ""

theorem generationsViem_documented : generationsViem.Documented := by
  constructor
  intro address checksummed h
  simp only [generationsViem, Option.ite_none_right_eq_some, Option.some.injEq] at h
  obtain ⟨rfl | rfl | rfl, rfl⟩ := h <;> decide

def sampleSetup (digit : Char) (generation createdAt : ℤ) : SetupAttempt where
  id := "0x" ++ String.ofList (List.replicate 64 digit)
  network := .testnet
  connectorSessionId := "session"
  masterAccount := sampleAddress '1'
  targetAccount := sampleAddress '1'
  agentAddress := sampleAddress digit
  registrationName := "Hyper Trader"
  registrationGeneration := generation
  approvalNonce := createdAt
  requestedExpiry := createdAt + agentAuthorizationDurationMs
  createdAt := createdAt
  expiresAt := createdAt + setupAttemptDurationMs

/-- Generation 2 is created and cancelled, then generation 1 is created. -/
def generationsFall : List SetupOperation :=
  [.createAttempt none (sampleSetup '3' 2 1000),
    .cancelAttempt none (sampleSetup '3' 2 1000).id "cancelled",
    .createAttempt none (sampleSetup '4' 1 2000)]

/-- Once the higher generation is cancelled, a caller may create a lower one. -/
theorem setup_generations_may_fall :
    ¬ ∀ viem : Viem, viem.Documented → ∀ operations : List SetupOperation,
      (run (SetupRepository.step viem) .opened operations).tables.Increasing := by
  intro h
  have hordered :=
    (h generationsViem generationsViem_documented generationsFall).attempts
  revert hordered
  decide

def generationsRise : List SetupOperation :=
  [.nextGeneration ⟨.testnet, sampleAddress '1', sampleAddress '1'⟩,
    .createAttempt none (sampleSetup '3' 1 1000),
    .consumeAndActivate none (sampleSetup '3' 1 1000).id (sampleSetup '3' 1 1000) 9000 1500,
    .nextGeneration ⟨.testnet, sampleAddress '1', sampleAddress '1'⟩,
    .createAttempt none (sampleSetup '4' 2 2000),
    .consumeAndActivate none (sampleSetup '4' 2 2000).id (sampleSetup '4' 2 2000) 9000 2500]

theorem setup_generations_rise :
    let tables := (run (SetupRepository.step generationsViem) .opened generationsRise).tables
    tables.Increasing ∧ tables.bindings.map (·.status) = [.retiring, .active] :=
  ⟨(setup_generations generationsViem generationsViem_documented
      generationsRise).2.2.2.1 (by decide), by decide⟩

end HyperTrader
