import HyperTrader.Custody.Coordinator
import HyperTrader.Custody.Manifest
import Mathlib.Data.List.Nodup

/-!
# The secret of an activated attempt

The calls of the coordinator, interleaved at every await, with the process ending
between any two steps. A removal deletes the secret first and marks the attempt
when the deletion has come back, so a verification that was waiting for its proof
may activate the attempt in between; and a verification whose proof comes late
removes the attempt without looking whether another one has activated it.
`SetupWorld.Orderly` excludes the two; in a run of such steps every activated
binding keeps the credential that was staged for it.
-/

namespace HyperTrader

open Library

def VaultOperation.removes (key : String) : VaultOperation → Prop
  | .deleteSecret bindingId => credentialKey bindingId = key
  | _ => False

instance VaultOperation.decidableRemoves (key : String)
    (operation : VaultOperation) : Decidable (operation.removes key) := by
  unfold VaultOperation.removes
  split <;> infer_instance

def SetupTables.isPending (viem : Viem) (tables : SetupTables) (id : String) : Bool :=
  match tables.getPendingAttempt viem id with
  | .ok (some _) => true
  | _ => false

namespace SetupWorld

/-- The item under `key` was deleted, or a deletion of it is under way. -/
def Condemned (world : SetupWorld) (key : String) : Prop :=
  key ∈ world.deleted ∨
    ∃ operation ∈ world.vault.operations, operation.removes key

instance decidableCondemned (world : SetupWorld) (key : String) : Decidable (world.Condemned key) :=
  inferInstanceAs (Decidable (_ ∨ _))

def Holds (viem : Viem) (world : SetupWorld) (binding : SignerBinding) : Prop :=
  ∃ credential ∈ world.staged, credential.binding = binding ∧
    world.vault.store.secrets (binding.credentialKey viem) = some credential

/-- A credential generated in this step is stored under a key no credential had
before: its secret is random, and its binding's hash is no other one's. -/
def Fresh (viem : Viem) (world : SetupWorld) : SetupEvent → Prop
  | .generated i (.ok material) =>
    match world.runs[i]? with
    | some (.generating preparation authoritativeTime generation) =>
      match SetupCoordinator.prepareGenerated viem preparation
          authoritativeTime generation material with
      | .ok (.stage _ credential) => ∀ other ∈ world.staged,
          other.binding.credentialKey viem ≠
            credential.binding.credentialKey viem
      | _ => True
    | _ => True
  | _ => True

instance decidableFresh (viem : Viem) (world : SetupWorld) (event : SetupEvent) :
    Decidable (world.Fresh viem event) := by
  unfold Fresh
  split
  · split
    · split <;> infer_instance
    · infer_instance
  · infer_instance

/-- A verification activates no attempt whose secret was deleted or is being
deleted, and removes none that was activated. -/
def Orderly (viem : Viem) (world : SetupWorld) : SetupEvent → Prop
  | .proved i (.ok proof) fault =>
    match world.runs[i]? with
    | some (.verifying attempt now) =>
      match SetupCoordinator.verifyProof viem attempt now proof with
      | .ok (.activate _ _ _) =>
        fault = none →
          world.tables.isPending viem attempt.id = true →
            ¬ world.Condemned (attempt.binding.credentialKey viem)
      | .ok (.remove _ _ _) => ∀ row ∈ world.tables.attempts,
          row.attempt.id = attempt.id → row.status ≠ .consumed
      | _ => True
    | _ => True
  | _ => True

instance decidableOrderly (viem : Viem) (world : SetupWorld)
    (event : SetupEvent) : Decidable (world.Orderly viem event) := by
  unfold Orderly
  split
  · split
    · split <;> infer_instance
    · infer_instance
  · infer_instance

end SetupWorld

/-! ### The rows of the tables -/

def SetupAttemptRow.key (viem : Viem) (row : SetupAttemptRow) : String :=
  row.attempt.binding.credentialKey viem

variable {attempt : SetupAttempt} {fault : Option Failure} {tables' : SetupTables} {u : Unit}

theorem attemptFromRow_normal {viem : Viem} {row : SetupAttemptRow}
    (hnormal : row.attempt.binding.Normal viem) (h : attemptFromRow viem row = .ok attempt) :
    attempt = row.attempt ∧ row.status = .pending := by
  simp only [attemptFromRow, except_bind_eq_ok, require_eq_ok] at h
  obtain ⟨binding, hbinding, _, ⟨hpending, -⟩, _, -, hattempt⟩ := h
  have hsame : row.attempt.binding = binding := by
    rw [SignerBinding.Normal] at hnormal
    rw [bindingFromAttempt, hnormal] at hbinding
    exact Except.ok.inj hbinding
  subst hsame
  exact ⟨(Except.ok.inj hattempt).symm, hpending⟩

namespace SetupTables

variable {viem : Viem} {tables : SetupTables} {attempt : SetupAttempt}

theorem getPendingAttempt_some {id : String}
    (hnormal : ∀ row ∈ tables.attempts, row.attempt.binding.Normal viem)
    (h : tables.getPendingAttempt viem id = .ok (some attempt)) :
    ∃ row ∈ tables.attempts, row.status = .pending ∧ row.attempt = attempt ∧
      attempt.id = id := by
  unfold getPendingAttempt at h
  split at h
  · cases h
  · rename_i row hrow
    simp only [except_bind_eq_ok] at h
    obtain ⟨attempt', hattempt, hsame⟩ := h
    obtain rfl : attempt' = attempt := by
      cases hsame
      rfl
    have hmem := List.mem_of_find?_eq_some hrow
    have hid := List.find?_some hrow
    obtain ⟨rfl, hpending⟩ := attemptFromRow_normal (hnormal row hmem) hattempt
    simp only [Bool.and_eq_true, beq_iff_eq] at hid
    exact ⟨row, hmem, hpending, rfl, hid.1⟩

theorem getPendingAttemptForTarget_some {target : SetupTarget}
    (hnormal : ∀ row ∈ tables.attempts, row.attempt.binding.Normal viem)
    (h : tables.getPendingAttemptForTarget viem target = .ok (some attempt)) :
    ∃ row ∈ tables.attempts, row.status = .pending ∧ row.attempt = attempt := by
  simp only [getPendingAttemptForTarget, except_bind_eq_ok] at h
  obtain ⟨normal, -, h⟩ := h
  split at h
  · cases h
  · rename_i row hrow
    simp only [except_bind_eq_ok] at h
    obtain ⟨attempt', hattempt, hsame⟩ := h
    obtain rfl : attempt' = attempt := by
      cases hsame
      rfl
    have hmem := List.mem_of_find?_eq_some hrow
    obtain ⟨rfl, hpending⟩ := attemptFromRow_normal (hnormal row hmem) hattempt
    exact ⟨row, hmem, hpending, rfl⟩

end SetupTables

theorem createAttempt_ok {viem : Viem} {tables : SetupTables}
    (hnormal : attempt.binding.Normal viem)
    (h : Transaction.atomically fault (createAttempt viem attempt) tables = (.ok u, tables')) :
    ∃ row, tables' = { tables with attempts := tables.attempts ++ [row] } ∧
      row.attempt = attempt ∧ row.status = .pending := by
  obtain ⟨-, h⟩ := Transaction.atomically_eq_ok.mp h
  simp only [createAttempt, Transaction.bind_eq_ok, Transaction.check_eq_ok,
    Transaction.write_eq_ok] at h
  obtain ⟨_, _, ⟨-, rfl⟩, binding, _, ⟨hbinding, rfl⟩, _, _, ⟨-, rfl⟩, hwrite⟩ := h
  have hsame : attempt.binding = binding := by
    rw [SignerBinding.Normal] at hnormal
    rw [bindingFromAttempt, hnormal] at hbinding
    exact Except.ok.inj hbinding
  subst hsame
  unfold SetupTables.insertAttempt at hwrite
  split at hwrite
  · exact ⟨_, (Except.ok.inj hwrite).symm, rfl, rfl⟩
  · cases hwrite

theorem cancelAttempt_ok {id reason : String} {tables : SetupTables}
    (h : cancelAttempt fault id reason tables = (.ok u, tables')) :
    ∃ set : SetupAttemptRow → SetupAttemptRow,
      tables' = { tables with attempts := tables.attempts.map set } ∧
      ∀ row, (set row).attempt = row.attempt ∧
        (set row = row ∨ row.status = .pending ∧ (set row).status = .cancelled) := by
  obtain ⟨-, h⟩ := Transaction.atomically_eq_ok.mp h
  rw [Transaction.write_eq_ok] at h
  refine ⟨_, (Except.ok.inj h).symm, fun row => ?_⟩
  dsimp only
  split
  · rename_i hrow
    simp only [Bool.and_eq_true, beq_iff_eq] at hrow
    exact ⟨rfl, .inr ⟨hrow.2, rfl⟩⟩
  · exact ⟨rfl, .inl rfl⟩

theorem eq_of_countP_eq_one {α : Type*} {p : α → Bool} {l : List α} {a b : α}
    (hcount : l.countP p = 1) (ha : a ∈ l) (hpa : p a = true) (hb : b ∈ l)
    (hpb : p b = true) : a = b := by
  rw [List.countP_eq_length_filter] at hcount
  obtain ⟨c, hc⟩ := List.length_eq_one_iff.mp hcount
  have hfiltered : ∀ {x}, x ∈ l → p x = true → x = c := by
    intro x hx hpx
    have hmem : x ∈ l.filter p := List.mem_filter.mpr ⟨hx, hpx⟩
    rw [hc] at hmem
    exact List.mem_singleton.mp hmem
  rw [hfiltered ha hpa, hfiltered hb hpb]

theorem consumeAndActivate_ok {viem : Viem} {effectiveExpiry now : ℤ}
    {tables : SetupTables} {activated : Bool}
    (hnormal : ∀ row ∈ tables.attempts, row.attempt.binding.Normal viem)
    (hattempt : attempt.binding.Normal viem)
    (h : consumeAndActivate viem fault attempt.id attempt effectiveExpiry now
      tables = (.ok activated, tables')) :
    tables' = tables ∨
    ∃ stored ∈ tables.attempts, stored.attempt.binding = attempt.binding ∧
      stored.status = .pending ∧ fault = none ∧
      tables.isPending viem attempt.id = true ∧
      ∃ set : SetupAttemptRow → SetupAttemptRow,
        tables'.attempts = tables.attempts.map set ∧
        (∀ row ∈ tables.attempts, (set row).attempt = row.attempt ∧
          (row ≠ stored → set row = row)) ∧
        (set stored).status = .consumed ∧
        ∀ row ∈ tables'.bindings, row.binding = attempt.binding ∨
          ∃ old ∈ tables.bindings, old.binding = row.binding := by
  simp only [consumeAndActivate, Action.bind_eq_ok, Action.check_apply, Prod.mk.injEq] at h
  obtain ⟨_, _, ⟨-, rfl⟩, binding, _, ⟨hbinding, rfl⟩, _, _, ⟨-, rfl⟩, _, _, ⟨-, rfl⟩, h⟩ := h
  obtain ⟨hfault, hcommit⟩ := Transaction.atomically_eq_ok.mp h
  have hsame : attempt.binding = binding := by
    rw [SignerBinding.Normal] at hattempt
    rw [bindingFromAttempt, hattempt] at hbinding
    exact Except.ok.inj hbinding
  subst hsame
  simp only [activateStatement, Transaction.bind_eq_ok, Transaction.read_eq_ok,
    Transaction.check_eq_ok] at hcommit
  obtain ⟨_, _, ⟨rfl, rfl⟩, found, _, ⟨hfound, rfl⟩, h⟩ := hcommit
  cases found with
  | none =>
    rw [Transaction.pure_eq_ok] at h
    exact .inl h.2.symm
  | some found =>
    simp only [Transaction.bind_eq_ok, Transaction.check_eq_ok] at h
    obtain ⟨storedBinding, _, ⟨hstored, rfl⟩, _, _, ⟨hassert, rfl⟩, h⟩ := h
    split at h
    · rw [Transaction.pure_eq_ok] at h
      exact .inl h.2.symm
    · rename_i hexpected
      split at h
      · rw [Transaction.pure_eq_ok] at h
        exact .inl h.2.symm
      · rename_i hcount
        simp only [Transaction.bind_eq_ok, Transaction.write_eq_ok, Transaction.pure_eq_ok] at h
        obtain ⟨_, _, hconsume, _, _, hretire, _, _, hinsert, rfl, rfl⟩ := h
        obtain ⟨stored, hmem, hpending, rfl, hid⟩ :=
          SetupTables.getPendingAttempt_some hnormal hfound
        have hbindings : stored.attempt.binding = attempt.binding := by
          obtain ⟨normal, hleft, hright⟩ := assertSignerBinding_eq_ok.mp hassert
          rw [SignerBinding.Normal] at hattempt
          rw [hattempt] at hleft
          have hstoredNormal := hnormal stored hmem
          rw [SignerBinding.Normal] at hstoredNormal
          rw [bindingFromAttempt, hstoredNormal] at hstored
          obtain rfl := Except.ok.inj hstored
          rw [hstoredNormal] at hright
          exact (Except.ok.inj hright).trans (Except.ok.inj hleft).symm
        have hconsumable : stored.consumable attempt.id now = true := by
          have hlive : now < stored.attempt.expiresAt := by
            by_contra hexpired
            simp [sameAttempt, hexpired] at hexpected
          simp [SetupAttemptRow.consumable, hid, hpending, hlive]
        obtain rfl := Except.ok.inj hconsume
        obtain rfl := Except.ok.inj hretire
        unfold SetupTables.insertBinding at hinsert
        split at hinsert
        · obtain rfl := Except.ok.inj hinsert
          refine .inr ⟨stored, hmem, hbindings, hpending, hfault, ?_, _, rfl,
            fun row hrow => ?_, ?_, ?_⟩
          · simp [SetupTables.isPending, hfound]
          · dsimp only
            split
            · rename_i hrowConsumable
              exact ⟨rfl, fun hother => absurd (eq_of_countP_eq_one
                (not_not.mp hcount) hrow hrowConsumable hmem hconsumable) hother⟩
            · exact ⟨rfl, fun _ => rfl⟩
          · simp [hconsumable]
          · intro row hrow
            simp only [List.mem_append, List.mem_map, List.mem_singleton] at hrow
            rcases hrow with ⟨old, hold, rfl⟩ | rfl
            · refine .inr ⟨old, hold, ?_⟩
              split <;> rfl
            · exact .inl rfl
        · cases hinsert

/-! ### The invariant -/

def SetupRun.Idle (tables : SetupTables) : SetupRun → Prop
  | .staging _ _ => False
  | .verifying attempt _ => ∃ row ∈ tables.attempts, row.attempt = attempt
  | _ => True

namespace SetupWorld

structure Staging (viem : Viem) (world : SetupWorld) (attempt : SetupAttempt)
    (operation : ℕ) : Prop where
  normal : attempt.binding.Normal viem
  known : ∃ credential ∈ world.staged, credential.binding = attempt.binding
  free : ∀ row ∈ world.tables.attempts,
    row.key viem ≠ attempt.binding.credentialKey viem
  kept : ¬ world.Condemned (attempt.binding.credentialKey viem)
  progress : ∃ current, world.vault.operations[operation]? = some current ∧
    ((∃ request, current.request = some request ∧ request.credential.binding = attempt.binding) ∨
      (∃ failure, current = .finished (.error failure)) ∨
      (current = .finished (.ok ()) ∧ world.Holds viem attempt.binding))

structure Inv (viem : Viem) (world : SetupWorld) : Prop where
  normal : ∀ row ∈ world.tables.attempts, row.attempt.binding.Normal viem
  apart : (world.staged.map fun credential => credential.binding.credentialKey viem).Nodup
  known : ∀ row ∈ world.tables.attempts, ∃ credential ∈ world.staged,
    credential.binding = row.attempt.binding
  rows : (world.tables.attempts.map (SetupAttemptRow.key viem)).Nodup
  requests : ∀ operation ∈ world.vault.operations, ∀ request,
    operation.request = some request → request.credential ∈ world.staged ∧
      request.key = request.credential.binding.credentialKey viem
  staging : ∀ (i : ℕ) (attempt : SetupAttempt) (operation : ℕ),
    world.runs[i]? = some (.staging attempt operation) →
      world.Staging viem attempt operation
  stagings : ∀ (i j : ℕ) (a b : SetupAttempt) (m n : ℕ),
    world.runs[i]? = some (.staging a m) → world.runs[j]? = some (.staging b n) →
      a.binding.credentialKey viem = b.binding.credentialKey viem → i = j
  verifying : ∀ (i : ℕ) (attempt : SetupAttempt) (now : ℤ),
    world.runs[i]? = some (.verifying attempt now) →
      ∃ row ∈ world.tables.attempts, row.attempt = attempt
  condemned : ∀ key, world.Condemned key → ∃ credential ∈ world.staged,
    credential.binding.credentialKey viem = key
  held : ∀ row ∈ world.tables.attempts, row.key viem ∉ world.deleted →
    world.Holds viem row.attempt.binding
  consumed : ∀ row ∈ world.tables.attempts, row.status = .consumed →
    ¬ world.Condemned (row.key viem)
  active : ∀ row ∈ world.tables.bindings, ∃ attempt ∈ world.tables.attempts,
    attempt.status = .consumed ∧ attempt.attempt.binding = row.binding

variable {viem : Viem} {world : SetupWorld}

theorem Inv.opened (viem : Viem) (store : SecureStore) :
    (SetupWorld.opened store).Inv viem where
  normal row h := by cases h
  apart := List.nodup_nil
  known row h := by cases h
  rows := List.nodup_nil
  requests operation h := by cases h
  staging i attempt operation h := by simp [SetupWorld.opened] at h
  stagings i j a b m n h := by simp [SetupWorld.opened] at h
  verifying i attempt now h := by simp [SetupWorld.opened] at h
  condemned key h := by simp [SetupWorld.Condemned, SetupWorld.opened, CredentialVault.opened] at h
  held row h := by cases h
  consumed row h := by cases h
  active row h := by cases h

theorem Inv.runs (h : world.Inv viem) {runs : List SetupRun}
    (hruns : ∀ (j : ℕ) (run : SetupRun), runs[j]? = some run →
      world.runs[j]? = some run ∨ run.Idle world.tables) :
    ({ world with runs := runs } : SetupWorld).Inv viem := by
  have hstaging : ∀ {j : ℕ} {attempt : SetupAttempt} {operation : ℕ},
      runs[j]? = some (.staging attempt operation) →
        world.runs[j]? = some (.staging attempt operation) :=
    fun hrun => (hruns _ _ hrun).resolve_right id
  constructor
  · exact h.normal
  · exact h.apart
  · exact h.known
  · exact h.rows
  · exact h.requests
  · intro i attempt operation hrun
    have hold := h.staging i attempt operation (hstaging hrun)
    exact ⟨hold.normal, hold.known, hold.free, hold.kept, hold.progress⟩
  · intro i j a b m n hi hj
    exact h.stagings i j a b m n (hstaging hi) (hstaging hj)
  · intro i attempt now hrun
    rcases hruns _ _ hrun with hold | hidle
    · exact h.verifying i attempt now hold
    · exact hidle
  · exact h.condemned
  · exact h.held
  · exact h.consumed
  · exact h.active

variable {binding : SignerBinding} {attempt : SetupAttempt} {i operation : ℕ}
  {fault : Option Failure} {move : SetupMove} {outcome : Outcome SetupMove}
  {preparation : SetupPreparation} {authoritativeTime generation : ℤ}

theorem Inv.delete (h : world.Inv viem) (hnormal : binding.Normal viem)
    (hknown : ∃ credential ∈ world.staged, credential.binding = binding)
    (hrows : ∀ row ∈ world.tables.attempts, row.status = .consumed →
      row.key viem ≠ binding.credentialKey viem)
    (hstaging : ∀ (i : ℕ) (attempt : SetupAttempt) (operation : ℕ),
      world.runs[i]? = some (.staging attempt operation) →
        attempt.binding.credentialKey viem ≠ binding.credentialKey viem) :
    ({ world with vault := world.vault.delete viem binding } : SetupWorld).Inv viem := by
  have hvault : world.vault.delete viem binding =
      world.vault.start (.deleteSecret (viem.keccak256 binding.custodyText)) := by
    simp [CredentialVault.delete, deleteRequest_normal hnormal]
  rw [hvault]
  set vault := world.vault.start
    (.deleteSecret (viem.keccak256 binding.custodyText))
  have hcondemned : ∀ {key}, key ≠ binding.credentialKey viem →
      ({ world with vault := vault } : SetupWorld).Condemned key →
        world.Condemned key := by
    rintro key hkey (hdeleted | ⟨operation, hoperation, hremoves⟩)
    · exact .inl hdeleted
    · rcases CredentialVault.mem_start.mp hoperation with hold | rfl
      · exact .inr ⟨operation, hold, hremoves⟩
      · exact absurd hremoves.symm hkey
  constructor
  · exact h.normal
  · exact h.apart
  · exact h.known
  · exact h.rows
  · intro operation hoperation request hrequest
    rcases CredentialVault.mem_start.mp hoperation with hold | rfl
    · exact h.requests operation hold request hrequest
    · cases hrequest
  · intro i attempt operation hrun
    have hold := h.staging i attempt operation hrun
    refine ⟨hold.normal, hold.known, hold.free, ?_, ?_⟩
    · intro hcond
      exact hold.kept (hcondemned (hstaging i attempt operation hrun) hcond)
    · obtain ⟨current, hcurrent, hprogress⟩ := hold.progress
      exact ⟨current, CredentialVault.start_getElem? hcurrent _, hprogress⟩
  · exact h.stagings
  · exact h.verifying
  · intro key hcond
    by_cases hkey : key = binding.credentialKey viem
    · obtain ⟨credential, hcredential, rfl⟩ := hknown
      exact ⟨credential, hcredential, hkey.symm⟩
    · exact h.condemned key (hcondemned hkey hcond)
  · exact h.held
  · intro row hrow hstatus hcond
    exact h.consumed row hrow hstatus (hcondemned (hrows row hrow hstatus) hcond)
  · exact h.active

theorem Inv.update (h : world.Inv viem) {tables : SetupTables}
    {set : SetupAttemptRow → SetupAttemptRow}
    (hattempts : tables.attempts = world.tables.attempts.map set)
    (hset : ∀ row ∈ world.tables.attempts, (set row).attempt = row.attempt)
    (hconsumed : ∀ row ∈ world.tables.attempts, (set row).status = .consumed →
      row.status = .consumed ∨ ¬ world.Condemned (row.key viem))
    (hactive : ∀ row ∈ tables.bindings, ∃ attempt ∈ world.tables.attempts,
      (set attempt).status = .consumed ∧ attempt.attempt.binding = row.binding) :
    ({ world with tables := tables } : SetupWorld).Inv viem := by
  have hrow : ∀ {row}, row ∈ tables.attempts → ∃ old ∈ world.tables.attempts,
      set old = row ∧ row.attempt = old.attempt := by
    intro row hmem
    rw [hattempts] at hmem
    obtain ⟨old, hold, rfl⟩ := List.mem_map.mp hmem
    exact ⟨old, hold, rfl, hset old hold⟩
  have hkeys : ∀ {row old : SetupAttemptRow}, row.attempt = old.attempt →
      row.key viem = old.key viem :=
    fun hsame => by rw [SetupAttemptRow.key, hsame, SetupAttemptRow.key]
  constructor
  · intro row hmem
    obtain ⟨old, hold, -, hsame⟩ := hrow hmem
    rw [hsame]
    exact h.normal old hold
  · exact h.apart
  · intro row hmem
    obtain ⟨old, hold, -, hsame⟩ := hrow hmem
    rw [hsame]
    exact h.known old hold
  · have hmap : tables.attempts.map (SetupAttemptRow.key viem) =
        world.tables.attempts.map (SetupAttemptRow.key viem) := by
      rw [hattempts, List.map_map]
      exact List.map_congr_left fun row hmem => hkeys (hset row hmem)
    rw [hmap]
    exact h.rows
  · exact h.requests
  · intro i attempt operation hrun
    have hold := h.staging i attempt operation hrun
    refine ⟨hold.normal, hold.known, ?_, hold.kept, hold.progress⟩
    intro row hmem
    obtain ⟨old, hmem', -, hsame⟩ := hrow hmem
    rw [hkeys hsame]
    exact hold.free old hmem'
  · exact h.stagings
  · intro i attempt now hrun
    obtain ⟨row, hmem, rfl⟩ := h.verifying i attempt now hrun
    refine ⟨set row, ?_, hset row hmem⟩
    rw [hattempts]
    exact List.mem_map_of_mem hmem
  · exact h.condemned
  · intro row hmem hundeleted
    obtain ⟨old, hold, -, hsame⟩ := hrow hmem
    rw [hkeys hsame] at hundeleted
    rw [hsame]
    exact h.held old hold hundeleted
  · intro row hmem hstatus
    obtain ⟨old, hold, rfl, hsame⟩ := hrow hmem
    rw [hkeys hsame]
    rcases hconsumed old hold hstatus with hbefore | hfree
    · exact h.consumed old hold hbefore
    · exact hfree
  · intro row hmem
    obtain ⟨attempt, hattempt, hstatus, hbinding⟩ := hactive row hmem
    refine ⟨set attempt, ?_, hstatus, ?_⟩
    · rw [hattempts]
      exact List.mem_map_of_mem hattempt
    · rw [hset attempt hattempt, hbinding]

theorem Inv.create (h : world.Inv viem) {row : SetupAttemptRow}
    (hnormal : row.attempt.binding.Normal viem) (hknown : ∃ credential ∈ world.staged,
      credential.binding = row.attempt.binding)
    (hfree : ∀ other ∈ world.tables.attempts, other.key viem ≠ row.key viem)
    (hpending : row.status = .pending) (hholds : world.Holds viem row.attempt.binding)
    (hstaging : ∀ (i : ℕ) (attempt : SetupAttempt) (operation : ℕ),
      world.runs[i]? = some (.staging attempt operation) →
        attempt.binding.credentialKey viem ≠ row.key viem) :
    ({ world with tables := { world.tables with
      attempts := world.tables.attempts ++ [row] } } : SetupWorld).Inv viem := by
  have hmem : ∀ {other : SetupAttemptRow},
      other ∈ world.tables.attempts ++ [row] →
        other ∈ world.tables.attempts ∨ other = row := by
    intro other hother
    rcases List.mem_append.mp hother with hold | hnew
    · exact .inl hold
    · exact .inr (List.mem_singleton.mp hnew)
  constructor
  · intro other hother
    rcases hmem hother with hold | rfl
    · exact h.normal other hold
    · exact hnormal
  · exact h.apart
  · intro other hother
    rcases hmem hother with hold | rfl
    · exact h.known other hold
    · exact hknown
  · rw [List.map_append, List.map_singleton, List.nodup_append]
    refine ⟨h.rows, List.pairwise_singleton _ _, ?_⟩
    intro key hkey other hother
    obtain ⟨old, hold, rfl⟩ := List.mem_map.mp hkey
    rw [List.mem_singleton.mp hother]
    exact hfree old hold
  · exact h.requests
  · intro i attempt operation hrun
    have hold := h.staging i attempt operation hrun
    refine ⟨hold.normal, hold.known, ?_, hold.kept, hold.progress⟩
    intro other hother
    rcases hmem hother with hother | rfl
    · exact hold.free other hother
    · exact (hstaging i attempt operation hrun).symm
  · exact h.stagings
  · intro i attempt now hrun
    obtain ⟨other, hother, hsame⟩ := h.verifying i attempt now hrun
    exact ⟨other, List.mem_append_left _ hother, hsame⟩
  · exact h.condemned
  · intro other hother hundeleted
    rcases hmem hother with hold | rfl
    · exact h.held other hold hundeleted
    · exact hholds
  · intro other hother hstatus
    rcases hmem hother with hold | rfl
    · exact h.consumed other hold hstatus
    · rw [hpending] at hstatus
      cases hstatus
  · intro binding hbinding
    obtain ⟨attempt, hattempt, hstatus, hsame⟩ := h.active binding hbinding
    exact ⟨attempt, List.mem_append_left _ hattempt, hstatus, hsame⟩

theorem Inv.credential_unique (h : world.Inv viem) {a b : StoredCredential}
    (ha : a ∈ world.staged) (hb : b ∈ world.staged)
    (hkey : a.binding.credentialKey viem = b.binding.credentialKey viem) : a = b :=
  List.inj_on_of_nodup_map h.apart ha hb hkey

theorem Inv.stage (h : world.Inv viem) (i : ℕ)
    {credential : StoredCredential} {runs : List SetupRun}
    (hbinding : attempt.binding = credential.binding) (hnormal : credential.binding.Normal viem)
    (hfresh : ∀ other ∈ world.staged, other.binding.credentialKey viem ≠
      credential.binding.credentialKey viem)
    (hruns : ∀ (j : ℕ) (run : SetupRun), runs[j]? = some run → world.runs[j]? = some run ∨
        j = i ∧ run = .staging attempt world.vault.operations.length) :
    ({ world with
        vault := world.vault.stage viem credential
        runs := runs
        staged := world.staged ++ [credential] } : SetupWorld).Inv viem := by
  obtain ⟨operation, hvault, hoperation, hremoves⟩ :
      ∃ operation, world.vault.stage viem credential =
          world.vault.start operation ∧
        ((∃ request, operation.request = some request ∧ request.credential = credential ∧
            request.key = credential.binding.credentialKey viem) ∨
          ∃ failure, operation = .finished (.error failure)) ∧
        ∀ key, ¬ operation.removes key := by
    unfold CredentialVault.stage
    cases hrequest : stageRequest viem credential with
    | error failure => exact ⟨_, rfl, .inr ⟨failure, rfl⟩, fun _ => id⟩
    | ok request =>
      obtain ⟨hsame, hkey⟩ := stageRequest_normal hnormal hrequest
      exact ⟨_, rfl, .inl ⟨request, rfl, hsame, hkey⟩, fun _ => id⟩
  rw [hvault]
  have hcondemned : ∀ {key}, ({ world with
      vault := world.vault.start operation
      runs := runs
      staged := world.staged ++ [credential] } : SetupWorld).Condemned key →
        world.Condemned key := by
    rintro key (hdeleted | ⟨other, hother, hkey⟩)
    · exact .inl hdeleted
    · rcases CredentialVault.mem_start.mp hother with hold | rfl
      · exact .inr ⟨other, hold, hkey⟩
      · exact absurd hkey (hremoves key)
  have hholds : ∀ {binding}, world.Holds viem binding →
      ({ world with
        vault := world.vault.start operation
        runs := runs
        staged := world.staged ++ [credential] } : SetupWorld).Holds viem binding := by
    rintro binding ⟨held, hheld, hsame, hstored⟩
    exact ⟨held, List.mem_append_left _ hheld, hsame, hstored⟩
  have hnew : ∀ {binding : SignerBinding},
      (∃ other ∈ world.staged, other.binding = binding) →
        binding.credentialKey viem ≠ credential.binding.credentialKey viem := by
    rintro _ ⟨other, hother, rfl⟩
    exact hfresh other hother
  have hrun : ∀ {j : ℕ} {other : SetupAttempt} {n : ℕ},
      runs[j]? = some (.staging other n) →
        world.runs[j]? = some (.staging other n) ∨
          j = i ∧ other = attempt ∧ n = world.vault.operations.length := by
    intro j other n hj
    rcases hruns j _ hj with hold | ⟨rfl, hsame⟩
    · exact .inl hold
    · cases hsame
      exact .inr ⟨rfl, rfl, rfl⟩
  constructor
  · exact h.normal
  · rw [List.map_append, List.map_singleton, List.nodup_append]
    refine ⟨h.apart, List.pairwise_singleton _ _, ?_⟩
    intro key hkey other hother
    obtain ⟨old, hold, rfl⟩ := List.mem_map.mp hkey
    rw [List.mem_singleton.mp hother]
    exact hfresh old hold
  · intro row hrow
    obtain ⟨held, hheld, hsame⟩ := h.known row hrow
    exact ⟨held, List.mem_append_left _ hheld, hsame⟩
  · exact h.rows
  · intro other hother request hrequest
    rcases CredentialVault.mem_start.mp hother with hold | rfl
    · obtain ⟨hstaged, hkey⟩ := h.requests other hold request hrequest
      exact ⟨List.mem_append_left _ hstaged, hkey⟩
    · rcases hoperation with ⟨request', hrequest', hcredential, hkey⟩ | ⟨_, rfl⟩
      · obtain rfl : request' = request := by
          rw [hrequest'] at hrequest
          exact Option.some.inj hrequest
        rw [hcredential]
        exact ⟨List.mem_append_right _ (List.mem_singleton_self _), hkey⟩
      · cases hrequest
  · intro j other n hj
    rcases hrun hj with hold | ⟨-, rfl, rfl⟩
    · have hstaging := h.staging j other n hold
      obtain ⟨held, hheld, hsame⟩ := hstaging.known
      refine ⟨hstaging.normal, ⟨held, List.mem_append_left _ hheld, hsame⟩,
        hstaging.free, fun hcond => hstaging.kept (hcondemned hcond), ?_⟩
      obtain ⟨current, hcurrent, hprogress⟩ := hstaging.progress
      refine ⟨current, CredentialVault.start_getElem? hcurrent _, ?_⟩
      rcases hprogress with hrequest | hfailed | ⟨hdone, hheld⟩
      · exact .inl hrequest
      · exact .inr (.inl hfailed)
      · exact .inr (.inr ⟨hdone, hholds hheld⟩)
    · refine ⟨?_, ?_, ?_, ?_, operation, ?_, ?_⟩
      · rw [hbinding]
        exact hnormal
      · exact ⟨credential, List.mem_append_right _ (List.mem_singleton_self _), hbinding.symm⟩
      · intro row hrow
        rw [hbinding]
        exact hnew (h.known row hrow)
      · intro hcond
        obtain ⟨old, hold, hkey⟩ := h.condemned _ (hcondemned hcond)
        rw [hbinding] at hkey
        exact hfresh old hold hkey
      · simp [CredentialVault.start]
      · rw [hbinding]
        rcases hoperation with ⟨request, hrequest, hsame, -⟩ | hfailed
        · exact .inl ⟨request, hrequest, by rw [hsame]⟩
        · exact .inr (.inl hfailed)
  · intro j k a b m n hj hk hkey
    rcases hrun hj with hj | ⟨rfl, rfl, -⟩
    · rcases hrun hk with hk | ⟨-, rfl, -⟩
      · exact h.stagings j k a b m n hj hk hkey
      · rw [hbinding] at hkey
        exact absurd hkey (hnew (h.staging j a m hj).known)
    · rcases hrun hk with hk | ⟨rfl, -⟩
      · rw [hbinding] at hkey
        exact absurd hkey.symm (hnew (h.staging k b n hk).known)
      · rfl
  · intro j other now hj
    rcases hruns j _ hj with hold | ⟨-, hsame⟩
    · exact h.verifying j other now hold
    · cases hsame
  · intro key hcond
    obtain ⟨old, hold, hkey⟩ := h.condemned key (hcondemned hcond)
    exact ⟨old, List.mem_append_left _ hold, hkey⟩
  · intro row hrow hundeleted
    exact hholds (h.held row hrow hundeleted)
  · intro row hrow hstatus hcond
    exact h.consumed row hrow hstatus (hcondemned hcond)
  · exact h.active

theorem Inv.holds_accessed (h : world.Inv viem) {vault : CredentialVault}
    {operation next : VaultOperation} (haccess : Accessed world.vault vault i fault operation next)
    (hoperation : world.vault.operations[i]? = some operation) (hholds : world.Holds viem binding)
    (hkept : binding.credentialKey viem ∉ world.deletes i fault) {deleted : List String} :
    ({ world with vault := vault, deleted := deleted } : SetupWorld).Holds viem binding := by
  obtain ⟨credential, hstaged, hsame, hstored⟩ := hholds
  refine ⟨credential, hstaged, hsame, ?_⟩
  rcases haccess.secrets (binding.credentialKey viem) with
    hsecret | ⟨request, hrequest, hkey, hsecret⟩ | ⟨rfl, bindingId, rfl, hkey⟩
  · exact hsecret.trans hstored
  · obtain ⟨hmem, hrequestKey⟩ :=
      h.requests operation (List.mem_of_getElem? hoperation) request hrequest
    have hcredential : request.credential = credential := by
      refine h.credential_unique hmem hstaged ?_
      rw [← hrequestKey, ← hkey, hsame]
    rw [← hcredential]
    exact hsecret
  · refine absurd ?_ hkept
    simp [SetupWorld.deletes, hoperation, hkey]

theorem Inv.access (h : world.Inv viem) (installationEpoch : String) (i : ℕ)
    (fault : Option Failure) :
    ({ world with
        vault := world.vault.advance installationEpoch i fault
        deleted := world.deleted ++ world.deletes i fault } : SetupWorld).Inv viem := by
  cases hoperation : world.vault.operations[i]? with
  | none =>
    have hvault : world.vault.advance installationEpoch i fault = world.vault := by
      simp [CredentialVault.advance, hoperation]
    have hdeletes : world.deletes i fault = [] := by
      simp [SetupWorld.deletes, hoperation]
    rw [hvault, hdeletes, List.append_nil]
    exact h
  | some operation =>
    obtain ⟨next, haccess⟩ :=
      CredentialVault.accessed installationEpoch hoperation fault
    rw [show world.vault.advance installationEpoch i fault =
        world.vault.access installationEpoch i operation fault by
      simp [CredentialVault.advance, hoperation]]
    set vault := world.vault.access installationEpoch i operation fault
    have hmem : ∀ {other}, other ∈ vault.operations →
        other ∈ world.vault.operations ∨ other = next := by
      intro other hother
      rw [haccess.operations] at hother
      exact List.mem_or_eq_of_mem_set hother
    have hdeletes : ∀ {key}, key ∈ world.deletes i fault →
        world.Condemned key := by
      intro key hkey
      unfold SetupWorld.deletes at hkey
      split at hkey
      · rename_i bindingId hdelete
        rw [List.mem_singleton.mp hkey]
        exact .inr ⟨_, List.mem_of_getElem? hdelete, rfl⟩
      · cases hkey
    have hcondemned : ∀ {key}, ({ world with
        vault := vault
        deleted := world.deleted ++ world.deletes i fault } :
          SetupWorld).Condemned key → world.Condemned key := by
      rintro key (hdeleted | ⟨other, hother, hkey⟩)
      · rcases List.mem_append.mp hdeleted with hold | hnew
        · exact .inl hold
        · exact hdeletes hnew
      · rcases hmem hother with hold | rfl
        · exact .inr ⟨other, hold, hkey⟩
        · unfold VaultOperation.removes at hkey
          split at hkey
          · exact absurd rfl (haccess.deletes _)
          · exact hkey.elim
    constructor
    · exact h.normal
    · exact h.apart
    · exact h.known
    · exact h.rows
    · intro other hother request hrequest
      rcases hmem hother with hold | rfl
      · exact h.requests other hold request hrequest
      · exact h.requests operation (List.mem_of_getElem? hoperation) request
          (haccess.request request hrequest)
    · intro j attempt n hj
      have hstaging := h.staging j attempt n hj
      refine ⟨hstaging.normal, hstaging.known, hstaging.free,
        fun hcond => hstaging.kept (hcondemned hcond), ?_⟩
      obtain ⟨current, hcurrent, hprogress⟩ := hstaging.progress
      have hkept : attempt.binding.credentialKey viem ∉
          world.deletes i fault :=
        fun hdelete => hstaging.kept (hdeletes hdelete)
      rw [haccess.operations]
      by_cases hn : n = i
      · subst hn
        obtain rfl : operation = current := by
          rw [hoperation] at hcurrent
          exact Option.some.inj hcurrent
        obtain ⟨hlt, -⟩ := List.getElem?_eq_some_iff.mp hoperation
        refine ⟨next, List.getElem?_set_self hlt, ?_⟩
        rcases hprogress with ⟨request, hrequest, hsame⟩ | ⟨failure, rfl⟩ |
          ⟨rfl, hholds⟩
        · rcases haccess.staged request hrequest with
            hnext | hfailed | ⟨hdone, hstored⟩
          · exact .inl ⟨request, hnext, hsame⟩
          · exact .inr (.inl hfailed)
          · obtain ⟨hstaged, hkey⟩ := h.requests operation
              (List.mem_of_getElem? hoperation) request hrequest
            rw [hkey, hsame] at hstored
            exact .inr (.inr ⟨hdone, request.credential, hstaged, hsame, hstored⟩)
        · exact .inr (.inl ⟨failure, haccess.finished _ rfl⟩)
        · exact .inr (.inr ⟨haccess.finished _ rfl,
            h.holds_accessed haccess hoperation hholds hkept⟩)
      · refine ⟨current, ?_, ?_⟩
        · rw [List.getElem?_set_ne (fun hsame => hn hsame.symm)]
          exact hcurrent
        · rcases hprogress with hrequest | hfailed | ⟨hdone, hholds⟩
          · exact .inl hrequest
          · exact .inr (.inl hfailed)
          · exact .inr (.inr ⟨hdone, h.holds_accessed haccess hoperation hholds hkept⟩)
    · exact h.stagings
    · exact h.verifying
    · intro key hcond
      exact h.condemned key (hcondemned hcond)
    · intro row hrow hundeleted
      rw [List.mem_append, not_or] at hundeleted
      exact h.holds_accessed haccess hoperation
        (h.held row hrow hundeleted.1) hundeleted.2
    · intro row hrow hstatus hcond
      exact h.consumed row hrow hstatus (hcondemned hcond)
    · exact h.active

theorem Inv.crash (h : world.Inv viem) :
    ({ world with vault := world.vault.crash, runs := [] } : SetupWorld).Inv viem := by
  have hcondemned : ∀ {key}, ({ world with
      vault := world.vault.crash, runs := [] } : SetupWorld).Condemned key →
        world.Condemned key := by
    rintro key (hdeleted | ⟨other, hother, -⟩)
    · exact .inl hdeleted
    · cases hother
  constructor
  · exact h.normal
  · exact h.apart
  · exact h.known
  · exact h.rows
  · intro operation hoperation
    cases hoperation
  · intro i attempt operation hrun
    cases hrun
  · intro i j a b m n hrun
    cases hrun
  · intro i attempt now hrun
    cases hrun
  · intro key hcond
    exact h.condemned key (hcondemned hcond)
  · exact h.held
  · intro row hrow hstatus hcond
    exact h.consumed row hrow hstatus (hcondemned hcond)
  · exact h.active

/-! ### Moves -/

def Sound (viem : Viem) (fault : Option Failure) (world : SetupWorld) :
    SetupMove → Prop
  | .go run => run.Idle world.tables
  | .remove attempt _ _ => (∃ row ∈ world.tables.attempts,
      row.attempt = attempt ∧ row.status ≠ .consumed)
  | .activate attempt _ _ => (∃ row ∈ world.tables.attempts,
      row.attempt = attempt) ∧ (fault = none → world.tables.isPending viem attempt.id = true →
          ¬ world.Condemned (attempt.binding.credentialKey viem))
  | .cancel _ _ _ => True
  | .stage _ _ => False
  | .create _ => False

theorem Inv.row_unique (h : world.Inv viem) {a b : SetupAttemptRow}
    (ha : a ∈ world.tables.attempts) (hb : b ∈ world.tables.attempts)
    (hkey : a.key viem = b.key viem) : a = b :=
  List.inj_on_of_nodup_map h.rows ha hb hkey

theorem Inv.perform (h : world.Inv viem) (hsound : world.Sound viem fault move) :
    (world.perform viem fault move).1.Inv viem ∧
      (world.perform viem fault move).2.Idle (world.perform viem fault move).1.tables := by
  cases move with
  | go run => exact ⟨h, hsound⟩
  | remove attempt reason rest =>
    obtain ⟨row, hrow, rfl, hstatus⟩ := hsound
    have hnormal := h.normal row hrow
    simp only [SetupWorld.perform]
    split
    · exact ⟨h, trivial⟩
    · rename_i binding hbinding
      obtain rfl : row.attempt.binding = binding := by
        rw [SignerBinding.Normal] at hnormal
        rw [bindingFromAttempt, hnormal] at hbinding
        exact Except.ok.inj hbinding
      refine ⟨h.delete hnormal (h.known row hrow) ?_ ?_, trivial⟩
      · intro other hother hconsumed hkey
        obtain rfl := h.row_unique hother hrow hkey
        exact hstatus hconsumed
      · intro i attempt operation hrun hkey
        exact (h.staging i attempt operation hrun).free row hrow hkey.symm
  | activate attempt effectiveExpiry now =>
    obtain ⟨⟨row, hrow, rfl⟩, hfree⟩ := hsound
    simp only [SetupWorld.perform]
    have htables : ∀ activated tables, consumeAndActivate viem fault
        row.attempt.id row.attempt effectiveExpiry now world.tables =
          (.ok activated, tables) →
        ({ world with tables := tables } : SetupWorld).Inv viem := by
      intro activated tables hconsume
      rcases consumeAndActivate_ok h.normal (h.normal row hrow) hconsume with
        rfl | ⟨stored, hstored, hbinding, -, hfault, hpending, set, hattempts,
          hset, hconsumed, hbindings⟩
      · exact h
      · refine h.update hattempts (fun other hother => (hset other hother).1) ?_ ?_
        · intro other hother hstatus
          by_cases hsame : other = stored
          · subst hsame
            rw [SetupAttemptRow.key, hbinding]
            exact .inr (hfree hfault hpending)
          · rw [(hset other hother).2 hsame] at hstatus
            exact .inl hstatus
        · intro binding hmem
          rcases hbindings binding hmem with hnew | ⟨old, hold, hsame⟩
          · exact ⟨stored, hstored, hconsumed, by rw [hbinding, hnew]⟩
          · obtain ⟨other, hother, hstatus, hotherBinding⟩ := h.active old hold
            refine ⟨other, hother, ?_, hotherBinding.trans hsame⟩
            by_cases hstoredSame : other = stored
            · rw [hstoredSame]
              exact hconsumed
            · rw [(hset other hother).2 hstoredSame]
              exact hstatus
    split
    · exact ⟨h, trivial⟩
    · rename_i hconsume
      exact ⟨htables _ _ hconsume, trivial⟩
    · rename_i hconsume
      exact ⟨htables _ _ hconsume, trivial⟩
  | cancel attempt reason rest =>
    simp only [SetupWorld.perform]
    split
    · exact ⟨h, trivial⟩
    · rename_i tables hcancel
      obtain ⟨set, rfl, hset⟩ := cancelAttempt_ok hcancel
      refine ⟨h.update rfl (fun row _ => (hset row).1) ?_ ?_, ?_⟩
      · intro row hrow hstatus
        rcases (hset row).2 with hsame | ⟨-, hcancelled⟩
        · rw [hsame] at hstatus
          exact .inl hstatus
        · rw [hcancelled] at hstatus
          cases hstatus
      · intro row hrow
        obtain ⟨other, hother, hstatus, hsame⟩ := h.active row hrow
        refine ⟨other, hother, ?_, hsame⟩
        rcases (hset other).2 with hkept | ⟨hpending, -⟩
        · rw [hkept]
          exact hstatus
        · rw [hpending] at hstatus
          cases hstatus
      · unfold SetupWorld.afterRemoval
        split
        · split <;> trivial
        · trivial
  | stage attempt credential => exact hsound.elim
  | create attempt => exact hsound.elim

theorem Inv.decided (h : world.Inv viem)
    (hsound : ∀ move, outcome = .ok move → world.Sound viem fault move) :
    (world.decided viem fault outcome).1.Inv viem ∧
      (world.decided viem fault outcome).2.Idle (world.decided viem fault outcome).1.tables := by
  cases outcome with
  | error failure => exact ⟨h, trivial⟩
  | ok move => exact h.perform (hsound move rfl)

theorem Inv.start (h : world.Inv viem)
    (hsound : ∀ move, outcome = .ok move → world.Sound viem none move) :
    (world.start viem outcome).Inv viem := by
  obtain ⟨hinv, hidle⟩ := h.decided hsound
  refine hinv.runs fun j run hrun => ?_
  rcases getElem?_append_cases hrun with hold | ⟨-, rfl⟩
  · exact .inl hold
  · exact .inr hidle

theorem Inv.goOn (h : world.Inv viem)
    (hsound : ∀ move, outcome = .ok move → world.Sound viem fault move) :
    (world.goOn viem fault i outcome).Inv viem := by
  obtain ⟨hinv, hidle⟩ := h.decided hsound
  refine hinv.runs fun j run hrun => ?_
  rcases getElem?_set_cases hrun with ⟨-, rfl⟩ | ⟨-, hold⟩
  · exact .inr hidle
  · exact .inl hold

theorem Inv.thrown (h : world.Inv viem) (i : ℕ)
    (failure : Failure) : (world.goOn viem fault i (.error failure)).Inv viem := by
  refine h.goOn fun move hmove => ?_
  cases hmove

theorem prepareGenerated_ok (hviem : viem.Documented) {material : SetupMaterial}
    (h : SetupCoordinator.prepareGenerated viem preparation authoritativeTime
      generation material = .ok move) :
    ∃ attempt credential, move = .stage attempt credential ∧
      attempt.binding = credential.binding ∧ credential.binding.Normal viem := by
  simp only [SetupCoordinator.prepareGenerated, except_bind_eq_ok] at h
  obtain ⟨_, -, binding, hbinding, hmove⟩ := h
  refine ⟨_, _, (Except.ok.inj hmove).symm, ?_, normalizeSignerBinding_normal hviem hbinding⟩
  obtain ⟨-, hnetwork, -⟩ := normalizeSignerBinding_eq_ok.mp hbinding
  cases binding with
  | mk network masterAccount targetAccount agentAddress generation =>
    obtain rfl : network = preparation.target.network := hnetwork
    rfl

theorem Inv.generated (hviem : viem.Documented) (h : world.Inv viem) (hrun : world.runs[i]? =
      some (.generating preparation authoritativeTime generation))
    (material : Outcome SetupMaterial) (hfresh : world.Fresh viem (.generated i material)) :
    (world.goOn viem none i (material >>= SetupCoordinator.prepareGenerated viem
      preparation authoritativeTime generation)).Inv viem := by
  cases material with
  | error failure =>
    change (world.goOn viem none i (.error failure)).Inv viem
    exact h.thrown i failure
  | ok material =>
    simp only [SetupWorld.Fresh, hrun] at hfresh
    change (world.goOn viem none i (SetupCoordinator.prepareGenerated viem
      preparation authoritativeTime generation material)).Inv viem
    cases hmove : SetupCoordinator.prepareGenerated viem preparation
        authoritativeTime generation material with
    | error failure => exact h.thrown i failure
    | ok move =>
      obtain ⟨attempt, credential, rfl, hbinding, hnormal⟩ :=
        prepareGenerated_ok hviem hmove
      rw [hmove] at hfresh
      refine h.stage i hbinding hnormal hfresh fun j run hj => ?_
      rcases getElem?_set_cases hj with hnew | ⟨-, hold⟩
      · exact .inr hnew
      · exact .inl hold

theorem Inv.created (h : world.Inv viem) {u : Unit}
    (hrun : world.runs[i]? = some (.staging attempt operation))
    (hdone : world.vault.operations[operation]? = some (.finished (.ok u))) :
    (world.goOn viem fault i (.ok (.create attempt))).Inv viem := by
  have hstaging := h.staging i attempt operation hrun
  have hidle : ∀ run : SetupRun, run.Idle world.tables →
      ({ world with runs := world.runs.set i run } : SetupWorld).Inv viem ∧
      ∀ (j : ℕ) (other : SetupAttempt) (n : ℕ),
        (world.runs.set i run)[j]? = some (.staging other n) →
          other.binding.credentialKey viem ≠
            attempt.binding.credentialKey viem := by
    intro run hrunIdle
    constructor
    · refine h.runs fun j other hj => ?_
      rcases getElem?_set_cases hj with ⟨-, rfl⟩ | ⟨-, hold⟩
      · exact .inr hrunIdle
      · exact .inl hold
    · intro j other n hj hkey
      rcases getElem?_set_cases hj with ⟨-, rfl⟩ | ⟨hother, hold⟩
      · exact hrunIdle.elim
      · exact hother (h.stagings j i other attempt n operation hold hrun hkey)
  have hholds : world.Holds viem attempt.binding := by
    obtain ⟨current, hcurrent, hprogress⟩ := hstaging.progress
    rw [hdone] at hcurrent
    obtain rfl := Option.some.inj hcurrent
    rcases hprogress with ⟨request, hrequest, -⟩ | ⟨failure, hfailed⟩ | ⟨-, hheld⟩
    · cases hrequest
    · cases hfailed
    · exact hheld
  simp only [SetupWorld.goOn, SetupWorld.decided, SetupWorld.perform]
  split
  · rename_i tables hcreate
    obtain ⟨row, rfl, rfl, hpending⟩ := createAttempt_ok hstaging.normal hcreate
    obtain ⟨hinv, hothers⟩ := hidle (.finished (.prepared row.attempt)) trivial
    exact hinv.create hstaging.normal hstaging.known hstaging.free hpending hholds
      hothers
  · rename_i failure _ _
    obtain ⟨hinv, hothers⟩ := hidle
      (.unstaging world.vault.operations.length failure) trivial
    refine hinv.delete hstaging.normal hstaging.known ?_ hothers
    exact fun row hrow _ => hstaging.free row hrow

theorem Inv.resumed (h : world.Inv viem)
    {run : SetupRun} {result : Outcome Unit} (hrun : world.runs[i]? = some run)
    (hoperation : run.operation = some operation)
    (hdone : world.vault.operations[operation]? = some (.finished result)) :
    (world.goOn viem fault i (.ok (SetupCoordinator.resume run result))).Inv viem := by
  have hsound : ∀ {move}, world.Sound viem fault move →
      (world.goOn viem fault i (.ok move)).Inv viem := by
    intro move hmove
    refine h.goOn fun other hother => ?_
    rw [← Except.ok.inj hother]
    exact hmove
  cases run with
  | inspecting preparation => cases hoperation
  | generating preparation authoritativeTime generation => cases hoperation
  | verifying attempt now => cases hoperation
  | finished result => cases hoperation
  | staging attempt n =>
    obtain rfl := Option.some.inj hoperation
    cases result with
    | error failure => exact hsound trivial
    | ok _ => exact h.created hrun hdone
  | unstaging n failure => cases result <;> exact hsound trivial
  | removing attempt reason n rest => cases result <;> exact hsound trivial

theorem Inv.pending_row (h : world.Inv viem) {id : String}
    (hattempt : world.tables.getPendingAttempt viem id = .ok (some attempt)) :
    ∃ row ∈ world.tables.attempts, row.attempt = attempt ∧
      row.status ≠ .consumed := by
  obtain ⟨row, hrow, hpending, hsame, -⟩ :=
    SetupTables.getPendingAttempt_some h.normal hattempt
  exact ⟨row, hrow, hsame, by simp [hpending]⟩

/-- A step that consumes no condemned attempt and removes no consumed one keeps the invariant. -/
theorem Inv.step (hviem : viem.Documented) (h : world.Inv viem)
    (installationEpoch : String) (event : SetupEvent)
    (hfresh : world.Fresh viem event) (horderly : world.Orderly viem event) :
    (world.step viem installationEpoch event).Inv viem := by
  cases event with
  | prepare input =>
    refine h.start fun move hmove => ?_
    simp only [SetupCoordinator.prepare, except_bind_eq_ok] at hmove
    obtain ⟨_, -, _, -, _, -, _, -, hmove⟩ := hmove
    obtain rfl := Except.ok.inj hmove
    trivial
  | inspected i inspection =>
    simp only [SetupWorld.step]
    split
    · refine h.goOn fun move hmove => ?_
      simp only [SetupCoordinator.prepareInspected, except_bind_eq_ok] at hmove
      obtain ⟨_, -, _, -, _, -, found, hfound, hmove⟩ := hmove
      split at hmove
      · simp only [except_bind_eq_ok] at hmove
        obtain ⟨_, -, hmove⟩ := hmove
        obtain rfl := Except.ok.inj hmove
        obtain ⟨row, hrow, hpending, hsame⟩ :=
          SetupTables.getPendingAttemptForTarget_some h.normal hfound
        exact ⟨row, hrow, hsame, by simp [hpending]⟩
      · simp only [except_bind_eq_ok] at hmove
        obtain ⟨_, -, hmove⟩ := hmove
        obtain rfl := Except.ok.inj hmove
        trivial
    · exact h
  | generated i material =>
    simp only [SetupWorld.step]
    split
    · rename_i hrun
      exact h.generated hviem hrun material hfresh
    · exact h
  | requestApproval attemptId now =>
    refine h.start fun move hmove => ?_
    simp only [SetupCoordinator.requestApproval, except_bind_eq_ok] at hmove
    obtain ⟨found, hfound, hmove⟩ := hmove
    split at hmove
    · cases hmove
    · split at hmove
      · obtain rfl := Except.ok.inj hmove
        exact h.pending_row hfound
      · obtain rfl := Except.ok.inj hmove
        trivial
  | verify input now =>
    refine h.start fun move hmove => ?_
    simp only [SetupCoordinator.verify, except_bind_eq_ok] at hmove
    obtain ⟨found, hfound, hmove⟩ := hmove
    split at hmove
    · obtain rfl := Except.ok.inj hmove
      trivial
    · split at hmove
      · obtain rfl := Except.ok.inj hmove
        trivial
      · split at hmove
        · obtain rfl := Except.ok.inj hmove
          exact h.pending_row hfound
        · obtain rfl := Except.ok.inj hmove
          obtain ⟨row, hrow, hsame, -⟩ := h.pending_row hfound
          exact ⟨row, hrow, hsame⟩
  | proved i proof fault =>
    simp only [SetupWorld.step]
    split
    · rename_i attempt now hrun
      obtain ⟨row, hrow, rfl⟩ := h.verifying i attempt now hrun
      cases proof with
      | error failure => exact h.thrown i failure
      | ok proof =>
        refine h.goOn fun move hmove => ?_
        change SetupCoordinator.verifyProof viem row.attempt now proof =
          .ok move at hmove
        simp only [SetupWorld.Orderly, hrun, hmove] at horderly
        simp only [SetupCoordinator.verifyProof, except_bind_eq_ok] at hmove
        obtain ⟨_, -, hmove⟩ := hmove
        split at hmove
        · obtain rfl := Except.ok.inj hmove
          exact ⟨row, hrow, rfl, horderly row hrow rfl⟩
        · split at hmove
          · obtain rfl := Except.ok.inj hmove
            trivial
          · obtain rfl := Except.ok.inj hmove
            exact ⟨⟨row, hrow, rfl⟩, horderly⟩
    · exact h
  | cancel attemptId =>
    refine h.start fun move hmove => ?_
    simp only [SetupCoordinator.cancel, except_bind_eq_ok] at hmove
    obtain ⟨found, hfound, hmove⟩ := hmove
    split at hmove
    · obtain rfl := Except.ok.inj hmove
      trivial
    · obtain rfl := Except.ok.inj hmove
      exact h.pending_row hfound
  | resume i fault =>
    simp only [SetupWorld.step]
    split
    · exact h
    · rename_i run hrun
      split
      · rename_i result hdone
        obtain ⟨operation, hoperation, hdone⟩ := Option.bind_eq_some_iff.mp hdone
        exact h.resumed hrun hoperation hdone
      · exact h
  | vault operation fault => exact h.access installationEpoch operation fault
  | crash => exact h.crash

end SetupWorld

/-- **The secret of an activated signer**: in a run that activates no removed
attempt and removes no activated one, every binding that was ever activated has
the credential staged for it in the vault, and that credential was never
deleted. -/
theorem activated_secret_kept (viem : Viem) (hviem : viem.Documented)
    (installationEpoch : String) (store : SecureStore) (events : List SetupEvent)
    (hfresh : Along (SetupWorld.step viem installationEpoch)
      (SetupWorld.Fresh viem) (.opened store) events)
    (horderly : Along (SetupWorld.step viem installationEpoch)
      (SetupWorld.Orderly viem) (.opened store) events) :
    let world := run (SetupWorld.step viem installationEpoch) (.opened store) events
    ∀ row ∈ world.tables.bindings, world.Holds viem row.binding ∧
      row.binding.credentialKey viem ∉ world.deleted := by
  intro world row hrow
  have hinv : world.Inv viem := by
    refine run_invariant_along ?_ (SetupWorld.Inv.opened viem store)
      (along_and.mpr ⟨hfresh, horderly⟩)
    rintro world event h ⟨hfresh, horderly⟩
    exact h.step hviem installationEpoch event hfresh horderly
  obtain ⟨attempt, hattempt, hstatus, hsame⟩ := hinv.active row hrow
  have hundeleted : attempt.key viem ∉ world.deleted :=
    fun hdeleted => hinv.consumed attempt hattempt hstatus (.inl hdeleted)
  rw [← hsame]
  exact ⟨hinv.held attempt hattempt hundeleted, hundeleted⟩

/-! ### An activation during a removal -/

def setupViem : Viem where
  getAddress address :=
    if address = "0x1111111111111111111111111111111111111111" ∨
        address = "0x3333333333333333333333333333333333333333" then
      some address
    else none
  keccak256 _ :=
    "0x997a87317f17c4d078dabcf6e77471118cf0274de89ee5dadaf48ebaaa5d30a5"
  keccak256Bytes _ := ""

theorem setupViem_documented : setupViem.Documented := by
  constructor
  intro address checksummed h
  simp only [setupViem, Option.ite_none_right_eq_some, Option.some.injEq] at h
  obtain ⟨rfl | rfl, rfl⟩ := h <;> decide

def sampleAttemptId : String :=
  "0x5555555555555555555555555555555555555555555555555555555555555555"

def preparedAttempt : List SetupEvent :=
  [.prepare ⟨.testnet, "session", "0x1111111111111111111111111111111111111111",
      "0x1111111111111111111111111111111111111111", "Hyper Trader"⟩,
    .inspected 0 (.ok ⟨1000, true⟩), .generated 0 (.ok ⟨List.replicate 32 7,
      "0x3333333333333333333333333333333333333333", sampleAttemptId⟩),
    .vault 0 none, .vault 0 none, .vault 0 none, .resume 0 none]

def sampleProof : RegistrationProof where
  authoritativeTime := 2000
  targetAuthorized := true
  registration :=
    some ⟨"0x3333333333333333333333333333333333333333", some 2592001000⟩

/-- The attempt is cancelled while it is being verified; the proof arrives when
the secret is deleted and the attempt not yet marked. -/
def cancelledDuringVerification : List SetupEvent :=
  preparedAttempt ++
    [.verify ⟨sampleAttemptId, "session"⟩ 2000, .cancel sampleAttemptId,
      .vault 1 none, .proved 1 (.ok sampleProof) none]

theorem activated_without_secret :
    let world := run (SetupWorld.step setupViem sampleEpoch) (.opened emptyStore)
      cancelledDuringVerification
    Along (SetupWorld.step setupViem sampleEpoch) (SetupWorld.Fresh setupViem)
        (.opened emptyStore) cancelledDuringVerification ∧
      ∃ row ∈ world.tables.bindings, row.status = .active ∧
        (world.vault.store.secrets (row.binding.credentialKey setupViem)).isNone = true := by
  decide

/-- A cleanup that has read the vault deletes a secret activated meanwhile. -/
theorem activated_secret_not_kept :
    ¬ ∀ (viem : Viem), viem.Documented → ∀ (installationEpoch : String)
      (store : SecureStore) (events : List SetupEvent),
      Along (SetupWorld.step viem installationEpoch) (SetupWorld.Fresh viem)
        (.opened store) events →
      let world := run (SetupWorld.step viem installationEpoch) (.opened store)
        events
      ∀ row ∈ world.tables.bindings, world.Holds viem row.binding ∧
        row.binding.credentialKey viem ∉ world.deleted := by
  intro h
  obtain ⟨hfresh, row, hrow, -, habsent⟩ := activated_without_secret
  obtain ⟨⟨credential, -, -, hstored⟩, -⟩ := h setupViem setupViem_documented
    sampleEpoch emptyStore cancelledDuringVerification hfresh row hrow
  rw [hstored] at habsent
  cases habsent

def verifiedAttempt : List SetupEvent :=
  preparedAttempt ++
    [.verify ⟨sampleAttemptId, "session"⟩ 2000, .proved 1 (.ok sampleProof) none,
      .cancel sampleAttemptId, .crash]

theorem activated_secret_kept_verifiedAttempt :
    let world := run (SetupWorld.step setupViem sampleEpoch) (.opened emptyStore)
      verifiedAttempt
    ∀ row ∈ world.tables.bindings, world.Holds setupViem row.binding ∧
      row.binding.credentialKey setupViem ∉ world.deleted :=
  activated_secret_kept setupViem setupViem_documented sampleEpoch emptyStore
    verifiedAttempt (by decide) (by decide)

end HyperTrader
