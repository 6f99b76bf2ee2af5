import HyperTrader.Custody.Vault
import HyperTrader.Library.Machine
import HyperTrader.Library.Processes

/-!
# The custody manifest covers the secrets

Stagings and deletions of any credentials, interleaved at every access, with the
process ending between any two. The manifest is one document, so an operation
that rewrites it from what it read puts back what was there then: when another
operation has written in between, that write is lost, and with it the entry of a
secret. `VaultEvent.Disturbed` names the writes that can lose one; a run without
them keeps an entry for every secret.
-/

namespace HyperTrader

open Library

inductive VaultEvent where
  | stage (input : StoredCredential)
  | delete (binding : SignerBinding)
  | advance (operation : ℕ) (fault : Option Failure)
  | crash

def CredentialVault.step (viem : Viem) (installationEpoch : String)
    (vault : CredentialVault) : VaultEvent → CredentialVault
  | .stage input => vault.stage viem input
  | .delete binding => vault.delete viem binding
  | .advance i fault => vault.advance installationEpoch i fault
  | .crash => vault.crash

def Covers (manifest : Option CustodyManifest) (key : String) : Prop :=
  ∃ document ∈ manifest, ∃ record ∈ document.records,
    credentialKey record.bindingId = key

instance (manifest : Option CustodyManifest) (key : String) : Decidable (Covers manifest key) :=
  inferInstanceAs (Decidable (∃ _ ∈ _, _))

def SecureStore.Complete (store : SecureStore) : Prop :=
  ∀ key, store.secrets key ≠ none → Covers store.manifest key

/-- The operation has entered its credential in the manifest and is about to
write the secret. -/
def VaultOperation.owes (operation : VaultOperation) (key : String) : Prop :=
  match operation with
  | .stageSecret request _ _ => request.key = key
  | _ => False

instance (operation : VaultOperation) (key : String) : Decidable (operation.owes key) := by
  unfold VaultOperation.owes
  split <;> infer_instance

/-- The next access of the operation would rewrite the manifest although another
operation has written it since, or drop the entry of a credential whose secret
is stored or about to be. -/
def VaultOperation.Disturbed (operation : VaultOperation) (vault : CredentialVault) : Prop :=
  match operation with
  | .stageManifest _ _ seen => seen ≠ vault.writes
  | .stageRestore _ _ seen _ => seen ≠ vault.writes
  | .deleteManifest bindingId _ seen => seen ≠ vault.writes ∨
      (vault.store.secrets (credentialKey bindingId)).isSome = true ∨
      ∃ other ∈ vault.operations, other.owes (credentialKey bindingId)
  | _ => False

instance (operation : VaultOperation) (vault : CredentialVault) :
    Decidable (operation.Disturbed vault) := by
  unfold VaultOperation.Disturbed
  split <;> infer_instance

def CredentialVault.Undisturbed (vault : CredentialVault) :
    VaultEvent → Prop
  | .advance i none => ∀ operation ∈ vault.operations[i]?,
      ¬ operation.Disturbed vault
  | _ => True

instance (vault : CredentialVault) (event : VaultEvent) : Decidable (vault.Undisturbed event) := by
  unfold CredentialVault.Undisturbed
  split <;> infer_instance

/-! ### Entries -/

theorem covers_nextManifest_self (installationEpoch : String)
    (entry : CustodyManifestRecord) (existing : Option CustodyManifest) :
    Covers (some (nextManifest installationEpoch entry existing))
      (credentialKey entry.bindingId) := by
  refine ⟨_, rfl, ?_⟩
  simp only [nextManifest]
  split
  · rename_i hpresent
    obtain ⟨record, hrecord, hid⟩ := List.any_eq_true.mp hpresent
    exact ⟨record, hrecord, by rw [eq_of_beq hid]⟩
  · exact ⟨entry, by simp, rfl⟩

variable {key : String}

theorem Covers.next {existing : Option CustodyManifest}
    (h : Covers existing key) (installationEpoch : String) (entry : CustodyManifestRecord) :
    Covers (some (nextManifest installationEpoch entry existing)) key := by
  obtain ⟨document, hdocument, record, hrecord, hkey⟩ := h
  have hmem : record ∈ ((existing.map CustodyManifest.records).getD []) := by
    rw [Option.mem_def.mp hdocument]
    exact hrecord
  refine ⟨_, rfl, record, ?_, hkey⟩
  simp only [nextManifest]
  split
  · exact hmem
  · exact List.mem_append_left _ hmem

theorem Covers.without {existing : CustodyManifest} {bindingId : String}
    (h : Covers (some existing) key) (hkey : credentialKey bindingId ≠ key) :
    Covers (some (existing.without bindingId)) key := by
  obtain ⟨document, hdocument, record, hrecord, hrecordKey⟩ := h
  obtain rfl := Option.mem_some.mp hdocument
  refine ⟨_, rfl, record, ?_, hrecordKey⟩
  refine List.mem_filter.mpr ⟨hrecord, ?_⟩
  rw [bne_iff_ne]
  intro hsame
  exact hkey (by rw [← hsame, hrecordKey])

/-! ### The invariant -/

/-- The manifest covers the stored secrets and the owed ones, those of the
operations at the positions of `among`. -/
def CredentialVault.CoveredBy (vault : CredentialVault)
    (manifest : Option CustodyManifest) (among : ℕ → Prop) : Prop :=
  (∀ key, vault.store.secrets key ≠ none → Covers manifest key) ∧
    ∀ i operation key, among i → vault.operations[i]? = some operation →
      operation.owes key → Covers manifest key

/-- What the operation at position `i` knows while no other operation has
written the manifest. -/
def CredentialVault.Knows (vault : CredentialVault) (i : ℕ) :
    VaultOperation → Prop
  | .stageManifest _ existing seen => seen = vault.writes →
      existing = vault.store.manifest
  | .stageSecret _ existing seen => seen = vault.writes →
      vault.CoveredBy existing (· ≠ i)
  | .stageRestore _ existing seen _ => seen = vault.writes →
      vault.CoveredBy existing (· ≠ i)
  | .deleteManifest _ existing seen => seen = vault.writes →
      some existing = vault.store.manifest
  | _ => True

def VaultOperation.seenBefore (writes : ℕ) : VaultOperation → Prop
  | .stageManifest _ _ seen => seen ≤ writes
  | .stageSecret _ _ seen => seen ≤ writes
  | .stageRestore _ _ seen _ => seen ≤ writes
  | .deleteManifest _ _ seen => seen ≤ writes
  | _ => True

namespace CredentialVault

structure Inv (vault : CredentialVault) : Prop where
  covered : vault.CoveredBy vault.store.manifest fun _ => True
  knows : ∀ (i : ℕ) (operation : VaultOperation),
    vault.operations[i]? = some operation → vault.Knows i operation
  seen : ∀ (i : ℕ) (operation : VaultOperation),
    vault.operations[i]? = some operation → operation.seenBefore vault.writes

variable {vault : CredentialVault} {after : CredentialVault} {manifest : Option CustodyManifest}
  {i : ℕ} {operation : VaultOperation} {store : SecureStore}

/-- What is covered stays covered when no secret and no debt is added that the
manifest does not cover, and the manifest loses no entry. -/
theorem CoveredBy.mono {manifest' : Option CustodyManifest} {among among' : ℕ → Prop}
    (h : vault.CoveredBy manifest among) (hsecrets : ∀ key, after.store.secrets key ≠ none →
      (vault.store.secrets key ≠ none ∧
        (Covers manifest key → Covers manifest' key)) ∨ Covers manifest' key)
    (howed : ∀ i operation key, among' i → after.operations[i]? = some operation →
      operation.owes key → (among i ∧ vault.operations[i]? = some operation ∧
          (Covers manifest key → Covers manifest' key)) ∨ Covers manifest' key) :
    after.CoveredBy manifest' among' := by
  constructor
  · intro key hkey
    rcases hsecrets key hkey with ⟨hold, hkept⟩ | hcovers
    · exact hkept (h.1 key hold)
    · exact hcovers
  · intro i operation key hi hoperation howes
    rcases howed i operation key hi hoperation howes with
      ⟨hamong, hold, hkept⟩ | hcovers
    · exact hkept (h.2 i operation key hamong hold howes)
    · exact hcovers

theorem knows_of_stale (h : operation.seenBefore vault.writes)
    (hwrites : after.writes = vault.writes + 1) : after.Knows i operation := by
  cases operation with
  | stageManifest request existing seen =>
    intro hseen
    exact absurd h (by rw [hseen, hwrites]; exact Nat.not_succ_le_self _)
  | stageSecret request existing seen =>
    intro hseen
    exact absurd h (by rw [hseen, hwrites]; exact Nat.not_succ_le_self _)
  | stageRestore request existing seen failure =>
    intro hseen
    exact absurd h (by rw [hseen, hwrites]; exact Nat.not_succ_le_self _)
  | deleteManifest bindingId existing seen =>
    intro hseen
    exact absurd h (by rw [hseen, hwrites]; exact Nat.not_succ_le_self _)
  | _ => trivial

theorem seenBefore.succ {writes : ℕ}
    (h : operation.seenBefore writes) : operation.seenBefore (writes + 1) := by
  cases operation with
  | stageManifest request existing seen => exact Nat.le_succ_of_le h
  | stageSecret request existing seen => exact Nat.le_succ_of_le h
  | stageRestore request existing seen failure => exact Nat.le_succ_of_le h
  | deleteManifest bindingId existing seen => exact Nat.le_succ_of_le h
  | _ => trivial

/-- What an operation knows survives a step that leaves the manifest alone and
adds no secret and no debt that it does not know of. -/
theorem Knows.mono (h : vault.Knows i operation) (hwrites : after.writes = vault.writes)
    (hmanifest : after.store.manifest = vault.store.manifest)
    (hcovered : ∀ existing, vault.CoveredBy existing (· ≠ i) →
      after.CoveredBy existing (· ≠ i)) : after.Knows i operation := by
  cases operation with
  | stageManifest request existing seen =>
    intro hseen
    exact (h (hseen.trans hwrites)).trans hmanifest.symm
  | stageSecret request existing seen =>
    intro hseen
    exact hcovered existing (h (hseen.trans hwrites))
  | stageRestore request existing seen failure =>
    intro hseen
    exact hcovered existing (h (hseen.trans hwrites))
  | deleteManifest bindingId existing seen =>
    intro hseen
    exact (h (hseen.trans hwrites)).trans hmanifest.symm
  | _ => trivial

theorem Inv.proceed (h : vault.Inv) (i : ℕ) {next : VaultOperation}
    (hnext : ∀ key, ¬ next.owes key) (hseen : next.seenBefore vault.writes)
    (hmanifest : store.manifest = vault.store.manifest)
    (hsecrets : ∀ key, store.secrets key ≠ none → vault.store.secrets key ≠ none ∨
        ∃ operation, vault.operations[i]? = some operation ∧ operation.owes key)
    (hknows : (CredentialVault.proceed { vault with store := store } i next).Knows i next) :
    Inv (CredentialVault.proceed { vault with store := store } i next) := by
  have hmono : ∀ {manifest : Option CustodyManifest} {among : ℕ → Prop},
      (∀ key, store.secrets key ≠ none → vault.store.secrets key ≠ none ∨
        ∃ operation, among i ∧ vault.operations[i]? = some operation ∧ operation.owes key) →
      vault.CoveredBy manifest among →
      (CredentialVault.proceed { vault with store := store } i next).CoveredBy
        manifest among := by
    intro manifest among hnew hcovered
    refine hcovered.mono ?_ ?_
    · intro key hkey
      rcases hnew key hkey with hold | ⟨operation, hamong, hoperation, howes⟩
      · exact .inl ⟨hold, id⟩
      · exact .inr (hcovered.2 i operation key hamong hoperation howes)
    · intro j operation key hj hoperation howes
      rcases getElem?_set_cases hoperation with ⟨-, rfl⟩ | ⟨-, hold⟩
      · exact absurd howes (hnext key)
      · exact .inl ⟨hj, hold, id⟩
  constructor
  · change CoveredBy _ store.manifest _
    rw [hmanifest]
    refine hmono ?_ h.covered
    intro key hkey
    refine (hsecrets key hkey).imp_right ?_
    rintro ⟨operation, hoperation, howes⟩
    exact ⟨operation, trivial, hoperation, howes⟩
  · intro j operation hoperation
    rcases getElem?_set_cases hoperation with ⟨rfl, rfl⟩ | ⟨hji, hold⟩
    · exact hknows
    · refine (h.knows j operation hold).mono rfl hmanifest fun existing => hmono ?_
      intro key hkey
      refine (hsecrets key hkey).imp_right ?_
      rintro ⟨owing, howing, howes⟩
      exact ⟨owing, Ne.symm hji, howing, howes⟩
  · intro j operation hoperation
    rcases getElem?_set_cases hoperation with ⟨-, rfl⟩ | ⟨-, hold⟩
    · exact hseen
    · exact h.seen j operation hold

/-- The manifest may be rewritten to one that covers what is stored and owed
then; every other operation has then seen an older one. -/
theorem Inv.rewrite (h : vault.Inv) (i : ℕ) {next : VaultOperation}
    (hcovered : ((vault.writeManifest manifest).proceed i next).CoveredBy manifest fun _ => True)
    (hknows : ((vault.writeManifest manifest).proceed i next).Knows i next)
    (hseen : next.seenBefore (vault.writes + 1)) :
    Inv ((vault.writeManifest manifest).proceed i next) where
  covered := hcovered
  knows j operation hoperation := by
    rcases getElem?_set_cases hoperation with ⟨rfl, rfl⟩ | ⟨-, hold⟩
    · exact hknows
    · exact knows_of_stale (h.seen j operation hold) rfl
  seen j operation hoperation := by
    rcases getElem?_set_cases hoperation with ⟨-, rfl⟩ | ⟨-, hold⟩
    · exact hseen
    · exact seenBefore.succ (h.seen j operation hold)

theorem Inv.goOn (h : vault.Inv) (i : ℕ) {next : VaultOperation}
    (hnext : ∀ key, ¬ next.owes key) (hseen : next.seenBefore vault.writes)
    (hknows : (vault.proceed i next).Knows i next) : (vault.proceed i next).Inv :=
  h.proceed i hnext hseen rfl (fun _ hkey => .inl hkey) hknows

theorem Inv.writeSecret (h : vault.Inv) (i : ℕ) (next : VaultOperation)
    (hnext : ∀ key, ¬ next.owes key) (hseen : next.seenBefore vault.writes)
    (hknows : ∀ after, CredentialVault.Knows after i next) {key : String}
    {item : Option StoredCredential}
    (howed : item ≠ none → ∃ operation, vault.operations[i]? = some operation ∧
      operation.owes key) : ((vault.writeSecret key item).proceed i next).Inv := by
  refine h.proceed i hnext hseen rfl ?_ (hknows _)
  intro other hother
  change Function.update vault.store.secrets key item other ≠ none at hother
  by_cases hsame : other = key
  · subst hsame
    rw [Function.update_self] at hother
    exact .inr (howed hother)
  · rw [Function.update_of_ne hsame] at hother
    exact .inl hother

theorem Inv.access (h : vault.Inv) (installationEpoch : String)
    (hoperation : vault.operations[i]? = some operation) (fault : Option Failure)
    (hundisturbed : fault = none → ¬ operation.Disturbed vault) :
    (vault.access installationEpoch i operation fault).Inv := by
  have hfinish : ∀ result, (vault.proceed i (.finished result)).Inv :=
    fun result => h.goOn i (fun _ => id) trivial trivial
  have hknown := h.knows i operation hoperation
  cases operation with
  | stageRead request =>
    cases fault with
    | some failure => exact hfinish _
    | none =>
      simp only [CredentialVault.access]
      split
      · exact hfinish _
      · rename_i existing hread
        split
        · refine h.goOn i (fun _ => id) (le_refl _) fun _ => ?_
          unfold readManifest at hread
          split at hread
          · rename_i hmanifest
            cases hread
            exact hmanifest.symm
          · rename_i manifest hmanifest
            simp only [except_bind_eq_ok, pure, Except.pure, Except.ok.injEq] at hread
            obtain ⟨-, -, rfl⟩ := hread
            exact hmanifest.symm
        · exact hfinish _
  | stageManifest request existing seen =>
    cases fault with
    | some failure => exact hfinish _
    | none =>
      have hseen : seen = vault.writes := not_not.mp (hundisturbed rfl)
      have hexisting : existing = vault.store.manifest := hknown hseen
      have hothers : ((vault.writeManifest (some (nextManifest
          installationEpoch request.entry existing))).proceed i (.stageSecret
            request existing (vault.writes + 1))).CoveredBy existing (· ≠ i) := by
        rw [hexisting]
        refine h.covered.mono (fun key hkey => .inl ⟨hkey, id⟩) ?_
        intro j other key hj hother howes
        rcases getElem?_set_cases hother with ⟨hji, -⟩ | ⟨-, hold⟩
        · exact absurd hji hj
        · exact .inl ⟨trivial, hold, id⟩
      refine h.rewrite i ?_ (fun _ => hothers) (le_refl _)
      refine hothers.mono
        (fun key hkey => .inl ⟨hkey, fun hcovers => hcovers.next _ _⟩) ?_
      intro j other key _ hother howes
      rcases getElem?_set_cases hother with ⟨-, rfl⟩ | ⟨hji, -⟩
      · right
        rw [← show request.key = key from howes]
        exact covers_nextManifest_self _ _ _
      · exact .inl ⟨hji, hother, fun hcovers => hcovers.next _ _⟩
  | stageSecret request existing seen =>
    cases fault with
    | none =>
      exact h.writeSecret i (.finished (.ok ())) (fun _ => id) trivial
        (fun _ => trivial) fun _ => ⟨_, hoperation, rfl⟩
    | some failure =>
      have hbefore : seen ≤ vault.writes := h.seen i _ hoperation
      refine h.goOn i (fun _ => id) hbefore fun hseen => ?_
      refine CoveredBy.mono (hknown hseen) (fun key hkey => .inl ⟨hkey, id⟩) ?_
      intro j other key hj hother howes
      rcases getElem?_set_cases hother with ⟨hji, -⟩ | ⟨-, hold⟩
      · exact absurd hji hj
      · exact .inl ⟨hj, hold, id⟩
  | stageRestore request existing seen failure =>
    cases fault with
    | some failure' => exact hfinish _
    | none =>
      have hseen : seen = vault.writes := not_not.mp (hundisturbed rfl)
      refine h.rewrite i ?_ trivial trivial
      refine CoveredBy.mono (hknown hseen) (fun key hkey => .inl ⟨hkey, id⟩) ?_
      intro j other key _ hother howes
      rcases getElem?_set_cases hother with ⟨-, rfl⟩ | ⟨hji, hold⟩
      · exact howes.elim
      · exact .inl ⟨hji, hold, id⟩
  | deleteSecret bindingId =>
    cases fault with
    | some failure => exact hfinish _
    | none =>
      exact h.writeSecret i (.deleteRead bindingId) (fun _ => id) trivial
        (fun _ => trivial) fun hitem => absurd rfl hitem
  | deleteRead bindingId =>
    cases fault with
    | some failure => exact hfinish _
    | none =>
      simp only [CredentialVault.access]
      split
      · exact hfinish _
      · exact hfinish _
      · rename_i existing hread
        refine h.goOn i (fun _ => id) (le_refl _) fun _ => ?_
        unfold readManifest at hread
        split at hread
        · cases hread
        · rename_i manifest hmanifest
          simp only [except_bind_eq_ok, pure, Except.pure, Except.ok.injEq] at hread
          obtain ⟨-, -, hsame⟩ := hread
          exact hsame.symm.trans hmanifest.symm
  | deleteManifest bindingId existing seen =>
    cases fault with
    | some failure => exact hfinish _
    | none =>
      have hquiet := hundisturbed rfl
      simp only [VaultOperation.Disturbed, not_or, not_exists, not_and, not_not] at hquiet
      obtain ⟨hseen, habsent, hunowed⟩ := hquiet
      have hexisting : some existing = vault.store.manifest := hknown hseen
      refine h.rewrite i ?_ trivial trivial
      have hcovered := h.covered
      rw [← hexisting] at hcovered
      refine hcovered.mono ?_ ?_
      · intro key hkey
        refine .inl ⟨hkey, fun hcovers => hcovers.without ?_⟩
        rintro rfl
        exact habsent (Option.isSome_iff_ne_none.mpr hkey)
      · intro j other key _ hother howes
        rcases getElem?_set_cases hother with ⟨-, rfl⟩ | ⟨-, hold⟩
        · exact howes.elim
        · refine .inl ⟨trivial, hold, fun hcovers => hcovers.without ?_⟩
          rintro rfl
          exact hunowed other (List.mem_of_getElem? hold) howes
  | finished result =>
    cases fault <;> exact h

theorem Inv.start (h : vault.Inv) (howes : ∀ key, ¬ operation.owes key)
    (hknows : ∀ after i, CredentialVault.Knows after i operation)
    (hseen : operation.seenBefore vault.writes) : (vault.start operation).Inv := by
  have hget : ∀ {j : ℕ} {other : VaultOperation},
      (vault.start operation).operations[j]? = some other →
      other = operation ∨ vault.operations[j]? = some other := by
    intro j other hother
    rcases getElem?_append_cases hother with hold | ⟨-, hnew⟩
    · exact .inr hold
    · exact .inl hnew
  have hmono : ∀ {manifest among}, vault.CoveredBy manifest among →
      (vault.start operation).CoveredBy manifest among := by
    intro manifest among hcovered
    refine hcovered.mono (fun key hkey => .inl ⟨hkey, id⟩) ?_
    intro j other key hj hother howes'
    rcases hget hother with rfl | hold
    · exact absurd howes' (howes key)
    · exact .inl ⟨hj, hold, id⟩
  constructor
  · exact hmono h.covered
  · intro j other hother
    rcases hget hother with rfl | hold
    · exact hknows _ _
    · exact (h.knows j other hold).mono rfl rfl fun _ => hmono
  · intro j other hother
    rcases hget hother with rfl | hold
    · exact hseen
    · exact h.seen j other hold

/-- A step that no other call has disturbed leaves every secret and debt in the manifest. -/
theorem Inv.step (viem : Viem) (installationEpoch : String) (h : vault.Inv)
    (event : VaultEvent) (hundisturbed : vault.Undisturbed event) :
    (CredentialVault.step viem installationEpoch vault event).Inv := by
  cases event with
  | stage input =>
    simp only [CredentialVault.step, CredentialVault.stage]
    split
    · exact h.start (fun _ => id) (fun _ _ => trivial) trivial
    · exact h.start (fun _ => id) (fun _ _ => trivial) trivial
  | delete binding =>
    simp only [CredentialVault.step, CredentialVault.delete]
    split
    · exact h.start (fun _ => id) (fun _ _ => trivial) trivial
    · exact h.start (fun _ => id) (fun _ _ => trivial) trivial
  | advance i fault =>
    simp only [CredentialVault.step, CredentialVault.advance]
    split
    · exact h
    · rename_i operation hoperation
      refine h.access installationEpoch hoperation fault ?_
      rintro rfl
      exact hundisturbed operation hoperation
  | crash =>
    constructor
    · refine h.covered.mono (fun key hkey => .inl ⟨hkey, id⟩) ?_
      intro j operation key _ hoperation
      simp [CredentialVault.step, CredentialVault.crash] at hoperation
    · intro j operation hoperation
      simp [CredentialVault.step, CredentialVault.crash] at hoperation
    · intro j operation hoperation
      simp [CredentialVault.step, CredentialVault.crash] at hoperation

theorem Inv.opened (h : store.Complete) : (CredentialVault.opened store).Inv := by
  constructor
  · refine ⟨h, ?_⟩
    intro j operation key _ hoperation
    simp [CredentialVault.opened] at hoperation
  · intro j operation hoperation
    simp [CredentialVault.opened] at hoperation
  · intro j operation hoperation
    simp [CredentialVault.opened] at hoperation

end CredentialVault

theorem assessCustodyInstall_of_covers {manifest : Option CustodyManifest}
    (h : Covers manifest key) : assessCustodyInstall false manifest = .quarantine := by
  obtain ⟨document, hdocument, record, hrecord, -⟩ := h
  obtain rfl := Option.mem_def.mp hdocument
  have hpositive : 0 < document.records.length := List.length_pos_of_mem hrecord
  simp [assessCustodyInstall, hpositive]

/-- **Manifest completeness**, for the runs without a disturbed manifest write:
at every point of them, also after the process has ended, every secret has an
entry, and an installation that finds the store does not overlook it. -/
theorem custody_manifest_complete (viem : Viem) (installationEpoch : String)
    (store : SecureStore) (hstore : store.Complete) (events : List VaultEvent)
    (hundisturbed : Along (CredentialVault.step viem installationEpoch)
      CredentialVault.Undisturbed (.opened store) events) :
    let vault := run (CredentialVault.step viem installationEpoch)
      (.opened store) events
    ∀ key, vault.store.secrets key ≠ none →
      Covers vault.store.manifest key ∧
        assessCustodyInstall false vault.store.manifest = .quarantine := by
  intro vault key hkey
  have hinv : vault.Inv := run_invariant_along
    (fun _ event h hevent => h.step viem installationEpoch event hevent)
    (CredentialVault.Inv.opened hstore) hundisturbed
  have hcovers := hinv.covered.1 key hkey
  exact ⟨hcovers, assessCustodyInstall_of_covers hcovers⟩

/-! ### A lost entry -/

def custodyViem : Viem where
  getAddress address :=
    if addressPattern.test address then some address else none
  keccak256 text :=
    if text.endsWith "0x3333333333333333333333333333333333333333\x001" then
      "0x997a87317f17c4d078dabcf6e77471118cf0274de89ee5dadaf48ebaaa5d30a5"
    else "0x44c5459eaa02fcb3635ceb3fd8f47b471d5cfebdfef970f617f78e8ce39c0a12"
  keccak256Bytes _ := ""

def sampleEpoch : String := "installation-epoch"

def sampleCredential : StoredCredential where
  binding :=
    { network := .testnet
      masterAccount := "0x1111111111111111111111111111111111111111"
      targetAccount := "0x1111111111111111111111111111111111111111"
      agentAddress := "0x3333333333333333333333333333333333333333"
      generation := 1 }
  registrationName := "Hyper Trader"
  requestedExpiry := 2592001000
  secret := List.replicate 32 7

def otherCredential : StoredCredential where
  binding :=
    { network := .testnet
      masterAccount := "0x1111111111111111111111111111111111111111"
      targetAccount := "0x2222222222222222222222222222222222222222"
      agentAddress := "0x4444444444444444444444444444444444444444"
      generation := 1 }
  registrationName := "Hyper Trader"
  requestedExpiry := 2592001000
  secret := List.replicate 32 9

def emptyStore : SecureStore where
  manifest := none
  secrets := fun _ => none

def overlappingStagings : List VaultEvent :=
  [.stage sampleCredential, .stage otherCredential, .advance 0 none,
    .advance 1 none, .advance 0 none, .advance 0 none, .advance 1 none, .advance 1 none]

theorem secret_without_entry :
    let vault := run (CredentialVault.step custodyViem sampleEpoch)
      (.opened emptyStore) overlappingStagings
    (vault.store.secrets (credentialKey
      "0x997a87317f17c4d078dabcf6e77471118cf0274de89ee5dadaf48ebaaa5d30a5")).isSome = true ∧
      ¬ Covers vault.store.manifest (credentialKey
        "0x997a87317f17c4d078dabcf6e77471118cf0274de89ee5dadaf48ebaaa5d30a5") := by
  decide +kernel

/-- Two overlapping calls may write one over the manifest of the other. -/
theorem custody_manifest_not_complete :
    ¬ ∀ (viem : Viem) (installationEpoch : String) (store : SecureStore),
      store.Complete → ∀ events : List VaultEvent,
        let vault := run (CredentialVault.step viem installationEpoch)
          (.opened store) events
        ∀ key, vault.store.secrets key ≠ none →
          Covers vault.store.manifest key := by
  intro h
  obtain ⟨hstored, hmissing⟩ := secret_without_entry
  refine hmissing (h custodyViem sampleEpoch emptyStore ?_ overlappingStagings _
    (Option.isSome_iff_ne_none.mp hstored))
  exact fun _ hkey => absurd rfl hkey

def separateStagings : List VaultEvent :=
  [.stage sampleCredential, .advance 0 none, .advance 0 none, .advance 0 none,
    .stage otherCredential, .advance 1 none, .advance 1 none, .advance 1 none,
    .delete sampleCredential.binding, .advance 2 none, .advance 2 none, .advance 2 none]

theorem custody_manifest_complete_separateStagings :
    let vault := run (CredentialVault.step custodyViem sampleEpoch)
      (.opened emptyStore) separateStagings
    ∀ key, vault.store.secrets key ≠ none →
      Covers vault.store.manifest key ∧
        assessCustodyInstall false vault.store.manifest = .quarantine :=
  custody_manifest_complete custodyViem sampleEpoch emptyStore
    (fun _ hkey => absurd rfl hkey) separateStagings (by decide +kernel)

end HyperTrader
