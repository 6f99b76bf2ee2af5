import HyperTrader.Signing.Binding

/-!
# The credential vault

The secrets of the API wallets and the custody manifest lie in the secure store
of the device, one item each. `stage` and `delete` are sequences of reads and
writes with an await at each, so an operation is a value that says which access
comes next and what it has read so far, and `advance` makes that access. The
document is rewritten as a whole from what was read of it; `writes` counts the
rewrites, and an operation remembers the count it has seen.
-/

namespace HyperTrader

open Library

structure CustodyManifestRecord where
  bindingId : String
  network : HyperliquidNetwork
  agentAddress : String
  generation : ℤ

structure CustodyManifest where
  installationEpoch : String
  records : List CustodyManifestRecord

/-- `/^[A-Za-z0-9_-]{16,128}$/` -/
def installationEpochPattern : TextPattern where
  lead := ""
  digit byte := isAlphanumeric byte || inRange '_' '_' byte ||
    inRange '-' '-' byte
  least := 16
  most := 128

/-- `AGENT_REGISTRATION_NAME_PATTERN`: one to sixteen printable characters, no
space at either end. -/
def agentRegistrationNamePattern (name : String) : Bool :=
  let bytes := textBytes name
  decide (1 ≤ bytes.length) && decide (bytes.length ≤ 16) &&
    bytes.all (inRange ' ' '~') && bytes.head?.all (inRange '!' '~') &&
    bytes.getLast?.all (inRange '!' '~')

def secp256k1Order : ℕ :=
  0xfffffffffffffffffffffffffffffffebaaedce6af48a03bbfd25e8cd0364141

def bytesValue (bytes : List UInt8) : ℕ :=
  bytes.foldl (fun value byte => 256 * value + byte.toNat) 0

def isValidSecp256k1Secret (bytes : List UInt8) : Bool :=
  bytes.length == 32 && decide (bytesValue bytes ≠ 0) &&
    decide (bytesValue bytes < secp256k1Order)

structure StoredCredential where
  binding : SignerBinding
  registrationName : String
  requestedExpiry : ℤ
  secret : List UInt8

structure SecureStore where
  manifest : Option CustodyManifest
  secrets : String → Option StoredCredential

def SignerBinding.custodyText (binding : SignerBinding) : String :=
  "hyper-trader-custody-binding/v1" ++ "\x00" ++ binding.network.text ++ "\x00" ++
    binding.masterAccount ++ "\x00" ++ binding.targetAccount ++ "\x00" ++
    binding.agentAddress ++ "\x00" ++ toString binding.generation

def custodyBindingId (viem : Viem) (bindingInput : SignerBinding) :
    Outcome String := do
  let binding ← normalizeSignerBinding viem bindingInput
  pure (viem.keccak256 binding.custodyText)

def credentialKey (bindingId : String) : String :=
  "agent." ++ String.ofList (bindingId.toList.drop 2)

def SignerBinding.credentialKey (viem : Viem) (binding : SignerBinding) : String :=
  HyperTrader.credentialKey (viem.keccak256 binding.custodyText)

def malformedRecord : Failure := .credential "malformed_record"

def validateManifest (manifest : CustodyManifest) : Outcome Unit := do
  require (installationEpochPattern.test manifest.installationEpoch = true)
    malformedRecord
  require (∀ record ∈ manifest.records, lowercaseHashPattern.test record.bindingId = true ∧
      lowercaseAddressPattern.test record.agentAddress = true ∧
      isSafeInteger record.generation ∧ 1 ≤ record.generation) malformedRecord

def readManifest (store : SecureStore) : Outcome (Option CustodyManifest) :=
  match store.manifest with
  | none => pure none
  | some manifest => do
      validateManifest manifest
      pure (some manifest)

structure StageRequest where
  entry : CustodyManifestRecord
  credential : StoredCredential

def StageRequest.key (request : StageRequest) : String :=
  credentialKey request.entry.bindingId

def stageRequest (viem : Viem) (input : StoredCredential) :
    Outcome StageRequest := do
  let binding ← normalizeSignerBinding viem input.binding
  assertSignerAccessCapability binding.network
  let bindingId ← custodyBindingId viem binding
  require (agentRegistrationNamePattern input.registrationName = true ∧
      isSafeInteger input.requestedExpiry ∧ 0 < input.requestedExpiry ∧
      isValidSecp256k1Secret input.secret = true)
    (.typeError "The protected credential metadata is malformed.")
  pure
    { entry :=
        { bindingId := bindingId
          network := binding.network
          agentAddress := binding.agentAddress
          generation := binding.generation }
      credential := { input with binding := binding } }

def deleteRequest (viem : Viem) (bindingInput : SignerBinding) :
    Outcome String := do
  let binding ← normalizeSignerBinding viem bindingInput
  custodyBindingId viem binding

def nextManifest (installationEpoch : String) (entry : CustodyManifestRecord)
    (existing : Option CustodyManifest) : CustodyManifest where
  installationEpoch := installationEpoch
  records :=
    let records := (existing.map CustodyManifest.records).getD []
    if records.any fun record => record.bindingId == entry.bindingId then records
    else records ++ [entry]

def CustodyManifest.without (manifest : CustodyManifest) (bindingId : String) : CustodyManifest :=
  { manifest with
    records := manifest.records.filter fun record =>
      record.bindingId != bindingId }

/-- An operation under way, by its next access; `seen` is the count of manifest
writes at its last access to the manifest. -/
inductive VaultOperation where
  | stageRead (request : StageRequest)
  | stageManifest (request : StageRequest) (existing : Option CustodyManifest)
      (seen : ℕ)
  | stageSecret (request : StageRequest) (existing : Option CustodyManifest)
      (seen : ℕ)
  | stageRestore (request : StageRequest) (existing : Option CustodyManifest)
      (seen : ℕ) (failure : Failure)
  | deleteSecret (bindingId : String)
  | deleteRead (bindingId : String)
  | deleteManifest (bindingId : String) (existing : CustodyManifest) (seen : ℕ)
  | finished (result : Outcome Unit)

/-- The secure store, the count of manifest writes, and the operations started
in this process. -/
structure CredentialVault where
  store : SecureStore
  writes : ℕ
  operations : List VaultOperation

namespace CredentialVault

def opened (store : SecureStore) : CredentialVault where
  store := store
  writes := 0
  operations := []

def proceed (vault : CredentialVault) (i : ℕ) (next : VaultOperation) : CredentialVault :=
  { vault with operations := vault.operations.set i next }

/-- The manifest is rewritten, or deleted when there is none to write. -/
def writeManifest (vault : CredentialVault) (manifest : Option CustodyManifest) : CredentialVault :=
  { vault with
    store := { vault.store with manifest := manifest }
    writes := vault.writes + 1 }

def writeSecret (vault : CredentialVault) (key : String)
    (item : Option StoredCredential) : CredentialVault :=
  { vault with store :=
      { vault.store with
        secrets := Function.update vault.store.secrets key item } }

/-- The next access of the operation; `fault` is the failure the store reports
for it, and then nothing has been written. -/
def access (installationEpoch : String) (vault : CredentialVault) (i : ℕ)
    (operation : VaultOperation) (fault : Option Failure) : CredentialVault :=
  match operation, fault with
  | .stageRead request, none =>
    match readManifest vault.store with
    | .error failure => vault.proceed i (.finished (.error failure))
    | .ok existing =>
      if existing.all fun manifest =>
          manifest.installationEpoch == installationEpoch then
        vault.proceed i (.stageManifest request existing vault.writes)
      else vault.proceed i (.finished (.error malformedRecord))
  | .stageManifest request existing _, none =>
    (vault.writeManifest (some (nextManifest installationEpoch request.entry existing))).proceed i
      (.stageSecret request existing (vault.writes + 1))
  | .stageSecret request _ _, none =>
    (vault.writeSecret request.key (some request.credential)).proceed i
      (.finished (.ok ()))
  | .stageSecret request existing seen, some failure =>
    -- the write of the secret failed: the prior manifest is put back
    vault.proceed i (.stageRestore request existing seen failure)
  | .stageRestore _ existing _ failure, none =>
    (vault.writeManifest existing).proceed i (.finished (.error failure))
  | .deleteSecret bindingId, none =>
    (vault.writeSecret (credentialKey bindingId) none).proceed i
      (.deleteRead bindingId)
  | .deleteRead bindingId, none =>
    match readManifest vault.store with
    | .error failure => vault.proceed i (.finished (.error failure))
    | .ok none => vault.proceed i (.finished (.ok ()))
    | .ok (some existing) =>
      vault.proceed i (.deleteManifest bindingId existing vault.writes)
  | .deleteManifest bindingId existing _, none =>
    (vault.writeManifest (some (existing.without bindingId))).proceed i
      (.finished (.ok ()))
  | .finished _, _ => vault
  | _, some failure => vault.proceed i (.finished (.error failure))

def advance (installationEpoch : String) (vault : CredentialVault) (i : ℕ)
    (fault : Option Failure) : CredentialVault :=
  match vault.operations[i]? with
  | none => vault
  | some operation => vault.access installationEpoch i operation fault

def start (vault : CredentialVault) (operation : VaultOperation) : CredentialVault :=
  { vault with operations := vault.operations ++ [operation] }

def stage (viem : Viem) (vault : CredentialVault) (input : StoredCredential) : CredentialVault :=
  match stageRequest viem input with
  | .error failure => vault.start (.finished (.error failure))
  | .ok request => vault.start (.stageRead request)

def delete (viem : Viem) (vault : CredentialVault) (binding : SignerBinding) : CredentialVault :=
  match deleteRequest viem binding with
  | .error failure => vault.start (.finished (.error failure))
  | .ok bindingId => vault.start (.deleteSecret bindingId)

def crash (vault : CredentialVault) : CredentialVault :=
  { vault with operations := [] }

end CredentialVault

inductive CustodyInstallAssessment where
  | clean
  | quarantine

def assessCustodyInstall (installSentinelPresent : Bool)
    (manifest : Option CustodyManifest) : CustodyInstallAssessment :=
  if !installSentinelPresent &&
      decide (0 < ((manifest.map CustodyManifest.records).getD []).length) then
    .quarantine
  else .clean

def SignerBinding.Normal (viem : Viem) (binding : SignerBinding) : Prop :=
  normalizeSignerBinding viem binding = .ok binding

variable {viem : Viem} {binding : SignerBinding}

theorem custodyBindingId_normal (h : binding.Normal viem) :
    custodyBindingId viem binding = .ok (viem.keccak256 binding.custodyText) := by
  simp only [custodyBindingId, SignerBinding.Normal] at h ⊢
  rw [h]
  rfl

theorem stageRequest_normal {input : StoredCredential}
    (h : input.binding.Normal viem) {request : StageRequest}
    (hrequest : stageRequest viem input = .ok request) :
    request.credential = input ∧
      request.key = input.binding.credentialKey viem := by
  simp only [stageRequest, except_bind_eq_ok] at hrequest
  obtain ⟨binding, hbinding, _, -, bindingId, hid, _, -, hrequest⟩ := hrequest
  obtain rfl : input.binding = binding := by
    rw [SignerBinding.Normal, hbinding] at h
    exact (Except.ok.inj h).symm
  rw [custodyBindingId_normal h] at hid
  obtain rfl := Except.ok.inj hid
  obtain rfl := Except.ok.inj hrequest
  exact ⟨rfl, rfl⟩

theorem deleteRequest_normal (h : binding.Normal viem) :
    deleteRequest viem binding = .ok (viem.keccak256 binding.custodyText) := by
  simp only [deleteRequest]
  rw [show normalizeSignerBinding viem binding = .ok binding from h]
  exact custodyBindingId_normal h

def VaultOperation.request : VaultOperation → Option StageRequest
  | .stageRead request => some request
  | .stageManifest request _ _ => some request
  | .stageSecret request _ _ => some request
  | .stageRestore request _ _ _ => some request
  | _ => none

structure Accessed (before after : CredentialVault) (i : ℕ)
    (fault : Option Failure) (operation next : VaultOperation) : Prop where
  operations : after.operations = before.operations.set i next
  request : ∀ request, next.request = some request →
    operation.request = some request
  staged : ∀ request, operation.request = some request →
    next.request = some request ∨ (∃ failure, next = .finished (.error failure)) ∨
      next = .finished (.ok ()) ∧
        after.store.secrets request.key = some request.credential
  finished : ∀ result, operation = .finished result → next = operation
  deletes : ∀ bindingId, next ≠ .deleteSecret bindingId
  secrets : ∀ key, after.store.secrets key = before.store.secrets key ∨
    (∃ request, operation.request = some request ∧ key = request.key ∧
      after.store.secrets key = some request.credential) ∨
    fault = none ∧ ∃ bindingId, operation = .deleteSecret bindingId ∧
      key = credentialKey bindingId

namespace CredentialVault

variable {vault after : CredentialVault} {i : ℕ} {fault : Option Failure}
  {operation next : VaultOperation} {other : VaultOperation}

theorem start_getElem? (h : vault.operations[i]? = some other) (operation : VaultOperation) :
    (vault.start operation).operations[i]? = some other := by
  obtain ⟨hlt, -⟩ := List.getElem?_eq_some_iff.mp h
  exact (List.getElem?_append_left hlt).trans h

theorem mem_start {operation : VaultOperation} :
    other ∈ (vault.start operation).operations ↔
      other ∈ vault.operations ∨ other = operation := by
  simp [CredentialVault.start]

theorem accessed_error (failure : Failure) (hoperations : after.operations =
      vault.operations.set i (.finished (.error failure)))
    (hsecrets : after.store.secrets = vault.store.secrets)
    (hrunning : ∀ result, operation ≠ .finished result) :
    Accessed vault after i fault operation (.finished (.error failure)) where
  operations := hoperations
  request request h := by cases h
  staged request h := .inr (.inl ⟨failure, rfl⟩)
  finished result h := absurd h (hrunning result)
  deletes bindingId h := by cases h
  secrets key := .inl (congrFun hsecrets key)

theorem accessed_same (hoperations : after.operations = vault.operations.set i next)
    (hsecrets : after.store.secrets = vault.store.secrets)
    (hrequest : next.request = operation.request)
    (hrunning : ∀ result, operation = .finished result → next = operation)
    (hdeletes : ∀ bindingId, next ≠ .deleteSecret bindingId) :
    Accessed vault after i fault operation next where
  operations := hoperations
  request request h := by rw [← hrequest, h]
  staged request h := .inl (by rw [hrequest, h])
  finished := hrunning
  deletes := hdeletes
  secrets key := .inl (congrFun hsecrets key)

theorem accessed (installationEpoch : String)
    (hoperation : vault.operations[i]? = some operation) (fault : Option Failure) :
    ∃ next, Accessed vault (vault.access installationEpoch i operation fault) i
      fault operation next := by
  cases operation with
  | stageRead request =>
    cases fault with
    | some failure => exact ⟨_, accessed_error failure rfl rfl nofun⟩
    | none =>
      simp only [CredentialVault.access]
      split
      · exact ⟨_, accessed_error _ rfl rfl nofun⟩
      · split
        · exact ⟨_, accessed_same rfl rfl rfl nofun nofun⟩
        · exact ⟨_, accessed_error malformedRecord rfl rfl nofun⟩
  | stageManifest request existing seen =>
    cases fault with
    | some failure => exact ⟨_, accessed_error failure rfl rfl nofun⟩
    | none => exact ⟨_, accessed_same rfl rfl rfl nofun nofun⟩
  | stageSecret request existing seen =>
    cases fault with
    | some failure => exact ⟨_, accessed_same rfl rfl rfl nofun nofun⟩
    | none =>
      refine ⟨.finished (.ok ()), rfl, nofun, ?_, nofun, nofun, ?_⟩
      · rintro _ ⟨⟩
        exact .inr (.inr ⟨rfl, Function.update_self _ _ _⟩)
      · intro key
        by_cases hkey : key = request.key
        · subst hkey
          exact .inr (.inl ⟨request, rfl, rfl, Function.update_self _ _ _⟩)
        · exact .inl (Function.update_of_ne hkey _ _)
  | stageRestore request existing seen failure =>
    cases fault with
    | some failure' => exact ⟨_, accessed_error failure' rfl rfl nofun⟩
    | none => exact ⟨_, accessed_error failure rfl rfl nofun⟩
  | deleteSecret bindingId =>
    cases fault with
    | some failure => exact ⟨_, accessed_error failure rfl rfl nofun⟩
    | none =>
      refine ⟨.deleteRead bindingId, rfl, nofun, nofun, nofun, nofun, ?_⟩
      intro key
      by_cases hkey : key = HyperTrader.credentialKey bindingId
      · exact .inr (.inr ⟨rfl, bindingId, rfl, hkey⟩)
      · exact .inl (Function.update_of_ne hkey _ _)
  | deleteRead bindingId =>
    cases fault with
    | some failure => exact ⟨_, accessed_error failure rfl rfl nofun⟩
    | none =>
      simp only [CredentialVault.access]
      split
      · exact ⟨_, accessed_error _ rfl rfl nofun⟩
      · exact ⟨_, accessed_same rfl rfl rfl nofun nofun⟩
      · exact ⟨_, accessed_same rfl rfl rfl nofun nofun⟩
  | deleteManifest bindingId existing seen =>
    cases fault with
    | some failure => exact ⟨_, accessed_error failure rfl rfl nofun⟩
    | none => exact ⟨_, accessed_same rfl rfl rfl nofun nofun⟩
  | finished result =>
    refine ⟨.finished result, accessed_same ?_ ?_ rfl (fun _ _ => rfl) nofun⟩
    · obtain ⟨hlt, hget⟩ := List.getElem?_eq_some_iff.mp hoperation
      cases fault <;> simp [CredentialVault.access, ← hget]
    · cases fault <;> rfl

end CredentialVault

end HyperTrader
