import HyperTrader.Notifications.AccountProof

/-!
# Installations and account links

The transactions that make an installation, change its credential and link an account to
it. Each begins with the gate of mutations, and one that an installation asks for goes on
with the row of the installation, which has to be active and to have the credential.
-/

namespace HyperTrader

open Library

namespace Notifications

def assertMutable : Statement Unit :=
  Transaction.check fun tables => tables.service.assertMutable

def lockAuthenticatedInstallation (installationId credentialHash : String) :
    Statement InstallationRow := Transaction.check fun tables =>
  match tables.installations.find? installationId with
  | none => .error .storeUnauthorized
  | some installation =>
    if installation.credentialHash = some credentialHash ∧ installation.state = .active then
      .ok installation
    else .error .storeUnauthorized

/-- `admitMutationInTransaction`: the message of the limit that is exceeded, if one is. -/
def admitMutationInTransaction (limited : Option String) : Statement Unit :=
  Transaction.check fun _ =>
    match limited with
    | none => .ok ()
    | some message => .error (.rateLimit message)

def loadChallenge (challengeHash installationId credentialHash : String) :
    Statement ChallengeRow := Transaction.check fun tables =>
  match tables.challenges.find? challengeHash with
  | none => .error (.unauthorized "challenge is unavailable")
  | some challenge =>
    if challenge.installationId = installationId then
      if challenge.credentialHash = credentialHash then .ok challenge
      else .error (.unauthorized "challenge credential binding is stale")
    else .error (.unauthorized "challenge is unavailable")

/-- `UPDATE … SET state = 'consumed' WHERE … state = 'pending' AND expires_at > …` -/
def consumeChallenge (challengeHash : String) (now : ℤ) : Statement Unit := do
  let tables ← Transaction.read
  Transaction.ensure (tables.challenges.rows.any (fun challenge =>
      challenge.challengeHash = challengeHash && !challenge.consumed &&
        now < challenge.expiresAt * 1000) = true)
    (.unauthorized "challenge is not pending")
  change fun tables =>
    { tables with
      challenges := tables.challenges.update
        (fun challenge => challenge.challengeHash = challengeHash)
        (fun challenge => { challenge with consumed := true }) fun _ => rfl }

def milliseconds (now : ℤ) : ℤ := now / 1000

structure RegisterInstallationRequest where
  installationId : String
  credential : String
  fingerprint : String
  tokenId : String

/-- `INSERT … ON CONFLICT DO NOTHING` of an installation and its token. -/
def insertInstallation (installation : InstallationRow) (token : PushTokenRow) :
    Statement Unit := Transaction.write fun tables =>
  if tables.installations.rows.any fun other =>
      other.credentialHash = installation.credentialHash ||
        other.recoveryScopeMac = installation.recoveryScopeMac then
    .error .storeConflict
  else if tables.pushTokens.rows.any fun other =>
      other.fingerprint = token.fingerprint || other.installationId = token.installationId ||
        other.recoveryScopeMac = token.recoveryScopeMac then
    .error .storeConflict
  else
    match tables.installations.insert? installation, tables.pushTokens.insert? token with
    | some installations, some pushTokens =>
      .ok { tables with installations := installations, pushTokens := pushTokens }
    | _, _ => .error .storeConflict

def registerInstallation (primitives : StorePrimitives) (request : RegisterInstallationRequest)
    (limited : Option String) : Statement Unit := do
  assertMutable
  admitMutationInTransaction limited
  insertInstallation
    { installationId := request.installationId
      credentialHash := some (primitives.hashInstallationCredential request.credential)
      recoveryScopeMac := primitives.scopeMac primitives.tombstoneKeyVersion .installation
        request.installationId
      recoveryKeyVersion := primitives.tombstoneKeyVersion
      state := .active
      credentialGeneration := 1
      revocationGeneration := 0 }
    { tokenId := request.tokenId
      installationId := request.installationId
      fingerprint := request.fingerprint
      recoveryScopeMac := primitives.scopeMac primitives.tombstoneKeyVersion .pushToken
        request.fingerprint
      deliverable := true }

def rotateCredential (installationId newHash : String) : Statement ℕ := do
  let tables ← Transaction.read
  Transaction.ensure ((tables.installations.rows.any fun other =>
      other.credentialHash = some newHash) = false)
    (.conflict "new installation credential is already active")
  match tables.installations.find? installationId with
  | none => Transaction.fail .storeUnauthorized
  | some installation => do
      Transaction.ensure (installation.credentialGeneration < maxDatabaseInteger)
        .numericOverflow
      change fun tables =>
        { tables with
          installations := tables.installations.update
            (fun row => row.installationId = installationId)
            (fun row =>
              { row with
                credentialHash := some newHash
                credentialGeneration := row.credentialGeneration + 1 }) fun _ => rfl }
      pure (installation.credentialGeneration + 1)

def rotateInstallationCredential (primitives : StorePrimitives)
    (installationId credential newCredential : String) (limited : Option String) :
    Statement ℕ := do
  Transaction.ensure
    (primitives.hashInstallationCredential credential ≠
      primitives.hashInstallationCredential newCredential)
    (.conflict "new installation credential must differ")
  assertMutable
  let _ ← lockAuthenticatedInstallation installationId
    (primitives.hashInstallationCredential credential)
  admitMutationInTransaction limited
  rotateCredential installationId (primitives.hashInstallationCredential newCredential)

structure IssueChallengeRequest where
  installationId : String
  credential : String
  network : NotificationNetwork
  masterAccount : String
  targetAccount : String
  purpose : AccountProofPurpose
  operationDigest : String
  /-- The random text that the store makes. -/
  challenge : String

def digestPattern : TextPattern := ⟨"", isLowerHexDigit, 64, 64⟩

def installationIdPattern : TextPattern := ⟨"", isLowerHexDigit, 32, 32⟩

def accountPattern : TextPattern := ⟨"0x", isLowerHexDigit, 40, 40⟩

def createChallengeRecord (primitives : StorePrimitives) (request : IssueChallengeRequest)
    (issuedAt : ℤ) : Except StoreFailure ChallengeRow := do
  require (digestPattern.test request.challenge = true)
    (.accountProof "challenge is invalid")
  require (digestPattern.test (primitives.hashInstallationCredential request.credential) = true)
    (.accountProof "credential hash is invalid")
  require (installationIdPattern.test request.installationId = true)
    (.accountProof "installation ID is invalid")
  require (digestPattern.test request.operationDigest = true)
    (.accountProof "operation digest is invalid")
  require (accountPattern.test request.masterAccount = true)
    (.accountProof "master account is invalid")
  require (accountPattern.test request.targetAccount = true)
    (.accountProof "target account is invalid")
  require (isSafeInteger issuedAt ∧ 0 < issuedAt) (.accountProof "issued time is invalid")
  pure
    { challengeHash := primitives.sha256 request.challenge
      credentialHash := primitives.hashInstallationCredential request.credential
      installationId := request.installationId
      network := request.network
      masterAccount := request.masterAccount
      targetAccount := request.targetAccount
      purpose := request.purpose
      operationDigest := request.operationDigest
      serviceOrigin := primitives.serviceOrigin
      issuedAt := issuedAt
      expiresAt := issuedAt + accountProofTtlMs
      consumed := false }

/-- `INSERT INTO notification_account_link_challenges` -/
def insertChallenge (row : ChallengeRow) : Statement Unit := Transaction.write fun tables =>
  match tables.challenges.insert? row with
  | some challenges => .ok { tables with challenges := challenges }
  | none => .error .uniqueViolation

def challengeIssuesPerHour : ℕ := 5

def issueAccountLinkChallenge (primitives : StorePrimitives) (request : IssueChallengeRequest)
    (limited : Option String) (now : ℤ) : Statement ChallengeRow := do
  assertMutable
  let _ ← lockAuthenticatedInstallation request.installationId
    (primitives.hashInstallationCredential request.credential)
  admitMutationInTransaction limited
  let tables ← Transaction.read
  Transaction.ensure ((tables.challenges.rows.countP fun challenge =>
      challenge.installationId = request.installationId &&
        now - 3600000000 < challenge.issuedAt * 1000) < challengeIssuesPerHour)
    (.rateLimit "challenge issue quota exhausted")
  let record ← Transaction.check fun _ =>
    createChallengeRecord primitives request (milliseconds now)
  insertChallenge record
  pure record

def maxLinkedAccounts : ℕ := 10

structure VerifyAccountLinkRequest where
  installationId : String
  credential : String
  accountLinkId : String
  proof : AccountProof

def accountLinkDigest (primitives : StorePrimitives) (record : ChallengeRow)
    (installationId accountLinkId : String) : String :=
  primitives.operationDigest "account-link/v1" (.object [ ("accountLinkId", .string accountLinkId),
      ("installationId", .string installationId), ("masterAccount", .string record.masterAccount),
      ("network", .string (networkText record.network)),
      ("targetAccount", .string record.targetAccount) ])

def accountLinkStatement (primitives : StorePrimitives) (request : VerifyAccountLinkRequest)
    (limited : Option String) (now : ℤ) : Statement Unit := do
  let credentialHash := primitives.hashInstallationCredential request.credential
  let challengeHash := primitives.sha256 request.proof.challenge
  assertMutable
  let _ ← lockAuthenticatedInstallation request.installationId credentialHash
  admitMutationInTransaction limited
  let record ← loadChallenge challengeHash request.installationId credentialHash
  Transaction.ensure (record.purpose = .accountLink)
    (.unauthorized "challenge purpose is invalid")
  Transaction.ensure (record.operationDigest =
      accountLinkDigest primitives record request.installationId request.accountLinkId)
    (.unauthorized "account-link operation digest is invalid")
  Transaction.check fun _ =>
    verifyAccountProof primitives record request.proof (milliseconds now)
  let tables ← Transaction.read
  Transaction.ensure ((tables.accountLinks.rows.countP fun link =>
      link.installationId = request.installationId && link.state ≠ .inactive) < maxLinkedAccounts)
    (.conflict "linked account quota exhausted")
  consumeChallenge challengeHash now
  insertAccountLink
    { accountLinkId := request.accountLinkId
      installationId := request.installationId
      network := record.network
      masterAccount := record.masterAccount
      targetAccount := record.targetAccount
      state := .active
      revocationGeneration := 0
      recoveryScopeMac := primitives.scopeMac primitives.tombstoneKeyVersion .accountLink
        request.accountLinkId
      recoveryKeyVersion := primitives.tombstoneKeyVersion }

def conflictOnUnique {α : Type} (statement : Statement α) : Statement α := fun tables =>
  match statement tables with
  | .error .uniqueViolation => .error .storeConflict
  | result => result

def verifyAccountLinkProof (primitives : StorePrimitives) (request : VerifyAccountLinkRequest)
    (limited : Option String) (now : ℤ) : Statement Unit :=
  conflictOnUnique (accountLinkStatement primitives request limited now)

section

variable {primitives : StorePrimitives} {limited : Option String} {now : ℤ}
  {tables tables' : Tables} {u : Unit}

@[simp] theorem conflictOnUnique_eq_ok {α : Type} {statement : Statement α} {result : α × Tables} :
    conflictOnUnique statement tables = .ok result ↔ statement tables = .ok result := by
  unfold conflictOnUnique
  split
  · rename_i h
    simp [h]
  · rfl

@[simp] theorem assertMutable_eq_ok :
    assertMutable tables = .ok (u, tables') ↔
      (tables.service.serving = true ∧ tables.service.mutationsEnabled = true) ∧
        tables = tables' := by
  unfold assertMutable ServiceState.assertMutable
  rw [Transaction.check_eq_ok, require_eq_ok]

@[simp] theorem admitMutation_eq_ok :
    admitMutationInTransaction limited tables = .ok (u, tables') ↔
      limited = none ∧ tables = tables' := by
  unfold admitMutationInTransaction
  rw [Transaction.check_eq_ok]
  cases limited <;> simp

variable {installationId : String}

@[simp] theorem lockAuthenticated_eq_ok {credentialHash : String} {installation : InstallationRow} :
    lockAuthenticatedInstallation installationId credentialHash tables =
        .ok (installation, tables') ↔
      (tables.installations.find? installationId = some installation ∧
        installation.credentialHash = some credentialHash ∧ installation.state = .active) ∧
        tables = tables' := by
  unfold lockAuthenticatedInstallation
  rw [Transaction.check_eq_ok, and_congr_left_iff]
  intro _
  cases hfound : tables.installations.find? installationId with
  | none => simp
  | some row =>
    by_cases hrow : row.credentialHash = some credentialHash ∧ row.state = .active
    · simp only [hrow, and_self, if_true, Except.ok.injEq, Option.some.injEq]
      constructor
      · rintro rfl
        exact ⟨rfl, hrow⟩
      · rintro ⟨rfl, -⟩
        rfl
    · simp only [hrow, if_false, Option.some.injEq, reduceCtorEq, false_iff]
      rintro ⟨rfl, hboth⟩
      exact hrow hboth

structure Registered (primitives : StorePrimitives) (request : RegisterInstallationRequest)
    (tables tables' : Tables) : Prop where
  mutable : tables.service.serving = true ∧ tables.service.mutationsEnabled = true
  installations : ∃ installation, installation.installationId = request.installationId ∧
    installation.state = .active ∧ installation.revocationGeneration = 0 ∧
    installation.recoveryScopeMac = primitives.scopeMac primitives.tombstoneKeyVersion
      .installation request.installationId ∧
    installation.recoveryKeyVersion = primitives.tombstoneKeyVersion ∧
    tables.installations.insert? installation = some tables'.installations
  pushTokens : ∃ token, tables.pushTokens.insert? token = some tables'.pushTokens
  others : tables' = { tables with
    installations := tables'.installations, pushTokens := tables'.pushTokens }

theorem registered_of_eq_ok {request : RegisterInstallationRequest}
    (h : registerInstallation primitives request limited tables = .ok (u, tables')) :
    Registered primitives request tables tables' := by
  unfold registerInstallation insertInstallation at h
  simp only [Transaction.bind_eq_ok, assertMutable_eq_ok, admitMutation_eq_ok,
    Transaction.write_eq_ok] at h
  obtain ⟨_, _, ⟨hmutable, rfl⟩, _, _, ⟨-, rfl⟩, hinsert⟩ := h
  split at hinsert
  · cases hinsert
  · split at hinsert
    · cases hinsert
    · split at hinsert
      · rename_i hinstallations hpushTokens
        cases hinsert
        exact ⟨hmutable, ⟨_, rfl, rfl, rfl, rfl, rfl, hinstallations⟩, ⟨_, hpushTokens⟩, rfl⟩
      · cases hinsert

structure CredentialRotated (installationId : String) (tables tables' : Tables) : Prop where
  active : ∃ installation, tables.installations.find? installationId = some installation ∧
    installation.state = .active
  installations : ∃ newHash, tables' = { tables with
    installations := tables.installations.update (fun row => row.installationId = installationId)
      (fun row =>
        { row with
          credentialHash := some newHash
          credentialGeneration := row.credentialGeneration + 1 }) fun _ => rfl }

theorem credentialRotated_of_eq_ok {credential newCredential : String} {generation : ℕ}
    (h : rotateInstallationCredential primitives installationId credential newCredential
      limited tables = .ok (generation, tables')) :
    CredentialRotated installationId tables tables' := by
  unfold rotateInstallationCredential rotateCredential at h
  simp only [Transaction.bind_eq_ok, Transaction.ensure_eq_ok, assertMutable_eq_ok,
    lockAuthenticated_eq_ok, admitMutation_eq_ok, Transaction.read_eq_ok] at h
  obtain ⟨_, _, ⟨-, rfl⟩, _, _, ⟨-, rfl⟩, installation, _, ⟨⟨hfound, -, hactive⟩, rfl⟩, _, _,
    ⟨-, rfl⟩, _, _, ⟨rfl, rfl⟩, _, _, ⟨-, rfl⟩, hrest⟩ := h
  rw [hfound] at hrest
  simp only [Transaction.bind_eq_ok, Transaction.ensure_eq_ok, change_eq_ok,
    Transaction.pure_eq_ok] at hrest
  obtain ⟨_, _, ⟨-, rfl⟩, _, _, rfl, -, rfl⟩ := hrest
  exact ⟨⟨installation, hfound, hactive⟩, _, rfl⟩

theorem issueAccountLinkChallenge_eq_ok {request : IssueChallengeRequest} {record : ChallengeRow}
    (h : issueAccountLinkChallenge primitives request limited now tables = .ok (record, tables')) :
    createChallengeRecord primitives request (milliseconds now) = .ok record ∧
      ∃ challenges, tables.challenges.insert? record = some challenges ∧
        tables' = { tables with challenges := challenges } := by
  unfold issueAccountLinkChallenge insertChallenge at h
  simp only [Transaction.bind_eq_ok, Transaction.ensure_eq_ok, assertMutable_eq_ok,
    lockAuthenticated_eq_ok, admitMutation_eq_ok, Transaction.read_eq_ok,
    Transaction.check_eq_ok, Transaction.write_eq_ok, Transaction.pure_eq_ok] at h
  obtain ⟨_, _, ⟨-, rfl⟩, _, _, ⟨-, rfl⟩, _, _, ⟨-, rfl⟩, _, _, ⟨rfl, rfl⟩, _, _, ⟨-, rfl⟩,
    _, _, ⟨hrecord, rfl⟩, _, _, hinsert, rfl, rfl⟩ := h
  split at hinsert
  · rename_i challenges hsome
    cases hinsert
    exact ⟨hrecord, challenges, hsome, rfl⟩
  · cases hinsert

structure AccountLinked (primitives : StorePrimitives) (request : VerifyAccountLinkRequest)
    (tables tables' : Tables) : Prop where
  mutable : tables.service.serving = true ∧ tables.service.mutationsEnabled = true
  active : ∃ installation,
    tables.installations.find? request.installationId = some installation ∧
      installation.state = .active
  accountLinks : ∃ link, link.accountLinkId = request.accountLinkId ∧
    link.installationId = request.installationId ∧ link.state = .active ∧
    link.revocationGeneration = 0 ∧
    link.recoveryScopeMac = primitives.scopeMac primitives.tombstoneKeyVersion .accountLink
      request.accountLinkId ∧
    link.recoveryKeyVersion = primitives.tombstoneKeyVersion ∧
    tables.accountLinks.insert? link = some tables'.accountLinks
  others : tables' = { tables with
    challenges := tables'.challenges, accountLinks := tables'.accountLinks }

theorem insertAccountLink_eq_ok {row : AccountLinkRow}
    (h : insertAccountLink row tables = .ok (u, tables')) :
    ∃ accountLinks, tables.accountLinks.insert? row = some accountLinks ∧
      tables' = { tables with accountLinks := accountLinks } := by
  unfold insertAccountLink at h
  rw [Transaction.write_eq_ok] at h
  split at h
  · cases h
  · split at h
    · cases h
    · split at h
      · rename_i accountLinks hinsert
        cases h
        exact ⟨accountLinks, hinsert, rfl⟩
      · cases h

theorem accountLinked_of_eq_ok {request : VerifyAccountLinkRequest}
    (h : verifyAccountLinkProof primitives request limited now tables = .ok (u, tables')) :
    AccountLinked primitives request tables tables' := by
  unfold verifyAccountLinkProof at h
  rw [conflictOnUnique_eq_ok] at h
  unfold accountLinkStatement consumeChallenge loadChallenge at h
  simp only [Transaction.bind_eq_ok, Transaction.ensure_eq_ok, assertMutable_eq_ok,
    lockAuthenticated_eq_ok, admitMutation_eq_ok, Transaction.read_eq_ok,
    Transaction.check_eq_ok, change_eq_ok] at h
  obtain ⟨_, _, ⟨hmutable, rfl⟩, installation, _, ⟨⟨hfound, -, hactive⟩, rfl⟩, _, _, ⟨-, rfl⟩,
    record, _, ⟨-, rfl⟩, _, _, ⟨-, rfl⟩, _, _, ⟨-, rfl⟩, _, _, ⟨-, rfl⟩, _, _, ⟨rfl, rfl⟩,
    _, _, ⟨-, rfl⟩, _, _, ⟨_, _, ⟨rfl, rfl⟩, _, _, ⟨-, rfl⟩, rfl⟩, hinsert⟩ := h
  obtain ⟨accountLinks, hnew, rfl⟩ := insertAccountLink_eq_ok hinsert
  exact ⟨hmutable, ⟨installation, hfound, hactive⟩, ⟨_, rfl, rfl, rfl, rfl, rfl, rfl, hnew⟩, rfl⟩

end

end Notifications

end HyperTrader
