import HyperTrader.Library.Json
import HyperTrader.Notifications.Tables

/-!
# Account proofs

A challenge binds an operation, by its digest, to an installation, its credential, a
network and a pair of accounts; the proof is the master account's signature of a message
that spells the challenge out. Hashing, message authentication and the recovery of a
signer are the primitives of the store.
-/

namespace HyperTrader

open Library

namespace Notifications

structure StorePrimitives where
  sha256 : String → String
  recoverAddress : String → String → Option String
  mac : String → String → String
  tombstoneKeyVersion : String
  serviceOrigin : String

namespace StorePrimitives

variable (primitives : StorePrimitives)

def scopeMac (keyVersion : String) (kind : DeletionScopeKind) (scopeId : String) : String :=
  primitives.mac keyVersion ("scope/v1|" ++ kind.text ++ "|" ++ scopeId)

def operationDigest (versionedOperation : String) (operation : Json) : String :=
  primitives.sha256 (versionedOperation ++ "\n" ++ operation.stringify)

def hashInstallationCredential (credential : String) : String := primitives.sha256 credential

end StorePrimitives

def networkText : NotificationNetwork → String
  | .testnet => "testnet"
  | .mainnet => "mainnet"

def accountProofTtlMs : ℤ := 300000

def buildAccountProofMessage (record : ChallengeRow) (challenge : String) : String :=
  String.intercalate "\n"
    [ "Hyper Trader Notification Account Scope", "Version: 1",
      "Service-Origin: " ++ record.serviceOrigin, "Challenge: " ++ challenge,
      "Installation: " ++ record.installationId, "Network: " ++ networkText record.network,
      "Master-Account: " ++ record.masterAccount, "Target-Account: " ++ record.targetAccount,
      "Purpose: " ++ record.purpose.text, "Operation-Digest: " ++ record.operationDigest,
      "Issued-At: " ++ toString record.issuedAt, "Expires-At: " ++ toString record.expiresAt ]

structure AccountProof where
  challenge : String
  message : String
  signature : String
  deriving DecidableEq

def verifyAccountProof (primitives : StorePrimitives) (record : ChallengeRow)
    (proof : AccountProof) (now : ℤ) : Except StoreFailure Unit := do
  require (record.consumed = false) (.accountProof "challenge is not pending")
  require (isSafeInteger now ∧ record.issuedAt ≤ now) (.accountProof "proof time is invalid")
  require (now < record.expiresAt) (.accountProof "challenge expired")
  require (primitives.sha256 proof.challenge = record.challengeHash)
    (.accountProof "challenge binding is invalid")
  require (proof.message = buildAccountProofMessage record proof.challenge)
    (.accountProof "proof message is not canonical")
  match primitives.recoverAddress proof.message proof.signature with
  | none => .error (.accountProof "proof signature is invalid")
  | some recovered =>
    require (asciiLower recovered = record.masterAccount)
      (.accountProof "proof signer does not match master account")

structure ProofVerified (primitives : StorePrimitives) (record : ChallengeRow)
    (proof : AccountProof) (now : ℤ) : Prop where
  pending : record.consumed = false
  issued : record.issuedAt ≤ now
  unexpired : now < record.expiresAt
  challenge : primitives.sha256 proof.challenge = record.challengeHash
  message : proof.message = buildAccountProofMessage record proof.challenge
  signer : ∃ recovered, primitives.recoverAddress proof.message proof.signature = some recovered ∧
    asciiLower recovered = record.masterAccount

theorem verifyAccountProof_eq_ok {primitives : StorePrimitives} {record : ChallengeRow}
    {proof : AccountProof} {now : ℤ} {u : Unit}
    (h : verifyAccountProof primitives record proof now = .ok u) :
    ProofVerified primitives record proof now := by
  unfold verifyAccountProof at h
  simp only [except_bind_eq_ok, require_eq_ok] at h
  obtain ⟨_, hpending, _, htime, _, hexpired, _, hchallenge, _, hmessage, hsigner⟩ := h
  cases hrecovered : primitives.recoverAddress proof.message proof.signature with
  | none =>
    rw [hrecovered] at hsigner
    cases hsigner
  | some recovered =>
    rw [hrecovered] at hsigner
    exact ⟨hpending, htime.2, hexpired, hchallenge, hmessage, recovered, hrecovered,
      require_eq_ok.mp hsigner⟩

end Notifications

end HyperTrader
