import HyperTrader.Journal.Database

/-!
# Retired signer tombstones

A retired agent leaves a tombstone that commits to every tombstone before it:
its chain root is the hash of its fields and of the root it follows.
-/

namespace HyperTrader

open Library

def emptyRetirementChainRoot : String :=
  "0x0000000000000000000000000000000000000000000000000000000000000000"

structure RetiredSignerTombstoneInput where
  installationEpoch : String
  sequence : ℤ
  priorChainRoot : String
  network : HyperliquidNetwork
  agentAddressFingerprint : String
  lastIssuedNonce : ℤ
  generation : ℤ
  retiredAt : ℤ
  reason : SignerRetirementReason

def agentAddressFingerprint (viem : Viem) (address : String) :
    Outcome String := do
  require (addressPattern.test address = true)
    (.validation "agentAddress" "expected a 20-byte Ethereum address")
  pure (viem.keccak256 ("hyper-trader-retired-agent/v1\x00" ++ asciiLower address))

def validateHash (value path : String) : Outcome Unit :=
  require (lowercaseHashPattern.test value = true)
    (.validation path "expected a 32-byte lowercase hash")

def assertTombstoneNumbers : List (String × ℤ × ℤ) → Outcome Unit
  | [] => pure ()
  | (path, value, minimum) :: rest => do
      require (isSafeInteger value ∧ minimum ≤ value)
        (.validation path "expected a safe integer")
      assertTombstoneNumbers rest

def canonicalTombstone (input : RetiredSignerTombstoneInput) : Json :=
  .array [.string "hyper-trader-retirement/v1", .string input.installationEpoch,
    .number input.sequence, .string input.priorChainRoot,
    .string input.network.text, .string input.agentAddressFingerprint,
    .number input.lastIssuedNonce, .number input.generation,
    .number input.retiredAt, .string input.reason.text]

def createRetiredSignerTombstone (viem : Viem)
    (input : RetiredSignerTombstoneInput) : Outcome TombstoneRow := do
  validateHash input.priorChainRoot "priorChainRoot"
  validateHash input.agentAddressFingerprint "agentAddressFingerprint"
  require (16 ≤ utf16Length input.installationEpoch ∧ utf16Length input.installationEpoch ≤ 128)
    (.validation "installationEpoch" "expected a bounded opaque installation epoch")
  assertTombstoneNumbers
    [("sequence", input.sequence, 1), ("lastIssuedNonce", input.lastIssuedNonce, 0),
      ("generation", input.generation, 1), ("retiredAt", input.retiredAt, 0)]
  pure
    { installationEpoch := input.installationEpoch
      sequence := input.sequence
      priorChainRoot := input.priorChainRoot
      chainRoot := viem.keccak256 (canonicalTombstone input).stringify
      network := input.network
      agentAddressFingerprint := input.agentAddressFingerprint
      lastIssuedNonce := input.lastIssuedNonce
      signerGeneration := input.generation
      retiredAt := input.retiredAt
      reason := input.reason }

def TombstoneRow.input (row : TombstoneRow) : RetiredSignerTombstoneInput where
  installationEpoch := row.installationEpoch
  sequence := row.sequence
  priorChainRoot := row.priorChainRoot
  network := row.network
  agentAddressFingerprint := row.agentAddressFingerprint
  lastIssuedNonce := row.lastIssuedNonce
  generation := row.signerGeneration
  retiredAt := row.retiredAt
  reason := row.reason

end HyperTrader
