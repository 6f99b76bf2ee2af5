import HyperTrader.Basic

/-!
# Signer bindings and capabilities

A signer binding ties an agent key to the account it acts for. Two bindings are
compared after their addresses have been brought to one case.
-/

namespace HyperTrader

open Library

structure SignerBinding where
  network : HyperliquidNetwork
  masterAccount : String
  targetAccount : String
  agentAddress : String
  generation : ℤ
  deriving DecidableEq

structure ActionCapability where
  signerAccess : Bool
  exchangeTransport : Bool

inductive MainnetTradingReleaseStage where
  | preactivation
  | candidate
  deriving DecidableEq

def mainnetTradingReleaseStage : MainnetTradingReleaseStage := .candidate

def actionCapabilitiesForReleaseStage (stage : MainnetTradingReleaseStage) :
    HyperliquidNetwork → ActionCapability
  | .mainnet =>
    { signerAccess := stage == .candidate
      exchangeTransport := stage == .candidate }
  | .testnet => { signerAccess := true, exchangeTransport := true }

def actionCapability (network : HyperliquidNetwork) : ActionCapability :=
  actionCapabilitiesForReleaseStage mainnetTradingReleaseStage network

def assertSignerAccessCapability (network : HyperliquidNetwork) : Outcome Unit :=
  require ((actionCapability network).signerAccess = true)
    (.validation "network"
      (network.text ++ " signer access is disabled by the local capability policy"))

def assertExchangeTransportCapability (network : HyperliquidNetwork) : Outcome Unit :=
  require ((actionCapability network).exchangeTransport = true)
    (.validation "network" (network.text ++
        " exchange transport is disabled by the local capability policy"))

def assertTradingActionCapability (network : HyperliquidNetwork) :
    Outcome Unit := do
  assertSignerAccessCapability network
  assertExchangeTransportCapability network

theorem assertTradingActionCapability_eq_ok (network : HyperliquidNetwork) :
    assertTradingActionCapability network = .ok () := by
  cases network <;> rfl

/-- `getAddress(address).toLowerCase()`, or the failure that
`normalizeSignerBinding` turns an invalid address into. -/
def normalizeAddress (viem : Viem) (address : String) : Outcome String :=
  (viem.getAddress address).elim
    (.error (.validation "signer.binding" "expected valid master, target, and agent addresses"))
    fun checksummed => .ok (asciiLower checksummed)

def normalizeSignerBinding (viem : Viem) (binding : SignerBinding) :
    Outcome SignerBinding := do
  require (isSafeInteger binding.generation ∧ 1 ≤ binding.generation)
    (.validation "signer.generation" "expected a positive safe integer")
  let masterAccount ← normalizeAddress viem binding.masterAccount
  let targetAccount ← normalizeAddress viem binding.targetAccount
  let agentAddress ← normalizeAddress viem binding.agentAddress
  pure { binding with
    masterAccount := masterAccount
    targetAccount := targetAccount
    agentAddress := agentAddress }

def assertSignerBinding (viem : Viem) (expected actual : SignerBinding) :
    Outcome Unit := do
  let left ← normalizeSignerBinding viem expected
  let right ← normalizeSignerBinding viem actual
  require (left = right)
    (.validation "signer.binding" "the unlocked signer is not bound to this exact action target")

variable {viem : Viem} {address normal : String} {binding : SignerBinding}

theorem normalizeAddress_eq_ok :
    normalizeAddress viem address = .ok normal ↔
      ∃ checksummed, viem.getAddress address = some checksummed ∧
        asciiLower checksummed = normal := by
  unfold normalizeAddress
  cases viem.getAddress address <;> simp

theorem normalizeSignerBinding_eq_ok {normal : SignerBinding} :
    normalizeSignerBinding viem binding = .ok normal ↔
      (isSafeInteger binding.generation ∧ 1 ≤ binding.generation) ∧
      normal.network = binding.network ∧
      normal.generation = binding.generation ∧
      normalizeAddress viem binding.masterAccount = .ok normal.masterAccount ∧
      normalizeAddress viem binding.targetAccount = .ok normal.targetAccount ∧
      normalizeAddress viem binding.agentAddress = .ok normal.agentAddress := by
  unfold normalizeSignerBinding
  simp only [except_bind_eq_ok, require_eq_ok, pure, Except.pure, Except.ok.injEq]
  constructor
  · rintro ⟨_, hgeneration, master, hmaster, target, htarget, agent, hagent, rfl⟩
    exact ⟨hgeneration, rfl, rfl, hmaster, htarget, hagent⟩
  · rintro ⟨hgeneration, hnetwork, hgen, hmaster, htarget, hagent⟩
    refine ⟨(), hgeneration, _, hmaster, _, htarget, _, hagent, ?_⟩
    cases normal
    simp_all

theorem assertSignerBinding_eq_ok {expected actual : SignerBinding} {u : Unit} :
    assertSignerBinding viem expected actual = .ok u ↔
      ∃ normal, normalizeSignerBinding viem expected = .ok normal ∧
        normalizeSignerBinding viem actual = .ok normal := by
  unfold assertSignerBinding
  simp only [except_bind_eq_ok, require_eq_ok]
  constructor
  · rintro ⟨left, hleft, right, hright, rfl⟩
    exact ⟨left, hleft, hright⟩
  · rintro ⟨normal, hleft, hright⟩
    exact ⟨normal, hleft, normal, hright, rfl⟩

theorem normalizeAddress_normal (hviem : viem.Documented)
    (h : normalizeAddress viem address = .ok normal) :
    normalizeAddress viem normal = .ok normal := by
  obtain ⟨checksummed, hchecksummed, rfl⟩ := normalizeAddress_eq_ok.mp h
  exact normalizeAddress_eq_ok.mpr
    ⟨checksummed, hviem.getAddress_lower _ _ hchecksummed, rfl⟩

theorem normalizeSignerBinding_normal (hviem : viem.Documented) {normal : SignerBinding}
    (h : normalizeSignerBinding viem binding = .ok normal) :
    normalizeSignerBinding viem normal = .ok normal := by
  obtain ⟨hgeneration, -, hgen, hmaster, htarget, hagent⟩ :=
    normalizeSignerBinding_eq_ok.mp h
  rw [← hgen] at hgeneration
  exact normalizeSignerBinding_eq_ok.mpr ⟨hgeneration, rfl, rfl,
    normalizeAddress_normal hviem hmaster, normalizeAddress_normal hviem htarget,
    normalizeAddress_normal hviem hagent⟩

end HyperTrader
