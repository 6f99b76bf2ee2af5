import HyperTrader.Signing.Binding

/-!
# Signatures

What a signer returns, and the checks `signNetworkTypedData` makes before it
asks the signer and on its answer.
-/

namespace HyperTrader

open Library

structure Eip712Signature where
  r : String
  s : String
  v : ℤ

def signatureComponent : TextPattern := ⟨"0x", isHexDigit, 64, 64⟩

def validateSignature (signature : Eip712Signature) : Outcome Eip712Signature := do
  require (signatureComponent.test signature.r = true ∧ signatureComponent.test signature.s = true ∧
      (signature.v = 27 ∨ signature.v = 28))
    (.validation "signature" "the signer returned malformed signature components")
  pure { r := asciiLower signature.r, s := asciiLower signature.s, v := signature.v }

/-- `signNetworkTypedData` before the signer is asked, for a signer of
`signerBinding`. -/
def assertNetworkSigner (viem : Viem) (expectedBinding : SignerBinding)
    (payloadNetwork : HyperliquidNetwork) (signerBinding : SignerBinding) :
    Outcome Unit := do
  assertSignerAccessCapability expectedBinding.network
  assertSignerAccessCapability payloadNetwork
  require (payloadNetwork = expectedBinding.network)
    (.validation "signer.network" "the signing payload network does not match the signer binding")
  assertSignerBinding viem expectedBinding signerBinding

end HyperTrader
