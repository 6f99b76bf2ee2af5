import HyperTrader.Actions.Canonical
import HyperTrader.Actions.Preimage

/-!
# The request the exchange client sends

`submit` encodes a signed request again, the way it was encoded for its signature,
and sends its fields as JSON. The encoding is over the canonical copy of the action
and the body holds the action itself, so the two agree exactly when the action
already is what the codec writes.
-/

namespace HyperTrader

open Library

def plainObject : Json → Option (List (String × Json))
  | .object fields => some fields
  | .null => none
  | .bool _ => none
  | .number _ => none
  | .string _ => none
  | .array _ => none

/-- `exactKeys` of the exchange client. An object has no key twice, so as many keys,
each of them expected, are the expected ones in some order. -/
def exactRequestKeys (fields : List (String × Json)) (expected : List String) : Prop :=
  (fields.map Prod.fst).Perm expected

instance (fields : List (String × Json)) (expected : List String) :
    Decidable (exactRequestKeys fields expected) :=
  inferInstanceAs (Decidable (List.Perm _ _))

def isObjectOrArray : Json → Bool
  | .object _ => true
  | .array _ => true
  | .null => false
  | .bool _ => false
  | .number _ => false
  | .string _ => false

/-- The fields of a signed request, whose vault address may be left out. -/
def requestKeys (request : Json) : List String :=
  if request.field "vaultAddress" = none then
    ["action", "nonce", "signature", "expiresAfter"]
  else ["action", "nonce", "signature", "vaultAddress", "expiresAfter"]

def assertSignature (signature : Json) : Outcome Unit := do
  let message := "expected canonical signature components"
  let fields ← present (plainObject signature) "exchange.signature" message
  require (exactRequestKeys fields ["r", "s", "v"])
    (.validation "exchange.signature" message)
  let r ← present (signature.text "r") "exchange.signature" message
  let s ← present (signature.text "s") "exchange.signature" message
  let v ← present (signature.integer "v") "exchange.signature" message
  require (lowercaseHashPattern.test r = true ∧ lowercaseHashPattern.test s = true ∧
      (v = 27 ∨ v = 28))
    (.validation "exchange.signature" message)

def requestAction (request : Json) : Json := (request.field "action").getD .null

/-- The vault address of a request is absent or a text, if it is one that
`getAddress` can accept. -/
def requestVault (request : Json) : Option (Option String) :=
  match request.field "vaultAddress" with
  | none => some none
  | some .null => some none
  | some (.string address) => some (some address)
  | some _ => none

def encodeRequest (viem : Viem) (encode : MessagePack) (request : Json)
    (nonce expiresAfter : ℤ) : Outcome EncodedL1Action :=
  match requestVault request with
  | some vaultAddress => encodeL1Action viem encode
      { action := requestAction request
        nonce := nonce
        vaultAddress := vaultAddress
        expiresAfter := some expiresAfter }
  | none => do
      -- `getAddress` throws on what is no text, after the checks before it
      let _ ← uint64Bytes nonce "nonce"
      let _ ← canonicalizeExchangeAction (requestAction request)
      invalid "vaultAddress" "expected a 20-byte Ethereum address"

def assertSignedRequest (viem : Viem) (encode : MessagePack) (request : Json) :
    Outcome Unit := do
  let unexpected := "unexpected signed request fields"
  let fields ← present (plainObject request) "exchange.request" unexpected
  require (exactRequestKeys fields (requestKeys request))
    (.validation "exchange.request" unexpected)
  let times := "nonce and expiry are invalid"
  let nonce ← present (request.integer "nonce") "exchange.request" times
  let expiresAfter ← present (request.integer "expiresAfter") "exchange.request" times
  require (isSafeInteger nonce ∧ 0 ≤ nonce ∧ isSafeInteger expiresAfter ∧ nonce < expiresAfter)
    (.validation "exchange.request" times)
  require (isObjectOrArray (requestAction request) = true)
    (.validation "exchange.action" "action is missing")
  assertSignature ((request.field "signature").getD .null)
  let _ ← encodeRequest viem encode request nonce expiresAfter
  pure ()

def requestBody (request : Json) : Json :=
  .object ([("action", requestAction request), ("nonce", (request.field "nonce").getD .null),
      ("signature", (request.field "signature").getD .null),
      ("expiresAfter", (request.field "expiresAfter").getD .null)] ++
    match request.field "vaultAddress" with
    | none => []
    | some .null => []
    | some vaultAddress => [("vaultAddress", vaultAddress)])

def submittedBody (viem : Viem) (encode : MessagePack) (network : HyperliquidNetwork)
    (request : Json) : Outcome Json := do
  assertExchangeTransportCapability network
  assertSignedRequest viem encode request
  pure (requestBody request)

variable {viem : Viem} {encode : MessagePack} {request body : Json} {network : HyperliquidNetwork}

theorem submittedBody_of_signed (network : HyperliquidNetwork)
    (h : assertSignedRequest viem encode request = .ok ()) :
    submittedBody viem encode network request = .ok (requestBody request) := by
  have hnetwork : assertExchangeTransportCapability network = .ok () := by
    cases network <;> rfl
  simp only [submittedBody, hnetwork, h]
  rfl

def signedInput (request : Json) (nonce expiresAfter : ℤ) : L1ActionEncodingInput where
  action := requestAction request
  nonce := nonce
  vaultAddress := (requestVault request).getD none
  expiresAfter := some expiresAfter

/-- The body holds what was hashed: the canonical action, field by field, and the
nonce, the vault address and the expiry of the hashed bytes. -/
structure SentAsSigned (viem : Viem) (encode : MessagePack) (request body : Json) :
    Prop where
  action : ∃ action, canonicalizeExchangeAction (requestAction request) = .ok action ∧
    body.field "action" = some action.toJson
  bytes : ∃ action nonce expiresAfter,
    canonicalizeExchangeAction (requestAction request) = .ok action ∧
      body.integer "nonce" = some nonce ∧
      body.integer "expiresAfter" = some expiresAfter ∧
      hashedBytes viem encode (signedInput request nonce expiresAfter) =
        .ok (encode action.toJson ++ (bigEndian 8 nonce.toNat ++
          (vaultBytes (body.text "vaultAddress") ++ 0 :: bigEndian 8 expiresAfter.toNat)))

theorem submittedBody_eq_ok (h : submittedBody viem encode network request = .ok body) :
    body = requestBody request ∧
      ∃ nonce expiresAfter vaultAddress encoded,
        request.field "nonce" = some (.number nonce) ∧
        request.field "expiresAfter" = some (.number expiresAfter) ∧
        requestVault request = some vaultAddress ∧
        encodeL1Action viem encode (signedInput request nonce expiresAfter) = .ok encoded := by
  simp only [submittedBody, assertSignedRequest, except_bind_eq_ok, present_eq_ok,
    require_eq_ok, Json.integer_eq_some] at h
  obtain ⟨-, -, -, ⟨fields, -, -, -, nonce, hnonce, expiresAfter, hexpires, -, -, -, -,
    -, -, encoded, hencoded, -⟩, hbody⟩ := h
  cases hbody
  refine ⟨rfl, nonce, expiresAfter, ?_⟩
  unfold encodeRequest at hencoded
  split at hencoded
  · rename_i vaultAddress hvault
    refine ⟨vaultAddress, encoded, hnonce, hexpires, hvault, ?_⟩
    rw [signedInput, hvault]
    exact hencoded
  · simp [invalid] at hencoded

theorem requestBody_vault {vaultAddress : Option String}
    (h : requestVault request = some vaultAddress) :
    (requestBody request).text "vaultAddress" = vaultAddress := by
  unfold requestVault at h
  split at h
  · rename_i hfield
    cases h
    simp only [requestBody, hfield]
    rfl
  · rename_i hfield
    cases h
    simp only [requestBody, hfield]
    rfl
  · rename_i address hfield
    cases h
    simp only [requestBody, hfield]
    rfl
  · cases h

theorem vaultBytes_normalized (hviem : viem.Checksums) {address vault : Option String}
    (h : normalizeVaultAddress viem address = .ok vault) :
    vaultBytes vault = vaultBytes address := by
  cases address with
  | none =>
    cases h
    rfl
  | some address =>
    obtain ⟨checksummed, haddress, rfl⟩ := normalizeVaultAddress_some h
    simp only [vaultBytes]
    rw [hexToBytes_congr (fun _ hbyte => hbyte)
      (hviem.getAddress_pattern address checksummed haddress)
      (hviem.getAddress_case address checksummed haddress)]

theorem submittedBody_bytes (hviem : viem.Checksums)
    (h : submittedBody viem encode network request = .ok body) :
    ∃ action nonce expiresAfter,
      canonicalizeExchangeAction (requestAction request) = .ok action ∧
        body.integer "nonce" = some nonce ∧
        body.integer "expiresAfter" = some expiresAfter ∧
        hashedBytes viem encode (signedInput request nonce expiresAfter) =
          .ok (encode action.toJson ++ (bigEndian 8 nonce.toNat ++
            (vaultBytes (body.text "vaultAddress") ++ 0 :: bigEndian 8 expiresAfter.toNat))) := by
  obtain ⟨rfl, nonce, expiresAfter, vaultAddress, encoded, hnonce, hexpires, hvault,
    hencoded⟩ := submittedBody_eq_ok h
  obtain ⟨preimage, hparts, -, -⟩ := encodeL1Action_eq_ok.mp hencoded
  obtain ⟨-, action, expiry, haction, -, hnormal, hvalid, hexpiry, hpreimage⟩ :=
    l1Preimage_eq_ok hparts
  have hexpiryBytes : expiry = 0 :: bigEndian 8 expiresAfter.toNat := by
    rw [(validateExpiry_eq_ok hvalid).1] at hexpiry
    simp only [signedInput, expiryBytes, except_bind_eq_ok, uint64Bytes_eq_ok] at hexpiry
    obtain ⟨_, ⟨-, rfl⟩, hresult⟩ := hexpiry
    cases hresult
    rfl
  have hbody : (requestBody request).text "vaultAddress" =
      (signedInput request nonce expiresAfter).vaultAddress := by
    rw [requestBody_vault hvault, signedInput, hvault]
    rfl
  refine ⟨action, nonce, expiresAfter, haction, ?_, ?_, ?_⟩
  · apply Json.integer_eq_some.mpr
    simp only [requestBody, hnonce]
    rfl
  · apply Json.integer_eq_some.mpr
    simp only [requestBody, hexpires]
    rfl
  · rw [hashedBytes, hparts, hpreimage, hbody, vaultBytes_normalized hviem hnormal, hexpiryBytes]
    rfl

/-- **What is signed is what is sent** exactly when the action has its fields in the
codec's order and its client order IDs in lower case. -/
theorem sent_as_signed_iff {viem : Viem} (hviem : viem.Checksums)
    {encode : MessagePack} {network : HyperliquidNetwork} {request body : Json}
    (h : submittedBody viem encode network request = .ok body) :
    SentAsSigned viem encode request body ↔ InCodecOrder (requestAction request) := by
  have hbytes := submittedBody_bytes hviem h
  obtain ⟨action, -, -, haction, -⟩ := hbytes
  have hiff := action_eq_toJson_iff haction
  have hfield : body.field "action" = some (requestAction request) := by
    rw [(submittedBody_eq_ok h).1]
    rfl
  constructor
  · rintro ⟨⟨other, hother, hsent⟩, -⟩
    obtain rfl : action = other := Except.ok.inj (haction.symm.trans hother)
    rw [hfield] at hsent
    exact hiff.mp (Option.some.inj hsent)
  · intro horder
    refine ⟨⟨action, haction, ?_⟩, submittedBody_bytes hviem h⟩
    rw [hfield, ← hiff.mpr horder]

def cloidRequest (cloid : String) : Json :=
  .object [("action", .object [("type", .string "cancelByCloid"),
      ("cancels", .array [.object [("asset", .number 3), ("cloid", .string cloid)]])]),
    ("nonce", .number 1700000000000), ("signature", .object [("r", .string
          "0x1111111111111111111111111111111111111111111111111111111111111111"), ("s", .string
          "0x2222222222222222222222222222222222222222222222222222222222222222"),
        ("v", .number 27)]), ("expiresAfter", .number 1700000015000)]

/-- The functions of `viem` on these requests, which have no address and the same
bytes. -/
def cloidViem : Viem where
  getAddress _ := none
  keccak256 _ := ""
  keccak256Bytes _ :=
    "0x42a24092c6c45282a2475e09cffc2bdb746c6796fa5c963223255c61ebd829d2"

theorem cloidViem_checksums : cloidViem.Checksums where
  getAddress_pattern address checksummed h := by cases h
  getAddress_case address checksummed h := by cases h

/-- The hash is of the client order ID in lower case, the body has it in upper
case. -/
theorem upper_cloid_not_sent_as_signed :
    ¬ ∀ (viem : Viem) (_ : viem.Checksums) (encode : MessagePack)
        (network : HyperliquidNetwork) (request body : Json),
      submittedBody viem encode network request = .ok body →
        SentAsSigned viem encode request body := by
  intro h
  obtain ⟨⟨action, haction, hsent⟩, -⟩ := h cloidViem cloidViem_checksums
    Json.messagePack .testnet (cloidRequest "0xABCDEF0123456789ABCDEF0123456789")
    (requestBody (cloidRequest "0xABCDEF0123456789ABCDEF0123456789"))
    (submittedBody_of_signed .testnet (by decide))
  have hlower : canonicalizeExchangeAction
      (requestAction (cloidRequest "0xABCDEF0123456789ABCDEF0123456789")) =
        .ok (.cancelByCloid [⟨3, "0xabcdef0123456789abcdef0123456789"⟩]) := by
    decide
  obtain rfl := Except.ok.inj (hlower.symm.trans haction)
  revert hsent
  decide

theorem sent_as_signed_iff_lower_cloid :
    let request := cloidRequest "0xabcdef0123456789abcdef0123456789"
    SentAsSigned cloidViem Json.messagePack request (requestBody request) ↔
      InCodecOrder (requestAction request) :=
  sent_as_signed_iff cloidViem_checksums
    (submittedBody_of_signed .testnet (show assertSignedRequest cloidViem Json.messagePack
        (cloidRequest "0xabcdef0123456789abcdef0123456789") = .ok () by
          decide))

end HyperTrader
