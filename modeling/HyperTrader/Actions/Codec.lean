import HyperTrader.Actions.Builders
import HyperTrader.Library.Bytes
import HyperTrader.Nonce.Allocation

/-!
# The L1 action codec

What is signed is the hash of a canonical copy of the action, followed by the
nonce, the vault address and the expiry. The copy is made field by field from an
object of unknown shape: whatever does not have exactly the expected fields is
refused, and client order IDs come out in lower case.
-/

namespace HyperTrader

open Library

/-- The part of the `@msgpack/msgpack` package the codec calls: the bytes of a
plain object, with its fields in their order. -/
abbrev MessagePack := Json → List ℕ

def objectAt (value : Json) (path : String) : Outcome (List (String × Json)) :=
  match value with
  | .object fields => .ok fields
  | _ => invalid path "expected a plain object"

def assertExactKeys (fields : List (String × Json)) (expected : List String)
    (path : String) : Outcome Unit :=
  require ((fields.map Prod.fst).Perm expected)
    (.validation path "unexpected wire fields")

/-- `assetId` -/
def wireAssetId (value : Option ℤ) (path : String) : Outcome ℤ := do
  let message := "expected a non-negative safe integer"
  let assetId ← present value path message
  require (isSafeInteger assetId ∧ 0 ≤ assetId) (.validation path message)
  pure assetId

def wireCloid (value : Option String) (path : String) : Outcome String := do
  let message := "expected a 128-bit cloid"
  let text ← present value path message
  require (cloidPattern.test text = true) (.validation path message)
  pure (asciiLower text)

def LimitTimeInForce.read (text : String) : Option LimitTimeInForce :=
  [LimitTimeInForce.alo, .gtc, .ioc].find? fun tif => tif.text == text

def TriggerKindWire.read (text : String) : Option TriggerKindWire :=
  [TriggerKindWire.tp, .sl].find? fun tpsl => tpsl.text == text

def OrderGrouping.read (text : String) : Option OrderGrouping :=
  [OrderGrouping.na, .positionTpsl].find? fun grouping => grouping.text == text

def canonicalLimit (orderType : Json) (path : String) : Outcome OrderTypeWire := do
  let typeFields ← objectAt orderType path
  assertExactKeys typeFields ["limit"] path
  let limit := (orderType.field "limit").getD .null
  let limitFields ← objectAt limit (path ++ ".limit")
  assertExactKeys limitFields ["tif"] (path ++ ".limit")
  let tif ← present ((limit.text "tif").bind LimitTimeInForce.read)
    (path ++ ".limit.tif") "unknown time in force"
  pure (.limit tif)

def canonicalTrigger (orderType : Json) (reduceOnly : Bool) (path : String) :
    Outcome OrderTypeWire := do
  let typeFields ← objectAt orderType path
  assertExactKeys typeFields ["trigger"] path
  let trigger := (orderType.field "trigger").getD .null
  let triggerFields ← objectAt trigger (path ++ ".trigger")
  assertExactKeys triggerFields ["isMarket", "triggerPx", "tpsl"]
    (path ++ ".trigger")
  let message := "expected a reduce-only market TP/SL trigger"
  require (reduceOnly = true ∧ trigger.flag "isMarket" = some true)
    (.validation (path ++ ".trigger") message)
  let tpsl ← present ((trigger.text "tpsl").bind TriggerKindWire.read)
    (path ++ ".trigger") message
  let triggerPx ← present (trigger.text "triggerPx") (path ++ ".trigger") message
  require (canonicalPositiveDecimal triggerPx = true ∧ zeroDecimal triggerPx = false)
    (.validation (path ++ ".trigger") message)
  pure (.trigger triggerPx tpsl)

inductive OrderWireKind where
  | limit
  | trigger
  deriving DecidableEq

def canonicalOrderWire (value : Json) (path : String) (kind : OrderWireKind) :
    Outcome OrderWire := do
  let fields ← objectAt value path
  assertExactKeys fields ["a", "b", "p", "s", "r", "t", "c"] path
  let flags := "side and reduceOnly must be booleans"
  let b ← present (value.flag "b") path flags
  let r ← present (value.flag "r") path flags
  let price := "price must be a positive canonical decimal string"
  let p ← present (value.text "p") path price
  require (canonicalPositiveDecimal p = true ∧ zeroDecimal p = false)
    (.validation path price)
  let size :=
    if kind = .trigger then "position TP/SL size must use the canonical zero sentinel"
    else "size must be a positive canonical decimal string"
  let s ← present (value.text "s") (path ++ ".s") size
  require (canonicalPositiveDecimal s = true ∧ zeroDecimal s = decide (kind = .trigger))
    (.validation (path ++ ".s") size)
  let orderType := (value.field "t").getD .null
  let t ← match kind with
    | .limit => canonicalLimit orderType (path ++ ".t")
    | .trigger => canonicalTrigger orderType r (path ++ ".t")
  let a ← wireAssetId (value.integer "a") (path ++ ".a")
  let c ← wireCloid (value.text "c") (path ++ ".c")
  pure { a := a, b := b, p := p, s := s, r := r, t := t, c := c }

def wireCancelPath (index : ℕ) : String :=
  "action.cancels[" ++ toString index ++ "]"

def canonicalOidCancels : ℕ → List Json → Outcome (List CancelByOidWire)
  | _, [] => pure []
  | index, value :: values => do
      let path := wireCancelPath index
      let fields ← objectAt value path
      assertExactKeys fields ["a", "o"] path
      let message := "invalid order ID"
      let o ← present (value.integer "o") (path ++ ".o") message
      require (isSafeInteger o ∧ 0 ≤ o) (.validation (path ++ ".o") message)
      let a ← wireAssetId (value.integer "a") (path ++ ".a")
      let wires ← canonicalOidCancels (index + 1) values
      pure (⟨a, o⟩ :: wires)

def canonicalCloidCancels : ℕ → List Json → Outcome (List CancelByCloidWire)
  | _, [] => pure []
  | index, value :: values => do
      let path := wireCancelPath index
      let fields ← objectAt value path
      assertExactKeys fields ["asset", "cloid"] path
      let asset ← wireAssetId (value.integer "asset") (path ++ ".asset")
      let cloid ← wireCloid (value.text "cloid") (path ++ ".cloid")
      let wires ← canonicalCloidCancels (index + 1) values
      pure (⟨asset, cloid⟩ :: wires)

def arrayField (value : Json) (key : String) : Option (List Json) :=
  match value.field key with
  | some (.array items) => some items
  | _ => none

/-- The cancellations of an action, of which there are between one and
`MAX_BULK_CANCELS`. -/
def wireCancels (raw : Json) : Outcome (List Json) := do
  let values ← present (arrayField raw "cancels") "action.cancels" "invalid count"
  require (1 ≤ values.length ∧ values.length ≤ maxBulkCancels)
    (.validation "action.cancels" "invalid count")
  pure values

def canonicalOrderAction (raw : Json) (fields : List (String × Json)) :
    Outcome ExchangeAction := do
  assertExactKeys fields ["type", "orders", "grouping"] "action"
  let message := "expected one supported order"
  let grouping ← present ((raw.text "grouping").bind OrderGrouping.read)
    "action.orders" message
  let orders ← present (arrayField raw "orders") "action.orders" message
  match orders with
  | [order] => do
      let wire ← canonicalOrderWire order "action.orders[0]"
        (if grouping = .na then .limit else .trigger)
      pure (.order [wire] grouping)
  | _ => invalid "action.orders" message

def canonicalModifyAction (raw : Json) (fields : List (String × Json)) :
    Outcome ExchangeAction := do
  assertExactKeys fields ["type", "oid", "order"] "action"
  let message := "expected a positive order ID"
  let oid ← present (raw.integer "oid") "action.oid" message
  require (isSafeInteger oid ∧ 1 ≤ oid) (.validation "action.oid" message)
  let order ← canonicalOrderWire ((raw.field "order").getD .null) "action.order"
    .trigger
  pure (.modify oid order)

def canonicalLeverageAction (raw : Json) (fields : List (String × Json)) :
    Outcome ExchangeAction := do
  assertExactKeys fields ["type", "asset", "isCross", "leverage"] "action"
  let message := "invalid margin mode or leverage"
  let isCross ← present (raw.flag "isCross") "action.updateLeverage" message
  let leverage ← present (raw.integer "leverage") "action.updateLeverage" message
  require (isSafeInteger leverage ∧ 1 ≤ leverage ∧ leverage ≤ 100)
    (.validation "action.updateLeverage" message)
  let asset ← wireAssetId (raw.integer "asset") "action.asset"
  pure (.updateLeverage asset isCross leverage)

def canonicalizeExchangeAction (raw : Json) : Outcome ExchangeAction := do
  let fields ← objectAt raw "action"
  match raw.text "type" with
  | some "order" => canonicalOrderAction raw fields
  | some "modify" => canonicalModifyAction raw fields
  | some "cancel" => do
      assertExactKeys fields ["type", "cancels"] "action"
      let values ← wireCancels raw
      let wires ← canonicalOidCancels 0 values
      pure (.cancel wires)
  | some "cancelByCloid" => do
      assertExactKeys fields ["type", "cancels"] "action"
      let values ← wireCancels raw
      let wires ← canonicalCloidCancels 0 values
      pure (.cancelByCloid wires)
  | some "updateLeverage" => canonicalLeverageAction raw fields
  | _ => invalid "action.type" "unsupported exchange action discriminator"

structure L1ActionEncodingInput where
  action : Json
  nonce : ℤ
  vaultAddress : Option String
  expiresAfter : Option ℤ

structure EncodedL1Action where
  actionBytes : List ℕ
  actionHash : String
  nonce : ℤ
  vaultAddress : Option String
  expiresAfter : Option ℤ
  deriving DecidableEq

def uint64Bytes (value : ℤ) (path : String) : Outcome (List ℕ) := do
  require (isSafeInteger value ∧ 0 ≤ value)
    (.validation path "expected a non-negative safe integer")
  pure (bigEndian 8 value.toNat)

def normalizeVaultAddress (viem : Viem) :
    Option String → Outcome (Option String)
  | none => pure none
  | some address => do
      let checksummed ← present (viem.getAddress address) "vaultAddress"
        "expected a 20-byte Ethereum address"
      pure (some checksummed)

def validateExpiry (nonce : ℤ) : Option ℤ → Outcome (Option ℤ)
  | none => pure none
  | some expiresAfter => do
      let _ ← uint64Bytes expiresAfter "expiresAfter"
      require (nonce < expiresAfter ∧ expiresAfter - nonce ≤ actionExpiryMs)
        (.validation "expiresAfter" ("expected a timestamp after nonce and within " ++
            toString actionExpiryMs ++ " ms"))
      pure (some expiresAfter)

def vaultBytes : Option String → List ℕ
  | none => [0]
  | some address => 1 :: hexToBytes address

def expiryBytes : Option ℤ → Outcome (List ℕ)
  | none => pure []
  | some expiresAfter => do
      let bytes ← uint64Bytes expiresAfter "expiresAfter"
      pure (0 :: bytes)

def l1Preimage (viem : Viem) (encode : MessagePack) (input : L1ActionEncodingInput) :
    Outcome (List ℕ × List ℕ × Option String × Option ℤ) := do
  let nonceBytes ← uint64Bytes input.nonce "nonce"
  let action ← canonicalizeExchangeAction input.action
  let actionBytes := encode action.toJson
  let vaultAddress ← normalizeVaultAddress viem input.vaultAddress
  let expiresAfter ← validateExpiry input.nonce input.expiresAfter
  let expiry ← expiryBytes expiresAfter
  pure (actionBytes ++ nonceBytes ++ vaultBytes vaultAddress ++ expiry,
    actionBytes, vaultAddress, expiresAfter)

def encodeL1Action (viem : Viem) (encode : MessagePack)
    (input : L1ActionEncodingInput) : Outcome EncodedL1Action := do
  let (preimage, actionBytes, vaultAddress, expiresAfter) ←
    l1Preimage viem encode input
  pure
    { actionBytes := actionBytes
      actionHash := viem.keccak256Bytes preimage
      nonce := input.nonce
      vaultAddress := vaultAddress
      expiresAfter := expiresAfter }

structure L1TypedData where
  network : HyperliquidNetwork
  source : String
  connectionId : String

def buildL1TypedData (network : HyperliquidNetwork) (encoded : EncodedL1Action) :
    L1TypedData where
  network := network
  source := if network = .mainnet then "a" else "b"
  connectionId := encoded.actionHash

end HyperTrader
