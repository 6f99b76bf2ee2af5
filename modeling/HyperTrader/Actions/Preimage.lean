import HyperTrader.Actions.Codec
import HyperTrader.Library.Hex
import HyperTrader.Library.MessagePack

/-!
# What the signed bytes determine

The bytes that are hashed are the action, eight bytes of nonce, a tag with the
vault address if there is one, and a tag with eight bytes of expiry if there is
one. Read from the front, each part says where the next one begins, so equal
bytes are of equal requests.
-/

namespace HyperTrader

open Library

theorem TriggerKindWire.text_injective {a b : TriggerKindWire} (h : a.text = b.text) : a = b := by
  revert h
  cases a <;> cases b <;> decide

theorem OrderGrouping.text_injective {a b : OrderGrouping} (h : a.text = b.text) : a = b := by
  revert h
  cases a <;> cases b <;> decide

theorem OrderTypeWire.toJson_injective : Function.Injective OrderTypeWire.toJson := by
  intro a b h
  cases a with
  | limit tif =>
    cases b with
    | limit tif' =>
      simp only [toJson, Json.object.injEq, List.cons.injEq, Prod.mk.injEq,
        Json.string.injEq, true_and, and_true] at h
      rw [LimitTimeInForce.text_injective h]
    | trigger triggerPx' tpsl' => simp [toJson] at h
  | trigger triggerPx tpsl =>
    cases b with
    | limit tif' => simp [toJson] at h
    | trigger triggerPx' tpsl' =>
      simp only [toJson, Json.object.injEq, List.cons.injEq, Prod.mk.injEq,
        Json.string.injEq, true_and, and_true] at h
      rw [h.1, TriggerKindWire.text_injective h.2]

theorem OrderWire.toJson_injective : Function.Injective OrderWire.toJson := by
  intro a b h
  simp only [toJson, Json.object.injEq, List.cons.injEq, Prod.mk.injEq,
    Json.number.injEq, Json.bool.injEq, Json.string.injEq, true_and, and_true] at h
  obtain ⟨ha, hb, hp, hs, hr, ht, hc⟩ := h
  have ht := OrderTypeWire.toJson_injective ht
  cases a
  cases b
  simp_all

theorem CancelByOidWire.toJson_injective : Function.Injective CancelByOidWire.toJson := by
  intro a b h
  cases a
  cases b
  simp_all [toJson]

theorem CancelByCloidWire.toJson_injective : Function.Injective CancelByCloidWire.toJson := by
  intro a b h
  cases a
  cases b
  simp_all [toJson]

theorem ExchangeAction.toJson_injective : Function.Injective ExchangeAction.toJson := by
  intro a b h
  cases a with
  | order orders grouping =>
    cases b <;> simp [toJson] at h
    case order orders' grouping' =>
      rw [List.map_injective_iff.mpr OrderWire.toJson_injective h.1,
        OrderGrouping.text_injective h.2]
  | modify oid order =>
    cases b <;> simp [toJson] at h
    case modify oid' order' =>
      rw [h.1, OrderWire.toJson_injective h.2]
  | cancel cancels =>
    cases b <;> simp [toJson] at h
    case cancel cancels' =>
      rw [List.map_injective_iff.mpr CancelByOidWire.toJson_injective h]
  | cancelByCloid cancels =>
    cases b <;> simp [toJson] at h
    case cancelByCloid cancels' =>
      rw [List.map_injective_iff.mpr CancelByCloidWire.toJson_injective h]
  | updateLeverage asset isCross leverage =>
    cases b <;> simp [toJson] at h
    case updateLeverage asset' isCross' leverage' =>
      rw [h.1, h.2.1, h.2.2]

def CanonicalObject (object : Json) : Prop :=
  ∃ raw action, canonicalizeExchangeAction raw = .ok action ∧
    action.toJson = object

variable {bytes : List ℕ} {viem : Viem} {vault : Option String} {expiresAfter : Option ℤ}
  {encode : MessagePack} {input : L1ActionEncodingInput}

theorem uint64Bytes_eq_ok {value : ℤ} {path : String} :
    uint64Bytes value path = .ok bytes ↔
      (isSafeInteger value ∧ 0 ≤ value) ∧ bytes = bigEndian 8 value.toNat := by
  simp only [uint64Bytes, except_bind_eq_ok, require_eq_ok]
  constructor
  · rintro ⟨-, hsafe, hbytes⟩
    cases hbytes
    exact ⟨hsafe, rfl⟩
  · rintro ⟨hsafe, rfl⟩
    exact ⟨(), hsafe, rfl⟩

theorem eq_of_bigEndian {a b : ℤ} (ha : isSafeInteger a ∧ 0 ≤ a) (hb : isSafeInteger b ∧ 0 ≤ b)
    (h : bigEndian 8 a.toNat = bigEndian 8 b.toNat) : a = b := by
  obtain ⟨⟨-, hamost⟩, ha⟩ := ha
  obtain ⟨⟨-, hbmost⟩, hb⟩ := hb
  have hnat := bigEndian_injective_of_lt (by omega) (by omega) h
  omega

theorem normalizeVaultAddress_some {address : String}
    (h : normalizeVaultAddress viem (some address) = .ok vault) :
    ∃ checksummed, viem.getAddress address = some checksummed ∧
      vault = some checksummed := by
  simp only [normalizeVaultAddress, except_bind_eq_ok] at h
  obtain ⟨checksummed, hpresent, hvault⟩ := h
  cases haddress : viem.getAddress address with
  | none => simp [present, haddress, invalid] at hpresent
  | some found =>
    rw [haddress] at hpresent
    cases hpresent
    cases hvault
    exact ⟨checksummed, rfl, rfl⟩

/-- The tag says whether an address follows, and an address is twenty bytes that
determine it up to the case of its letters. -/
theorem vaultBytes_append_inj (hviem : viem.Checksums)
    {first second : Option String} {other : Option String}
    (hfirst : normalizeVaultAddress viem first = .ok vault)
    (hsecond : normalizeVaultAddress viem second = .ok other) {x y : List ℕ}
    (h : vaultBytes vault ++ x = vaultBytes other ++ y) :
    first.map asciiLower = second.map asciiLower ∧ x = y := by
  cases first with
  | none =>
    cases hfirst
    cases second with
    | none =>
      cases hsecond
      exact ⟨rfl, List.append_cancel_left h⟩
    | some address =>
      obtain ⟨checksummed, -, rfl⟩ := normalizeVaultAddress_some hsecond
      simp [vaultBytes] at h
  | some address =>
    obtain ⟨checksummed, haddress, rfl⟩ := normalizeVaultAddress_some hfirst
    cases second with
    | none =>
      cases hsecond
      simp [vaultBytes] at h
    | some address' =>
      obtain ⟨checksummed', haddress', rfl⟩ := normalizeVaultAddress_some hsecond
      have hpattern := hviem.getAddress_pattern address checksummed haddress
      have hpattern' := hviem.getAddress_pattern address' checksummed' haddress'
      simp only [vaultBytes, List.cons_append, List.cons.injEq, true_and] at h
      have hlength := length_hexToBytes (fun _ hbyte => hbyte) hpattern
      have hlength' := length_hexToBytes (fun _ hbyte => hbyte) hpattern'
      obtain ⟨hbytes, hrest⟩ :=
        List.append_inj h (hlength.trans hlength'.symm)
      have hlower := hexToBytes_injective (fun _ hbyte => hbyte) (by decide)
        hpattern hpattern' hbytes
      rw [hviem.getAddress_case address checksummed haddress,
        hviem.getAddress_case address' checksummed' haddress'] at hlower
      exact ⟨by rw [Option.map_some, Option.map_some, hlower], hrest⟩

theorem validateExpiry_eq_ok {nonce : ℤ} {expiry : Option ℤ}
    (h : validateExpiry nonce expiresAfter = .ok expiry) :
    expiry = expiresAfter ∧
      ∀ time ∈ expiresAfter, isSafeInteger time ∧ 0 ≤ time := by
  cases expiresAfter with
  | none =>
    cases h
    exact ⟨rfl, by simp⟩
  | some time =>
    simp only [validateExpiry, except_bind_eq_ok, uint64Bytes_eq_ok, require_eq_ok] at h
    obtain ⟨_, ⟨hsafe, -⟩, _, -, hexpiry⟩ := h
    cases hexpiry
    refine ⟨rfl, ?_⟩
    intro time' htime
    cases htime
    exact hsafe

theorem expiryBytes_injective {first second : Option ℤ} (hfirst : expiryBytes first = .ok bytes)
    (hsecond : expiryBytes second = .ok bytes) : first = second := by
  cases first with
  | none =>
    cases hfirst
    cases second with
    | none => rfl
    | some time =>
      simp only [expiryBytes, except_bind_eq_ok] at hsecond
      obtain ⟨_, -, hbytes⟩ := hsecond
      cases hbytes
  | some time =>
    simp only [expiryBytes, except_bind_eq_ok, uint64Bytes_eq_ok] at hfirst
    obtain ⟨_, ⟨htime, rfl⟩, hbytes⟩ := hfirst
    cases hbytes
    cases second with
    | none => cases hsecond
    | some time' =>
      simp only [expiryBytes, except_bind_eq_ok, uint64Bytes_eq_ok] at hsecond
      obtain ⟨_, ⟨htime', rfl⟩, hbytes⟩ := hsecond
      have htail := List.cons.inj (Except.ok.inj hbytes)
      rw [eq_of_bigEndian htime htime' htail.2.symm]

theorem l1Preimage_eq_ok {preimage actionBytes : List ℕ} {vaultAddress : Option String}
    (h : l1Preimage viem encode input = .ok (preimage, actionBytes, vaultAddress, expiresAfter)) :
    (isSafeInteger input.nonce ∧ 0 ≤ input.nonce) ∧
      ∃ action expiry, canonicalizeExchangeAction input.action = .ok action ∧
        actionBytes = encode action.toJson ∧
        normalizeVaultAddress viem input.vaultAddress = .ok vaultAddress ∧
        validateExpiry input.nonce input.expiresAfter = .ok expiresAfter ∧
        expiryBytes expiresAfter = .ok expiry ∧
        preimage = encode action.toJson ++ (bigEndian 8 input.nonce.toNat ++
          (vaultBytes vaultAddress ++ expiry)) := by
  simp only [l1Preimage, except_bind_eq_ok, uint64Bytes_eq_ok] at h
  obtain ⟨_, ⟨hnonce, rfl⟩, action, haction, vault, hvault, expires, hexpires,
    expiry, hexpiry, hresult⟩ := h
  cases hresult
  refine ⟨hnonce, action, expiry, haction, rfl, hvault, hexpires, hexpiry, ?_⟩
  simp only [List.append_assoc]

theorem encodeL1Action_eq_ok {encoded : EncodedL1Action} :
    encodeL1Action viem encode input = .ok encoded ↔
      ∃ preimage, l1Preimage viem encode input =
          .ok (preimage, encoded.actionBytes, encoded.vaultAddress, encoded.expiresAfter) ∧
        encoded.actionHash = viem.keccak256Bytes preimage ∧
        encoded.nonce = input.nonce := by
  simp only [encodeL1Action, except_bind_eq_ok]
  constructor
  · rintro ⟨⟨preimage, actionBytes, vaultAddress, expiresAfter⟩, hparts, hencoded⟩
    cases hencoded
    exact ⟨preimage, hparts, rfl, rfl⟩
  · rintro ⟨preimage, hparts, hhash, hnonce⟩
    refine ⟨_, hparts, ?_⟩
    cases encoded
    simp_all
    rfl

/-- The bytes that `encodeL1Action` hashes. -/
def hashedBytes (viem : Viem) (encode : MessagePack)
    (input : L1ActionEncodingInput) : Outcome (List ℕ) :=
  (l1Preimage viem encode input).map Prod.fst

/-- The result's hash is the hash of these bytes. -/
theorem hashedBytes_actionHash {encoded : EncodedL1Action}
    (h : encodeL1Action viem encode input = .ok encoded) :
    (hashedBytes viem encode input).map viem.keccak256Bytes = .ok encoded.actionHash := by
  obtain ⟨preimage, hparts, hhash, -⟩ := encodeL1Action_eq_ok.mp h
  rw [hashedBytes, hparts, hhash]
  rfl

/-- **Equal bytes are of equal requests.** For an encoder that is a prefix code of
the canonical actions, two accepted requests of one byte string have the same
canonical action, the same nonce, the same expiry, and vault addresses that differ
in the case of their letters only. -/
theorem signing_preimage_injective {viem : Viem} (hviem : viem.Checksums)
    {encode : MessagePack} (hencode : PrefixCode CanonicalObject encode)
    {first second : L1ActionEncodingInput} {left right : EncodedL1Action}
    (hfirst : encodeL1Action viem encode first = .ok left)
    (hsecond : encodeL1Action viem encode second = .ok right)
    (hbytes : hashedBytes viem encode first = hashedBytes viem encode second) :
    canonicalizeExchangeAction first.action =
        canonicalizeExchangeAction second.action ∧
      first.nonce = second.nonce ∧
      first.vaultAddress.map asciiLower = second.vaultAddress.map asciiLower ∧
      first.expiresAfter = second.expiresAfter := by
  obtain ⟨preimage, hleft, -, -⟩ := encodeL1Action_eq_ok.mp hfirst
  obtain ⟨preimage', hright, -, -⟩ := encodeL1Action_eq_ok.mp hsecond
  rw [hashedBytes, hashedBytes, hleft, hright] at hbytes
  have hsame : preimage = preimage' := Except.ok.inj hbytes
  obtain ⟨hnonce, action, expiry, haction, -, hvault, hexpires, hexpiry, hparts⟩ :=
    l1Preimage_eq_ok hleft
  obtain ⟨hnonce', action', expiry', haction', -, hvault', hexpires', hexpiry',
    hparts'⟩ := l1Preimage_eq_ok hright
  have happend := hparts.symm.trans (hsame.trans hparts')
  -- the action is a prefix code, the nonce has a fixed width, the vault a tag
  obtain ⟨hobject, happend⟩ := hencode.append_inj ⟨first.action, action, haction, rfl⟩
    ⟨second.action, action', haction', rfl⟩ happend
  obtain ⟨hnonceBytes, happend⟩ := List.append_inj happend
    (by rw [length_bigEndian, length_bigEndian])
  obtain ⟨hvaults, hexpiryBytes⟩ :=
    vaultBytes_append_inj hviem hvault hvault' happend
  subst hexpiryBytes
  refine ⟨?_, eq_of_bigEndian hnonce hnonce' hnonceBytes, hvaults, ?_⟩
  · rw [haction, haction', ExchangeAction.toJson_injective hobject]
  · rw [← (validateExpiry_eq_ok hexpires).1, ← (validateExpiry_eq_ok hexpires').1]
    exact expiryBytes_injective hexpiry hexpiry'

/-- The functions of `viem` on the sample requests: the checksum of their vault
address, and the hash of their bytes. -/
def vaultViem : Viem where
  getAddress address :=
    if addressPattern.test address = true ∧ asciiLower address =
        "0x5aaeb6053f3e94c9b9a09f33669435e7ef1beaed" then
      some "0x5aAeb6053F3E94C9b9A09f33669435E7Ef1BeAed"
    else none
  keccak256 _ := ""
  keccak256Bytes _ := 
    "0x01c78887d714ff68ce62532a91ce7e0a3324ec910e9d6b78ca70817f8bbae851"

theorem vaultViem_checksums : vaultViem.Checksums where
  getAddress_pattern address checksummed h := by
    simp only [vaultViem, Option.ite_none_right_eq_some, Option.some.injEq] at h
    rw [← h.2]
    decide
  getAddress_case address checksummed h := by
    simp only [vaultViem, Option.ite_none_right_eq_some, Option.some.injEq] at h
    rw [← h.2, h.1.2]
    decide

def vaultRequest (vaultAddress : String) : L1ActionEncodingInput where
  action := .object [("type", .string "updateLeverage"), ("asset", .number 0),
    ("isCross", .bool true), ("leverage", .number 5)]
  nonce := 1700000000000
  vaultAddress := some vaultAddress
  expiresAfter := some 1700000015000

def vaultEncoded : EncodedL1Action where
  actionBytes := Json.messagePack (vaultRequest "").action
  actionHash := vaultViem.keccak256Bytes []
  nonce := 1700000000000
  vaultAddress := some "0x5aAeb6053F3E94C9b9A09f33669435E7Ef1BeAed"
  expiresAfter := some 1700000015000

theorem signing_preimage_injective_vault :
    let first := vaultRequest "0x5aAeb6053F3E94C9b9A09f33669435E7Ef1BeAed"
    let second := vaultRequest "0x5aaeb6053f3e94c9b9a09f33669435e7ef1beaed"
    canonicalizeExchangeAction first.action =
        canonicalizeExchangeAction second.action ∧
      first.nonce = second.nonce ∧
      first.vaultAddress.map asciiLower = second.vaultAddress.map asciiLower ∧
      first.expiresAfter = second.expiresAfter :=
  signing_preimage_injective vaultViem_checksums
    (Json.messagePack_prefixCode CanonicalObject)
    (show encodeL1Action vaultViem Json.messagePack
      (vaultRequest "0x5aAeb6053F3E94C9b9A09f33669435E7Ef1BeAed") =
        .ok vaultEncoded by decide)
    (show encodeL1Action vaultViem Json.messagePack
      (vaultRequest "0x5aaeb6053f3e94c9b9a09f33669435e7ef1beaed") =
        .ok vaultEncoded by decide)
    (by decide)

end HyperTrader
