import HyperTrader.Library.Text
import HyperTrader.Library.Transaction

/-!
# Numbers, failures and identifiers

The values every other module is written in. A number of the program is an
integer here: every entry point that accepts one refuses what is not a safe
integer, and a fraction is refused by the same test. Sums are the sums of the
program's double-precision numbers, which are exact up to `2 ^ 53`; above it the
result is rounded, and the tests that follow a sum see the rounded value.
-/

namespace HyperTrader

open Library

def maxSafeInteger : ℤ := 9007199254740991

def isSafeInteger (value : ℤ) : Prop :=
  -9007199254740991 ≤ value ∧ value ≤ 9007199254740991

instance (value : ℤ) : Decidable (isSafeInteger value) :=
  inferInstanceAs (Decidable (_ ∧ _))

variable {value a b : ℤ}

theorem isSafeInteger_iff :
    isSafeInteger value ↔ -maxSafeInteger ≤ value ∧ value ≤ maxSafeInteger :=
  Iff.rfl

/-- `a + b` on numbers of absolute value at most `2 ^ 53`. The sum is exact up
to `2 ^ 53`; above it, it is rounded to an even number, halves to the multiple
of four. -/
def addNumber (a b : ℤ) : ℤ :=
  if (a + b).natAbs ≤ 9007199254740992 then a + b
  else 2 * ((a + b + if (a + b) % 4 = 3 then 1 else 0) / 2)

theorem addNumber_of_isSafeInteger (h : isSafeInteger (a + b)) : addNumber a b = a + b := by
  unfold isSafeInteger at h
  have hle : (a + b).natAbs ≤ 9007199254740992 := by omega
  simp [addNumber, hle]

theorem isSafeInteger_addNumber : isSafeInteger (addNumber a b) ↔ isSafeInteger (a + b) := by
  unfold addNumber
  split
  · rfl
  · unfold isSafeInteger
    split <;> omega

theorem addNumber_nonneg (ha : 0 ≤ a) (hb : 0 ≤ b) : 0 ≤ addNumber a b := by
  unfold addNumber
  split
  · omega
  · split <;> omega

/-- What the program throws, with the text or the field path it reports. -/
inductive Failure where
  /-- `TypeError` -/
  | typeError (message : String)
  /-- `Error` -/
  | error (message : String)
  /-- `HyperliquidValidationError` -/
  | validation (path message : String)
  /-- An error that carries a code, as `CredentialUnavailableError` does. -/
  | credential (code : String)
  /-- A statement that breaks a constraint of the database. -/
  | constraint
  /-- A failed statement, `BEGIN` or `COMMIT` of the database, or any other
  fault of a store or a device. -/
  | fault
  deriving DecidableEq

abbrev Outcome (α : Type) := Except Failure α

def assertTime (value : ℤ) (path : String) : Outcome Unit :=
  require (isSafeInteger value ∧ 0 ≤ value)
    (.typeError (path ++ " must be a non-negative safe integer."))

@[simp] theorem assertTime_eq_ok {path : String} {u : Unit} :
    assertTime value path = .ok u ↔ isSafeInteger value ∧ 0 ≤ value := by
  simp [assertTime]

/-- `/^0x[0-9a-f]{64}$/` -/
def lowercaseHashPattern : TextPattern := ⟨"0x", isLowerHexDigit, 64, 64⟩

/-- `/^jrnl_[0-9a-f]{32}$/` -/
def journalIdPattern : TextPattern :=
  ⟨"jrnl_", isLowerHexDigit, 32, 32⟩

/-- `/^act_[0-9a-f]{32}$/` -/
def correlationIdPattern : TextPattern :=
  ⟨"act_", isLowerHexDigit, 32, 32⟩

/-- `/^0x[0-9a-f]{40}$/` -/
def lowercaseAddressPattern : TextPattern :=
  ⟨"0x", isLowerHexDigit, 40, 40⟩

def cloidPattern : TextPattern := ⟨"0x", isHexDigit, 32, 32⟩

inductive HyperliquidNetwork where
  | mainnet
  | testnet
  deriving DecidableEq

abbrev NotificationNetwork := HyperliquidNetwork

def HyperliquidNetwork.text : HyperliquidNetwork → String
  | mainnet => "mainnet"
  | testnet => "testnet"

theorem HyperliquidNetwork.text_injective : Function.Injective HyperliquidNetwork.text := by
  intro a b h
  cases a <;> cases b <;> first | rfl | simp [HyperliquidNetwork.text] at h

inductive MarginMode where
  | cross
  | isolated
  deriving DecidableEq

def MarginMode.text : MarginMode → String
  | cross => "cross"
  | isolated => "isolated"

/-- The functions of the `viem` package the program calls. `getAddress` returns
the checksummed address and throws on what is not one; the hash is taken of the
UTF-8 bytes of a text or of raw bytes. -/
structure Viem where
  getAddress : String → Option String
  keccak256 : String → String
  keccak256Bytes : List ℕ → String

/-- `/^0x[0-9a-fA-F]{40}$/`, what `getAddress` accepts. -/
def addressPattern : TextPattern := ⟨"0x", isHexDigit, 40, 40⟩

/-- The documented behaviour of `getAddress`: the checksum depends on the digits
only, so a checksummed address in lower case is accepted and has that same
checksum. -/
structure Viem.Documented (viem : Viem) : Prop where
  getAddress_lower : ∀ address checksummed,
    viem.getAddress address = some checksummed →
      viem.getAddress (asciiLower checksummed) = some checksummed

/-- The documented result of `getAddress`: the address it was given, with its
letters in the case of the checksum. -/
structure Viem.Checksums (viem : Viem) : Prop where
  getAddress_pattern : ∀ address checksummed,
    viem.getAddress address = some checksummed →
      addressPattern.test checksummed = true
  getAddress_case : ∀ address checksummed,
    viem.getAddress address = some checksummed →
      asciiLower checksummed = asciiLower address

end HyperTrader
