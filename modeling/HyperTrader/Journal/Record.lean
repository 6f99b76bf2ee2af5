import HyperTrader.Journal.SecretFree
import HyperTrader.Journal.State

/-!
# Journal records

The record the journal keeps for each action, and the checks a row has to pass
whenever it is read back. `StoredRecord` is the conjunction the reader checks,
one named part for each check; the writers' proofs talk about its parts.
-/

namespace HyperTrader

open Library

def actionExpiryMs : ℤ := 15000

structure PreparedActionInput where
  journalId : String
  correlationId : String
  network : HyperliquidNetwork
  masterAccount : String
  targetAccount : String
  agentAddress : String
  signerGeneration : ℤ
  capturedContextEpoch : ℤ
  actionType : JournalActionType
  intentVersion : ℤ
  normalizedSecretFreeIntent : Json
  intentDigest : String
  equivalenceFingerprint : String
  nonce : ℤ
  expiresAfterMs : ℤ
  cloid : Option String
  assetId : Option ℤ
  targetOid : Option ℤ
  reconciliationKey : String
  preparedAt : ℤ
  deriving DecidableEq

/-- `PreparedActionRecord`, and at once the row of `action_journal` it is read
from: the text column of the intent holds the text of the value, and parsing it
gives the value back. -/
structure PreparedActionRecord extends PreparedActionInput where
  state : JournalState
  submissionStartedAt : Option ℤ
  lastResultClass : Option JournalResultClass
  leaseOwner : Option String
  leaseExpiresAt : Option ℤ
  reconciliationAttempts : ℤ
  nextReconciliationAt : ℤ
  createdAt : ℤ
  updatedAt : ℤ
  deriving DecidableEq

def journalCloidPattern : TextPattern := ⟨"0x", isLowerHexDigit, 32, 32⟩

/-- `/^[a-z0-9:_-]+$/` with a length between 3 and 256. -/
def reconciliationKeyPattern : TextPattern where
  lead := ""
  digit byte := isLowerAlphanumeric byte || inRange ':' ':' byte ||
    inRange '_' '_' byte || inRange '-' '-' byte
  least := 3
  most := 256

/-- `/^[A-Za-z0-9_-]{8,64}$/` -/
def leaseOwnerPattern : TextPattern where
  lead := ""
  digit byte := isAlphanumeric byte || inRange '_' '_' byte ||
    inRange '-' '-' byte
  least := 8
  most := 64

/-- The target columns an action type needs: `cloid`, `assetId` and `targetOid`
present or absent. -/
def assertTargetColumns (actionType : JournalActionType)
    (hasCloid hasAsset hasOid : Bool) : Outcome Unit :=
  match actionType with
  | .marketOrder | .limitOrder | .reduceOnlyClose | .positionTpsl =>
    require (hasCloid = true ∧ hasAsset = true ∧ hasOid = false)
      (.typeError (actionType.text ++ " requires assetId and cloid, and forbids targetOid."))
  | .cancel =>
    require (hasAsset = true ∧ hasCloid ≠ hasOid)
      (.typeError "cancel requires assetId and exactly one of cloid or targetOid.")
  | .bulkCancel =>
    require (hasAsset = false ∧ hasCloid = false ∧ hasOid = false)
      (.typeError "bulk_cancel stores its targets only in the normalized intent.")
  | .updateLeverage =>
    require (hasAsset = true ∧ hasCloid = false ∧ hasOid = false)
      (.typeError "update_leverage requires assetId and forbids cloid and targetOid.")

def assertPreparedActionFields (actionType : JournalActionType)
    (intentVersion : ℤ) (cloid : Option String) (assetId targetOid : Option ℤ)
    (reconciliationKey : String) : Outcome Unit := do
  require (intentVersion = 1)
    (.typeError "intentVersion is not supported by this repository.")
  require (∀ text ∈ cloid, journalCloidPattern.test text = true)
    (.typeError "cloid must be a lowercase 128-bit client order ID.")
  require (∀ asset ∈ assetId, isSafeInteger asset ∧ 0 ≤ asset)
    (.typeError "assetId must be a non-negative safe integer when present.")
  require (∀ oid ∈ targetOid, isSafeInteger oid ∧ 0 < oid)
    (.typeError "targetOid must be a positive safe integer when present.")
  require (reconciliationKeyPattern.test reconciliationKey = true)
    (.typeError "reconciliationKey must be a bounded derived identifier.")
  assertTargetColumns actionType cloid.isSome assetId.isSome targetOid.isSome

def assertLeaseOwner (owner : String) : Outcome Unit :=
  require (leaseOwnerPattern.test owner = true)
    (.typeError "Lease owner must be a bounded opaque ID.")

variable {owner : String} {u : Unit} {record : PreparedActionRecord}

@[simp] theorem assertLeaseOwner_eq_ok :
    assertLeaseOwner owner = .ok u ↔ leaseOwnerPattern.test owner = true := by
  simp [assertLeaseOwner]

def assertStoredNumbers : List (String × ℤ × ℤ) → Outcome Unit
  | [] => pure ()
  | (path, value, minimum) :: rest => do
      require (isSafeInteger value ∧ minimum ≤ value)
        (.typeError ("The stored action has an invalid " ++ path ++ "."))
      assertStoredNumbers rest

@[simp] theorem assertStoredNumbers_eq_ok {numbers : List (String × ℤ × ℤ)}
    : assertStoredNumbers numbers = .ok u ↔
      ∀ entry ∈ numbers, isSafeInteger entry.2.1 ∧ entry.2.2 ≤ entry.2.1 := by
  induction numbers with
  | nil => simp [assertStoredNumbers, pure, Except.pure]
  | cons entry rest ih =>
    obtain ⟨path, value, minimum⟩ := entry
    simp [assertStoredNumbers, ih]

namespace PreparedActionRecord

def numbers (record : PreparedActionRecord) : List (String × ℤ × ℤ) :=
  [("signerGeneration", record.signerGeneration, 1),
    ("capturedContextEpoch", record.capturedContextEpoch, 0), ("nonce", record.nonce, 0),
    ("expiresAfterMs", record.expiresAfterMs, 0), ("preparedAt", record.preparedAt, 0),
    ("reconciliationAttempts", record.reconciliationAttempts, 0),
    ("nextReconciliationAt", record.nextReconciliationAt, 0), ("createdAt", record.createdAt, 0),
    ("updatedAt", record.updatedAt, 0)]

/-- The submission marker agrees with the state and lies between the
preparation and the expiry. -/
def markerConsistent (record : PreparedActionRecord) : Prop :=
  (∀ startedAt ∈ record.submissionStartedAt,
    isSafeInteger startedAt ∧ record.preparedAt ≤ startedAt ∧ startedAt < record.expiresAfterMs) ∧
  (record.submissionStartedAt = none ↔
    record.state = .prepared ∨ record.state = .abandonedBeforeSubmission)

instance (record : PreparedActionRecord) : Decidable record.markerConsistent :=
  inferInstanceAs (Decidable (_ ∧ _))

end PreparedActionRecord

/-- The lease columns: both or neither, a well-formed owner and expiry, and a
state the reconciler works on. -/
def assertStoredLease (record : PreparedActionRecord) : Outcome Unit := do
  require (record.leaseOwner.isSome = record.leaseExpiresAt.isSome)
    (.typeError "The stored action has an incomplete lease.")
  match record.leaseOwner with
  | none => pure ()
  | some owner => do
      assertLeaseOwner owner
      assertTime (record.leaseExpiresAt.getD 0) "leaseExpiresAt"
      require (record.state.reconcilable = true)
        (.typeError "Only a reconcilable action may hold a lease.")

def assertStoredRecord (record : PreparedActionRecord) : Outcome Unit := do
  require (journalIdPattern.test record.journalId = true ∧
      correlationIdPattern.test record.correlationId = true)
    (.typeError "The stored action has an invalid opaque identifier.")
  require (lowercaseAddressPattern.test record.masterAccount = true ∧
      lowercaseAddressPattern.test record.targetAccount = true ∧
      lowercaseAddressPattern.test record.agentAddress = true)
    (.typeError "The stored action has an invalid signer binding.")
  require (lowercaseHashPattern.test record.intentDigest = true ∧
      lowercaseHashPattern.test record.equivalenceFingerprint = true)
    (.typeError "The stored action has an invalid digest.")
  assertStoredNumbers record.numbers
  require (record.nonce < record.expiresAfterMs ∧
      record.expiresAfterMs - record.nonce ≤ actionExpiryMs)
    (.typeError "The stored action expiry must be after its nonce and within 15 seconds.")
  assertPreparedActionFields record.actionType record.intentVersion record.cloid
    record.assetId record.targetOid record.reconciliationKey
  assertJournalResultClass record.state record.lastResultClass
  require record.markerConsistent
    (.typeError "The stored action has an inconsistent submission marker.")
  assertStoredLease record

def fromRow (row : PreparedActionRecord) : Outcome PreparedActionRecord := do
  let _ ← serializeSecretFreeIntent row.normalizedSecretFreeIntent
  assertStoredRecord row
  pure row

/-- The columns that no statement writes after the row has been inserted pass
their checks. -/
structure CapturedColumns (record : PreparedActionInput) : Prop where
  identifiers : journalIdPattern.test record.journalId = true ∧
    correlationIdPattern.test record.correlationId = true
  binding : lowercaseAddressPattern.test record.masterAccount = true ∧
    lowercaseAddressPattern.test record.targetAccount = true ∧
    lowercaseAddressPattern.test record.agentAddress = true
  digests : lowercaseHashPattern.test record.intentDigest = true ∧
    lowercaseHashPattern.test record.equivalenceFingerprint = true
  expiry : record.nonce < record.expiresAfterMs ∧
    record.expiresAfterMs - record.nonce ≤ actionExpiryMs
  fields : assertPreparedActionFields record.actionType record.intentVersion
    record.cloid record.assetId record.targetOid record.reconciliationKey = .ok ()
  intent : ∃ text,
    serializeSecretFreeIntent record.normalizedSecretFreeIntent = .ok text

def LeaseColumns (record : PreparedActionRecord) : Prop :=
  record.leaseOwner.isSome = record.leaseExpiresAt.isSome ∧
  ∀ owner ∈ record.leaseOwner, leaseOwnerPattern.test owner = true ∧
    (isSafeInteger (record.leaseExpiresAt.getD 0) ∧ 0 ≤ record.leaseExpiresAt.getD 0) ∧
    record.state.reconcilable = true

structure StoredRecord (record : PreparedActionRecord) : Prop where
  captured : CapturedColumns record.toPreparedActionInput
  numbers : ∀ entry ∈ record.numbers,
    isSafeInteger entry.2.1 ∧ entry.2.2 ≤ entry.2.1
  resultClass : record.lastResultClass = resultForState record.state
  marker : record.markerConsistent
  lease : LeaseColumns record

theorem assertStoredLease_eq_ok : assertStoredLease record = .ok u ↔ LeaseColumns record := by
  unfold assertStoredLease LeaseColumns
  cases h : record.leaseOwner with
  | none => simp [pure, Except.pure]
  | some owner => simp

theorem assertStoredRecord_eq_ok {text : String}
    (hintent : serializeSecretFreeIntent record.normalizedSecretFreeIntent = .ok text) :
    assertStoredRecord record = .ok u ↔ StoredRecord record := by
  unfold assertStoredRecord
  simp only [except_bind_eq_ok, require_eq_ok, assertStoredNumbers_eq_ok,
    assertJournalResultClass_eq_ok, assertStoredLease_eq_ok]
  constructor
  · rintro ⟨_, hids, _, hbinding, _, hdigests, _, hnumbers, _, hexpiry, _,
      hfields, _, hresult, _, hmarker, hlease⟩
    exact ⟨⟨hids, hbinding, hdigests, hexpiry, hfields, text, hintent⟩, hnumbers,
      hresult, hmarker, hlease⟩
  · rintro ⟨⟨hids, hbinding, hdigests, hexpiry, hfields, -⟩, hnumbers, hresult, hmarker, hlease⟩
    exact ⟨(), hids, (), hbinding, (), hdigests, (), hnumbers, (), hexpiry, (),
      hfields, (), hresult, (), hmarker, hlease⟩

theorem fromRow_eq_ok {row : PreparedActionRecord} :
    fromRow row = .ok record ↔ record = row ∧ StoredRecord row := by
  unfold fromRow
  simp only [except_bind_eq_ok, pure, Except.pure, Except.ok.injEq]
  constructor
  · rintro ⟨text, htext, u, hrecord, rfl⟩
    exact ⟨rfl, (assertStoredRecord_eq_ok htext).mp hrecord⟩
  · rintro ⟨rfl, hrow⟩
    obtain ⟨text, htext⟩ := hrow.captured.intent
    exact ⟨text, htext, (), (assertStoredRecord_eq_ok htext).mpr hrow, rfl⟩

theorem StoredRecord.reconcilable_of_lease (h : StoredRecord record)
    (howner : record.leaseOwner = some owner) : record.state.reconcilable = true :=
  (h.lease.2 owner howner).2.2

end HyperTrader
