import HyperTrader.Basic

/-!
# The notification service and its gates

The single row of the service state gates what the notification store does: mutations,
monitors and delivery each have a switch, and none is open unless the schema is
contracted and no restore is under way. The store fails with one of a few errors, or with
an error of the database, which carries its SQLSTATE.
-/

namespace HyperTrader

open Library

inductive StoreFailure
  | conflict (message : String)
  | unauthorized (message : String)
  | notFound
  | notReady (message : String)
  | dependencyUnavailable (message : String)
  | drainPending
  | rateLimit (message : String)
  | accountProof (message : String)
  | tombstoneRecovery (message : String)
  | database (sqlState : String)
  deriving DecidableEq

namespace StoreFailure

def storeConflict : StoreFailure :=
  .conflict "notification record conflicts with existing state"

def storeUnauthorized : StoreFailure :=
  .unauthorized "installation credential is not authorized"

def storeNotReady : StoreFailure :=
  .notReady "notification storage is not ready for mutations"

def numericOverflow : StoreFailure := .database "22003"

def uniqueViolation : StoreFailure := .database "23505"

def foreignKeyViolation : StoreFailure := .database "23503"

end StoreFailure

inductive SchemaPhase
  | expand
  | migrated
  | contracted
  deriving DecidableEq

inductive RestoreState
  | blocked
  | replaying
  | ready
  deriving DecidableEq

/-- `notification_service_state` -/
structure ServiceState where
  schemaPhase : SchemaPhase
  restoreState : RestoreState
  ledgerWatermark : ℕ
  ledgerHead : ℕ
  mutationsEnabled : Bool
  monitorsEnabled : Bool
  deliveryEnabled : Bool
  deriving DecidableEq

namespace ServiceState

def serving (state : ServiceState) : Bool :=
  state.schemaPhase = .contracted && state.restoreState = .ready

def assertMutable (state : ServiceState) : Except StoreFailure Unit :=
  require (state.serving = true ∧ state.mutationsEnabled = true) .storeNotReady

def assertMonitorsEnabled (state : ServiceState) : Except StoreFailure Unit :=
  require (state.serving = true ∧ state.monitorsEnabled = true)
    (.notReady "notification monitors are not ready")

def assertDeliveryEnabled (state : ServiceState) : Except StoreFailure Unit :=
  require (state.serving = true ∧ state.deliveryEnabled = true)
    (.notReady "notification delivery is not ready")

end ServiceState

def maxDatabaseInteger : ℕ := 2147483647

def isGraphic (byte : UInt8) : Bool := inRange '!' '~' byte

def isWorkerCharacter (byte : UInt8) : Bool :=
  isLowerAlphanumeric byte || inRange ':' ':' byte || inRange '_' '_' byte ||
    inRange '-' '-' byte

def leaseKeyPattern : TextPattern := ⟨"", isGraphic, 1, 256⟩

def workerIdPattern : TextPattern := ⟨"", isWorkerCharacter, 1, 128⟩

def validateLeaseIdentity (leaseKey ownerId : String) : Except StoreFailure Unit :=
  require (leaseKeyPattern.test leaseKey = true ∧ workerIdPattern.test ownerId = true)
    (.conflict "monitor lease identity is invalid")

def isLeaseGeneration (generation : ℤ) : Prop :=
  1 ≤ generation ∧ generation ≤ maxSafeInteger

instance (generation : ℤ) : Decidable (isLeaseGeneration generation) :=
  inferInstanceAs (Decidable (_ ∧ _))

def notificationEgressLeaseKey : String := "runtime:egress"

structure RuntimeEgressFence where
  leaseKey : String
  ownerId : String
  generation : ℤ
  deriving DecidableEq

def validateRuntimeEgressFence (fence : RuntimeEgressFence) : Except StoreFailure Unit :=
  require (fence.leaseKey = notificationEgressLeaseKey ∧
      workerIdPattern.test fence.ownerId = true ∧ isLeaseGeneration fence.generation)
    (.conflict "notification egress fence is invalid")

end HyperTrader
