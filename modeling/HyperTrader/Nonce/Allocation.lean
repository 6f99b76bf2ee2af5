import HyperTrader.Journal.Record

/-!
# Nonce allocation

A nonce is the wall clock in milliseconds, pushed past the signer's last one. It
is given out only while the wall clock agrees with the exchange's time, and only
if it lies before the action's expiry.
-/

namespace HyperTrader

open Library

def maxClockRollbackMs : ℤ := 1000

def maxServerSampleAgeMs : ℤ := 30000

def maxServerSkewMs : ℤ := 5000

structure ClockGateInput where
  wallTimeMs : ℤ
  monotonicTimeMs : ℤ
  serverTimeMs : ℤ
  serverSampledAtMonotonicMs : ℤ
  lastObservedWallMs : Option ℤ

structure NonceAllocation where
  nonce : ℤ
  expiresAfterMs : ℤ
  observedWallMs : ℤ
  deriving DecidableEq

def safeMilliseconds (value : ℤ) (path : String) : Outcome ℤ := do
  require (isSafeInteger value ∧ 0 ≤ value)
    (.validation path "expected a non-negative safe-integer millisecond value")
  pure value

theorem safeMilliseconds_eq_ok {value result : ℤ} {path : String} :
    safeMilliseconds value path = .ok result ↔
      (isSafeInteger value ∧ 0 ≤ value) ∧ result = value := by
  unfold safeMilliseconds
  simp only [except_bind_eq_ok, require_eq_ok, pure, Except.pure, Except.ok.injEq]
  constructor
  · rintro ⟨_, hsafe, rfl⟩
    exact ⟨hsafe, rfl⟩
  · rintro ⟨hsafe, rfl⟩
    exact ⟨(), hsafe, rfl⟩

def assertClockGate (input : ClockGateInput) : Outcome Unit := do
  let wall ← safeMilliseconds input.wallTimeMs "clock.wallTimeMs"
  let monotonic ← safeMilliseconds input.monotonicTimeMs "clock.monotonicTimeMs"
  let server ← safeMilliseconds input.serverTimeMs "clock.serverTimeMs"
  let sampledAt ← safeMilliseconds input.serverSampledAtMonotonicMs
    "clock.serverSampledAtMonotonicMs"
  require (sampledAt ≤ monotonic ∧ monotonic - sampledAt ≤ maxServerSampleAgeMs)
    (.validation "clock.serverSample" "the authoritative server-time sample is missing or stale")
  let advancedServerTime := addNumber server (monotonic - sampledAt)
  require (isSafeInteger advancedServerTime ∧ (wall - advancedServerTime).natAbs ≤ maxServerSkewMs)
    (.validation "clock.skew" "device and Hyperliquid time differ by more than 5 seconds")
  match input.lastObservedWallMs with
  | none => pure ()
  | some lastObserved => do
      let lastObserved ← safeMilliseconds lastObserved "clock.lastObservedWallMs"
      require (lastObserved - wall ≤ maxClockRollbackMs)
        (.validation "clock.rollback" "the device wall clock moved backwards by more than 1 second")

def priorNonce (lastIssuedNonce : Option ℤ) : Outcome (Option ℤ) :=
  match lastIssuedNonce with
  | none => pure none
  | some value => do
      let prior ← safeMilliseconds value "lastIssuedNonce"
      pure (some prior)

variable {lastIssuedNonce : Option ℤ} {input : ClockGateInput} {allocation : NonceAllocation}

theorem priorNonce_eq_ok {prior : Option ℤ}
    (h : priorNonce lastIssuedNonce = .ok prior) : prior = lastIssuedNonce := by
  unfold priorNonce at h
  cases lastIssuedNonce with
  | none => exact (Except.ok.inj h).symm
  | some value =>
    simp only [except_bind_eq_ok, safeMilliseconds_eq_ok] at h
    obtain ⟨_, ⟨-, rfl⟩, h⟩ := h
    exact (Except.ok.inj h).symm

def allocateNonce (input : ClockGateInput) (lastIssuedNonce : Option ℤ) :
    Outcome NonceAllocation := do
  assertClockGate input
  let prior ← priorNonce lastIssuedNonce
  let nonce := max input.wallTimeMs (prior.getD (-1) + 1)
  let expiresAfterMs := addNumber input.wallTimeMs actionExpiryMs
  require (isSafeInteger expiresAfterMs ∧ nonce < expiresAfterMs)
    (.validation "expiresAfterMs" "the next signer nonce is too far ahead of validated wall time")
  pure { nonce := nonce, expiresAfterMs := expiresAfterMs
         observedWallMs := input.wallTimeMs }

theorem assertClockGate_wall {u : Unit} (h : assertClockGate input = .ok u) :
    isSafeInteger input.wallTimeMs ∧ 0 ≤ input.wallTimeMs := by
  unfold assertClockGate at h
  simp only [except_bind_eq_ok, safeMilliseconds_eq_ok] at h
  obtain ⟨_, ⟨hwall, -⟩, -⟩ := h
  exact hwall

/-- What an allocation is: at least the wall clock, past the last nonce, and
before an expiry fifteen seconds after the wall clock. -/
structure AllocatedAfter (input : ClockGateInput) (lastIssuedNonce : Option ℤ)
    (allocation : NonceAllocation) : Prop where
  observed : allocation.observedWallMs = input.wallTimeMs
  expiry : allocation.expiresAfterMs = input.wallTimeMs + actionExpiryMs
  wall_nonneg : 0 ≤ input.wallTimeMs
  wall_le : input.wallTimeMs ≤ allocation.nonce
  beforeExpiry : allocation.nonce < allocation.expiresAfterMs
  expirySafe : isSafeInteger allocation.expiresAfterMs
  increasing : ∀ last ∈ lastIssuedNonce, last < allocation.nonce

theorem allocateNonce_spec (h : allocateNonce input lastIssuedNonce = .ok allocation) :
    AllocatedAfter input lastIssuedNonce allocation := by
  unfold allocateNonce at h
  simp only [except_bind_eq_ok, require_eq_ok, pure, Except.pure, Except.ok.injEq] at h
  obtain ⟨u, hgate, prior, hprior, v, ⟨hsafe, hnonce⟩, rfl⟩ := h
  have hwall := assertClockGate_wall hgate
  have hsum : isSafeInteger (input.wallTimeMs + actionExpiryMs) :=
    isSafeInteger_addNumber.mp hsafe
  have hexpiry := addNumber_of_isSafeInteger hsum
  refine ⟨rfl, hexpiry, hwall.2, Int.le_max_left _ _, hnonce, hsafe, ?_⟩
  intro last hlast
  have hlast' : prior = some last := (priorNonce_eq_ok hprior).trans hlast
  subst hlast'
  exact Int.lt_of_lt_of_le (Int.lt_succ _) (Int.le_max_right _ _)

theorem AllocatedAfter.window (h : AllocatedAfter input lastIssuedNonce allocation) :
    allocation.nonce < allocation.expiresAfterMs ∧
      allocation.expiresAfterMs - allocation.nonce ≤ actionExpiryMs := by
  refine ⟨h.beforeExpiry, ?_⟩
  have hle := h.wall_le
  rw [h.expiry]
  omega

end HyperTrader
