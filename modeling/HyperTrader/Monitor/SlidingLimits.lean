import HyperTrader.Library.Machine
import HyperTrader.Library.Window
import Mathlib.Logic.Function.Basic

/-!
# Sliding limits

REST weight, connections and messages are admitted against a queue of the admissions of the
last minute, whose head is pruned when the next admission comes. What has been pruned is
older than every window that is still open, so no window ever holds more than its limit.
-/

namespace HyperTrader

open Library

inductive CapacityResource where
  | restWeightPerMinute
  | websocketConnections
  | websocketConnectionsPerMinute
  | websocketMessagesPerMinute
  deriving DecidableEq

def reservedLimit : CapacityResource → ℕ
  | .restWeightPerMinute => 1200 * 7 / 10
  | .websocketConnections => 10 * 7 / 10
  | .websocketConnectionsPerMinute => 30 * 7 / 10
  | .websocketMessagesPerMinute => 2000 * 7 / 10

structure CapacityGovernor where
  observed : CapacityResource → ℕ
  reserved : CapacityResource → ℕ

namespace CapacityGovernor

variable (governor : CapacityGovernor) (resource : CapacityResource) (amount : ℕ)

def observe : CapacityGovernor :=
  { governor with observed := Function.update governor.observed resource amount }

def canReserve : Bool :=
  governor.observed resource + governor.reserved resource + amount ≤ reservedLimit resource

def tryReserve : Option CapacityGovernor :=
  if governor.canReserve resource amount then
    some { governor with
      reserved := Function.update governor.reserved resource
        (governor.reserved resource + amount) }
  else none

def release : CapacityGovernor :=
  { governor with
    reserved := Function.update governor.reserved resource
      (governor.reserved resource - amount) }

variable {governor resource amount}

theorem fits_of_tryReserve {usage : ℕ} {next : CapacityGovernor}
    (h : (governor.observe resource usage).tryReserve resource amount = some next) :
    usage + amount ≤ reservedLimit resource := by
  unfold tryReserve canReserve observe at h
  split at h
  · rename_i hfits
    have hfits := of_decide_eq_true hfits
    dsimp only at hfits
    rw [Function.update_self] at hfits
    omega
  · cases h

theorem reserved_release_tryReserve {next : CapacityGovernor}
    (h : governor.tryReserve resource amount = some next) :
    (next.release resource amount).reserved = governor.reserved := by
  unfold tryReserve at h
  split at h
  · cases h
    unfold release
    dsimp only
    rw [Function.update_self, Function.update_idem, Nat.add_sub_cancel, Function.update_eq_self]
  · cases h

end CapacityGovernor

inductive SlidingLimit where
  | restWeight
  | connections
  | messages
  deriving DecidableEq

def SlidingLimit.resource : SlidingLimit → CapacityResource
  | .restWeight => .restWeightPerMinute
  | .connections => .websocketConnectionsPerMinute
  | .messages => .websocketMessagesPerMinute

def minute : ℤ := 60000

structure Admissions where
  restAdmissions : List ℤ
  connectionAttempts : List ℤ
  messages : List ℤ
  connections : ℕ
  capacity : CapacityGovernor

/-- What happens; the readings of the clock are those of the admission in their order. -/
inductive AdmissionEvent where
  /-- `admitRestWeight`; each unit of the weight is pushed with a reading of its own. -/
  | restWeight (now : ℤ) (units : List ℤ)
  /-- `reserveConnection` -/
  | connection (now pushed : ℤ)
  /-- The function that `reserveConnection` returns. -/
  | connectionReleased
  /-- `sendBudgeted`; the connection may throw. -/
  | message (now pushed : ℤ) (throws : Bool)
  | usage (now : ℤ)
  /-- Anything else that is observed or reserved. -/
  | capacity (governor : CapacityGovernor)

def AdmissionEvent.readings : AdmissionEvent → List ℤ
  | .restWeight now units => now :: units
  | .connection now pushed => [now, pushed]
  | .connectionReleased => []
  | .message now pushed _ => [now, pushed]
  | .usage now => [now]
  | .capacity _ => []

def AdmissionEvent.asks : AdmissionEvent → Bool
  | .restWeight .. => true
  | .connection .. => true
  | .message .. => true
  | _ => false

namespace Admissions

variable (admissions : Admissions)

def queue : SlidingLimit → List ℤ
  | .restWeight => admissions.restAdmissions
  | .connections => admissions.connectionAttempts
  | .messages => admissions.messages

def admitRestWeight (now : ℤ) (units : List ℤ) : Admissions × Option SlidingLimit :=
  let kept := pruned minute now admissions.restAdmissions
  let capacity := admissions.capacity.observe .restWeightPerMinute kept.length
  if reservedLimit .restWeightPerMinute < kept.length + units.length then
    ({ admissions with restAdmissions := kept, capacity := capacity }, none)
  else
    ({ admissions with
      restAdmissions := kept ++ units
      capacity := capacity.observe .restWeightPerMinute (kept ++ units).length }, some .restWeight)

def pruneAttempts (now : ℤ) : Admissions :=
  let kept := pruned minute now admissions.connectionAttempts
  { admissions with
    connectionAttempts := kept
    capacity := admissions.capacity.observe .websocketConnectionsPerMinute kept.length }

def reserveConnection (now pushed : ℤ) : Admissions × Option SlidingLimit :=
  let admissions := admissions.pruneAttempts now
  if reservedLimit .websocketConnections < admissions.connections + 1 ∨
      reservedLimit .websocketConnectionsPerMinute <
        admissions.connectionAttempts.length + 1 then
    (admissions, none)
  else
    match admissions.capacity.tryReserve .websocketConnections 1 with
    | none => (admissions, none)
    | some capacity =>
      ({ admissions with
        connections := admissions.connections + 1
        connectionAttempts := admissions.connectionAttempts ++ [pushed]
        capacity := capacity.observe .websocketConnectionsPerMinute
          (admissions.connectionAttempts ++ [pushed]).length }, some .connections)

def releaseConnection : Admissions :=
  { admissions with
    connections := admissions.connections - 1
    capacity := admissions.capacity.release .websocketConnections 1 }

def sendBudgeted (now pushed : ℤ) (throws : Bool) : Admissions × Option SlidingLimit :=
  let kept := pruned minute now admissions.messages
  let capacity := admissions.capacity.observe .websocketMessagesPerMinute kept.length
  match capacity.tryReserve .websocketMessagesPerMinute 1 with
  | none => ({ admissions with messages := kept, capacity := capacity }, none)
  | some capacity =>
    if throws then
      ({ admissions with
        messages := kept, capacity := capacity.release .websocketMessagesPerMinute 1 }, none)
    else
      ({ admissions with
        messages := kept ++ [pushed]
        capacity := (capacity.observe .websocketMessagesPerMinute
          (kept ++ [pushed]).length).release .websocketMessagesPerMinute 1 }, some .messages)

def perform : AdmissionEvent → Admissions × Option SlidingLimit
  | .restWeight now units => admissions.admitRestWeight now units
  | .connection now pushed => admissions.reserveConnection now pushed
  | .connectionReleased => (admissions.releaseConnection, none)
  | .message now pushed throws => admissions.sendBudgeted now pushed throws
  | .usage now => (admissions.pruneAttempts now, none)
  | .capacity governor => ({ admissions with capacity := governor }, none)

end Admissions

structure AdmissionLog where
  admissions : Admissions
  clock : ℤ
  log : SlidingLimit → List ℤ

namespace AdmissionLog

def opened (clock : ℤ) (capacity : CapacityGovernor) : AdmissionLog where
  admissions := ⟨[], [], [], 0, capacity⟩
  clock := clock
  log := fun _ => []

def step (state : AdmissionLog) (event : AdmissionEvent) : AdmissionLog where
  admissions := (state.admissions.perform event).1
  clock := event.readings.getLast?.getD state.clock
  log :=
    match (state.admissions.perform event).2 with
    | none => state.log
    | some limit => Function.update state.log limit (state.log limit ++ event.readings.tail)

def Monotone (state : AdmissionLog) (event : AdmissionEvent) : Prop :=
  (state.clock :: event.readings).Pairwise (· ≤ ·)

end AdmissionLog

inductive QueueMove (readings : List ℤ) (limit : ℕ) (queue : List ℤ) : List ℤ → Bool → Prop
  | stays : QueueMove readings limit queue queue false
  | pruned {now : ℤ} {units : List ℤ} (hreadings : readings = now :: units) :
      QueueMove readings limit queue (pruned minute now queue) false
  | admitted {now : ℤ} {units : List ℤ} (hreadings : readings = now :: units)
      (hfits : (Library.pruned minute now queue).length + units.length ≤ limit) :
      QueueMove readings limit queue (Library.pruned minute now queue ++ units) true

namespace Admissions

/-- What one admission does to the queue of a limit. -/
theorem queue_perform (admissions : Admissions) (event : AdmissionEvent) (limit : SlidingLimit) :
    QueueMove event.readings (reservedLimit limit.resource) (admissions.queue limit)
      ((admissions.perform event).1.queue limit) ((admissions.perform event).2 == some limit) := by
  cases event with
  | restWeight now units =>
    unfold perform admitRestWeight
    dsimp only
    split
    · cases limit with
      | restWeight => exact .pruned rfl
      | connections => exact .stays
      | messages => exact .stays
    · rename_i hfits
      cases limit with
      | restWeight => exact .admitted rfl (Nat.not_lt.mp hfits)
      | connections => exact .stays
      | messages => exact .stays
  | connection now pushed =>
    unfold perform reserveConnection
    dsimp only
    split
    · cases limit with
      | restWeight => exact .stays
      | connections => exact .pruned rfl
      | messages => exact .stays
    · rename_i hfits
      rw [not_or] at hfits
      split
      · cases limit with
        | restWeight => exact .stays
        | connections => exact .pruned rfl
        | messages => exact .stays
      · cases limit with
        | restWeight => exact .stays
        | connections => exact .admitted rfl (Nat.not_lt.mp hfits.2)
        | messages => exact .stays
  | connectionReleased => cases limit <;> exact .stays
  | message now pushed throws =>
    unfold perform sendBudgeted
    dsimp only
    split
    · cases limit with
      | restWeight => exact .stays
      | connections => exact .stays
      | messages => exact .pruned rfl
    · rename_i hreserved
      split
      · cases limit with
        | restWeight => exact .stays
        | connections => exact .stays
        | messages => exact .pruned rfl
      · cases limit with
        | restWeight => exact .stays
        | connections => exact .stays
        | messages =>
          exact .admitted rfl (CapacityGovernor.fits_of_tryReserve hreserved)
  | usage now =>
    cases limit with
    | restWeight => exact .stays
    | connections => exact .pruned rfl
    | messages => exact .stays
  | capacity governor => cases limit <;> exact .stays

theorem perform_refused (admissions : Admissions) {event : AdmissionEvent}
    (hasks : event.asks = true) (hrefused : (admissions.perform event).2 = none) :
    (admissions.perform event).1.connections = admissions.connections ∧
      (admissions.perform event).1.capacity.reserved = admissions.capacity.reserved := by
  cases event with
  | restWeight now units =>
    unfold perform admitRestWeight
    dsimp only
    split <;> exact ⟨rfl, rfl⟩
  | connection now pushed =>
    unfold perform reserveConnection at hrefused ⊢
    dsimp only at hrefused ⊢
    split
    · exact ⟨rfl, rfl⟩
    · rename_i hfits
      rw [if_neg hfits] at hrefused
      split at hrefused
      · exact ⟨rfl, rfl⟩
      · cases hrefused
  | message now pushed throws =>
    unfold perform sendBudgeted at hrefused ⊢
    dsimp only at hrefused ⊢
    split
    · exact ⟨rfl, rfl⟩
    · rename_i hreserved
      rw [hreserved] at hrefused
      have hreleased := CapacityGovernor.reserved_release_tryReserve hreserved
      cases throws with
      | true => exact ⟨rfl, hreleased⟩
      | false => cases hrefused
  | connectionReleased => cases hasks
  | usage => cases hasks
  | capacity => cases hasks

/-- What may still be admitted at a time: against each limit, as connections, and as far as
is reserved. -/
def budget (admissions : Admissions) (time : ℤ) : (SlidingLimit → ℕ) × ℕ × (CapacityResource → ℕ) :=
  (fun limit => reservedLimit limit.resource - (pruned minute time (admissions.queue limit)).length,
    admissions.connections, admissions.capacity.reserved)

theorem budget_refused (admissions : Admissions) {event : AdmissionEvent}
    (hasks : event.asks = true) (hrefused : (admissions.perform event).2 = none) {time : ℤ}
    (htime : ∀ now ∈ event.readings, now ≤ time) :
    (admissions.perform event).1.budget time = admissions.budget time := by
  obtain ⟨hconnections, hreserved⟩ := admissions.perform_refused hasks hrefused
  have hqueue : ∀ limit, pruned minute time ((admissions.perform event).1.queue limit) =
      pruned minute time (admissions.queue limit) := by
    intro limit
    have hmove := admissions.queue_perform event limit
    rw [hrefused] at hmove
    generalize hnext : (admissions.perform event).1.queue limit = next at hmove ⊢
    cases hmove with
    | stays => rfl
    | pruned hreadings =>
      rw [pruned_pruned (htime _ (hreadings ▸ List.mem_cons_self))]
  unfold budget
  rw [hconnections, hreserved]
  simp only [hqueue]

end Admissions

namespace AdmissionLog

structure Bounded (state : AdmissionLog) : Prop where
  retains : ∀ limit,
    Retains minute state.clock (state.log limit) (state.admissions.queue limit)
  within : ∀ limit stop,
    countTimes minute stop (state.log limit) ≤ reservedLimit limit.resource

theorem log_step (state : AdmissionLog) (event : AdmissionEvent) (limit : SlidingLimit) :
    (state.step event).log limit =
      if (state.admissions.perform event).2 == some limit then
        state.log limit ++ event.readings.tail else state.log limit := by
  unfold step
  dsimp only
  cases (state.admissions.perform event).2 with
  | none => rfl
  | some admitted =>
    change Function.update state.log admitted (state.log admitted ++ event.readings.tail)
      limit = _
    by_cases hsame : limit = admitted
    · rw [hsame, Function.update_self, beq_self_eq_true, if_pos rfl]
    · have hother : (some admitted == some limit) = false :=
        beq_eq_false_iff_ne.mpr fun h => hsame (Option.some.inj h).symm
      rw [Function.update_of_ne hsame, hother, if_neg Bool.false_ne_true]

theorem le_getLast_of_pairwise {clock : ℤ} {readings : List ℤ}
    (h : (clock :: readings).Pairwise (· ≤ ·)) :
    ∀ reading ∈ clock :: readings, reading ≤ readings.getLast?.getD clock := by
  induction readings generalizing clock with
  | nil =>
    intro reading hreading
    exact (List.mem_singleton.mp hreading).le
  | cons next readings ih =>
    obtain ⟨hclock, hreadings⟩ := List.pairwise_cons.mp h
    rw [List.getLast?_cons, Option.getD_some, List.forall_mem_cons]
    have hnext := ih hreadings
    exact ⟨(hclock next List.mem_cons_self).trans (hnext next List.mem_cons_self), hnext⟩

theorem Bounded.step {state : AdmissionLog} {event : AdmissionEvent} (h : state.Bounded)
    (hclock : state.Monotone event) : (state.step event).Bounded := by
  have hlast : ∀ reading ∈ state.clock :: event.readings, reading ≤ (state.step event).clock :=
    le_getLast_of_pairwise hclock
  rw [List.forall_mem_cons] at hlast
  have hlimit : ∀ limit, Retains minute (state.step event).clock
        ((state.step event).log limit) ((state.step event).admissions.queue limit) ∧
      ∀ stop, countTimes minute stop ((state.step event).log limit) ≤
        reservedLimit limit.resource := by
    intro limit
    have hmove := state.admissions.queue_perform event limit
    have hretains := h.retains limit
    rw [log_step]
    change Retains _ _ _ ((state.admissions.perform event).1.queue limit) ∧ _
    generalize (state.admissions.perform event).1.queue limit = queue at hmove ⊢
    generalize ((state.admissions.perform event).2 == some limit) = admitted at hmove ⊢
    cases hmove with
    | stays => exact ⟨hretains.mono hlast.1, h.within limit⟩
    | @pruned now units hreadings =>
      have hnow : now ∈ event.readings := hreadings ▸ List.mem_cons_self
      have hlater := (List.pairwise_cons.mp hclock).1 now hnow
      exact ⟨(hretains.pruned hlater).mono (hlast.2 now hnow), h.within limit⟩
    | @admitted now units hreadings hfits =>
      have hnow : now ∈ event.readings := hreadings ▸ List.mem_cons_self
      obtain ⟨hlater, hsorted⟩ := List.pairwise_cons.mp hclock
      have hpruned := hretains.pruned (hlater now hnow)
      rw [hreadings] at hsorted ⊢
      exact ⟨(hpruned.append units).mono (hlast.2 now hnow),
        countTimes_append_le hpruned (h.within limit) hfits (List.pairwise_cons.mp hsorted).1⟩
  exact ⟨fun limit => (hlimit limit).1, fun limit => (hlimit limit).2⟩

/-- In every minute of a run on a clock that does not go back, no more is admitted than each
limit says, and an admission that is refused leaves the budget as it is. -/
theorem sliding_limits (clock : ℤ) (capacity : CapacityGovernor) (events : List AdmissionEvent)
    (hclock : Along step Monotone (opened clock capacity) events) :
    (∀ limit stop, countTimes minute stop ((run step (opened clock capacity) events).log limit) ≤
        reservedLimit limit.resource) ∧
    ∀ event : AdmissionEvent, event.asks = true →
      ((run step (opened clock capacity) events).admissions.perform event).2 = none →
        ∀ time, (∀ now ∈ event.readings, now ≤ time) →
          ((run step (opened clock capacity) events).step event).admissions.budget time =
            (run step (opened clock capacity) events).admissions.budget time := by
  have hopened : (opened clock capacity).Bounded :=
    ⟨fun limit => ⟨[], by cases limit <;> rfl, List.forall_mem_nil _⟩,
      fun limit stop => Nat.zero_le _⟩
  exact ⟨(run_invariant_along (fun _ _ => Bounded.step) hopened hclock).within,
    fun event hasks hrefused time htime => Admissions.budget_refused _ hasks hrefused htime⟩

instance (state : AdmissionLog) (event : AdmissionEvent) : Decidable (state.Monotone event) :=
  inferInstanceAs (Decidable (List.Pairwise _ _))

def idleGovernor : CapacityGovernor := ⟨fun _ => 0, fun _ => 0⟩

/-- Seven connections are reserved, as many as there may be. -/
def fullGovernor : CapacityGovernor := ⟨fun _ => 0, fun _ => 7⟩

/-- A snapshot's weight, a connection with its first message, and the same a minute later.
The second connection is refused: others hold the seven. -/
def twoMinutes : List AdmissionEvent :=
  [.restWeight 0 [0, 1, 1], .connection 2 2, .message 3 4 false, .capacity fullGovernor,
    .connection 5 5, .restWeight 60001 [60001, 60001, 60002], .message 60003 60003 true]

theorem sliding_limits_twoMinutes :
    let state := run step (opened 0 idleGovernor) twoMinutes
    countTimes minute 60002 (state.log .restWeight) ≤ 840 ∧
      (state.step (.connection 60004 60004)).admissions.budget 60004 =
        state.admissions.budget 60004 := by
  obtain ⟨hwithin, hrefused⟩ := sliding_limits 0 idleGovernor twoMinutes (by decide)
  refine ⟨hwithin .restWeight 60002, hrefused (.connection 60004 60004) rfl ?_ 60004 ?_⟩
  · decide
  · decide

end AdmissionLog

end HyperTrader
