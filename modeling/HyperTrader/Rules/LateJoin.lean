import HyperTrader.Monitor.LateListeners
import HyperTrader.Rules.Crossings

/-!
# Rules that join late

A rule that subscribes to a live stream is given the baseline that the registry remembers,
and not what the deltas since then have made of it. It agrees with a rule that was there
from the start exactly if the deltas so far have left the metric where the baseline had
it, or the metric is carried again up to the next delta.
-/

namespace HyperTrader

open Library

namespace RuleUpdates

variable {rule : NotificationRuleRecord}

theorem metricOf_of_execution (h : crossingDirection rule.eventType = none)
    (update : MonitorUpdate Payload) : metricOf rule update = none := by
  have hdelta : ∀ message coinToMarketId,
      metricFromDelta rule message coinToMarketId = none := by
    intro message coinToMarketId
    unfold metricFromDelta
    split <;> first | rfl | (rename_i heventType _; rw [heventType] at h; cases h)
  cases update with
  | baseline payload =>
    unfold metricOf metricFromBaseline
    cases payload with
    | marketSnapshot market =>
      cases heventType : rule.eventType <;> rw [heventType] at h <;> first | rfl | cases h
    | accountSnapshot snapshots coinToMarketId =>
      dsimp only
      split
      · rfl
      · rfl
      · cases heventType : rule.eventType <;> rw [heventType] at h <;> first | rfl | cases h
    | streamDelta receivedAt message coinToMarketId => rfl
    | unknown => rfl
  | delta payload =>
    cases payload with
    | streamDelta receivedAt message coinToMarketId =>
      rw [metricOf, hdelta, Option.map_none]
    | marketSnapshot market => rfl
    | accountSnapshot snapshots coinToMarketId => rfl
    | unknown => rfl

theorem retained_update (retained : Option DecimalString) (update : MonitorUpdate Payload) :
    (normalizeRuleUpdate rule retained update).1 = (metricOf rule update).or retained := by
  cases hcrosses : crossingDirection rule.eventType with
  | some direction => exact retained_normalizeRuleUpdate hcrosses retained update
  | none =>
    have hnone := metricOf_of_execution hcrosses update
    rw [hnone, Option.none_or]
    cases update with
    | baseline payload =>
      have hbaseline : metricFromBaseline rule payload = none := hnone
      unfold normalizeRuleUpdate
      dsimp only
      rw [hbaseline, Option.none_or]
    | delta payload =>
      cases payload with
      | streamDelta receivedAt message coinToMarketId =>
        have hdelta := Option.map_eq_none_iff.mp hnone
        unfold normalizeRuleUpdate
        dsimp only
        rw [hdelta]
        split <;> rfl
      | marketSnapshot market => rfl
      | accountSnapshot snapshots coinToMarketId => rfl
      | unknown => rfl

theorem lastMetric_append (first second : List (MonitorUpdate Payload)) :
    lastMetric rule (first ++ second) = (lastMetric rule second).or (lastMetric rule first) := by
  rw [lastMetric, lastMetric, lastMetric, List.filterMap_append, List.getLast?_append]

theorem retainedAfter_none (updates : List (MonitorUpdate Payload)) :
    retainedAfter rule none updates = lastMetric rule updates := by
  induction updates using List.reverseRecOn with
  | nil => rfl
  | append_singleton updates update ih =>
    rw [retainedAfter_append_singleton, retained_update, ih, lastMetric_append_singleton]

open SharedMonitorRegistry

/-- Two subscriptions of one rule to an entry: one from before anything was published, one
while the stream is live, and the events up to the next delta after it. -/
structure LateJoin where
  before : List (MonitorEvent Payload)
  during : List (MonitorEvent Payload)
  following : List (MonitorEvent Payload)
  entry : ℕ
  early : ℕ
  late : ℕ
  target : MonitorTarget
  joined : MonitorEntry Payload
  controller : ℕ
  stream : ℕ
  baseline : Payload

namespace LateJoin

variable (join : LateJoin)

def start : SharedMonitorRegistry Payload := run step create join.before

def joining : SharedMonitorRegistry Payload := run step join.start join.during

def after : SharedMonitorRegistry Payload :=
  run step (join.joining.step (.subscribe join.target join.late)) join.following

def given (listener : ℕ) : List (MonitorUpdate Payload) :=
  received join.after.log join.entry listener

def earlier : List (MonitorUpdate Payload) := received join.joining.log join.entry join.early

def since : List (MonitorUpdate Payload) := (join.given join.early).drop join.earlier.length

/-- The early rule is there from the start and stays; the late one joins the live entry
and stays; what is published since then are baselines and then the next delta. -/
structure Valid : Prop where
  early_fresh : received join.start.log join.entry join.early = []
  early_stays : Along step (Stays join.entry join.early) join.start
    (join.during ++ .subscribe join.target join.late :: join.following)
  late_fresh : received join.joining.log join.entry join.late = []
  joins : join.joining.subscribe join.target join.late =
    .ok (join.joining.join join.entry join.joined join.late)
  accepted : join.joined.baselineAccepted = true
  remembered : join.joined.baselineValue = some join.baseline
  controlled : join.joined.controller = some join.controller
  live : join.joined.streamClose = some join.stream
  late_stays : Along step (Stays join.entry join.late)
    (join.joining.step (.subscribe join.target join.late)) join.following
  next : ∃ (baselines : List Payload) (value : Payload),
    join.since = baselines.map MonitorUpdate.baseline ++ [.delta value]

def retained (rule : NotificationRuleRecord) (listener : ℕ) : Option DecimalString :=
  retainedAfter rule none (join.given listener)

def matchesAfter (sha256Hex : String → String) (rule : NotificationRuleRecord)
    (later : List (MonitorEvent Payload)) (listener : ℕ) : List (List NotificationRuleMatch) :=
  matchesOf sha256Hex rule (join.retained rule listener)
    ((received (run step join.after later).log join.entry listener).drop
      (join.given listener).length)

/-- The two rules retain the same after the next delta, and are matched by the same of what
is published later. -/
def Independent (sha256Hex : String → String) (rule : NotificationRuleRecord) : Prop :=
  join.retained rule join.early = join.retained rule join.late ∧
    ∀ later, Along step (Stays join.entry join.early) join.after later →
      Along step (Stays join.entry join.late) join.after later →
        join.matchesAfter sha256Hex rule later join.early =
          join.matchesAfter sha256Hex rule later join.late

/-- The metric is carried again up to the next delta, or is still that of the remembered
baseline. -/
def Current (rule : NotificationRuleRecord) : Prop :=
  lastMetric rule join.since ≠ none ∨
    lastMetric rule join.earlier = metricFromBaseline rule join.baseline

variable {join}

theorem distinct_joining : join.joining.Distinct := by
  unfold joining start
  rw [← run_append]
  exact distinct_run _

theorem step_subscribe (h : join.Valid) :
    join.joining.step (.subscribe join.target join.late) =
      join.joining.join join.entry join.joined join.late := by
  unfold SharedMonitorRegistry.step
  dsimp only
  rw [h.joins]

theorem late_ne_early (h : join.Valid) : join.late ≠ join.early := by
  have hstays := (along_append _ _ _ _ _).mp h.early_stays
  rw [along_cons] at hstays
  exact beq_eq_false_iff_ne.mp hstays.2.1.2

theorem given_early_late (h : join.Valid) :
    join.given join.early = join.earlier ++ join.since ∧
      join.given join.late = .baseline join.baseline :: join.since := by
  have hstays := (along_append _ _ _ _ _).mp h.early_stays
  rw [along_cons] at hstays
  obtain ⟨updates, hupdates⟩ := received_run join.following
    (distinct_joining.step (.subscribe join.target join.late)) join.entry
  have hearly := hupdates join.early hstays.2.2
  have hlate := hupdates join.late h.late_stays
  have hjoin := fun listener => @received_join _ join.joining _ _ _ h.accepted h.remembered
    h.controlled join.entry join.late listener
  rw [step_subscribe h, hjoin, if_neg (late_ne_early h), List.append_nil] at hearly
  rw [step_subscribe h, hjoin, if_pos rfl, h.late_fresh, List.nil_append] at hlate
  have hgiven : join.given join.early = join.earlier ++ updates := by
    unfold given after
    rw [step_subscribe h]
    exact hearly
  have hsince : join.since = updates := by
    unfold since
    rw [hgiven, List.drop_left]
  rw [hsince]
  refine ⟨hgiven, ?_⟩
  unfold given after
  rw [step_subscribe h]
  exact hlate

theorem retained_early (h : join.Valid) (rule : NotificationRuleRecord) :
    join.retained rule join.early =
      (lastMetric rule join.since).or (lastMetric rule join.earlier) := by
  rw [retained, retainedAfter_none, (given_early_late h).1, lastMetric_append]

theorem retained_late (h : join.Valid) (rule : NotificationRuleRecord) :
    join.retained rule join.late =
      (lastMetric rule join.since).or (metricFromBaseline rule join.baseline) := by
  have hbaseline : lastMetric rule [.baseline join.baseline] =
      metricFromBaseline rule join.baseline := by
    have happend : lastMetric rule ([] ++ [.baseline join.baseline]) = _ :=
      lastMetric_append_singleton [] (.baseline join.baseline)
    rw [List.nil_append] at happend
    rw [happend]
    exact Option.or_none
  rw [retained, retainedAfter_none, (given_early_late h).2, ← List.singleton_append,
    lastMetric_append, hbaseline]

theorem retained_eq_iff (h : join.Valid) (rule : NotificationRuleRecord) :
    join.retained rule join.early = join.retained rule join.late ↔ join.Current rule := by
  rw [retained_early h, retained_late h]
  unfold Current
  cases lastMetric rule join.since with
  | some value => simp
  | none => simp

theorem later_eq (later : List (MonitorEvent Payload))
    (hearly : Along step (Stays join.entry join.early) join.after later)
    (hlate : Along step (Stays join.entry join.late) join.after later) :
    (received (run step join.after later).log join.entry join.early).drop
        (join.given join.early).length =
      (received (run step join.after later).log join.entry join.late).drop
        (join.given join.late).length := by
  have hdistinct : join.after.Distinct := by
    unfold after joining start
    rw [← run_append, ← run_cons, ← run_append]
    exact distinct_run _
  obtain ⟨updates, hupdates⟩ := received_run later hdistinct join.entry
  rw [hupdates _ hearly, hupdates _ hlate]
  unfold given
  rw [List.drop_left, List.drop_left]

theorem independent_iff (h : join.Valid) (sha256Hex : String → String)
    (rule : NotificationRuleRecord) : join.Independent sha256Hex rule ↔ join.Current rule := by
  rw [← retained_eq_iff h]
  constructor
  · exact And.left
  · intro hretained
    refine ⟨hretained, ?_⟩
    intro later hearly hlate
    unfold matchesAfter
    rw [hretained, later_eq later hearly hlate]

end LateJoin

/-- A rule that joins a live stream agrees with a rule that was there from the start exactly
if the metric is carried again up to the next delta, or the deltas before the join have
left it where the remembered baseline has it. -/
theorem late_rule_agrees_iff (sha256Hex : String → String) (rule : NotificationRuleRecord)
    (join : LateJoin) (h : join.Valid) : join.Independent sha256Hex rule ↔ join.Current rule :=
  LateJoin.independent_iff h sha256Hex rule

deriving instance DecidableEq for FundingRecord
deriving instance DecidableEq for Position
deriving instance DecidableEq for AccountSnapshot
deriving instance DecidableEq for Payload

def fundedAccount : MonitorTarget :=
  .account .testnet ("0x" ++ String.ofList (List.replicate 40 'a'))

theorem readDecimal_low : readDecimal "0.1" = some ⟨false, ['0'], ['1']⟩ := by decide

def lowFunding : Payload :=
  .accountSnapshot [⟨[], ⟨"0.1", ⟨false, ['0'], ['1']⟩, readDecimal_low⟩,
    [⟨"BTC", ⟨"0.1", ⟨false, ['0'], ['1']⟩, readDecimal_low⟩, 1⟩]⟩] [("BTC", "perp:0:0")]

theorem one_lt_receivedAt : 1 < 2 ^ 53 := Nat.one_lt_two_pow (Nat.succ_ne_zero 52)

def highFunding : Payload :=
  .streamDelta ⟨1, one_lt_receivedAt⟩
    ⟨"userFundings", some (.object [("fundings", .array [.object [("delta",
      .object [("coin", .string "BTC"), ("fundingRate", .string "0.3")])]])])⟩
    [("BTC", "perp:0:0")]

def orderDelta : Payload :=
  .streamDelta ⟨1, one_lt_receivedAt⟩
    ⟨"orderUpdates", some (.array [])⟩ [("BTC", "perp:0:0")]

/-- The account is monitored, its funding rises, a second rule joins, and an order update
comes. -/
def staleJoin : LateJoin where
  before := [.subscribe fundedAccount 0]
  during := [.reconcile false 0, .acquireServed 0 (.granted 1), .leaseAnswered 0 0,
    .loaded 0 (some lowFunding), .streamOpened 0 true, .delta 0 highFunding]
  following := [.delta 0 orderDelta]
  entry := 0
  early := 0
  late := 1
  target := fundedAccount
  joined :=
    { target := fundedAccount
      leaseKey := monitorLeaseKey fundedAccount
      registered := true
      listeners := [0]
      leaseGeneration := some 1
      nextRenewAt := some 10000
      baselineAccepted := true
      baselineValue := some lowFunding
      streamClose := some 0
      controller := some 0
      reconciling := none
      leaseExpiry := some 30000 }
  controller := 0
  stream := 0
  baseline := lowFunding

theorem staleJoin_valid : staleJoin.Valid where
  early_fresh := by decide
  early_stays := by decide
  late_fresh := by decide
  joins := by
    have hnormal : normalizeMonitorTarget staleJoin.target = .ok fundedAccount := by
      decide
    have hlookup : staleJoin.joining.lookup (monitorLeaseKey fundedAccount) =
        some (staleJoin.entry, staleJoin.joined) := by decide
    exact subscribe_of_lookup hnormal hlookup staleJoin.late
  accepted := rfl
  remembered := rfl
  controlled := rfl
  live := rfl
  late_stays := by decide
  next := ⟨[], orderDelta, by decide⟩

def fundingRule : NotificationRuleRecord where
  ruleId := "11111111111111111111111111111111"
  identityDigest := "1111111111111111111111111111111111111111111111111111111111111111"
  installationId := "22222222222222222222222222222222"
  accountLinkId := some "33333333333333333333333333333333"
  scope := .account
  network := .testnet
  marketId := "perp:0:0"
  eventType := .fundingAbove
  threshold := "0.2"

def freshJoin : LateJoin := { staleJoin with following := [.delta 0 highFunding] }

theorem freshJoin_valid : freshJoin.Valid where
  early_fresh := by decide
  early_stays := by decide
  late_fresh := by decide
  joins := staleJoin_valid.joins
  accepted := rfl
  remembered := rfl
  controlled := rfl
  live := rfl
  late_stays := by decide
  next := ⟨[], highFunding, by decide⟩

theorem late_rule_agrees_freshJoin : freshJoin.Independent id fundingRule :=
  (late_rule_agrees_iff id fundingRule freshJoin freshJoin_valid).mpr (.inl (by decide))

/-- The late rule still has the rate of the baseline after the next delta. -/
theorem late_rule_stale : ¬ ∀ (sha256Hex : String → String) (rule : NotificationRuleRecord)
    (join : LateJoin), join.Valid → join.Independent sha256Hex rule := by
  intro h
  have hretained := (h id fundingRule staleJoin staleJoin_valid).1
  exact absurd hretained (by decide)

end RuleUpdates

end HyperTrader
