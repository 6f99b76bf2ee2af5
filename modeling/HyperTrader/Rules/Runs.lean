import HyperTrader.Rules.Reconciliation

/-!
# The runs of the rule worker

Every step keeps the maps consistent and the run where its lists say it is. So a run that
completes leaves one listener for each active rule under its identity, unless the run
refused the rule, passed over it, or its updates came too fast; and, if the listing was
complete, none for another rule.
-/

namespace HyperTrader

open Library

namespace NotificationRuleWorker

section

variable {worker : NotificationRuleWorker} {rules batch : List ActiveNotificationRule}
  {afterRuleId ruleId : String} {s : ℕ}

theorem Listed.append (hrules : Listed rules) (hcursor : ∀ rule ∈ rules, rule.ruleId ≤ afterRuleId)
    (hpage : IsRulePage afterRuleId batch) : Listed (rules ++ batch) where
  ids rule hrule := by
    rcases List.mem_append.mp hrule with hrule | hrule
    · exact hrules.ids rule hrule
    · exact (hpage.ids rule hrule).1
  ordered := by
    refine List.pairwise_append.mpr ⟨hrules.ordered, hpage.ordered, ?_⟩
    intro a ha b hb
    exact lt_of_le_of_lt (hcursor a ha) (hpage.ids b hb).2

theorem le_cursor (hcursor : ∀ rule ∈ rules, rule.ruleId ≤ afterRuleId)
    (hpage : IsRulePage afterRuleId batch) :
    ∀ rule ∈ rules ++ batch,
      rule.ruleId ≤ (batch.getLast?.map (·.ruleId)).getD afterRuleId := by
  intro rule hrule
  cases batch using List.reverseRecOn with
  | nil =>
    rw [List.append_nil] at hrule
    exact hcursor rule hrule
  | append_singleton init last =>
    rw [List.getLast?_concat]
    change rule.ruleId ≤ last.ruleId
    have hlast : last ∈ init ++ [last] := List.mem_append_right _ (List.mem_singleton_self _)
    rcases List.mem_append.mp hrule with hrule | hrule
    · exact (hcursor rule hrule).trans (hpage.ids last hlast).2.le
    · rcases List.mem_append.mp hrule with hrule | hrule
      · exact ((List.pairwise_append.mp hpage.ordered).2.2 rule hrule last
          (List.mem_singleton_self _)).le
      · rw [List.mem_singleton.mp hrule]

theorem listed_progress (attempts : String → SubscribeAttempt) (page : ℕ)
    (hworker : worker.Consistent) (hrules : Listed rules)
    (hcursor : ∀ rule ∈ rules, rule.ruleId ≤ afterRuleId) (hpage : IsRulePage afterRuleId batch) :
    (worker.listed attempts rules afterRuleId page batch).Consistent ∧
      (worker.listed attempts rules afterRuleId page batch).Progress := by
  have hlisted := hrules.append hcursor hpage
  unfold listed
  dsimp only
  split
  · apply removeEntries_progress attempts _ hworker
    refine ⟨hlisted, ?_, fun entry hentry => ?_, fun key s state hkey _ => ?_⟩
    · exact List.pairwise_map.mpr worker.states.unique
    · exact stateAt_eq_some.mpr hentry
    · exact .inr (stateAt_eq_some.mp hkey)
  · split
    · exact ⟨hworker.setStage _, hlisted, le_cursor hcursor hpage⟩
    · apply subscribeRules_progress attempts _ hworker
      refine ⟨hlisted, fun hcomplete => ?_, [], rfl, fun rule hrule => ?_⟩
      · cases hcomplete
      · cases hrule

theorem step_reconciled {reconcileRun : ReconcileRun}
    (h : worker.stage = .reconciling reconcileRun) :
    worker.step .reconciled = { worker with stage := .idle } := by
  unfold step
  dsimp only
  rw [h]

/-- Every event keeps the worker consistent and its rounds in progress. -/
theorem step_progress (event : RuleWorkerEvent) (h : worker.Consistent ∧ worker.Progress) :
    (worker.step event).Consistent ∧ (worker.step event).Progress := by
  obtain ⟨hworker, hprogress⟩ := h
  have hidle : { worker with stage := .idle }.Consistent ∧
      { worker with stage := .idle }.Progress := ⟨hworker.setStage _, trivial⟩
  have htouched : ∀ {after : NotificationRuleWorker}, Touched worker after →
      after.Consistent ∧ after.Progress :=
    fun h => ⟨h.consistent hworker, h.progress hprogress⟩
  cases event with
  | reconcile =>
    unfold step
    dsimp only
    split
    · refine ⟨⟨hworker.ids, hworker.mapped, hworker.indexed, hworker.live,
        hworker.nodup⟩, ⟨?_, List.Pairwise.nil⟩, ?_⟩
      · intro rule hrule
        cases hrule
      · intro rule hrule
        cases hrule
    · exact ⟨hworker, hprogress⟩
  | listed batch attempts =>
    unfold step
    dsimp only
    split
    · rename_i rules afterRuleId page hstage
      rw [Progress, hstage] at hprogress
      split
      · rename_i hpage
        exact listed_progress attempts page hworker hprogress.1 hprogress.2 hpage
      · refine ⟨hworker, ?_⟩
        rw [Progress, hstage]
        exact hprogress
    · exact ⟨hworker, hprogress⟩
  | listingFailed =>
    unfold step
    dsimp only
    split
    · exact hidle
    · exact ⟨hworker, hprogress⟩
  | unsubscribed resolves attempts =>
    unfold step
    dsimp only
    split
    · rename_i run rest hstage
      rw [Progress, hstage] at hprogress
      split
      · exact removeEntries_progress attempts rest hworker hprogress
      · exact hidle
    · rename_i run rest hstage
      rw [Progress, hstage] at hprogress
      split
      · exact subscribeRules_progress attempts rest hworker hprogress
      · exact hidle
    · exact ⟨hworker, hprogress⟩
  | reconciled =>
    unfold step
    dsimp only
    split
    · exact hidle
    · exact ⟨hworker, hprogress⟩
  | update s =>
    unfold step
    dsimp only
    split
    · exact htouched (touched_enqueueUpdate hworker s)
    · exact ⟨hworker, hprogress⟩
  | handled s =>
    exact htouched (touched_modify (fun _ => rfl) (fun _ => ⟨rfl, rfl⟩) hworker)
  | tornDown s =>
    exact htouched (touched_modify (fun _ => rfl) (fun _ => ⟨rfl, rfl⟩) hworker)

theorem run_progress {maximum : ℕ} (h : 1 ≤ maximum ∧ maximum ≤ 1024)
    (events : List RuleWorkerEvent) :
    (run step (create maximum h) events).Consistent ∧
      (run step (create maximum h) events).Progress := by
  have hstep : ∀ (worker : NotificationRuleWorker) (event : RuleWorkerEvent),
      worker.Consistent ∧ worker.Progress →
        (worker.step event).Consistent ∧ (worker.step event).Progress :=
    fun _ event h => step_progress event h
  exact run_invariant hstep ⟨consistent_create h, trivial⟩ events

def subscriptions (worker : NotificationRuleWorker) (ruleId : String) : List ℕ :=
  worker.subscribed.filter fun s =>
    (worker.made[s]?).any fun state => state.rule.ruleId == ruleId

def SubscribedOnce (worker : NotificationRuleWorker) (rule : ActiveNotificationRule) : Prop :=
  ∃ (s : ℕ) (state : RuleState), worker.subscriptions rule.ruleId = [s] ∧
    worker.made[s]? = some state ∧ ruleKey state.rule = ruleKey rule

def DegradedByRun (worker : NotificationRuleWorker) (rule : ActiveNotificationRule) : Prop :=
  ∃ (s : ℕ) (state : RuleState), (ruleKey rule, s) ∈ worker.states.rows ∧
    worker.made[s]? = some state ∧ state.degraded = true ∧
      state.degradedRun = worker.runs

theorem mem_subscriptions :
    s ∈ worker.subscriptions ruleId ↔ s ∈ worker.subscribed ∧
      ∃ state : RuleState, worker.made[s]? = some state ∧ state.rule.ruleId = ruleId := by
  unfold subscriptions
  rw [List.mem_filter]
  cases hstate : worker.made[s]? with
  | none => simp
  | some state => simp

theorem Consistent.ruleAt_of_mem (hworker : worker.Consistent)
    (h : s ∈ worker.subscriptions ruleId) :
    ∃ state : RuleState, worker.made[s]? = some state ∧ state.rule.ruleId = ruleId ∧
      state.degraded = false ∧ worker.ruleAt ruleId = some (ruleKey state.rule, s) := by
  obtain ⟨hmem, state, hstate, hid⟩ := mem_subscriptions.mp h
  obtain ⟨other, hother, hnot, hkey⟩ := (hworker.live s).mp hmem
  rw [hstate] at hother
  cases hother
  obtain ⟨found, hfound, -, hindex⟩ := hworker.mapped _ s hkey
  rw [hstate] at hfound
  cases hfound
  rw [hid] at hindex
  exact ⟨state, hstate, hid, hnot, hindex⟩

theorem Consistent.subscribedOnce (hworker : worker.Consistent)
    {rule : ActiveNotificationRule} (hid : ruleIdPattern.test rule.ruleId = true)
    {state : RuleState} (hkey : worker.stateAt (ruleKey rule) = some s)
    (hstate : worker.made[s]? = some state) (hnot : state.degraded = false) :
    worker.SubscribedOnce rule := by
  obtain ⟨found, hfound, hsame, hindex⟩ := hworker.mapped _ s hkey
  rw [hstate] at hfound
  cases hfound
  have hruleId := (ruleKey_injective (hworker.ids s state hstate) hid hsame).1
  have hmem : s ∈ worker.subscribed := by
    refine (hworker.live s).mpr ⟨state, hstate, hnot, ?_⟩
    rw [hsame, hkey]
  have hsubscribed : s ∈ worker.subscriptions rule.ruleId :=
    mem_subscriptions.mpr ⟨hmem, state, hstate, hruleId⟩
  -- Two listeners of a rule would be two states of one entry.
  have honly : ∀ other ∈ worker.subscriptions rule.ruleId, other = s := by
    intro other hother
    obtain ⟨_, -, -, -, hentry⟩ := hworker.ruleAt_of_mem hother
    rw [← hruleId, hindex] at hentry
    exact (Prod.mk.inj (Option.some.inj hentry)).2.symm
  have hnodup : (worker.subscriptions rule.ruleId).Nodup := hworker.nodup.filter _
  refine ⟨s, state, ?_, hstate, hsame⟩
  exact List.perm_singleton.mp
    ((List.perm_ext_iff_of_nodup hnodup (List.nodup_singleton s)).mpr fun other =>
      ⟨fun h => List.mem_singleton.mpr (honly other h), fun h => by
        rw [List.mem_singleton.mp h]
        exact hsubscribed⟩)

theorem Consistent.rows (hworker : worker.Consistent) (key : String) (s : ℕ) :
    (key, s) ∈ worker.states.rows ↔
      ∃ ruleId, (ruleId, key, s) ∈ worker.statesByRuleId.rows := by
  constructor
  · intro hmem
    obtain ⟨state, -, -, hindex⟩ := hworker.mapped key s (stateAt_eq_some.mpr hmem)
    exact ⟨_, ruleAt_eq_some.mp hindex⟩
  · rintro ⟨ruleId, hmem⟩
    exact stateAt_eq_some.mp (hworker.indexed ruleId key s (ruleAt_eq_some.mpr hmem)).1

end

end NotificationRuleWorker

open NotificationRuleWorker in
/-- A run of `reconcileRules` that completes leaves one listener for each active rule under
its identity, unless it refused the rule, passed over its degraded state, or the state was
degraded since; none for a rule that is not of a complete listing; and two maps of the
same states. -/
theorem reconcileRules_subscriptions (maximum : ℕ) (h : 1 ≤ maximum ∧ maximum ≤ 1024)
    (events : List RuleWorkerEvent) (reconcileRun : ReconcileRun)
    (hstage : (run step (create maximum h) events).stage = .reconciling reconcileRun) :
    let worker := (run step (create maximum h) events).step .reconciled
    worker.stage = .idle ∧
      (∀ rule ∈ reconcileRun.rules, rule.ruleId ∈ reconcileRun.refused ∨
        rule.ruleId ∈ reconcileRun.skipped ∨ worker.DegradedByRun rule ∨
          worker.SubscribedOnce rule) ∧
      (reconcileRun.complete = true →
        ∀ ruleId ∉ reconcileRun.rules.map (·.ruleId), worker.subscriptions ruleId = []) ∧
      (∀ key s, (key, s) ∈ worker.states.rows ↔
        ∃ ruleId, (ruleId, key, s) ∈ worker.statesByRuleId.rows) := by
  intro worker
  obtain ⟨hbefore, hprogress⟩ := run_progress h events
  have hworker : worker = { run step (create maximum h) events with stage := .idle } :=
    step_reconciled hstage
  rw [Progress, hstage] at hprogress
  have hconsistent : worker.Consistent := by
    rw [hworker]
    exact hbefore.setStage _
  refine ⟨by rw [hworker], ?_, ?_, hconsistent.rows⟩
  · intro rule hrule
    obtain ⟨done, hrules, hdone⟩ := hprogress.settled
    rw [List.append_nil] at hrules
    have hsettled := hdone rule (hrules ▸ hrule)
    rcases hsettled with hrefused | hskipped | ⟨s, state, hkey, hstate, hrun⟩
    · exact .inl hrefused
    · exact .inr (.inl hskipped)
    · have hkey : worker.stateAt (ruleKey rule) = some s := by
        rw [hworker]
        exact hkey
      have hstate : worker.made[s]? = some state := by
        rw [hworker]
        exact hstate
      cases hbool : state.degraded with
      | true =>
        refine .inr (.inr (.inl ⟨s, state, stateAt_eq_some.mp hkey, hstate, hbool, ?_⟩))
        rw [hrun hbool, hworker]
      | false =>
        refine .inr (.inr (.inr ?_))
        exact hconsistent.subscribedOnce (hprogress.listed.ids rule hrule) hkey hstate hbool
  · intro hcomplete ruleId hnot
    apply List.eq_nil_iff_forall_not_mem.mpr
    intro s hmem
    obtain ⟨state, hstate, hid, -, hindex⟩ := hconsistent.ruleAt_of_mem hmem
    have hkey := (hconsistent.indexed ruleId _ s hindex).1
    rw [hworker] at hkey hstate
    obtain ⟨rule, hrule, hsame⟩ := hprogress.covered hcomplete _ s state hkey hstate
    apply hnot
    exact List.mem_map.mpr ⟨rule, hrule, hsame.trans hid⟩

def bitcoinRule : ActiveNotificationRule where
  ruleId := "0123456789abcdef0123456789abcdef"
  identityDigest := "sha256:1"
  scope := .price
  network := .mainnet
  marketId := "perp:0"
  accountAddress := none

/-- The same rule after an edit of its threshold. -/
def editedRule : ActiveNotificationRule :=
  { bitcoinRule with identityDigest := "sha256:2" }

def fillsRule : ActiveNotificationRule where
  ruleId := "fedcba9876543210fedcba9876543210"
  identityDigest := "sha256:3"
  scope := .account
  network := .testnet
  marketId := ""
  accountAddress := some "0x00000000000000000000000000000000000000a1"

/-- Between the runs one rule is edited and the other is deleted. -/
def bitcoinRuns : List RuleWorkerEvent :=
  [.reconcile, .listed [bitcoinRule, fillsRule] fun _ => .accepted false, .reconciled,
    .reconcile, .listed [editedRule] fun _ => .accepted false,
    .unsubscribed true fun _ => .accepted false, .unsubscribed true fun _ => .accepted false]

theorem reconcileRules_subscriptions_bitcoin :
    let worker := (run NotificationRuleWorker.step
      (NotificationRuleWorker.create 4 (by decide)) bitcoinRuns).step .reconciled
    worker.stage = .idle ∧
      (∀ rule ∈ [editedRule], rule.ruleId ∈ ([] : List String) ∨
        rule.ruleId ∈ ([] : List String) ∨ worker.DegradedByRun rule ∨ worker.SubscribedOnce rule) ∧
      (true = true → ∀ ruleId ∉ [editedRule].map (·.ruleId), worker.subscriptions ruleId = []) ∧
      (∀ key s, (key, s) ∈ worker.states.rows ↔
        ∃ ruleId, (ruleId, key, s) ∈ worker.statesByRuleId.rows) :=
  reconcileRules_subscriptions 4 (by decide) bitcoinRuns ⟨[editedRule], true, [], []⟩
    (by decide)

/-- Two updates come before the first of them is handled; the state's teardown is done,
and the rule is listed again. -/
def burst : List RuleWorkerEvent :=
  [.reconcile, .listed [bitcoinRule] fun _ => .accepted false, .reconciled,
    .update 0, .update 0, .tornDown 0, .reconcile, .listed [bitcoinRule] fun _ => .accepted false]

/-- A run passes over a rule whose state an earlier run's update degraded while its queue
is not empty: it completes without a listener for the rule. -/
theorem burst_passed_over :
    let before := run NotificationRuleWorker.step
      (NotificationRuleWorker.create 1 (by decide)) burst
    before.stage = .reconciling ⟨[bitcoinRule], true, [], [bitcoinRule.ruleId]⟩ ∧
      (before.step .reconciled).stage = .idle ∧
      (before.step .reconciled).subscribed = [] ∧
      (before.step .reconciled).made = [⟨bitcoinRule, 1, true, 1, true⟩] ∧
      (before.step .reconciled).runs = 2 := by
  decide

end HyperTrader
