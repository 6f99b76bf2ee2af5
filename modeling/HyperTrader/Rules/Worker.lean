import HyperTrader.Library.Keyed
import HyperTrader.Library.Machine
import HyperTrader.Monitor.Registry
import HyperTrader.Notifications.Tables

/-!
# The worker of the notification rules

The worker keeps a registry subscription for each active rule. A run of `reconcileRules`
reads the active rules page by page, removes the subscriptions of the others and
subscribes to those it does not have; a rule whose updates come faster than they are
handled is degraded and loses its subscription. The worker is a machine: its events are
the start of a run, the ends of its awaits with what the registry makes of the
subscriptions that follow, and what becomes of the updates, in any order.
-/

namespace HyperTrader

open Library

/-- `ActiveNotificationRule`, as far as its subscription is concerned. -/
structure ActiveNotificationRule where
  ruleId : String
  identityDigest : String
  scope : Notifications.RuleScope
  network : NotificationNetwork
  marketId : String
  accountAddress : Option String
  deriving DecidableEq

def ruleKey (rule : ActiveNotificationRule) : String :=
  rule.ruleId ++ ":" ++ rule.identityDigest

/-- `monitorTarget`, which throws without an address. -/
def monitorTarget (rule : ActiveNotificationRule) : Option MonitorTarget :=
  match rule.scope with
  | .price => some (.market rule.network rule.marketId)
  | .account =>
    match rule.accountAddress with
    | none => none
    | some "" => none
    | some address => some (.account rule.network address)

structure RuleState where
  rule : ActiveNotificationRule
  pendingUpdates : ℕ
  degraded : Bool
  degradedRun : ℕ
  detached : Bool
  deriving DecidableEq

/-- What the registry makes of a subscription: it throws, or has the listener, and gives
it the baseline at once if there is one. -/
inductive SubscribeAttempt where
  | refused
  | accepted (baseline : Bool)

/-- A run of `reconcileRules` after its listing: the rules, whether they are all, and
the rules that it refused or passed over. -/
structure ReconcileRun where
  rules : List ActiveNotificationRule
  complete : Bool
  refused : List String
  skipped : List String
  deriving DecidableEq

inductive ReconcileRulesStage where
  | idle
  /-- `listActiveRules`, of a page. -/
  | listing (rules : List ActiveNotificationRule) (afterRuleId : String) (page : ℕ)
  /-- `unsubscribe`, of a rule that is not active; the entries after it. -/
  | removing (run : ReconcileRun) (rest : List (String × ℕ))
  /-- `unsubscribe`, of the former identity of a rule; the rules after it. -/
  | subscribing (run : ReconcileRun) (rest : List ActiveNotificationRule)
  /-- The registry's `reconcile`. -/
  | reconciling (run : ReconcileRun)
  deriving DecidableEq

abbrev stateKey : String × ℕ → String := Prod.fst

abbrev stateRuleId : String × String × ℕ → String := Prod.fst

/-- `NotificationRuleWorker`. Its states are numbered as they are made; `subscribed` are
those whose listeners the registry has, `runs` counts the runs that started. -/
structure NotificationRuleWorker where
  maxPendingUpdates : ℕ
  capacity : 1 ≤ maxPendingUpdates ∧ maxPendingUpdates ≤ 1024
  made : List RuleState
  states : Keyed stateKey
  statesByRuleId : Keyed stateRuleId
  subscribed : List ℕ
  runs : ℕ
  stage : ReconcileRulesStage

inductive RuleWorkerEvent where
  /-- `reconcileRules` is called. -/
  | reconcile
  /-- A page is read; the outcomes of the subscriptions that follow, by rule. -/
  | listed (batch : List ActiveNotificationRule) (attempts : String → SubscribeAttempt)
  /-- `listActiveRules` rejects. -/
  | listingFailed
  /-- The awaited `unsubscribe` settles. -/
  | unsubscribed (resolves : Bool) (attempts : String → SubscribeAttempt)
  /-- The registry's `reconcile` settles. -/
  | reconciled
  /-- The registry gives an update to a listener. -/
  | update (state : ℕ)
  /-- An update has been handled. -/
  | handled (state : ℕ)
  /-- The teardown of a degraded state settles. -/
  | tornDown (state : ℕ)

namespace NotificationRuleWorker

def create (maxPendingUpdates : ℕ) (capacity : 1 ≤ maxPendingUpdates ∧ maxPendingUpdates ≤ 1024) :
    NotificationRuleWorker where
  maxPendingUpdates := maxPendingUpdates
  capacity := capacity
  made := []
  states := Keyed.empty
  statesByRuleId := Keyed.empty
  subscribed := []
  runs := 0
  stage := .idle

def modify (worker : NotificationRuleWorker) (s : ℕ) (f : RuleState → RuleState) :
    NotificationRuleWorker :=
  { worker with made := worker.made.modify s f }

def unsubscribe (worker : NotificationRuleWorker) (s : ℕ) : NotificationRuleWorker :=
  { worker with subscribed := worker.subscribed.filter fun other => other ≠ s }

def degradeState (worker : NotificationRuleWorker) (s : ℕ) : NotificationRuleWorker :=
  (worker.modify s fun state =>
    { state with degraded := true, degradedRun := worker.runs }).unsubscribe s

def enqueueUpdate (worker : NotificationRuleWorker) (s : ℕ) : NotificationRuleWorker :=
  match worker.made[s]? with
  | none => worker
  | some state =>
    if state.degraded then worker
    else if worker.maxPendingUpdates ≤ state.pendingUpdates then worker.degradeState s
    else worker.modify s fun state =>
      { state with pendingUpdates := state.pendingUpdates + 1 }

/-- The entry of `#statesByRuleId` goes if it is of this state. -/
def forgetRule (worker : NotificationRuleWorker) (ruleId : String) (s : ℕ) :
    NotificationRuleWorker :=
  { worker with statesByRuleId :=
      match worker.statesByRuleId.find? ruleId with
      | some (_, _, other) =>
        if other = s then worker.statesByRuleId.delete fun entry => entry.1 == ruleId
        else worker.statesByRuleId
      | none => worker.statesByRuleId }

/-- `this.#states.delete` -/
def forgetKey (worker : NotificationRuleWorker) (key : String) : NotificationRuleWorker :=
  { worker with states := worker.states.delete fun entry => entry.1 == key }

def subscribe (worker : NotificationRuleWorker) (rule : ActiveNotificationRule)
    (baseline : Bool) : NotificationRuleWorker :=
  let made := { worker with
    made := worker.made ++ [⟨rule, 0, false, 0, false⟩]
    subscribed := worker.subscribed ++ [worker.made.length] }
  if baseline then made.enqueueUpdate worker.made.length else made

/-- The new state is entered; the former identity of its rule goes. The flag says that
its `unsubscribe` is awaited. -/
def enter (worker : NotificationRuleWorker) (rule : ActiveNotificationRule) (s : ℕ) :
    NotificationRuleWorker × Bool :=
  let key := ruleKey rule
  let entered := { worker with
    states := worker.states.put (key, s)
    statesByRuleId := worker.statesByRuleId.put (rule.ruleId, key, s) }
  match worker.statesByRuleId.find? rule.ruleId with
  | some (_, former, previous) =>
    if former = key then (entered, false)
    else ((entered.forgetKey former).unsubscribe previous, true)
  | none => (entered, false)

def subscribeRule (worker : NotificationRuleWorker) (run : ReconcileRun)
    (attempt : SubscribeAttempt) (rule : ActiveNotificationRule) :
    NotificationRuleWorker × ReconcileRun × Bool :=
  match monitorTarget rule, attempt with
  | some _, .accepted baseline =>
    let (entered, awaits) := (worker.subscribe rule baseline).enter rule worker.made.length
    (entered, run, awaits)
  | _, _ => (worker, { run with refused := run.refused ++ [rule.ruleId] }, false)

def reconcileRule (worker : NotificationRuleWorker) (run : ReconcileRun)
    (attempt : SubscribeAttempt) (rule : ActiveNotificationRule) :
    NotificationRuleWorker × ReconcileRun × Bool :=
  match worker.states.find? (ruleKey rule) with
  | none => worker.subscribeRule run attempt rule
  | some (_, s) =>
    match worker.made[s]? with
    | none => (worker, run, false)
    | some existing =>
      if existing.degraded = false then (worker, run, false)
      else if 0 < existing.pendingUpdates ∨ existing.detached = false then
        (worker, { run with skipped := run.skipped ++ [rule.ruleId] }, false)
      else ((worker.forgetKey (ruleKey rule)).forgetRule rule.ruleId s).subscribeRule
        run attempt rule

def subscribeRules (attempts : String → SubscribeAttempt)
    (worker : NotificationRuleWorker) (run : ReconcileRun) :
    List ActiveNotificationRule → NotificationRuleWorker
  | [] => { worker with stage := .reconciling run }
  | rule :: rest =>
    match worker.reconcileRule run (attempts rule.ruleId) rule with
    | (worker, run, true) => { worker with stage := .subscribing run rest }
    | (worker, run, false) => subscribeRules attempts worker run rest

def isActive (worker : NotificationRuleWorker) (run : ReconcileRun) (entry : String × ℕ) : Bool :=
  (run.rules.map ruleKey).contains entry.1 ||
    (worker.made[entry.2]?).any fun state =>
      (run.rules.map (·.ruleId)).contains state.rule.ruleId

def removeEntry (worker : NotificationRuleWorker) (entry : String × ℕ) : NotificationRuleWorker :=
  let forgotten := worker.forgetKey entry.1
  { forgotten with statesByRuleId :=
      match worker.made[entry.2]? with
      | some state => worker.statesByRuleId.delete fun other => other.1 == state.rule.ruleId
      | none => worker.statesByRuleId }.unsubscribe entry.2

def removeEntries (attempts : String → SubscribeAttempt)
    (worker : NotificationRuleWorker) (run : ReconcileRun) :
    List (String × ℕ) → NotificationRuleWorker
  | [] => subscribeRules attempts worker run run.rules
  | entry :: rest =>
    if worker.isActive run entry then removeEntries attempts worker run rest
    else { worker.removeEntry entry with stage := .removing run rest }

end NotificationRuleWorker

def ruleIdPattern : TextPattern := ⟨"", isLowerHexDigit, 32, 32⟩

/-- What `listActiveRules` answers: at most a thousand rules, those after the cursor in
the order of their IDs. -/
structure IsRulePage (afterRuleId : String) (batch : List ActiveNotificationRule) :
    Prop where
  length : batch.length ≤ 1000
  ids : ∀ rule ∈ batch, ruleIdPattern.test rule.ruleId = true ∧ afterRuleId < rule.ruleId
  ordered : batch.Pairwise fun a b => a.ruleId < b.ruleId

instance (afterRuleId : String) (batch : List ActiveNotificationRule) :
    Decidable (IsRulePage afterRuleId batch) :=
  decidable_of_iff
    (batch.length ≤ 1000 ∧
      (∀ rule ∈ batch, ruleIdPattern.test rule.ruleId = true ∧ afterRuleId < rule.ruleId) ∧
      batch.Pairwise fun a b => a.ruleId < b.ruleId)
    ⟨fun h => ⟨h.1, h.2.1, h.2.2⟩, fun h => ⟨h.length, h.ids, h.ordered⟩⟩

namespace NotificationRuleWorker

def listed (worker : NotificationRuleWorker) (attempts : String → SubscribeAttempt)
    (rules : List ActiveNotificationRule) (afterRuleId : String) (page : ℕ)
    (batch : List ActiveNotificationRule) : NotificationRuleWorker :=
  let rules := rules ++ batch
  let cursor := (batch.getLast?.map (·.ruleId)).getD afterRuleId
  if batch.length < 1000 then
    removeEntries attempts worker ⟨rules, true, [], []⟩ worker.states.rows
  else if page + 1 < 100 then
    { worker with stage := .listing rules cursor (page + 1) }
  else subscribeRules attempts worker ⟨rules, false, [], []⟩ rules

def step (worker : NotificationRuleWorker) : RuleWorkerEvent → NotificationRuleWorker
  | .reconcile =>
    match worker.stage with
    | .idle => { worker with stage := .listing [] "" 0, runs := worker.runs + 1 }
    | _ => worker
  | .listed batch attempts =>
    match worker.stage with
    | .listing rules afterRuleId page =>
      if IsRulePage afterRuleId batch then
        worker.listed attempts rules afterRuleId page batch
      else worker
    | _ => worker
  | .listingFailed =>
    match worker.stage with
    | .listing .. => { worker with stage := .idle }
    | _ => worker
  | .unsubscribed resolves attempts =>
    match worker.stage with
    | .removing run rest =>
      if resolves then removeEntries attempts worker run rest
      else { worker with stage := .idle }
    | .subscribing run rest =>
      if resolves then subscribeRules attempts worker run rest
      else { worker with stage := .idle }
    | _ => worker
  | .reconciled =>
    match worker.stage with
    | .reconciling _ => { worker with stage := .idle }
    | _ => worker
  | .update s => if s ∈ worker.subscribed then worker.enqueueUpdate s else worker
  | .handled s => worker.modify s fun state =>
    { state with pendingUpdates := state.pendingUpdates - 1 }
  | .tornDown s => worker.modify s fun state =>
    { state with detached := state.detached || state.degraded }

end NotificationRuleWorker

end HyperTrader
