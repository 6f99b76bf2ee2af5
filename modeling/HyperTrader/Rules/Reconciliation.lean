import HyperTrader.Library.Ascii
import HyperTrader.Library.MessagePack
import HyperTrader.Rules.Worker
import Mathlib.Data.String.Basic

/-!
# The subscriptions after a run

The two maps of the worker have the same states, one for each rule, and the registry has
the listeners of exactly those that are not degraded. This holds at every await, whatever
the registry and the updates do; what a run still has to do is what is left of its lists.
-/

namespace HyperTrader

open Library

theorem ruleKey_injective {a b : ActiveNotificationRule}
    (ha : ruleIdPattern.test a.ruleId = true) (hb : ruleIdPattern.test b.ruleId = true)
    (h : ruleKey a = ruleKey b) : a.ruleId = b.ruleId ∧ a.identityDigest = b.identityDigest := by
  have hlength : ∀ id, ruleIdPattern.test id = true → (textBytes id).length = 32 := by
    intro id hid
    obtain ⟨body, hbody, hleast, hmost, -⟩ := TextPattern.test_iff.mp hid
    have hleast : 32 ≤ body.length := hleast
    have hmost : body.length ≤ 32 := hmost
    have hlead : textBytes ruleIdPattern.lead = [] := by decide
    rw [hbody, hlead, List.nil_append]
    omega
  have happend : ∀ s t : String, textBytes (s ++ t) = textBytes s ++ textBytes t := by
    intro s t
    rw [textBytes_eq, textBytes_eq, textBytes_eq, String.toList_append, List.flatMap_append]
  have hbytes := congrArg textBytes h
  simp only [ruleKey, happend, List.append_assoc] at hbytes
  obtain ⟨hid, hrest⟩ := List.append_inj hbytes
    ((hlength _ ha).trans (hlength _ hb).symm)
  exact ⟨Json.textBytes_injective hid, Json.textBytes_injective (List.append_cancel_left hrest)⟩

namespace NotificationRuleWorker

def stateAt (worker : NotificationRuleWorker) (key : String) : Option ℕ :=
  (worker.states.find? key).map Prod.snd

def ruleAt (worker : NotificationRuleWorker) (ruleId : String) : Option (String × ℕ) :=
  (worker.statesByRuleId.find? ruleId).map Prod.snd

variable {key : String} {s : ℕ}

theorem stateAt_eq_some {worker : NotificationRuleWorker} :
    worker.stateAt key = some s ↔ (key, s) ∈ worker.states.rows := by
  unfold stateAt
  rw [Keyed.mem_iff_find?, Option.map_eq_some_iff]
  constructor
  · rintro ⟨⟨other, s⟩, hfound, rfl⟩
    obtain rfl := Keyed.key_of_find? hfound
    exact hfound
  · intro hfound
    exact ⟨_, hfound, rfl⟩

theorem ruleAt_eq_some {worker : NotificationRuleWorker} {ruleId : String} :
    worker.ruleAt ruleId = some (key, s) ↔
      (ruleId, key, s) ∈ worker.statesByRuleId.rows := by
  unfold ruleAt
  rw [Keyed.mem_iff_find?, Option.map_eq_some_iff]
  constructor
  · rintro ⟨⟨other, key, s⟩, hfound, hpair⟩
    cases hpair
    obtain rfl := Keyed.key_of_find? hfound
    exact hfound
  · intro hfound
    exact ⟨_, hfound, rfl⟩

structure Consistent (worker : NotificationRuleWorker) : Prop where
  ids : ∀ (s : ℕ) (state : RuleState), worker.made[s]? = some state →
    ruleIdPattern.test state.rule.ruleId = true
  mapped : ∀ (key : String) (s : ℕ), worker.stateAt key = some s →
    ∃ state : RuleState, worker.made[s]? = some state ∧ ruleKey state.rule = key ∧
      worker.ruleAt state.rule.ruleId = some (key, s)
  indexed : ∀ (ruleId key : String) (s : ℕ), worker.ruleAt ruleId = some (key, s) →
    worker.stateAt key = some s ∧
      ∃ state : RuleState, worker.made[s]? = some state ∧ state.rule.ruleId = ruleId
  live : ∀ s : ℕ, s ∈ worker.subscribed ↔ ∃ state : RuleState,
    worker.made[s]? = some state ∧ state.degraded = false ∧
      worker.stateAt (ruleKey state.rule) = some s
  nodup : worker.subscribed.Nodup

theorem consistent_create {maximum : ℕ} (h : 1 ≤ maximum ∧ maximum ≤ 1024) :
    (create maximum h).Consistent where
  ids s state hstate := by cases hstate
  mapped key s hstate := by cases hstate
  indexed ruleId key s hrule := by cases hrule
  live s := by
    constructor
    · intro hmem
      cases hmem
    · rintro ⟨state, hstate, -⟩
      cases hstate
  nodup := List.nodup_nil

section

variable {worker after : NotificationRuleWorker}

/-! ### What becomes of the updates -/

/-- A step that changes the states only: a state keeps its rule, and one that is degraded
by it loses its listener. -/
structure Touched (worker after : NotificationRuleWorker) : Prop where
  states : after.states = worker.states
  statesByRuleId : after.statesByRuleId = worker.statesByRuleId
  stage : after.stage = worker.stage
  runs : after.runs = worker.runs
  length : after.made.length = worker.made.length
  made : ∀ (s : ℕ) (state : RuleState), worker.made[s]? = some state →
    ∃ state' : RuleState, after.made[s]? = some state' ∧ state'.rule = state.rule ∧
      (state.degraded = true → state'.degraded = true ∧ state'.degradedRun = state.degradedRun) ∧
    (state.degraded = false → state'.degraded = true → state'.degradedRun = worker.runs)
  subscribed : ∀ s : ℕ, s ∈ after.subscribed ↔ s ∈ worker.subscribed ∧
    ∀ state' : RuleState, after.made[s]? = some state' → state'.degraded = false
  nodup : worker.subscribed.Nodup → after.subscribed.Nodup

theorem Touched.stateAt (h : Touched worker after) (key : String) :
    after.stateAt key = worker.stateAt key := by
  unfold NotificationRuleWorker.stateAt
  rw [h.states]

theorem Touched.ruleAt (h : Touched worker after) (ruleId : String) :
    after.ruleAt ruleId = worker.ruleAt ruleId := by
  unfold NotificationRuleWorker.ruleAt
  rw [h.statesByRuleId]

variable {s i : ℕ} {f : RuleState → RuleState} {key : String} {state : RuleState}
  {rule : ActiveNotificationRule} {run run' : ReconcileRun} {rest : List ActiveNotificationRule}

theorem Touched.made_of_after (h : Touched worker after) {state' : RuleState}
    (hstate : after.made[s]? = some state') :
    ∃ state : RuleState, worker.made[s]? = some state ∧ state'.rule = state.rule ∧
      (state.degraded = true → state'.degraded = true ∧ state'.degradedRun = state.degradedRun) ∧
      (state.degraded = false → state'.degraded = true → state'.degradedRun = worker.runs) := by
  have hlt : s < worker.made.length := by
    rw [← h.length]
    exact (List.getElem?_eq_some_iff.mp hstate).1
  obtain ⟨other, hother, hrest⟩ := h.made s _ (List.getElem?_eq_getElem hlt)
  rw [hstate] at hother
  cases hother
  exact ⟨_, List.getElem?_eq_getElem hlt, hrest⟩

theorem Touched.consistent (h : Touched worker after) (hworker : worker.Consistent) :
    after.Consistent where
  ids s state' hstate := by
    obtain ⟨state, hold, hrule, -⟩ := h.made_of_after hstate
    rw [hrule]
    exact hworker.ids s state hold
  mapped key s hkey := by
    rw [h.stateAt] at hkey
    obtain ⟨state, hstate, hsame, hrule⟩ := hworker.mapped key s hkey
    obtain ⟨state', hstate', hrule', -⟩ := h.made s state hstate
    refine ⟨state', hstate', ?_, ?_⟩
    · rw [hrule', hsame]
    · rw [h.ruleAt, hrule', hrule]
  indexed ruleId key s hrule := by
    rw [h.ruleAt] at hrule
    obtain ⟨hkey, state, hstate, hid⟩ := hworker.indexed ruleId key s hrule
    obtain ⟨state', hstate', hrule', -⟩ := h.made s state hstate
    refine ⟨?_, state', hstate', ?_⟩
    · rw [h.stateAt, hkey]
    · rw [hrule', hid]
  live s := by
    rw [h.subscribed s, hworker.live s]
    constructor
    · rintro ⟨⟨state, hstate, -, hkey⟩, hkept⟩
      obtain ⟨state', hstate', hrule', -⟩ := h.made s state hstate
      refine ⟨state', hstate', hkept state' hstate', ?_⟩
      rw [h.stateAt, hrule', hkey]
    · rintro ⟨state', hstate', hdegraded, hkey⟩
      obtain ⟨state, hstate, hrule', hbefore, -⟩ := h.made_of_after hstate'
      rw [h.stateAt, hrule'] at hkey
      have hnot : state.degraded = false := by
        cases hbool : state.degraded with
        | false => rfl
        | true =>
          have htrue := (hbefore hbool).1
          rw [hdegraded] at htrue
          cases htrue
      refine ⟨⟨state, hstate, hnot, hkey⟩, ?_⟩
      intro other hother
      rw [hstate'] at hother
      cases hother
      exact hdegraded
  nodup := h.nodup hworker.nodup

theorem getElem?_modify :
    (worker.modify s f).made[i]? = if i = s then (worker.made[i]?).map f else worker.made[i]? := by
  unfold modify
  rw [List.getElem?_modify]
  by_cases h : i = s
  · simp [h]
  · simp [h, Ne.symm h]

theorem touched_modify (hrule : ∀ state, (f state).rule = state.rule)
    (hdegraded : ∀ state, (f state).degraded = state.degraded ∧
      (f state).degradedRun = state.degradedRun)
    (hworker : worker.Consistent) : Touched worker (worker.modify s f) where
  states := rfl
  statesByRuleId := rfl
  stage := rfl
  runs := rfl
  length := List.length_modify ..
  made i state hstate := by
    rw [getElem?_modify, hstate]
    split
    · refine ⟨_, rfl, hrule state, fun h => ?_, fun h h' => ?_⟩
      · exact ⟨(hdegraded state).1.trans h, (hdegraded state).2⟩
      · rw [(hdegraded state).1, h] at h'
        cases h'
    · refine ⟨_, rfl, rfl, fun h => ⟨h, rfl⟩, fun h h' => ?_⟩
      rw [h] at h'
      cases h'
  subscribed i := by
    constructor
    · intro hmem
      refine ⟨hmem, fun state' hstate' => ?_⟩
      obtain ⟨state, hstate, hnot, -⟩ := (hworker.live i).mp hmem
      rw [getElem?_modify, hstate] at hstate'
      split at hstate'
      · cases hstate'
        rw [(hdegraded state).1, hnot]
      · cases hstate'
        exact hnot
    · exact And.left
  nodup := id

theorem touched_degradeState (hworker : worker.Consistent)
    (hnot : ∀ state : RuleState, worker.made[s]? = some state → state.degraded = false) :
    Touched worker (worker.degradeState s) where
  states := rfl
  statesByRuleId := rfl
  stage := rfl
  runs := rfl
  length := List.length_modify ..
  made i state hstate := by
    change ∃ state' : RuleState, (worker.modify s _).made[i]? = some state' ∧ _
    rw [getElem?_modify, hstate]
    split
    · rename_i hsame
      subst hsame
      refine ⟨_, rfl, rfl, fun h => ?_, fun _ _ => rfl⟩
      rw [hnot state hstate] at h
      cases h
    · refine ⟨_, rfl, rfl, fun h => ⟨h, rfl⟩, fun h h' => ?_⟩
      rw [h] at h'
      cases h'
  subscribed i := by
    have hmade : (worker.degradeState s).made[i]? =
        if i = s then (worker.made[i]?).map fun state =>
          { state with degraded := true, degradedRun := worker.runs }
        else worker.made[i]? := getElem?_modify
    change i ∈ worker.subscribed.filter (fun other => other ≠ s) ↔ _
    rw [List.mem_filter, hmade]
    constructor
    · rintro ⟨hmem, hne⟩
      have hne : i ≠ s := by simpa using hne
      refine ⟨hmem, fun state' hstate' => ?_⟩
      obtain ⟨state, hstate, hkept, -⟩ := (hworker.live i).mp hmem
      rw [if_neg hne, hstate] at hstate'
      cases hstate'
      exact hkept
    · rintro ⟨hmem, hkept⟩
      refine ⟨hmem, ?_⟩
      obtain ⟨state, hstate, -⟩ := (hworker.live i).mp hmem
      have hne : i ≠ s := by
        rintro rfl
        rw [if_pos rfl, hstate] at hkept
        have hfalse := hkept _ rfl
        cases hfalse
      simpa using hne
  nodup h := h.filter _

theorem touched_refl (hworker : worker.Consistent) : Touched worker worker where
  states := rfl
  statesByRuleId := rfl
  stage := rfl
  runs := rfl
  length := rfl
  made s state hstate := by
    refine ⟨state, hstate, rfl, fun h => ⟨h, rfl⟩, fun h h' => ?_⟩
    rw [h] at h'
    cases h'
  subscribed s := by
    constructor
    · intro hmem
      refine ⟨hmem, fun state' hstate' => ?_⟩
      obtain ⟨state, hstate, hnot, -⟩ := (hworker.live s).mp hmem
      rw [hstate] at hstate'
      cases hstate'
      exact hnot
    · exact And.left
  nodup := id

theorem touched_enqueueUpdate (hworker : worker.Consistent) (s : ℕ) :
    Touched worker (worker.enqueueUpdate s) := by
  unfold enqueueUpdate
  split
  · exact touched_refl hworker
  · rename_i state hstate
    split
    · exact touched_refl hworker
    · rename_i hnot
      split
      · refine touched_degradeState hworker fun other hother => ?_
        rw [hstate] at hother
        cases hother
        simpa using hnot
      · exact touched_modify (fun _ => rfl) (fun _ => ⟨rfl, rfl⟩) hworker

/-! ### What a run changes -/

structure Erased (worker after : NotificationRuleWorker) (key : String) (ruleId : String)
    (s : ℕ) : Prop where
  made : after.made = worker.made
  stateAt : ∀ k, after.stateAt k = if k = key then none else worker.stateAt k
  ruleAt : ∀ id, after.ruleAt id = if id = ruleId then none else worker.ruleAt id
  subscribed : ∀ i, i ∈ after.subscribed ↔ i ∈ worker.subscribed ∧ i ≠ s
  nodup : worker.subscribed.Nodup → after.subscribed.Nodup

structure Entered (worker after : NotificationRuleWorker) (rule : ActiveNotificationRule) :
    Prop where
  made : ∃ state : RuleState, state.rule = rule ∧ state.degraded = false ∧
    ∀ i, after.made[i]? =
      if i = worker.made.length then some state else worker.made[i]?
  stateAt : ∀ k, after.stateAt k =
    if k = ruleKey rule then some worker.made.length else worker.stateAt k
  ruleAt : ∀ id, after.ruleAt id =
    if id = rule.ruleId then some (ruleKey rule, worker.made.length) else worker.ruleAt id
  subscribed : ∀ i, i ∈ after.subscribed ↔ i ∈ worker.subscribed ∨ i = worker.made.length
  nodup : worker.subscribed.Nodup → worker.made.length ∉ worker.subscribed →
    after.subscribed.Nodup

theorem Erased.consistent
    (hstate : worker.made[s]? = some state) (hkey : worker.stateAt key = some s)
    (h : Erased worker after key state.rule.ruleId s) (hworker : worker.Consistent) :
    after.Consistent := by
  obtain ⟨found, hfound, hruleKey, hrule⟩ := hworker.mapped key s hkey
  rw [hstate] at hfound
  cases hfound
  refine ⟨?_, ?_, ?_, ?_, h.nodup hworker.nodup⟩
  · intro i other hother
    rw [h.made] at hother
    exact hworker.ids i other hother
  · intro k i hk
    rw [h.stateAt] at hk
    split at hk
    · cases hk
    · rename_i hne
      obtain ⟨other, hother, hsame, hindex⟩ := hworker.mapped k i hk
      refine ⟨other, ?_, hsame, ?_⟩
      · rw [h.made, hother]
      · rw [h.ruleAt, if_neg, hindex]
        intro hid
        rw [hid, hrule] at hindex
        cases hindex
        exact hne rfl
  · intro id k i hid
    rw [h.ruleAt] at hid
    split at hid
    · cases hid
    · rename_i hne
      obtain ⟨hk, other, hother, hsame⟩ := hworker.indexed id k i hid
      refine ⟨?_, other, ?_, hsame⟩
      · rw [h.stateAt, if_neg, hk]
        rintro rfl
        rw [hkey] at hk
        cases hk
        rw [hstate] at hother
        cases hother
        exact hne hsame.symm
      · rw [h.made, hother]
  · intro i
    rw [h.subscribed, hworker.live]
    constructor
    · rintro ⟨⟨other, hother, hnot, hk⟩, hne⟩
      refine ⟨other, ?_, hnot, ?_⟩
      · rw [h.made, hother]
      · rw [h.stateAt, if_neg, hk]
        intro hsame
        rw [hsame, hkey] at hk
        cases hk
        exact hne rfl
    · rintro ⟨other, hother, hnot, hk⟩
      rw [h.made] at hother
      rw [h.stateAt] at hk
      split at hk
      · cases hk
      · rename_i hne
        refine ⟨⟨other, hother, hnot, hk⟩, ?_⟩
        rintro rfl
        rw [hstate] at hother
        cases hother
        exact hne hruleKey

theorem Entered.consistent (hid : ruleIdPattern.test rule.ruleId = true)
    (hkey : worker.stateAt (ruleKey rule) = none)
    (hindex : worker.ruleAt rule.ruleId = none) (h : Entered worker after rule)
    (hworker : worker.Consistent) : after.Consistent := by
  obtain ⟨state, hrule, hnot, hmade⟩ := h.made
  have hlt : ∀ {i : ℕ} {other : RuleState}, worker.made[i]? = some other →
      i ≠ worker.made.length := by
    rintro i other hother rfl
    rw [List.getElem?_eq_none le_rfl] at hother
    cases hother
  have hold : ∀ {i : ℕ} {other : RuleState}, worker.made[i]? = some other →
      after.made[i]? = some other := by
    intro i other hother
    rw [hmade, if_neg (hlt hother), hother]
  have hfresh : after.made[worker.made.length]? = some state := by
    rw [hmade, if_pos rfl]
  have hnotSubscribed : worker.made.length ∉ worker.subscribed := by
    intro hmem
    obtain ⟨other, hother, -⟩ := (hworker.live _).mp hmem
    exact hlt hother rfl
  refine ⟨?_, ?_, ?_, ?_, h.nodup hworker.nodup hnotSubscribed⟩
  · intro i other hother
    rw [hmade] at hother
    split at hother
    · cases hother
      rw [hrule]
      exact hid
    · exact hworker.ids i other hother
  · intro k i hk
    rw [h.stateAt] at hk
    split at hk
    · rename_i hsame
      cases hk
      refine ⟨state, hfresh, ?_, ?_⟩
      · rw [hrule, hsame]
      · rw [h.ruleAt, hrule, if_pos rfl, hsame]
    · obtain ⟨other, hother, hsame, hold'⟩ := hworker.mapped k i hk
      refine ⟨other, hold hother, hsame, ?_⟩
      rw [h.ruleAt, if_neg, hold']
      intro hid'
      rw [hid', hindex] at hold'
      cases hold'
  · intro id k i hk
    rw [h.ruleAt] at hk
    split at hk
    · rename_i hsame
      cases hk
      refine ⟨?_, state, hfresh, ?_⟩
      · rw [h.stateAt, if_pos rfl]
      · rw [hrule, hsame]
    · obtain ⟨hk', other, hother, hsame⟩ := hworker.indexed id k i hk
      refine ⟨?_, other, hold hother, hsame⟩
      rw [h.stateAt, if_neg, hk']
      rintro rfl
      rw [hkey] at hk'
      cases hk'
  · intro i
    rw [h.subscribed, hworker.live]
    constructor
    · rintro (⟨other, hother, hnot', hk⟩ | rfl)
      · refine ⟨other, hold hother, hnot', ?_⟩
        rw [h.stateAt, if_neg, hk]
        intro hsame
        rw [hsame, hkey] at hk
        cases hk
      · refine ⟨state, hfresh, hnot, ?_⟩
        rw [h.stateAt, hrule, if_pos rfl]
    · rintro ⟨other, hother, hnot', hk⟩
      rw [hmade] at hother
      split at hother
      · exact .inr ‹_›
      · rename_i hne
        refine .inl ⟨other, hother, hnot', ?_⟩
        rw [h.stateAt] at hk
        split at hk
        · cases hk
          exact absurd rfl hne
        · exact hk

theorem stateAt_forgetKey (key k : String) :
    (worker.forgetKey key).stateAt k = if k = key then none else worker.stateAt k := by
  unfold forgetKey stateAt
  dsimp only
  rw [Keyed.find?_delete]
  cases hfound : worker.states.find? k with
  | none => simp
  | some entry =>
    obtain ⟨name, s⟩ := entry
    obtain rfl : name = k := Keyed.key_of_find? hfound
    by_cases hsame : name = key
    · simp [hsame]
    · simp [hsame]

theorem ruleAt_delete (id ruleId : String) :
    ((worker.statesByRuleId.delete fun entry => entry.1 == ruleId).find? id).map Prod.snd =
      if id = ruleId then none else worker.ruleAt id := by
  rw [Keyed.find?_delete]
  unfold ruleAt
  cases hfound : worker.statesByRuleId.find? id with
  | none => simp
  | some entry =>
    obtain ⟨name, indexed⟩ := entry
    obtain rfl : name = id := Keyed.key_of_find? hfound
    by_cases hsame : name = ruleId
    · simp [hsame]
    · simp [hsame]

theorem stateAt_put (key k : String) (s : ℕ) :
    ((worker.states.put (key, s)).find? k).map Prod.snd =
      if k = key then some s else worker.stateAt k := by
  rw [Keyed.find?_put]
  by_cases hsame : key = k
  · simp [hsame]
  · rw [if_neg hsame, if_neg (Ne.symm hsame)]
    rfl

theorem ruleAt_put (ruleId id key : String) (s : ℕ) :
    ((worker.statesByRuleId.put (ruleId, key, s)).find? id).map Prod.snd =
      if id = ruleId then some (key, s) else worker.ruleAt id := by
  rw [Keyed.find?_put]
  by_cases hsame : ruleId = id
  · simp [hsame]
  · rw [if_neg hsame, if_neg (Ne.symm hsame)]
    rfl

theorem mem_unsubscribe :
    i ∈ (worker.unsubscribe s).subscribed ↔ i ∈ worker.subscribed ∧ i ≠ s := by
  simp [unsubscribe]

theorem erased_removeEntry (hstate : worker.made[s]? = some state) :
    Erased worker (worker.removeEntry (key, s)) key state.rule.ruleId s where
  made := rfl
  stateAt := stateAt_forgetKey key
  ruleAt id := by
    have hsame : (worker.removeEntry (key, s)).statesByRuleId =
        worker.statesByRuleId.delete fun other => other.1 == state.rule.ruleId := by
      simp [removeEntry, unsubscribe, hstate]
    unfold NotificationRuleWorker.ruleAt
    rw [hsame, ruleAt_delete]
    rfl
  subscribed i := mem_unsubscribe
  nodup h := h.filter _

theorem erased_forget {ruleId : String}
    (hindex : worker.ruleAt ruleId = some (key, s)) (hnot : s ∉ worker.subscribed) :
    Erased worker ((worker.forgetKey key).forgetRule ruleId s) key ruleId s where
  made := rfl
  stateAt := stateAt_forgetKey key
  ruleAt id := by
    have hfound : worker.statesByRuleId.find? ruleId = some (ruleId, key, s) :=
      Keyed.find?_of_mem (ruleAt_eq_some.mp hindex)
    have hsame : ((worker.forgetKey key).forgetRule ruleId s).statesByRuleId =
        worker.statesByRuleId.delete fun entry => entry.1 == ruleId := by
      simp [forgetRule, forgetKey, hfound]
    unfold NotificationRuleWorker.ruleAt
    rw [hsame, ruleAt_delete]
    rfl
  subscribed i := by
    constructor
    · intro hmem
      refine ⟨hmem, ?_⟩
      rintro rfl
      exact hnot hmem
    · exact And.left
  nodup := id

theorem made_subscribe (rule : ActiveNotificationRule) (baseline : Bool) :
    ∃ state : RuleState, state.rule = rule ∧ state.degraded = false ∧
      ∀ i, (worker.subscribe rule baseline).made[i]? =
        if i = worker.made.length then some state else worker.made[i]? := by
  have happend : ∀ i, (worker.made ++ [⟨rule, 0, false, 0, false⟩])[i]? =
      if i = worker.made.length then some ⟨rule, 0, false, 0, false⟩
      else worker.made[i]? := by
    intro i
    by_cases hlt : i < worker.made.length
    · rw [List.getElem?_append_left hlt, if_neg hlt.ne]
    · by_cases hsame : i = worker.made.length
      · simp [hsame]
      · rw [if_neg hsame, List.getElem?_eq_none (by simp; omega),
          List.getElem?_eq_none (by omega)]
  cases baseline with
  | false => exact ⟨_, rfl, rfl, happend⟩
  | true =>
    refine ⟨⟨rule, 1, false, 0, false⟩, rfl, rfl, fun i => ?_⟩
    have hfound : ({ worker with
        made := worker.made ++ [⟨rule, 0, false, 0, false⟩]
        subscribed := worker.subscribed ++ [worker.made.length] } :
        NotificationRuleWorker).made[worker.made.length]? =
          some ⟨rule, 0, false, 0, false⟩ := by
      rw [happend, if_pos rfl]
    have hroom : ¬ worker.maxPendingUpdates ≤ 0 := by
      have hcapacity := worker.capacity.1
      omega
    simp only [subscribe, if_true, enqueueUpdate, hfound, Bool.false_eq_true, if_false, hroom]
    rw [getElem?_modify, happend]
    split <;> rfl

theorem subscribe_rest (rule : ActiveNotificationRule) (baseline : Bool) :
    (worker.subscribe rule baseline).states = worker.states ∧
      (worker.subscribe rule baseline).statesByRuleId = worker.statesByRuleId ∧
      (worker.subscribe rule baseline).runs = worker.runs ∧
      (worker.subscribe rule baseline).subscribed = worker.subscribed ++ [worker.made.length] := by
  have hfound : ({ worker with
      made := worker.made ++ [⟨rule, 0, false, 0, false⟩]
      subscribed := worker.subscribed ++ [worker.made.length] } :
      NotificationRuleWorker).made[worker.made.length]? =
        some ⟨rule, 0, false, 0, false⟩ := by
    simp
  have hroom : ¬ worker.maxPendingUpdates ≤ 0 := by
    have hcapacity := worker.capacity.1
    omega
  cases baseline with
  | false => exact ⟨rfl, rfl, rfl, rfl⟩
  | true =>
    simp only [subscribe, if_true, enqueueUpdate, hfound, Bool.false_eq_true, if_false, hroom]
    exact ⟨rfl, rfl, rfl, rfl⟩

theorem nodup_append_singleton {l : List ℕ} (h : l.Nodup) (hs : s ∉ l) : (l ++ [s]).Nodup := by
  refine List.nodup_append.mpr ⟨h, List.nodup_singleton s, ?_⟩
  intro a ha b hb hsame
  rw [List.mem_singleton.mp hb] at hsame
  rw [hsame] at ha
  exact hs ha

theorem entered_of_none (baseline : Bool) (hindex : worker.ruleAt rule.ruleId = none) :
    ((worker.subscribe rule baseline).enter rule worker.made.length).2 = false ∧
      Entered worker ((worker.subscribe rule baseline).enter rule worker.made.length).1 rule := by
  obtain ⟨hstates, hrules, -, hsubscribed⟩ := worker.subscribe_rest rule baseline
  have hnone : (worker.subscribe rule baseline).statesByRuleId.find? rule.ruleId = none := by
    rw [hrules]
    exact Option.map_eq_none_iff.mp hindex
  unfold enter
  rw [hnone]
  refine ⟨rfl, made_subscribe rule baseline, fun k => ?_, fun id => ?_, fun i => ?_, ?_⟩
  · unfold stateAt
    dsimp only
    rw [hstates, stateAt_put]
    rfl
  · unfold ruleAt
    dsimp only
    rw [hrules, ruleAt_put]
    rfl
  · dsimp only
    rw [hsubscribed, List.mem_append, List.mem_singleton]
  · intro hnodup hnot
    dsimp only
    rw [hsubscribed]
    exact nodup_append_singleton hnodup hnot

def withoutFormer (worker : NotificationRuleWorker) (ruleId former : String)
    (previous : ℕ) : NotificationRuleWorker :=
  { worker with
    states := worker.states.delete fun entry => entry.1 == former
    statesByRuleId := worker.statesByRuleId.delete fun entry => entry.1 == ruleId
    subscribed := worker.subscribed.filter fun other => other ≠ previous }

theorem erased_withoutFormer (ruleId former : String) (previous : ℕ) :
    Erased worker (worker.withoutFormer ruleId former previous) former ruleId previous where
  made := rfl
  stateAt := stateAt_forgetKey former
  ruleAt id := ruleAt_delete id ruleId
  subscribed _ := mem_unsubscribe
  nodup h := h.filter _

theorem entered_of_some {former : String} {previous : ℕ}
    (baseline : Bool) (hindex : worker.ruleAt rule.ruleId = some (former, previous))
    (hne : former ≠ ruleKey rule) (hprevious : previous ≠ worker.made.length) :
    ((worker.subscribe rule baseline).enter rule worker.made.length).2 = true ∧
      Entered (worker.withoutFormer rule.ruleId former previous)
        ((worker.subscribe rule baseline).enter rule worker.made.length).1 rule := by
  obtain ⟨hstates, hrules, -, hsubscribed⟩ := worker.subscribe_rest rule baseline
  have hfound : (worker.subscribe rule baseline).statesByRuleId.find? rule.ruleId =
      some (rule.ruleId, former, previous) := by
    rw [hrules]
    exact Keyed.find?_of_mem (ruleAt_eq_some.mp hindex)
  unfold enter
  rw [hfound]
  dsimp only
  rw [if_neg hne]
  refine ⟨rfl, made_subscribe rule baseline, fun k => ?_, fun id => ?_, fun i => ?_, ?_⟩
  · have herased := (worker.erased_withoutFormer rule.ruleId former previous).stateAt k
    rw [herased]
    change NotificationRuleWorker.stateAt (forgetKey _ former) k = _
    rw [stateAt_forgetKey]
    unfold stateAt
    dsimp only
    rw [hstates, stateAt_put]
    by_cases hformer : k = former
    · rw [if_pos hformer, if_pos hformer, if_neg]
      rw [hformer]
      exact hne
    · rw [if_neg hformer, if_neg hformer]
      rfl
  · have herased := (worker.erased_withoutFormer rule.ruleId former previous).ruleAt id
    rw [herased]
    change (((worker.subscribe rule baseline).statesByRuleId.put _).find? id).map Prod.snd = _
    rw [hrules, ruleAt_put]
    by_cases hid : id = rule.ruleId
    · rw [if_pos hid, if_pos hid]
      rfl
    · rw [if_neg hid, if_neg hid, if_neg hid]
  · change i ∈ (worker.subscribe rule baseline).subscribed.filter _ ↔
      i ∈ worker.subscribed.filter _ ∨ i = worker.made.length
    rw [hsubscribed, List.filter_append, List.mem_append]
    simp [Ne.symm hprevious]
  · intro hnodup hnot
    change ((worker.subscribe rule baseline).subscribed.filter _).Nodup
    rw [hsubscribed, List.filter_append, List.filter_singleton]
    simpa [Ne.symm hprevious, withoutFormer] using nodup_append_singleton hnodup hnot

/-! ### One rule of a run -/

/-- What a run has done for a rule: it refused it or passed over it, or the rule has a
state under its identity that was not degraded before the run. -/
def Settled (worker : NotificationRuleWorker) (run : ReconcileRun)
    (rule : ActiveNotificationRule) : Prop :=
  rule.ruleId ∈ run.refused ∨ rule.ruleId ∈ run.skipped ∨
    ∃ (s : ℕ) (state : RuleState), worker.stateAt (ruleKey rule) = some s ∧
      worker.made[s]? = some state ∧
      (state.degraded = true → state.degradedRun = worker.runs)

structure Advanced (worker : NotificationRuleWorker) (run : ReconcileRun)
    (rule : ActiveNotificationRule) (after : NotificationRuleWorker)
    (run' : ReconcileRun) : Prop where
  consistent : after.Consistent
  rules : run'.rules = run.rules
  complete : run'.complete = run.complete
  settled : Settled after run' rule
  others : ∀ other : ActiveNotificationRule, ruleIdPattern.test other.ruleId = true →
    other.ruleId ≠ rule.ruleId → Settled worker run other → Settled after run' other
  members : ∀ (key : String) (s : ℕ) (state : RuleState), after.stateAt key = some s →
    after.made[s]? = some state → state.rule.ruleId = rule.ruleId ∨
      (worker.stateAt key = some s ∧ worker.made[s]? = some state)
  runs : after.runs = worker.runs

theorem Settled.mono (hruns : after.runs = worker.runs) (hrefused : run.refused ⊆ run'.refused)
    (hskipped : run.skipped ⊆ run'.skipped)
    (hkept : ∀ (s : ℕ) (state : RuleState), worker.stateAt (ruleKey rule) = some s →
      worker.made[s]? = some state → after.stateAt (ruleKey rule) = some s ∧
        after.made[s]? = some state) (h : Settled worker run rule) : Settled after run' rule := by
  rcases h with h | h | ⟨s, state, hkey, hstate, hrun⟩
  · exact .inl (hrefused h)
  · exact .inr (.inl (hskipped h))
  · obtain ⟨hkey', hstate'⟩ := hkept s state hkey hstate
    exact .inr (.inr ⟨s, state, hkey', hstate', fun h => (hrun h).trans hruns.symm⟩)

theorem Consistent.key_ne (hworker : worker.Consistent) {other : ActiveNotificationRule}
    (hother : ruleIdPattern.test other.ruleId = true) (hne : other.ruleId ≠ rule.ruleId)
    (hstate : worker.made[s]? = some state)
    (hsame : state.rule.ruleId = rule.ruleId) : ruleKey other ≠ ruleKey state.rule := by
  intro hkey
  have hid := (ruleKey_injective hother (hworker.ids s state hstate) hkey).1
  exact hne (hid.trans hsame)

theorem subscribeRule_advanced (run : ReconcileRun)
    (attempt : SubscribeAttempt) (hworker : worker.Consistent)
    (hid : ruleIdPattern.test rule.ruleId = true) (hkey : worker.stateAt (ruleKey rule) = none) :
    Advanced worker run rule (worker.subscribeRule run attempt rule).1
      (worker.subscribeRule run attempt rule).2.1 := by
  have hrefuse : Advanced worker run rule worker
      { run with refused := run.refused ++ [rule.ruleId] } :=
    { consistent := hworker
      rules := rfl
      complete := rfl
      settled := .inl (List.mem_append_right _ (List.mem_singleton_self _))
      others := fun other _ _ h => h.mono (by rfl) (List.subset_append_left _ _)
        (List.Subset.refl _) fun s state hkey hstate => ⟨hkey, hstate⟩
      members := fun key s state hkey hstate => .inr ⟨hkey, hstate⟩
      runs := rfl }
  unfold subscribeRule
  split
  · rename_i target baseline htarget
    have hruns : ((worker.subscribe rule baseline).enter rule worker.made.length).1.runs =
        worker.runs := by
      rw [← (worker.subscribe_rest rule baseline).2.2.1]
      unfold enter
      split
      · dsimp only
        split <;> rfl
      · rfl
    -- The new state settles its rule; every other entry stays, if its rule is another.
    have hentered : ∀ before : NotificationRuleWorker, before.Consistent →
        before.made = worker.made → before.stateAt (ruleKey rule) = none →
        before.ruleAt rule.ruleId = none →
        (∀ (key : String) (s : ℕ), before.stateAt key = some s → worker.stateAt key = some s) →
        (∀ (other : ActiveNotificationRule) (s : ℕ),
          ruleIdPattern.test other.ruleId = true → other.ruleId ≠ rule.ruleId →
          worker.stateAt (ruleKey other) = some s → before.stateAt (ruleKey other) = some s) →
        Entered before ((worker.subscribe rule baseline).enter rule worker.made.length).1
          rule →
        Advanced worker run rule
          ((worker.subscribe rule baseline).enter rule worker.made.length).1 run := by
      intro before hbefore hmade hnoKey hnoRule hback hforth h
      obtain ⟨state, hrule, hnot, hlookup⟩ := h.made
      have hlength : before.made.length = worker.made.length := by rw [hmade]
      refine
        { consistent := h.consistent hid hnoKey hnoRule hbefore
          rules := rfl
          complete := rfl
          settled := ?_
          others := ?_
          members := ?_
          runs := hruns }
      · refine .inr (.inr ⟨before.made.length, state, ?_, ?_, fun hdegraded => ?_⟩)
        · rw [h.stateAt, if_pos rfl]
        · rw [hlookup, if_pos rfl]
        · rw [hnot] at hdegraded
          cases hdegraded
      · intro other hother hne hsettled
        refine hsettled.mono hruns (List.Subset.refl _) (List.Subset.refl _) ?_
        intro s found hfound hstate
        constructor
        · rw [h.stateAt, if_neg, hforth other s hother hne hfound]
          intro hsame
          exact hne (ruleKey_injective hother hid hsame).1
        · rw [hlookup, if_neg, hmade, hstate]
          rintro rfl
          rw [hlength, List.getElem?_eq_none le_rfl] at hstate
          cases hstate
      · intro key s found hfound hstate
        rw [h.stateAt] at hfound
        rw [hlookup] at hstate
        split at hfound
        · cases hfound
          rw [if_pos rfl] at hstate
          cases hstate
          exact .inl (congrArg _ hrule)
        · obtain ⟨old, hold, -⟩ := hbefore.mapped key s hfound
          have hlt : s ≠ before.made.length := by
            rintro rfl
            rw [List.getElem?_eq_none le_rfl] at hold
            cases hold
          rw [if_neg hlt, hmade] at hstate
          exact .inr ⟨hback key s hfound, hstate⟩
    cases hindex : worker.ruleAt rule.ruleId with
    | none =>
      obtain ⟨-, hresult⟩ := entered_of_none baseline hindex
      exact hentered worker hworker rfl hkey hindex (fun _ _ h => h)
        (fun _ _ _ _ h => h) hresult
    | some entry =>
      obtain ⟨former, previous⟩ := entry
      obtain ⟨hformer, state, hstate, hsame⟩ :=
        hworker.indexed rule.ruleId former previous hindex
      obtain ⟨found, hfound, hformerKey, -⟩ := hworker.mapped former previous hformer
      rw [hstate] at hfound
      cases hfound
      have hne : former ≠ ruleKey rule := by
        rintro rfl
        rw [hkey] at hformer
        cases hformer
      have hprevious : previous ≠ worker.made.length := by
        rintro rfl
        rw [List.getElem?_eq_none le_rfl] at hstate
        cases hstate
      obtain ⟨-, hresult⟩ := entered_of_some baseline hindex hne hprevious
      have herased : Erased worker (worker.withoutFormer rule.ruleId former previous)
          former state.rule.ruleId previous := by
        rw [hsame]
        exact erased_withoutFormer _ _ _
      refine hentered _ (herased.consistent hstate hformer hworker) rfl ?_ ?_ ?_ ?_ hresult
      · rw [herased.stateAt, if_neg (Ne.symm hne), hkey]
      · rw [herased.ruleAt, if_pos hsame.symm]
      · intro key s hfound
        rw [herased.stateAt] at hfound
        split at hfound
        · cases hfound
        · exact hfound
      · intro other s hother hneOther hfound
        rw [herased.stateAt, if_neg, hfound]
        rw [← hformerKey]
        exact hworker.key_ne hother hneOther hstate hsame
  · exact hrefuse

theorem reconcileRule_advanced (run : ReconcileRun)
    (attempt : SubscribeAttempt) (hworker : worker.Consistent)
    (hid : ruleIdPattern.test rule.ruleId = true) :
    Advanced worker run rule (worker.reconcileRule run attempt rule).1
      (worker.reconcileRule run attempt rule).2.1 := by
  unfold reconcileRule
  split
  · rename_i hnone
    exact subscribeRule_advanced run attempt hworker hid (Option.map_eq_none_iff.mpr hnone)
  · rename_i key s hfound
    have hkey : worker.stateAt (ruleKey rule) = some s := by
      unfold stateAt
      rw [hfound]
      rfl
    obtain ⟨state, hstate, hsame, hindex⟩ := hworker.mapped _ s hkey
    obtain ⟨hruleId, -⟩ := ruleKey_injective (hworker.ids s state hstate) hid hsame
    rw [hstate]
    dsimp only
    split
    · rename_i hnot
      exact
        { consistent := hworker
          rules := rfl
          complete := rfl
          settled := .inr (.inr ⟨s, state, hkey, hstate, fun h => by
            rw [hnot] at h
            cases h⟩)
          others := fun _ _ _ h => h
          members := fun _ _ _ hkey hstate => .inr ⟨hkey, hstate⟩
          runs := rfl }
    · rename_i hdegraded
      split
      · have hkept : ∀ other : ActiveNotificationRule, Settled worker run other →
            Settled worker { run with skipped := run.skipped ++ [rule.ruleId] } other := by
          intro other h
          exact h.mono (by rfl) (List.Subset.refl run.refused)
            (List.subset_append_left run.skipped _) fun s state hkey hstate => ⟨hkey, hstate⟩
        exact
          { consistent := hworker
            rules := rfl
            complete := rfl
            settled := .inr (.inl (List.mem_append_right _ (List.mem_singleton_self _)))
            others := fun other _ _ h => hkept other h
            members := fun _ _ _ hkey hstate => .inr ⟨hkey, hstate⟩
            runs := rfl }
      · have hnotSubscribed : s ∉ worker.subscribed := by
          intro hmem
          obtain ⟨other, hother, hlive, -⟩ := (hworker.live s).mp hmem
          rw [hstate] at hother
          cases hother
          exact hdegraded hlive
        rw [hruleId] at hindex
        have herased : Erased worker
            ((worker.forgetKey (ruleKey rule)).forgetRule rule.ruleId s) (ruleKey rule)
            state.rule.ruleId s := by
          rw [hruleId]
          exact erased_forget hindex hnotSubscribed
        have hforgotten := herased.consistent hstate hkey hworker
        have hnone : ((worker.forgetKey (ruleKey rule)).forgetRule rule.ruleId s).stateAt
            (ruleKey rule) = none := by
          rw [herased.stateAt, if_pos rfl]
        have hadvanced := subscribeRule_advanced run attempt hforgotten hid hnone
        refine
          { consistent := hadvanced.consistent
            rules := hadvanced.rules
            complete := hadvanced.complete
            settled := hadvanced.settled
            others := fun other hother hne hsettled => ?_
            members := fun key i found hfound hmade => ?_
            runs := hadvanced.runs }
        · refine hadvanced.others other hother hne (hsettled.mono (by rfl)
            (List.Subset.refl _) (List.Subset.refl _) ?_)
          intro i found hfound hmade
          constructor
          · rw [herased.stateAt, if_neg, hfound]
            intro hsameKey
            exact hne (ruleKey_injective hother hid hsameKey).1
          · exact hmade
        · rcases hadvanced.members key i found hfound hmade with hrule | ⟨hold, hmade'⟩
          · exact .inl hrule
          · rw [herased.stateAt] at hold
            split at hold
            · cases hold
            · exact .inr ⟨hold, hmade'⟩

/-! ### What is left of a run -/

structure Listed (rules : List ActiveNotificationRule) : Prop where
  ids : ∀ rule ∈ rules, ruleIdPattern.test rule.ruleId = true
  ordered : rules.Pairwise fun a b => a.ruleId < b.ruleId

def Covered (worker : NotificationRuleWorker) (run : ReconcileRun) : Prop :=
  run.complete = true → ∀ (key : String) (s : ℕ) (state : RuleState),
    worker.stateAt key = some s → worker.made[s]? = some state →
      ∃ rule ∈ run.rules, rule.ruleId = state.rule.ruleId

structure Subscribing (worker : NotificationRuleWorker) (run : ReconcileRun)
    (rest : List ActiveNotificationRule) : Prop where
  listed : Listed run.rules
  covered : Covered worker run
  settled : ∃ done, run.rules = done ++ rest ∧ ∀ rule ∈ done, Settled worker run rule

/-- Before an entry is looked at, a state is of an active rule or still to be looked at. -/
structure Removing (worker : NotificationRuleWorker) (run : ReconcileRun)
    (rest : List (String × ℕ)) : Prop where
  listed : Listed run.rules
  keys : (rest.map Prod.fst).Nodup
  mapped : ∀ entry ∈ rest, worker.stateAt entry.1 = some entry.2
  kept : ∀ (key : String) (s : ℕ) (state : RuleState), worker.stateAt key = some s →
    worker.made[s]? = some state →
      (∃ rule ∈ run.rules, rule.ruleId = state.rule.ruleId) ∨ (key, s) ∈ rest

def Progress (worker : NotificationRuleWorker) : Prop :=
  match worker.stage with
  | .idle => True
  | .listing rules afterRuleId _ =>
    Listed rules ∧ ∀ rule ∈ rules, rule.ruleId ≤ afterRuleId
  | .removing run rest => Removing worker run rest
  | .subscribing run rest => Subscribing worker run rest
  | .reconciling run => Subscribing worker run []

theorem Touched.settled {run : ReconcileRun} {rule : ActiveNotificationRule}
    (h : Touched worker after) (hsettled : Settled worker run rule) : Settled after run rule := by
  rcases hsettled with hrefused | hskipped | ⟨s, state, hkey, hstate, hrun⟩
  · exact .inl hrefused
  · exact .inr (.inl hskipped)
  · obtain ⟨state', hstate', -, hbefore, hnow⟩ := h.made s state hstate
    refine .inr (.inr ⟨s, state', ?_, hstate', fun hdegraded => ?_⟩)
    · rw [h.stateAt, hkey]
    · rw [h.runs]
      cases hold : state.degraded with
      | false => exact hnow hold hdegraded
      | true => rw [(hbefore hold).2, hrun hold]

theorem Touched.subscribing (h : Touched worker after) (hworker : Subscribing worker run rest) :
    Subscribing after run rest where
  listed := hworker.listed
  covered hcomplete key s state' hkey hstate' := by
    obtain ⟨state, hstate, hrule, -⟩ := h.made_of_after hstate'
    rw [h.stateAt] at hkey
    rw [hrule]
    exact hworker.covered hcomplete key s state hkey hstate
  settled := by
    obtain ⟨done, hrules, hdone⟩ := hworker.settled
    exact ⟨done, hrules, fun rule hrule => h.settled (hdone rule hrule)⟩

theorem Touched.removing {rest : List (String × ℕ)}
    (h : Touched worker after) (hworker : Removing worker run rest) :
    Removing after run rest where
  listed := hworker.listed
  keys := hworker.keys
  mapped entry hentry := by
    rw [h.stateAt]
    exact hworker.mapped entry hentry
  kept key s state' hkey hstate' := by
    obtain ⟨state, hstate, hrule, -⟩ := h.made_of_after hstate'
    rw [h.stateAt] at hkey
    rw [hrule]
    exact hworker.kept key s state hkey hstate

theorem Touched.progress (h : Touched worker after) (hworker : worker.Progress) :
    after.Progress := by
  unfold Progress at hworker ⊢
  rw [h.stage]
  split at hworker
  · trivial
  · exact hworker
  · exact h.removing hworker
  · exact h.subscribing hworker
  · exact h.subscribing hworker

theorem Consistent.setStage (h : worker.Consistent) (stage : ReconcileRulesStage) :
    { worker with stage := stage }.Consistent :=
  ⟨h.ids, h.mapped, h.indexed, h.live, h.nodup⟩

theorem Advanced.subscribing (h : Advanced worker run rule after run')
    (hworker : Subscribing worker run (rule :: rest)) : Subscribing after run' rest := by
  obtain ⟨done, hrules, hdone⟩ := hworker.settled
  have hmem : rule ∈ run.rules := by
    rw [hrules]
    exact List.mem_append_right _ List.mem_cons_self
  refine ⟨?_, ?_, done ++ [rule], ?_, ?_⟩
  · rw [h.rules]
    exact hworker.listed
  · intro hcomplete key s state hkey hstate
    rw [h.complete] at hcomplete
    rw [h.rules]
    rcases h.members key s state hkey hstate with hsame | ⟨hkey, hstate⟩
    · exact ⟨rule, hmem, hsame.symm⟩
    · exact hworker.covered hcomplete key s state hkey hstate
  · rw [h.rules, hrules, List.append_assoc, List.singleton_append]
  · intro other hother
    rcases List.mem_append.mp hother with hother | hother
    · have hbefore : other.ruleId < rule.ruleId := by
        have hordered := hworker.listed.ordered
        rw [hrules] at hordered
        exact (List.pairwise_append.mp hordered).2.2 other hother rule List.mem_cons_self
      have hid : ruleIdPattern.test other.ruleId = true := by
        apply hworker.listed.ids
        rw [hrules]
        exact List.mem_append_left _ hother
      exact h.others other hid hbefore.ne (hdone other hother)
    · rw [List.mem_singleton.mp hother]
      exact h.settled

theorem subscribeRules_progress (attempts : String → SubscribeAttempt)
    (rest : List ActiveNotificationRule) (hworker : worker.Consistent)
    (h : Subscribing worker run rest) :
    (subscribeRules attempts worker run rest).Consistent ∧
      (subscribeRules attempts worker run rest).Progress := by
  induction rest generalizing worker run with
  | nil => exact ⟨hworker.setStage _, h.listed, h.covered, h.settled⟩
  | cons rule rest ih =>
    have hid : ruleIdPattern.test rule.ruleId = true := by
      obtain ⟨done, hrules, -⟩ := h.settled
      apply h.listed.ids
      rw [hrules]
      exact List.mem_append_right _ List.mem_cons_self
    have hadvanced := reconcileRule_advanced run (attempts rule.ruleId) hworker hid
    unfold subscribeRules
    split
    · rename_i next run' hresult
      rw [hresult] at hadvanced
      have hnext := hadvanced.subscribing h
      exact ⟨hadvanced.consistent.setStage _, hnext.listed, hnext.covered, hnext.settled⟩
    · rename_i next run' hresult
      rw [hresult] at hadvanced
      exact ih hadvanced.consistent (hadvanced.subscribing h)

theorem isActive_iff (hworker : worker.Consistent) (hlisted : Listed run.rules)
    (hkey : worker.stateAt key = some s) (hstate : worker.made[s]? = some state) :
    worker.isActive run (key, s) = true ↔
      ∃ rule ∈ run.rules, rule.ruleId = state.rule.ruleId := by
  obtain ⟨found, hfound, hsame, -⟩ := hworker.mapped key s hkey
  rw [hstate] at hfound
  cases hfound
  unfold isActive
  dsimp only
  rw [hstate, Bool.or_eq_true, List.contains_iff_mem, Option.any_some,
    List.contains_iff_mem, List.mem_map, List.mem_map]
  constructor
  · rintro (⟨rule, hrule, hkey'⟩ | hactive)
    · refine ⟨rule, hrule, ?_⟩
      exact (ruleKey_injective (hlisted.ids rule hrule) (hworker.ids s state hstate)
        (hkey'.trans hsame.symm)).1
    · exact hactive
  · exact .inr

theorem removeEntries_progress (attempts : String → SubscribeAttempt)
    (rest : List (String × ℕ)) (hworker : worker.Consistent) (h : Removing worker run rest) :
    (removeEntries attempts worker run rest).Consistent ∧
      (removeEntries attempts worker run rest).Progress := by
  induction rest with
  | nil =>
    refine subscribeRules_progress attempts run.rules hworker ⟨h.listed, ?_, [], rfl, ?_⟩
    · intro _ key s state hkey hstate
      rcases h.kept key s state hkey hstate with hactive | hmem
      · exact hactive
      · cases hmem
    · intro rule hrule
      cases hrule
  | cons entry rest ih =>
    obtain ⟨key, s⟩ := entry
    have hkey : worker.stateAt key = some s := h.mapped (key, s) List.mem_cons_self
    obtain ⟨state, hstate, hsame, -⟩ := hworker.mapped key s hkey
    have hactive := isActive_iff hworker h.listed hkey hstate
    have hnodup := List.nodup_cons.mp h.keys
    unfold removeEntries
    split
    · rename_i hbool
      apply ih
      refine ⟨h.listed, hnodup.2, fun entry hentry => ?_, fun k i other hk hother => ?_⟩
      · exact h.mapped entry (List.mem_cons_of_mem _ hentry)
      · rcases h.kept k i other hk hother with hrule | hmem
        · exact .inl hrule
        · rcases List.mem_cons.mp hmem with heq | hmem
          · cases heq
            rw [hstate] at hother
            cases hother
            exact .inl (hactive.mp hbool)
          · exact .inr hmem
    · have herased : Erased worker (worker.removeEntry (key, s)) key state.rule.ruleId s :=
        worker.erased_removeEntry hstate
      refine ⟨(herased.consistent hstate hkey hworker).setStage _, h.listed, hnodup.2, ?_, ?_⟩
      · intro entry hentry
        change (worker.removeEntry (key, s)).stateAt entry.1 = some entry.2
        rw [herased.stateAt, if_neg, h.mapped entry (List.mem_cons_of_mem _ hentry)]
        intro hsameKey
        apply hnodup.1
        rw [← hsameKey]
        exact List.mem_map.mpr ⟨entry, hentry, rfl⟩
      · intro k i other hk hother
        have hk : (worker.removeEntry (key, s)).stateAt k = some i := hk
        rw [herased.stateAt] at hk
        split at hk
        · cases hk
        · rename_i hne
          rcases h.kept k i other hk hother with hrule | hmem
          · exact .inl hrule
          · rcases List.mem_cons.mp hmem with heq | hmem
            · cases heq
              exact absurd rfl hne
            · exact .inr hmem

end

end NotificationRuleWorker

end HyperTrader
