import HyperTrader.Library.Processes
import HyperTrader.Notifications.Admission

/-!
# The limits of the admission

A request that has counted holds the locks of its actors until its transaction is over,
so that no other one of theirs commits in between: the count stays what it was, and the
event that the request inserts finds room in every interval that it falls into. A count
that is read from a snapshot says this only where the snapshot is not behind.
-/

namespace HyperTrader

open Library

namespace Admission

/-- The keys that a transaction has not locked: none of them once it counts. -/
def Request.unlocked (request : Request) : List String :=
  match request.stage with
  | .locking keys => keys
  | .admitted _ | .inserted _ _ => []
  | .begun | .working | .ended _ => request.demand.lockKeys

def Stage.countedAt : Stage → Option ℤ
  | .admitted countedAt | .inserted countedAt _ => some countedAt
  | .begun | .locking _ | .working | .ended _ => none

structure Sound (clock : ℤ) (history : List AdmissionEvent) (index : ℕ) (request : Request) :
    Prop where
  locked : ∀ key ∈ request.demand.lockKeys, key ∈ request.unlocked ∨ key ∈ request.locks
  counted : ∀ countedAt ∈ request.stage.countedAt, countedAt ≤ clock ∧
    ∀ limit ∈ request.demand.limits, limit.count countedAt history < limit.maximum
  row : ∀ countedAt row, request.stage = .inserted countedAt row →
    ∃ now, countedAt ≤ now ∧ row = request.demand.event index now

def recent (clock : ℤ) (events : List AdmissionEvent) : List AdmissionEvent :=
  events.filter fun event => clock - Admissions.retention ≤ event.occurredAt

structure Regular (hash : String → ℤ) (admissions : Admissions) : Prop where
  exclusive : ∀ (i j : ℕ) (request other : Request), admissions.requests[i]? = some request →
    admissions.requests[j]? = some other → ∀ key ∈ request.locks, ∀ key' ∈ other.locks,
      hash key = hash key' → i = j
  sound : ∀ index request, admissions.requests[index]? = some request →
    Sound admissions.clock admissions.history index request
  recent : recent admissions.clock admissions.table = recent admissions.clock admissions.history
  distinct : (admissions.table.map AdmissionEvent.eventId).Nodup
  limited : Limited admissions

section

variable {demand : Demand} {limit : AdmissionLimit} {index : ℕ} {now : ℤ}

theorem mem_limits_of_selects (h : limit.selects (demand.event index now) = true) :
    limit ∈ demand.limits := by
  cases demand with
  | mutation caller ip installationId =>
    cases limit with
    | ipMutationsPerMinute ip' =>
      have hip : ip = ip' := of_decide_eq_true (Bool.and_eq_true_iff.mp h).1
      rw [hip]
      exact List.mem_cons_self
    | installationMutationsPerMinute installationId' =>
      have hinstallation : caller.installationId installationId = some installationId' :=
        of_decide_eq_true (Bool.and_eq_true_iff.mp h).1
      simp only [Demand.limits, hinstallation]
      exact List.mem_cons_of_mem _ List.mem_cons_self
    | tokenChangesPerHour installationId' =>
      have hinstallation : caller.installationId installationId = some installationId' :=
        of_decide_eq_true (Bool.and_eq_true_iff.mp h).1
      have hkind : caller.kind = .tokenChange :=
        of_decide_eq_true (Bool.and_eq_true_iff.mp h).2
      simp only [Demand.limits, hinstallation, hkind, if_true]
      exact List.mem_cons_of_mem _ (List.mem_cons_of_mem _ List.mem_cons_self)
    | failedProofsPerIpHour ip' =>
      cases caller <;> cases h
  | proof ip =>
    cases limit with
    | failedProofsPerIpHour ip' =>
      have hip : ip = ip' := of_decide_eq_true
        (Bool.and_eq_true_iff.mp (Bool.and_eq_true_iff.mp h).1).2
      rw [hip]
      exact List.mem_singleton_self _
    | ipMutationsPerMinute ip' =>
      have hkind := (Bool.and_eq_true_iff.mp h).2
      cases hkind
    | installationMutationsPerMinute installationId' => cases h
    | tokenChangesPerHour installationId' => cases h

theorem lockKey_mem (h : limit ∈ demand.limits) : limit.lockKey ∈ demand.lockKeys := by
  cases demand with
  | mutation mutation ip installationId =>
    simp only [Demand.limits, Demand.lockKeys] at h ⊢
    cases hinstallation : mutation.installationId installationId with
    | none =>
      rw [hinstallation] at h
      obtain rfl := List.mem_singleton.mp h
      exact List.mem_singleton_self _
    | some installation =>
      rw [hinstallation] at h
      rcases List.mem_cons.mp h with rfl | h
      · exact List.mem_cons_of_mem _ (List.mem_singleton_self _)
      · rcases List.mem_cons.mp h with rfl | h
        · exact List.mem_cons_self
        · split at h
          · obtain rfl := List.mem_singleton.mp h
            exact List.mem_cons_self
          · cases h
  | proof ip =>
    obtain rfl := List.mem_singleton.mp h
    exact List.mem_singleton_self _

theorem event_eventId : (demand.event index now).eventId = index := by
  cases demand <;> rfl

theorem event_occurredAt : (demand.event index now).occurredAt = now := by
  cases demand <;> rfl

theorem window_le_retention : limit.window ≤ Admissions.retention := by
  cases limit with
  | ipMutationsPerMinute ip => exact (by decide : (60 * 1000 : ℤ) ≤ 60 * 60 * 1000)
  | installationMutationsPerMinute installationId =>
    exact (by decide : (60 * 1000 : ℤ) ≤ 60 * 60 * 1000)
  | tokenChangesPerHour installationId => exact le_rfl
  | failedProofsPerIpHour ip => exact le_rfl

theorem count_recent (clock : ℤ) (events : List AdmissionEvent) :
    limit.count clock (recent clock events) = limit.count clock events := by
  refine countAfter_filter ?_ events
  have hwindow := @window_le_retention limit
  omega

end

section

variable {index : ℕ} {result : ProofResult} {events : List AdmissionEvent}

theorem settle_selects (limit : AdmissionLimit) (event : AdmissionEvent) :
    limit.selects (if reserved index event then { event with status := .failed } else event) =
      limit.selects event := by
  split
  · rename_i hreserved
    simp only [reserved, Bool.and_eq_true, decide_eq_true_eq] at hreserved
    cases limit with
    | failedProofsPerIpHour ip => simp [AdmissionLimit.selects, hreserved.2]
    | ipMutationsPerMinute ip => rfl
    | installationMutationsPerMinute installationId => rfl
    | tokenChangesPerHour installationId => rfl
  · rfl

theorem settle_occurredAt (event : AdmissionEvent) :
    (if reserved index event then { event with status := .failed } else event).occurredAt =
      event.occurredAt := by
  split <;> rfl

theorem settle_eventId (event : AdmissionEvent) :
    (if reserved index event then { event with status := .failed } else event).eventId =
      event.eventId := by
  split <;> rfl

theorem count_settle_le (limit : AdmissionLimit) (now : ℤ) :
    limit.count now (settle index result events) ≤ limit.count now events := by
  cases result with
  | isProofFailure =>
    exact (countAfter_map (settle_selects limit) settle_occurredAt _ events).le
  | succeeded => exact countAfter_of_sublist List.filter_sublist _
  | otherError => exact countAfter_of_sublist List.filter_sublist _

theorem countUntil_settle_le (limit : AdmissionLimit) (stop : ℤ) :
    limit.countUntil stop (settle index result events) ≤ limit.countUntil stop events := by
  cases result with
  | isProofFailure =>
    exact (countWithin_map (settle_selects limit) settle_occurredAt _ _ events).le
  | succeeded => exact countWithin_of_sublist List.filter_sublist _ _
  | otherError => exact countWithin_of_sublist List.filter_sublist _ _

theorem recent_settle (clock : ℤ) :
    recent clock (settle index result events) = settle index result (recent clock events) := by
  unfold recent
  cases result with
  | isProofFailure =>
    simp only [settle, List.filter_map, Function.comp_def, settle_occurredAt]
  | succeeded =>
    simp only [settle, List.filter_filter, Bool.and_comm]
  | otherError =>
    simp only [settle, List.filter_filter, Bool.and_comm]

theorem exists_of_mem_settle {event : AdmissionEvent} (h : event ∈ settle index result events) :
    ∃ old ∈ events, event.eventId = old.eventId ∧
      (old.eventId ≠ index → event = old) ∧
      (reserved index old = true →
        result = .isProofFailure ∧ event = { old with status := .failed }) := by
  cases result with
  | isProofFailure =>
    obtain ⟨old, hold, rfl⟩ := List.mem_map.mp h
    refine ⟨old, hold, settle_eventId old, ?_, fun hreserved => ⟨rfl, if_pos hreserved⟩⟩
    intro hother
    refine if_neg fun hreserved => hother ?_
    simp only [reserved, Bool.and_eq_true, decide_eq_true_eq] at hreserved
    exact hreserved.1.1
  | succeeded =>
    obtain ⟨hold, hkept⟩ := List.mem_filter.mp h
    refine ⟨event, hold, rfl, fun _ => rfl, fun hreserved => ?_⟩
    rw [hreserved] at hkept
    cases hkept
  | otherError =>
    obtain ⟨hold, hkept⟩ := List.mem_filter.mp h
    refine ⟨event, hold, rfl, fun _ => rfl, fun hreserved => ?_⟩
    rw [hreserved] at hkept
    cases hkept

theorem nodup_settle (h : (events.map AdmissionEvent.eventId).Nodup) :
    ((settle index result events).map AdmissionEvent.eventId).Nodup := by
  cases result with
  | isProofFailure =>
    have hids : ((settle index .isProofFailure events).map AdmissionEvent.eventId) =
        events.map AdmissionEvent.eventId := by
      simp only [settle, List.map_map, Function.comp_def, settle_eventId]
    rw [hids]
    exact h
  | succeeded => exact h.sublist (List.filter_sublist.map _)
  | otherError => exact h.sublist (List.filter_sublist.map _)

end

section

variable {hash : String → ℤ} {admissions : Admissions} {index : ℕ} {request next : Request}
  {key : String} {clock : ℤ} {history : List AdmissionEvent}

theorem free_iff : admissions.free hash index key = true ↔
    ∀ i other, admissions.requests[i]? = some other → i ≠ index →
      ∀ key' ∈ other.locks, hash key' ≠ hash key := by
  simp only [Admissions.free, List.all_eq_true, Bool.or_eq_true, decide_eq_true_eq]
  constructor
  · intro h i other hother hne key' hkey
    rcases h (other, i) (List.mem_zipIdx_iff_getElem?.mpr hother) with hsame | hall
    · exact absurd hsame hne
    · exact hall key' hkey
  · rintro h ⟨other, i⟩ hentry
    by_cases hsame : i = index
    · exact .inl hsame
    · exact .inr fun key' hkey =>
        h i other (List.mem_zipIdx_iff_getElem?.mp hentry) hsame key' hkey

theorem Sound.mono {clock' : ℤ} {history' : List AdmissionEvent}
    (h : Sound clock history index request) (hclock : clock ≤ clock')
    (hcount : ∀ countedAt ∈ request.stage.countedAt, ∀ limit ∈ request.demand.limits,
      limit.count countedAt history' ≤ limit.count countedAt history) :
    Sound clock' history' index request where
  locked := h.locked
  counted countedAt hcounted := by
    obtain ⟨hbefore, hroom⟩ := h.counted countedAt hcounted
    exact ⟨hbefore.trans hclock, fun limit hlimit =>
      (hcount countedAt hcounted limit hlimit).trans_lt (hroom limit hlimit)⟩
  row := h.row

theorem Sound.finish {stage : Stage}
    (hstage : stage = .working ∨ ∃ outcome, stage = .ended outcome) :
    Sound clock history index (request.finish stage) := by
  refine ⟨fun key hkey => .inl ?_, ?_, ?_⟩
  · rcases hstage with rfl | ⟨outcome, rfl⟩
    · exact hkey
    · exact hkey
  · rintro countedAt hcounted
    rcases hstage with rfl | ⟨outcome, rfl⟩
    · cases hcounted
    · cases hcounted
  · rintro countedAt row hinserted
    rcases hstage with rfl | ⟨outcome, rfl⟩
    · cases hinserted
    · cases hinserted

theorem Regular.exclusive_set (h : Regular hash admissions)
    (hrequest : admissions.requests[index]? = some request)
    (hlocks : ∀ key ∈ next.locks, key ∈ request.locks ∨ admissions.free hash index key = true) :
    ∀ (i j : ℕ) (first other : Request), (admissions.requests.set index next)[i]? = some first →
      (admissions.requests.set index next)[j]? = some other →
        ∀ key ∈ first.locks, ∀ key' ∈ other.locks, hash key = hash key' → i = j := by
  have happart : ∀ j other, admissions.requests[j]? = some other → j ≠ index →
      ∀ key ∈ next.locks, ∀ key' ∈ other.locks, hash key ≠ hash key' := by
    intro j other hother hne key hkey key' hkey' hhash
    rcases hlocks key hkey with hold | hfree
    · exact hne (h.exclusive index j request other hrequest hother key hold key' hkey' hhash).symm
    · exact free_iff.mp hfree j other hother hne key' hkey' hhash.symm
  intro i j first other hfirst hother key hkey key' hkey' hhash
  rcases getElem?_set_cases hfirst with ⟨rfl, rfl⟩ | ⟨hi, hfound⟩
  · rcases getElem?_set_cases hother with ⟨rfl, rfl⟩ | ⟨hj, hother⟩
    · rfl
    · exact absurd hhash (happart j other hother hj key hkey key' hkey')
  · rcases getElem?_set_cases hother with ⟨rfl, rfl⟩ | ⟨hj, hother⟩
    · exact absurd hhash.symm (happart i first hfound hi key' hkey' key hkey)
    · exact h.exclusive i j first other hfound hother key hkey key' hkey' hhash

theorem Regular.replace (h : Regular hash admissions)
    (hrequest : admissions.requests[index]? = some request)
    (hlocks : ∀ key ∈ next.locks, key ∈ request.locks ∨ admissions.free hash index key = true)
    (hsound : Sound admissions.clock admissions.history index next)
    (haccounts : ∀ event, request.accounts event → next.accounts event) :
    Regular hash (admissions.replace index next) where
  exclusive := h.exclusive_set hrequest hlocks
  sound i other hother := by
    rcases getElem?_set_cases hother with ⟨rfl, rfl⟩ | ⟨-, hother⟩
    · exact hsound
    · exact h.sound i other hother
  recent := h.recent
  distinct := h.distinct
  limited.within := h.limited.within
  limited.accounted event hevent := by
    obtain ⟨other, hother, haccounted⟩ := h.limited.accounted event hevent
    by_cases hindex : event.eventId = index
    · rw [hindex, hrequest] at hother
      obtain rfl := Option.some.inj hother
      refine ⟨next, ?_, haccounts event haccounted⟩
      rw [hindex]
      exact List.getElem?_set_self (lt_length_of_getElem? hrequest)
    · refine ⟨other, ?_, haccounted⟩
      change (admissions.requests.set index next)[event.eventId]? = some other
      rw [List.getElem?_set_ne (Ne.symm hindex), hother]

/-- The first transaction of the request is not over. -/
def Stage.underWay : Stage → Bool
  | .working | .ended _ => false
  | _ => true

theorem Request.not_accounts (hstage : request.stage ≠ .working)
    (hended : ∀ outcome, request.stage ≠ .ended outcome) (event : AdmissionEvent) :
    ¬request.accounts event := by
  unfold Request.accounts
  split
  · exact fun _ => hended _ ‹_›
  · exact fun _ => hstage ‹_›
  · exact fun _ => hended _ ‹_›
  · exact id

theorem Request.not_accounts_of_underWay (h : request.stage.underWay = true)
    (event : AdmissionEvent) : ¬request.accounts event := by
  apply Request.not_accounts
  · intro hstage
    rw [hstage] at h
    cases h
  · intro outcome hstage
    rw [hstage] at h
    cases h

theorem Regular.start (h : Regular hash admissions)
    (hrequest : admissions.requests[index]? = some request) (hstage : request.stage = .begun)
    (snapshot : List AdmissionEvent) :
    Regular hash (admissions.replace index
      { request with snapshot := snapshot, stage := .locking request.demand.lockKeys }) := by
  refine h.replace hrequest (fun key hkey => .inl hkey) ?_ ?_
  · refine ⟨fun key hkey => .inl hkey, fun _ h => (by cases h), fun _ _ h => (by cases h)⟩
  · intro event haccounts
    have hopen : request.stage.underWay = true := by rw [hstage]; rfl
    exact absurd haccounts (Request.not_accounts_of_underWay hopen event)

theorem Regular.lock (h : Regular hash admissions)
    (hrequest : admissions.requests[index]? = some request)
    {keys : List String} (hstage : request.stage = .locking (key :: keys))
    (hfree : admissions.free hash index key = true) :
    Regular hash (admissions.replace index
      { request with locks := key :: request.locks, stage := .locking keys }) := by
  have hsound := h.sound index request hrequest
  refine h.replace hrequest ?_ ?_ ?_
  · intro other hother
    rcases List.mem_cons.mp hother with rfl | hother
    · exact .inr hfree
    · exact .inl hother
  · refine ⟨?_, fun _ h => (by cases h), fun _ _ h => (by cases h)⟩
    intro other hother
    have hkeys : request.unlocked = key :: keys := by
      unfold Request.unlocked
      rw [hstage]
    rcases hsound.locked other hother with hwaits | hheld
    · rw [hkeys] at hwaits
      rcases List.mem_cons.mp hwaits with rfl | hwaits
      · exact .inr List.mem_cons_self
      · exact .inl hwaits
    · exact .inr (List.mem_cons_of_mem _ hheld)
  · intro event haccounts
    have hopen : request.stage.underWay = true := by rw [hstage]; rfl
    exact absurd haccounts (Request.not_accounts_of_underWay hopen event)

theorem Regular.finish (h : Regular hash admissions)
    (hrequest : admissions.requests[index]? = some request)
    (hstage : request.stage ≠ .working) (hended : ∀ outcome, request.stage ≠ .ended outcome)
    (outcome : Outcome) :
    Regular hash (admissions.replace index (request.finish (.ended outcome))) :=
  h.replace hrequest (fun _ h => by cases h) (Sound.finish (.inr ⟨outcome, rfl⟩))
    fun event haccounts => absurd haccounts (Request.not_accounts hstage hended event)

theorem Regular.count_table (h : Regular hash admissions) (limit : AdmissionLimit) :
    limit.count admissions.clock admissions.table =
      limit.count admissions.clock admissions.history := by
  rw [← count_recent, h.recent, count_recent]

theorem Regular.count_lt (h : Regular hash admissions)
    (hfresh : request.demand.isolation = .serializable →
      ∀ limit ∈ request.demand.limits, ∀ event ∈ admissions.table,
        limit.selects event = true → event ∈ request.snapshot)
    (hadmitted : admissions.exceeded request = none) {limit : AdmissionLimit}
    (hlimit : limit ∈ request.demand.limits) :
    limit.count admissions.clock admissions.history < limit.maximum := by
  have hroom : limit.count admissions.clock (admissions.view request) < limit.maximum := by
    have hnone := List.find?_eq_none.mp hadmitted limit hlimit
    simpa using hnone
  rw [← h.count_table]
  refine lt_of_le_of_lt ?_ hroom
  unfold Admissions.view
  split
  · exact le_rfl
  · rename_i hisolation
    exact countAfter_le_of_subset (List.Nodup.of_map _ h.distinct)
      (hfresh hisolation limit hlimit) _

theorem Regular.count (h : Regular hash admissions)
    (hrequest : admissions.requests[index]? = some request) (hstage : request.stage = .locking [])
    (hroom : ∀ limit ∈ request.demand.limits,
      limit.count admissions.clock admissions.history < limit.maximum) :
    Regular hash (admissions.replace index
      { request with stage := .admitted admissions.clock }) := by
  have hsound := h.sound index request hrequest
  refine h.replace hrequest (fun key hkey => .inl hkey) ?_ ?_
  · refine ⟨?_, ?_, fun _ _ h => (by cases h)⟩
    · intro key hkey
      refine .inr ((hsound.locked key hkey).resolve_left ?_)
      unfold Request.unlocked
      rw [hstage]
      exact fun h => by cases h
    · rintro countedAt ⟨⟩
      exact ⟨le_rfl, hroom⟩
  · intro event haccounts
    have hopen : request.stage.underWay = true := by rw [hstage]; rfl
    exact absurd haccounts (Request.not_accounts_of_underWay hopen event)

theorem Regular.insert (h : Regular hash admissions)
    (hrequest : admissions.requests[index]? = some request) {countedAt : ℤ}
    (hstage : request.stage = .admitted countedAt) :
    Regular hash (admissions.replace index
      { request with
        stage := .inserted countedAt (request.demand.event index admissions.clock) }) := by
  have hsound := h.sound index request hrequest
  have hcounted := hsound.counted countedAt (by rw [hstage]; rfl)
  refine h.replace hrequest (fun key hkey => .inl hkey) ?_ ?_
  · refine ⟨?_, ?_, ?_⟩
    · intro key hkey
      refine .inr ((hsound.locked key hkey).resolve_left ?_)
      unfold Request.unlocked
      rw [hstage]
      exact fun h => by cases h
    · rintro _ ⟨⟩
      exact hcounted
    · rintro _ row ⟨⟩
      exact ⟨admissions.clock, hcounted.1, rfl⟩
  · intro event haccounts
    have hopen : request.stage.underWay = true := by rw [hstage]; rfl
    exact absurd haccounts (Request.not_accounts_of_underWay hopen event)

theorem Sound.holds (h : Sound clock history index request) {countedAt : ℤ}
    (hcounted : request.stage.countedAt = some countedAt) {limit : AdmissionLimit}
    (hlimit : limit ∈ request.demand.limits) : limit.lockKey ∈ request.locks := by
  refine (h.locked _ (lockKey_mem hlimit)).resolve_left fun hunlocked => ?_
  unfold Request.unlocked at hunlocked
  unfold Stage.countedAt at hcounted
  split at hunlocked
  · rename_i hstage
    rw [hstage] at hcounted
    cases hcounted
  · cases hunlocked
  · cases hunlocked
  · rename_i hstage
    rw [hstage] at hcounted
    cases hcounted
  · rename_i hstage
    rw [hstage] at hcounted
    cases hcounted
  · rename_i hstage
    rw [hstage] at hcounted
    cases hcounted

theorem Regular.commit (h : Regular hash admissions)
    (hrequest : admissions.requests[index]? = some request) {countedAt : ℤ}
    {row : AdmissionEvent} (hstage : request.stage = .inserted countedAt row) :
    Regular hash ({ admissions with
      table := admissions.table ++ [row]
      history := admissions.history ++ [row] }.replace index
        (request.finish (match request.demand with
          | .mutation _ _ _ => .ended .committed
          | .proof _ => .working))) := by
  have hsound := h.sound index request hrequest
  have hcounted : request.stage.countedAt = some countedAt := by
    rw [hstage]
    rfl
  obtain ⟨now, hnow, hrow⟩ := hsound.row countedAt row hstage
  have hid : row.eventId = index := by
    rw [hrow, event_eventId]
  have hnone : ∀ event ∈ admissions.table, event.eventId ≠ index := by
    intro event hevent hindex
    obtain ⟨other, hother, haccounted⟩ := h.limited.accounted event hevent
    rw [hindex, hrequest] at hother
    obtain rfl := Option.some.inj hother
    have hopen : request.stage.underWay = true := by rw [hstage]; rfl
    exact Request.not_accounts_of_underWay hopen event haccounted
  have hover : ∀ stage, stage = (match request.demand with
      | .mutation _ _ _ => Stage.ended .committed
      | .proof _ => .working) → stage = .working ∨ ∃ outcome, stage = .ended outcome := by
    intro stage hstage
    split at hstage
    · exact .inr ⟨_, hstage⟩
    · exact .inl hstage
  constructor
  · exact h.exclusive_set hrequest fun _ h => by cases h
  · intro i other hother
    rcases getElem?_set_cases hother with ⟨rfl, rfl⟩ | ⟨hi, hother⟩
    · exact Sound.finish (hover _ rfl)
    · have hsoundOther := h.sound i other hother
      refine hsoundOther.mono le_rfl ?_
      intro time htime limit hlimit
      change limit.count time (admissions.history ++ [row]) ≤ _
      unfold AdmissionLimit.count
      rw [countAfter_append, if_neg]
      · exact le_rfl
      · intro hselected
        have hselects := (Bool.and_eq_true_iff.mp hselected).1
        rw [hrow] at hselects
        exact hi (h.exclusive i index other request hother hrequest _
          (hsoundOther.holds htime hlimit) _
          (hsound.holds hcounted (mem_limits_of_selects hselects)) rfl)
  · have hrecent := h.recent
    change Admission.recent admissions.clock (admissions.table ++ [row]) =
      Admission.recent admissions.clock (admissions.history ++ [row])
    unfold Admission.recent at hrecent ⊢
    rw [List.filter_append, List.filter_append, hrecent]
  · change ((admissions.table ++ [row]).map AdmissionEvent.eventId).Nodup
    rw [List.map_append, List.nodup_append]
    refine ⟨h.distinct, List.nodup_singleton _, ?_⟩
    intro id hmem other hother
    obtain ⟨event, hevent, rfl⟩ := List.mem_map.mp hmem
    rw [List.mem_singleton.mp hother, hid]
    exact hnone event hevent
  · refine ⟨?_, ?_⟩
    · intro limit stop
      refine @countWithin_append_le _ _ _ _ _ _ countedAt _ (h.limited.within limit) ?_ ?_ stop
      · intro hselects
        rw [hrow] at hselects
        exact (hsound.counted countedAt hcounted).2 limit (mem_limits_of_selects hselects)
      · rw [hrow, event_occurredAt]
        exact hnow
    · intro event hevent
      rcases List.mem_append.mp hevent with hold | hnew
      · obtain ⟨other, hother, haccounted⟩ := h.limited.accounted event hold
        refine ⟨other, ?_, haccounted⟩
        change (admissions.requests.set index _)[event.eventId]? = some other
        rw [List.getElem?_set_ne (hnone event hold).symm, hother]
      · rw [List.mem_singleton.mp hnew, hid]
        refine ⟨_, List.getElem?_set_self (lt_length_of_getElem? hrequest), ?_⟩
        rw [hrow]
        unfold Request.accounts Request.finish Demand.event
        cases request.demand with
        | mutation mutation ip installationId => rfl
        | proof ip => exact ⟨rfl, rfl⟩

theorem Regular.settle (h : Regular hash admissions)
    (hrequest : admissions.requests[index]? = some request) (hstage : request.stage = .working)
    (result : ProofResult) :
    Regular hash ({ admissions with
      table := settle index result admissions.table
      history := settle index result admissions.history }.replace index
        (request.finish (.ended (.settled result)))) := by
  constructor
  · exact h.exclusive_set hrequest fun _ h => by cases h
  · intro i other hother
    rcases getElem?_set_cases hother with ⟨rfl, rfl⟩ | ⟨-, hother⟩
    · exact Sound.finish (.inr ⟨_, rfl⟩)
    · exact (h.sound i other hother).mono le_rfl fun time _ limit _ =>
        count_settle_le limit time
  · change Admission.recent admissions.clock (Admission.settle index result admissions.table) =
      Admission.recent admissions.clock (Admission.settle index result admissions.history)
    rw [recent_settle, recent_settle, h.recent]
  · exact nodup_settle h.distinct
  · refine ⟨?_, ?_⟩
    · exact fun limit stop =>
        (countUntil_settle_le limit stop).trans (h.limited.within limit stop)
    · intro event hevent
      obtain ⟨old, hold, hid, hother, hreserved⟩ := exists_of_mem_settle hevent
      obtain ⟨owner, howner, haccounted⟩ := h.limited.accounted old hold
      rw [hid]
      by_cases hindex : old.eventId = index
      · rw [hindex, hrequest] at howner
        obtain rfl := Option.some.inj howner
        unfold Request.accounts at haccounted
        rw [hstage] at haccounted
        obtain ⟨rfl, rfl⟩ := hreserved (by
          simp [reserved, hindex, haccounted.1, haccounted.2])
        refine ⟨request.finish (.ended (.settled .isProofFailure)), ?_, haccounted.1, rfl⟩
        rw [hindex]
        exact List.getElem?_set_self (lt_length_of_getElem? hrequest)
      · rw [hother hindex]
        refine ⟨owner, ?_, haccounted⟩
        change (admissions.requests.set index _)[old.eventId]? = some owner
        rw [List.getElem?_set_ne (Ne.symm hindex), howner]

theorem recent_cleanup (clock : ℤ) (batch : List ℕ) (events : List AdmissionEvent) :
    recent clock (events.filter fun row =>
      !(batch.contains row.eventId && row.occurredAt < clock - Admissions.retention)) =
        recent clock events := by
  unfold recent
  rw [List.filter_filter]
  apply List.filter_congr
  intro row _
  rw [Bool.eq_iff_iff]
  simp only [Bool.and_eq_true, Bool.not_eq_true', Bool.and_eq_false_iff, decide_eq_true_eq,
    decide_eq_false_iff_not]
  constructor
  · exact And.left
  · exact fun hrecent => ⟨hrecent, .inr (by omega)⟩

theorem Regular.cleanup (h : Regular hash admissions) (batch : List ℕ) :
    Regular hash { admissions with
      table := admissions.table.filter fun row =>
        !(batch.contains row.eventId &&
          row.occurredAt < admissions.clock - Admissions.retention) } where
  exclusive := h.exclusive
  sound := h.sound
  recent := (recent_cleanup _ _ _).trans h.recent
  distinct := h.distinct.sublist (List.filter_sublist.map _)
  limited := ⟨h.limited.within, fun event hevent =>
    h.limited.accounted event (List.mem_filter.mp hevent).1⟩

theorem recent_later (clock : ℤ) (time : ℕ) (events : List AdmissionEvent) :
    recent (clock + (time : ℤ)) (recent clock events) = recent (clock + (time : ℤ)) events := by
  unfold recent
  rw [List.filter_filter]
  apply List.filter_congr
  intro event _
  rw [Bool.eq_iff_iff]
  simp only [Bool.and_eq_true, decide_eq_true_eq]
  constructor
  · exact And.left
  · exact fun hrecent => ⟨hrecent, by omega⟩

theorem Regular.pass (h : Regular hash admissions) (time : ℕ) :
    Regular hash { admissions with clock := admissions.clock + time } where
  exclusive := h.exclusive
  sound index request hrequest :=
    (h.sound index request hrequest).mono (Int.le_add_of_nonneg_right (Int.natCast_nonneg time))
      fun _ _ _ _ => le_rfl
  recent := by
    change Admission.recent (admissions.clock + (time : ℤ)) admissions.table =
      Admission.recent (admissions.clock + (time : ℤ)) admissions.history
    rw [← recent_later, h.recent, recent_later]
  distinct := h.distinct
  limited := ⟨h.limited.within, h.limited.accounted⟩

theorem Regular.begin (h : Regular hash admissions) (demand : Demand) :
    Regular hash { admissions with
      requests := admissions.requests ++ [⟨demand, [], [], .begun⟩] } := by
  constructor
  · intro i j first other hfirst hother key hkey key' hkey' hhash
    rcases getElem?_append_cases hfirst with hfirst | ⟨-, rfl⟩
    · rcases getElem?_append_cases hother with hother | ⟨-, rfl⟩
      · exact h.exclusive i j first other hfirst hother key hkey key' hkey' hhash
      · cases hkey'
    · cases hkey
  · intro i other hother
    rcases getElem?_append_cases hother with hother | ⟨-, rfl⟩
    · exact h.sound i other hother
    · exact ⟨fun key hkey => .inl hkey, fun _ h => (by cases h), fun _ _ h => (by cases h)⟩
  · exact h.recent
  · exact h.distinct
  · refine ⟨h.limited.within, fun event hevent => ?_⟩
    obtain ⟨owner, howner, haccounted⟩ := h.limited.accounted event hevent
    exact ⟨owner, getElem?_append_of_some howner _, haccounted⟩

end

variable {event : Event}

theorem Regular.advance {hash : String → ℤ} {admissions : Admissions} {index : ℕ}
    {request : Request} (h : Regular hash admissions)
    (hrequest : admissions.requests[index]? = some request)
    (hindex : event.request = some index) (hfresh : Fresh admissions event) :
    Regular hash (admissions.advance hash index request event) := by
  cases event with
  | start i =>
    unfold Admissions.advance
    simp only
    split
    · exact h.start hrequest ‹_› _
    · exact h
  | lock i =>
    unfold Admissions.advance
    simp only
    split
    · split
      · exact h.lock hrequest ‹_› ‹_›
      · exact h
    · exact h
  | count i =>
    obtain rfl := Option.some.inj hindex
    unfold Admissions.advance
    simp only
    split
    · rename_i hstage
      split
      · refine h.finish hrequest ?_ ?_ _
        · rw [hstage]
          exact fun h => by cases h
        · intro outcome
          rw [hstage]
          exact fun h => by cases h
      · rename_i hadmitted
        exact h.count hrequest hstage fun limit hlimit =>
          h.count_lt (hfresh request hrequest hstage) hadmitted hlimit
    · exact h
  | insert i =>
    unfold Admissions.advance
    simp only
    split
    · exact h.insert hrequest ‹_›
    · exact h
  | commit i =>
    unfold Admissions.advance
    simp only
    split
    · exact h.commit hrequest ‹_›
    · exact h
  | rollback i =>
    unfold Admissions.advance
    simp only
    split
    · exact h
    · exact h
    · rename_i hworking hended
      exact h.finish hrequest hworking hended _
  | settle i result =>
    unfold Admissions.advance
    simp only
    split
    · exact h.settle hrequest ‹_› result
    · exact h
  | begin demand => exact h
  | cleanup batch => exact h
  | pass time => exact h

theorem Regular.step_of_request {hash : String → ℤ} {admissions : Admissions}
    (h : Regular hash admissions) {index : ℕ}
    (hindex : event.request = some index) (hfresh : Fresh admissions event) {after : Admissions}
    (hafter : after = match event.request.bind fun index =>
        admissions.requests[index]?.map fun request => (index, request) with
      | none => admissions
      | some (index, request) => admissions.advance hash index request event) :
    Regular hash after := by
  rw [hafter, hindex]
  cases hrequest : admissions.requests[index]? with
  | none =>
    simp only [Option.bind_some, hrequest, Option.map_none]
    exact h
  | some request =>
    simp only [Option.bind_some, hrequest, Option.map_some]
    exact h.advance hrequest hindex hfresh

theorem Regular.step {hash : String → ℤ} {admissions : Admissions}
    (h : Regular hash admissions) (hfresh : Fresh admissions event) :
    Regular hash (admissions.step hash event) := by
  cases event with
  | begin demand =>
    unfold Admissions.step
    simp only
    split
    · exact h
    · exact h.begin demand
  | cleanup batch => exact h.cleanup batch
  | pass time => exact h.pass time
  | start index => exact h.step_of_request rfl hfresh rfl
  | lock index => exact h.step_of_request rfl hfresh rfl
  | count index => exact h.step_of_request rfl hfresh rfl
  | insert index => exact h.step_of_request rfl hfresh rfl
  | commit index => exact h.step_of_request rfl hfresh rfl
  | rollback index => exact h.step_of_request rfl hfresh rfl
  | settle index result => exact h.step_of_request rfl hfresh rfl

theorem regular_initial (hash : String → ℤ) (clock : ℤ) :
    Regular hash (Admissions.initial clock) where
  exclusive _ _ _ _ h := by cases h
  sound _ _ h := by cases h
  recent := rfl
  distinct := List.nodup_nil
  limited := ⟨fun _ _ => Nat.zero_le _, fun _ h => by cases h⟩

/-- In every run whose serializable transactions count with all that has been committed,
no limit is ever exceeded and no request that came to nothing leaves an event. -/
theorem admission_limited (hash : String → ℤ) (clock : ℤ) (events : List Event)
    (hfresh : Along (Admissions.step hash) Fresh (Admissions.initial clock) events) :
    Limited (run (Admissions.step hash) (Admissions.initial clock) events) :=
  (@run_invariant_along _ _ (Admissions.step hash) Fresh (Regular hash)
    (fun _ _ h hstep => Regular.step h hstep) _ _ (regular_initial hash clock) hfresh).limited

def keyHash (key : String) : ℤ := key.length

def counting (request : ℕ) : List Event :=
  [.lock request, .lock request, .count request, .insert request, .commit request]

/-- A token is bound while the same address sets a rule. -/
theorem admission_limited_rebinding :
    Limited (run (Admissions.step keyHash) (Admissions.initial 0)
      ([.begin (.mutation .putPriceRule "10.0.0.7" "a"), .start 0,
        .begin (.mutation .rebindPushToken "10.0.0.7" "b")] ++ counting 0 ++
          .start 1 :: counting 1)) :=
  admission_limited keyHash 0 _ (by decide)

/-- A transaction that has run its first statement waits while two installations of the
same address set sixty rules. -/
def overtaken : List Event :=
  [.begin (.mutation .rebindPushToken "10.0.0.7" "c"), .start 0] ++
    (List.range 60).flatMap (fun rule =>
      [.begin (.mutation .putPriceRule "10.0.0.7" (if rule % 2 = 0 then "a" else "b")),
        .start (rule + 1)] ++ counting (rule + 1)) ++
    counting 0

/-- The transaction counts none of them, and the address has sixty-one admissions in a
minute. -/
theorem admission_exceeded :
    AdmissionLimit.countUntil (.ipMutationsPerMinute "10.0.0.7") 0
        (run (Admissions.step keyHash) (Admissions.initial 0) overtaken).history = 61 ∧
      ¬Limited (run (Admissions.step keyHash) (Admissions.initial 0) overtaken) := by
  have hcount : AdmissionLimit.countUntil (.ipMutationsPerMinute "10.0.0.7") 0
      (run (Admissions.step keyHash) (Admissions.initial 0) overtaken).history = 61 := by
    decide +kernel
  refine ⟨hcount, fun hlimited => ?_⟩
  have hwithin := hlimited.within (.ipMutationsPerMinute "10.0.0.7") 0
  rw [hcount] at hwithin
  exact absurd hwithin (by decide)

end Admission

end HyperTrader
