import HyperTrader.Monitor.Capacity
import HyperTrader.Monitor.Incarnations

/-!
# What the listeners are given

A step delivers a baseline or a delta to the listeners of one entry, under the lease that
the entry holds, or records a loss, or neither. A delta comes from the live stream of the
incarnation whose baseline the entry has accepted, so each of its listeners was given
that baseline, and the entry has lost nothing since.

The registry measures its lease with a timer of its own, which it arms when the answer to
its request arrives. The row of the store runs out earlier, by the time the answer took:
what arrives between the two is delivered without an unexpired lease.
-/

namespace HyperTrader

open Library

variable {ν : Type}

namespace SharedMonitorRegistry

open MonitorEntry

variable {registry : SharedMonitorRegistry ν} {i c : ℕ} {entry : MonitorEntry ν}

/-- The entry `i` is that of its key and has a lease, whose timer is armed: it was set
when the answer to the last grant or renewal arrived, and has not fired. -/
def HoldsLease (registry : SharedMonitorRegistry ν) (i : ℕ) : Prop :=
  ∃ entry, registry.entries[i]? = some entry ∧ entry.registered = true ∧
    entry.leaseGeneration.isSome = true ∧ entry.leaseExpiry.isSome = true

/-- The entry `i` is that of its key, and the store keeps the row of its lease, which has
not run out. -/
def HoldsUnexpiredLease (registry : SharedMonitorRegistry ν) (i : ℕ) : Prop :=
  ∃ entry generation, registry.entries[i]? = some entry ∧ entry.registered = true ∧
    entry.leaseGeneration = some generation ∧ registry.store entry.leaseKey = some generation

/-- What a step may log: one loss, or deliveries under a lease, where a delta follows the
baseline of its incarnation. -/
inductive Logs (registry : SharedMonitorRegistry ν) : List (MonitorRecord ν) → Prop
  | lost (i : ℕ) : Logs registry [.lost i]
  | delivered (new : List (MonitorRecord ν))
      (h : ∀ record ∈ new, ∃ i c listener update,
        record = .delivered i c listener update ∧ registry.HoldsLease i ∧
          ∀ value, update = .delta value → Fresh registry.log i c listener) :
      Logs registry new

theorem logs_nil (registry : SharedMonitorRegistry ν) : Logs registry [] :=
  .delivered [] fun _ h => absurd h List.not_mem_nil

theorem Sound.holdsLease (h : registry.Sound i entry)
    (hentry : registry.entries[i]? = some entry) (haccepted : entry.baselineAccepted = true) :
    registry.HoldsLease i := by
  obtain ⟨hregistered, hlease, -⟩ := h.accepted haccepted
  exact ⟨entry, hentry, hregistered, hlease, h.armed hregistered hlease⟩

theorem Sane.logs_publish (h : registry.Sane) (hentry : registry.entries[i]? = some entry)
    (hregistered : entry.registered = true) (hlease : entry.leaseGeneration.isSome = true)
    (c : ℕ) (update : MonitorUpdate ν) (hdelta : ∀ value, update = .delta value →
      ∀ listener ∈ entry.listeners, Fresh registry.log i c listener) :
    Logs registry (entry.listeners.map (MonitorRecord.delivered i c · update)) := by
  apply Logs.delivered
  intro record hrecord
  obtain ⟨listener, hlistener, rfl⟩ := List.mem_map.mp hrecord
  refine ⟨i, c, listener, update, rfl, ?_, ?_⟩
  · exact ⟨entry, hentry, hregistered, hlease, (h.sound i entry hentry).armed hregistered hlease⟩
  · intro value hvalue
    exact hdelta value hvalue listener hlistener

theorem Sound.controller_of_stream (h : registry.Sound i entry) {s : ℕ}
    {stream : MonitorStream} (hstream : registry.streams[s]? = some stream)
    (howns : registry.Owns i stream.controller)
    (hlive : registry.aborted stream.controller = false) :
    entry.controller = some stream.controller := by
  have hsound := h.streams s stream hstream howns
  unfold StreamSound at hsound
  cases hstage : stream.stage with
  | opening =>
    rw [hstage] at hsound
    obtain ⟨authorizes, hopening⟩ := hsound
    obtain ⟨-, c, hc, -, hcurrent⟩ := h.work _ hopening
    rw [hstream] at hc
    cases hc
    exact (hcurrent hlive).1
  | opened =>
    rw [hstage] at hsound
    obtain ⟨-, c, hcontroller, hc⟩ := h.close s hsound
    rw [hstream] at hc
    cases hc
    exact hcontroller
  | closed =>
    rw [hstage] at hsound
    dsimp only at hsound
    rw [hlive] at hsound
    cases hsound

theorem log_startStream (registry : SharedMonitorRegistry ν) (i : ℕ) (authorizes : Bool)
    (entry : MonitorEntry ν) : (registry.startStream i authorizes entry).log = registry.log := by
  unfold SharedMonitorRegistry.startStream
  split
  · rfl
  · rfl

theorem log_reconcileEntry (authorizes : Bool) (now : ℤ) (i : ℕ) :
    (SharedMonitorRegistry.reconcileEntry authorizes now registry i).log = registry.log := by
  unfold SharedMonitorRegistry.reconcileEntry
  cases registry.entries[i]? with
  | none => rfl
  | some entry =>
    dsimp only
    split
    · rfl
    · cases entry.leaseGeneration with
      | none => rfl
      | some generation =>
        dsimp only
        split
        · rfl
        · exact log_startStream registry i authorizes entry

theorem log_closeEntry (i : ℕ) :
    (SharedMonitorRegistry.closeEntry registry i).log = registry.log := by
  unfold SharedMonitorRegistry.closeEntry
  cases registry.entries[i]? with
  | none => rfl
  | some entry =>
    dsimp only
    split
    · rfl
    · rfl

theorem log_leave (handle : MonitorHandle) : (registry.leave handle).log = registry.log := by
  unfold SharedMonitorRegistry.leave
  cases registry.lookup handle.leaseKey with
  | none => rfl
  | some found =>
    dsimp only
    split
    · unfold SharedMonitorRegistry.remove
      cases found.2.leaseGeneration with
      | some generation => rfl
      | none =>
        dsimp only
        split
        · rfl
        · rfl
    · rfl

theorem log_authorized (i : ℕ) (entry : MonitorEntry ν) (stage : ReconcileStage)
    (answer : Option Bool) : (registry.authorized i entry stage answer).log = registry.log := by
  unfold SharedMonitorRegistry.authorized
  split <;> rfl

theorem Sane.logs_join (h : registry.Sane) (hentry : registry.entries[i]? = some entry)
    (listener : ℕ) :
    ∃ new, (registry.join i entry listener).log = registry.log ++ new ∧ Logs registry new := by
  refine ⟨_, rfl, ?_⟩
  split
  · rename_i value c haccepted hvalue hcontroller
    apply Logs.delivered
    intro record hrecord
    cases List.mem_singleton.mp hrecord
    refine ⟨i, c, listener, .baseline value, rfl,
      (h.sound i entry hentry).holdsLease hentry haccepted, ?_⟩
    intro other hother
    cases hother
  · exact logs_nil registry

theorem logs_leaseAnswered (registry : SharedMonitorRegistry ν) (i : ℕ)
    (entry : MonitorEntry ν) (work : ReconcileWork) (now : ℤ) :
    ∃ new, (registry.leaseAnswered i entry work now).log = registry.log ++ new ∧
      Logs registry new := by
  have hkept : ∀ {after : SharedMonitorRegistry ν}, after.log = registry.log →
      ∃ new, after.log = registry.log ++ new ∧ Logs registry new :=
    fun h => ⟨[], h.trans (List.append_nil _).symm, logs_nil registry⟩
  unfold SharedMonitorRegistry.leaseAnswered
  split
  · exact hkept (log_startStream _ _ _ _)
  · exact hkept rfl
  · exact hkept (log_startStream _ _ _ _)
  · exact ⟨[.lost i], rfl, .lost i⟩
  · exact hkept rfl
  · exact hkept rfl

theorem Sane.logs_loaded (h : registry.Sane) (hentry : registry.entries[i]? = some entry)
    (authorizes : Bool) (c : ℕ) (snapshot : Option ν) :
    ∃ new, (registry.loaded i entry authorizes c snapshot).log = registry.log ++ new ∧
      Logs registry new := by
  cases snapshot with
  | none => exact ⟨[], (List.append_nil _).symm, logs_nil registry⟩
  | some snapshot =>
    unfold SharedMonitorRegistry.loaded
    dsimp only
    split
    · exact ⟨[], (List.append_nil _).symm, logs_nil registry⟩
    · rename_i hheld
      rw [not_or, not_or, Bool.not_eq_false] at hheld
      obtain ⟨-, hregistered, hlease⟩ := hheld
      have hlogs := h.logs_publish hentry hregistered
        (Option.isSome_iff_ne_none.mpr hlease) c (.baseline snapshot) (by simp)
      split
      · exact ⟨_, rfl, hlogs⟩
      · exact ⟨_, rfl, hlogs⟩

theorem log_streamOpened (i : ℕ) (entry : MonitorEntry ν) (s : ℕ) (stream : MonitorStream)
    (resolves : Bool) : (registry.streamOpened i entry s stream resolves).log = registry.log := by
  unfold SharedMonitorRegistry.streamOpened
  split
  · rfl
  · split
    · rfl
    · rfl

theorem log_acquireServed (i : ℕ) (entry : MonitorEntry ν) (answer : AcquireAnswer) :
    (registry.acquireServed i entry answer).log = registry.log := by
  cases answer with
  | refused => rfl
  | rejected => rfl
  | granted generation =>
    unfold SharedMonitorRegistry.acquireServed
    dsimp only
    split
    · rfl
    · rfl

theorem Sane.logs (h : registry.Sane) (event : MonitorEvent ν) :
    ∃ new, (registry.step event).log = registry.log ++ new ∧ Logs registry new := by
  have hmove := move_step registry event
  have hreconcile : ∀ authorizes now,
      (registry.step (.reconcile authorizes now)).log = registry.log :=
    reconcile_induction (motive := fun after => after.log = registry.log)
      (fun _ i authorizes now hbefore => (log_reconcileEntry authorizes now i).trans hbefore) rfl
  have hclose : (registry.step .close).log = registry.log :=
    close_induction (motive := fun after => after.log = registry.log)
      (fun _ i hbefore => (log_closeEntry i).trans hbefore) rfl
  have hkept : ∀ {after : SharedMonitorRegistry ν}, after.log = registry.log →
      ∃ new, after.log = registry.log ++ new ∧ Logs registry new :=
    fun h => ⟨[], h.trans (List.append_nil _).symm, logs_nil registry⟩
  generalize registry.step event = after at hmove ⊢
  cases hmove with
  | nothing event => exact hkept rfl
  | joined target listener i entry hentry => exact h.logs_join hentry listener
  | created target normalized listener uniqueUsers hlookup hreserved =>
    exact hkept (List.append_nil _)
  | left n handle => exact hkept (log_leave handle)
  | reconciled authorizes now => exact hkept (hreconcile authorizes now)
  | closed => exact hkept hclose
  | authorized i entry work answer hentry hwork => exact hkept (log_authorized i entry _ answer)
  | acquireServed i entry authorizes answer hentry hwork =>
    exact hkept (log_acquireServed i entry answer)
  | renewServed i entry authorizes generation rejects hentry hwork => exact hkept rfl
  | leaseAnswered i entry work now hentry hwork =>
    exact logs_leaseAnswered registry i entry work now
  | loaded i entry authorizes c snapshot hentry hwork =>
    exact h.logs_loaded hentry authorizes c snapshot
  | streamOpened i entry authorizes s stream resolves hentry hwork hstream =>
    exact hkept (log_streamOpened i entry s stream resolves)
  | delta s stream i entry value hstream howner haccepted hlive =>
    obtain ⟨hentry, howns⟩ := owner_some howner
    have hsound := h.sound i entry hentry
    obtain ⟨hregistered, hlease, -, c, hcontroller, hfresh⟩ := hsound.accepted haccepted
    have hcurrent := hsound.controller_of_stream hstream howns hlive
    rw [hcontroller] at hcurrent
    cases hcurrent
    exact ⟨_, rfl, h.logs_publish hentry hregistered hlease _ _ fun _ _ => hfresh⟩
  | gap s stream i entry hstream howner => exact ⟨[.lost i], rfl, .lost i⟩
  | leaseExpired i entry hentry harmed => exact ⟨[.lost i], rfl, .lost i⟩
  | releaseKept r release rejects hrelease hanswer hkept' => exact hkept rfl
  | releaseCleared r release hrelease hanswer => exact hkept rfl
  | releaseSettled r release uniqueUsers hrelease hanswer => exact hkept rfl
  | storeExpired key => exact hkept rfl

def Baselined (log : List (MonitorRecord ν)) : Prop :=
  Preceded (fun earlier record => ∀ i c listener value,
    record = .delivered i c listener (.delta value) → Fresh earlier i c listener) log

theorem Logs.baselined {new : List (MonitorRecord ν)} (h : Logs registry new)
    (hlog : Baselined registry.log) : Baselined (registry.log ++ new) := by
  apply Preceded.append hlog
  rintro earlier record later hnew i c listener value rfl
  cases h with
  | lost j =>
    have hmem : .delivered i c listener (.delta value) ∈ [MonitorRecord.lost j] := by
      rw [hnew]
      simp
    cases List.mem_singleton.mp hmem
  | delivered new hdelivered =>
    obtain ⟨i', c', listener', update, heq, -, hfresh⟩ := hdelivered
      (.delivered i c listener (.delta value)) (by rw [hnew]; simp)
    cases heq
    apply (hfresh value rfl).append
    intro hlost
    obtain ⟨_, _, _, _, hrecord, -⟩ := hdelivered (.lost i) (by rw [hnew]; simp [hlost])
    cases hrecord

/-- In every run a listener is given a delta only after a fresh baseline. -/
theorem sound_run (events : List (MonitorEvent ν)) :
    (run step create events : SharedMonitorRegistry ν).Sane ∧
      Baselined (run step create events : SharedMonitorRegistry ν).log := by
  have hstep : ∀ (registry : SharedMonitorRegistry ν) (event : MonitorEvent ν),
      registry.Sane ∧ Baselined registry.log →
        (registry.step event).Sane ∧ Baselined (registry.step event).log := by
    rintro registry event ⟨hsane, hlog⟩
    refine ⟨hsane.step event, ?_⟩
    obtain ⟨new, hnew, hlogs⟩ := hsane.logs event
    rw [hnew]
    exact hlogs.baselined hlog
  exact run_invariant hstep ⟨sane_create, preceded_nil⟩ events

end SharedMonitorRegistry

/-- **Baseline before delta.** In every run every delta that a listener was given comes
after a baseline of the same incarnation that it was given, with no gap and no lost lease
of the entry between the two; and what a step delivers is delivered under a lease of the
entry whose timer has not fired. -/
theorem deltas_follow_baselines (events : List (MonitorEvent ν)) :
    let registry : SharedMonitorRegistry ν := run SharedMonitorRegistry.step .create events
    (∀ earlier later i c listener value,
      registry.log = earlier ++ .delivered i c listener (.delta value) :: later →
        Fresh earlier i c listener) ∧
    ∀ event, ∃ new, (registry.step event).log = registry.log ++ new ∧
      ∀ i c listener update, .delivered i c listener update ∈ new → registry.HoldsLease i := by
  intro registry
  obtain ⟨hsane, hlog⟩ := SharedMonitorRegistry.sound_run events
  constructor
  · intro earlier later i c listener value heq
    exact hlog earlier _ later heq i c listener value rfl
  · intro event
    obtain ⟨new, hnew, hlogs⟩ := hsane.logs event
    refine ⟨new, hnew, ?_⟩
    intro i c listener update hmem
    cases hlogs with
    | lost j => cases List.mem_singleton.mp hmem
    | delivered new hdelivered =>
      obtain ⟨_, _, _, _, heq, hholds, -⟩ := hdelivered _ hmem
      cases heq
      exact hholds

/-- A stream is live, and the row of its lease has run out in the store before the timer of
the registry fires. -/
def monitoredPast : List (MonitorEvent ℕ) :=
  [.subscribe monitoredAccount 0, .reconcile false 0, .acquireServed 0 (.granted 1),
    .leaseAnswered 0 500, .loaded 0 (some 7), .streamOpened 0 true,
    .storeExpired (monitorLeaseKey monitoredAccount)]

theorem monitoredPast_unleased :
    ((run SharedMonitorRegistry.step (.create : SharedMonitorRegistry ℕ)
      monitoredPast).entries.all fun entry =>
        ((run SharedMonitorRegistry.step (.create : SharedMonitorRegistry ℕ)
          monitoredPast).store entry.leaseKey).isNone) = true := by
  decide

/-- The delta that arrives then is delivered. -/
theorem delta_without_unexpired_lease :
    ¬ ∀ (events : List (MonitorEvent ℕ)) (event : MonitorEvent ℕ),
      let registry : SharedMonitorRegistry ℕ := run SharedMonitorRegistry.step .create events
      ∀ i c listener update,
        .delivered i c listener update ∈ (registry.step event).log.drop registry.log.length →
          registry.HoldsUnexpiredLease i := by
  intro hclaim
  have hdelivered : .delivered 0 0 0 (.delta 8) ∈
      ((run SharedMonitorRegistry.step (.create : SharedMonitorRegistry ℕ) monitoredPast).step
        (.delta 0 8)).log.drop 1 := by decide
  obtain ⟨entry, generation, hentry, -, -, hstore⟩ :=
    hclaim monitoredPast (.delta 0 8) 0 0 0 (.delta 8) hdelivered
  have hexpired := List.all_eq_true.mp monitoredPast_unleased entry (List.mem_of_getElem? hentry)
  rw [hstore] at hexpired
  cases hexpired

end HyperTrader
