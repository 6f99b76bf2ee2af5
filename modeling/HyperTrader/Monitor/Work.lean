import HyperTrader.Library.Processes
import HyperTrader.Monitor.Registry

/-!
# What the work of one entry leaves alone

The work of an entry, its streams and its timers change that entry, its controllers and
its streams. They leave every other entry alone, and of their own entry the target, the
key, the listeners and whether it is registered; only the calls of the registry and the
answers to releases touch the handles, the releases and the reserved users.
-/

namespace HyperTrader

open Library

variable {ν : Type}

namespace MonitorEntry

structure Same (before after : MonitorEntry ν) : Prop where
  target : after.target = before.target
  leaseKey : after.leaseKey = before.leaseKey
  registered : after.registered = before.registered
  listeners : after.listeners = before.listeners

theorem Same.refl (entry : MonitorEntry ν) : Same entry entry := ⟨rfl, rfl, rfl, rfl⟩

theorem Same.trans {first second third : MonitorEntry ν} (h : Same first second)
    (h' : Same second third) : Same first third :=
  ⟨h'.target.trans h.target, h'.leaseKey.trans h.leaseKey,
    h'.registered.trans h.registered, h'.listeners.trans h.listeners⟩

end MonitorEntry

namespace SharedMonitorRegistry

open MonitorEntry

structure Worked (i : ℕ) (before after : SharedMonitorRegistry ν) : Prop where
  others : ∀ j, j ≠ i → after.entries[j]? = before.entries[j]?
  entry : ∀ old, before.entries[i]? = some old →
    ∃ new, after.entries[i]? = some new ∧ Same old new
  absent : before.entries[i]? = none → after.entries[i]? = none
  handles : after.handles = before.handles
  releases : after.releases = before.releases
  uniqueUsers : after.uniqueUsers = before.uniqueUsers

variable {registry : SharedMonitorRegistry ν} {i : ℕ}

theorem Worked.refl (i : ℕ) (registry : SharedMonitorRegistry ν) : Worked i registry registry :=
  ⟨fun _ _ => rfl, fun old h => ⟨old, h, .refl old⟩, id, rfl, rfl, rfl⟩

theorem Worked.trans {first second third : SharedMonitorRegistry ν}
    (h : Worked i first second) (h' : Worked i second third) : Worked i first third where
  others j hj := (h'.others j hj).trans (h.others j hj)
  entry old hold := by
    obtain ⟨middle, hmiddle, hsame⟩ := h.entry old hold
    obtain ⟨new, hnew, hsame'⟩ := h'.entry middle hmiddle
    exact ⟨new, hnew, hsame.trans hsame'⟩
  absent hnone := h'.absent (h.absent hnone)
  handles := h'.handles.trans h.handles
  releases := h'.releases.trans h.releases
  uniqueUsers := h'.uniqueUsers.trans h.uniqueUsers

variable {before after : SharedMonitorRegistry ν} {j : ℕ} {entries : List (MonitorEntry ν)}
  {entry : MonitorEntry ν} {f : MonitorEntry ν → MonitorEntry ν}
  {motive : SharedMonitorRegistry ν → Prop}

theorem Worked.forward (h : Worked i before after)
    {old : MonitorEntry ν} (hold : before.entries[j]? = some old) :
    ∃ new, after.entries[j]? = some new ∧ Same old new := by
  by_cases hj : j = i
  · subst hj
    exact h.entry old hold
  · exact ⟨old, by rw [h.others j hj, hold], .refl old⟩

theorem Worked.backward (h : Worked i before after)
    {new : MonitorEntry ν} (hnew : after.entries[j]? = some new) :
    ∃ old, before.entries[j]? = some old ∧ Same old new := by
  by_cases hj : j = i
  · subst hj
    cases hold : before.entries[j]? with
    | none =>
      rw [h.absent hold] at hnew
      cases hnew
    | some old =>
      obtain ⟨new', hnew', hsame⟩ := h.entry old hold
      obtain rfl : new' = new := Option.some.inj (hnew'.symm.trans hnew)
      exact ⟨old, rfl, hsame⟩
  · exact ⟨new, by rw [← h.others j hj, hnew], .refl new⟩

theorem getElem?_modify_self (h : entries[i]? = some entry) (f : MonitorEntry ν → MonitorEntry ν) :
    (entries.modify i f)[i]? = some (f entry) := by
  simp [h]

theorem modify_entry (h : registry.entries[i]? = some entry) (f : MonitorEntry ν → MonitorEntry ν) :
    (registry.modify i f).entries[i]? = some (f entry) :=
  getElem?_modify_self h f

theorem getElem?_modify_of_ne (h : j ≠ i)
    (f : MonitorEntry ν → MonitorEntry ν) : (entries.modify i f)[j]? = entries[j]? := by
  simp [h.symm]

theorem worked_of_modify (hentries : after.entries = registry.entries.modify i f)
    (hf : ∀ entry, Same entry (f entry)) (hhandles : after.handles = registry.handles)
    (hreleases : after.releases = registry.releases)
    (husers : after.uniqueUsers = registry.uniqueUsers) : Worked i registry after where
  others j hj := by rw [hentries, getElem?_modify_of_ne hj]
  entry old hold := ⟨f old, by rw [hentries, getElem?_modify_self hold], hf old⟩
  absent hnone := by
    rw [hentries]
    simp [hnone]
  handles := hhandles
  releases := hreleases
  uniqueUsers := husers

theorem worked_of_entries (i : ℕ) (hentries : after.entries = registry.entries)
    (hhandles : after.handles = registry.handles) (hreleases : after.releases = registry.releases)
    (husers : after.uniqueUsers = registry.uniqueUsers) : Worked i registry after where
  others j _ := by rw [hentries]
  entry old hold := ⟨old, by rw [hentries, hold], .refl old⟩
  absent hnone := by rw [hentries, hnone]
  handles := hhandles
  releases := hreleases
  uniqueUsers := husers

theorem worked_modify
    (hf : ∀ entry, Same entry (f entry)) (registry : SharedMonitorRegistry ν) (i : ℕ) :
    Worked i registry (registry.modify i f) :=
  worked_of_modify rfl hf rfl rfl rfl

theorem same_atStage (stage : ReconcileStage) (entry : MonitorEntry ν) :
    Same entry (entry.atStage stage) := ⟨rfl, rfl, rfl, rfl⟩

theorem same_done (entry : MonitorEntry ν) : Same entry entry.done := ⟨rfl, rfl, rfl, rfl⟩

theorem same_armed (now : ℤ) (entry : MonitorEntry ν) : Same entry (entry.armed now) :=
  ⟨rfl, rfl, rfl, rfl⟩

theorem same_unleased (entry : MonitorEntry ν) : Same entry entry.unleased :=
  ⟨rfl, rfl, rfl, rfl⟩

theorem worked_stopStream (registry : SharedMonitorRegistry ν) (i : ℕ)
    (entry : MonitorEntry ν) : Worked i registry (registry.stopStream i entry) :=
  worked_of_modify rfl (fun _ => ⟨rfl, rfl, rfl, rfl⟩) rfl rfl rfl

theorem worked_publish (registry : SharedMonitorRegistry ν) (i controller : ℕ)
    (entry : MonitorEntry ν) (update : MonitorUpdate ν) :
    Worked i registry (registry.publish i controller entry update) :=
  worked_of_entries i rfl rfl rfl rfl

theorem worked_lose (registry : SharedMonitorRegistry ν) (i : ℕ) :
    Worked i registry (registry.lose i) :=
  worked_of_entries i rfl rfl rfl rfl

theorem worked_startStream (registry : SharedMonitorRegistry ν) (i : ℕ)
    (authorizes : Bool) (entry : MonitorEntry ν) :
    Worked i registry (registry.startStream i authorizes entry) := by
  unfold startStream
  split
  · exact worked_modify same_done registry i
  · exact worked_of_modify rfl (fun _ => ⟨rfl, rfl, rfl, rfl⟩) rfl rfl rfl

theorem worked_openStream (registry : SharedMonitorRegistry ν) (i controller : ℕ) :
    Worked i registry (registry.openStream i controller) :=
  worked_of_modify rfl (same_atStage _) rfl rfl rfl

theorem worked_reconcileEntry (authorizes : Bool) (now : ℤ)
    (registry : SharedMonitorRegistry ν) (i : ℕ) :
    Worked i registry (reconcileEntry authorizes now registry i) := by
  have hstarting : ∀ stage, Worked i registry (registry.modify i fun entry =>
      { entry with reconciling := some ⟨authorizes, stage⟩ }) := by
    intro stage
    apply worked_modify
    intro entry
    exact ⟨rfl, rfl, rfl, rfl⟩
  unfold reconcileEntry
  cases registry.entries[i]? with
  | none => exact .refl i registry
  | some entry =>
    dsimp only
    split
    · exact .refl i registry
    · cases entry.leaseGeneration with
      | none => exact hstarting _
      | some generation =>
        dsimp only
        split
        · exact hstarting _
        · exact worked_startStream registry i authorizes entry

theorem worked_authorized (registry : SharedMonitorRegistry ν) (i : ℕ)
    (entry : MonitorEntry ν) (stage : ReconcileStage) (answer : Option Bool) :
    Worked i registry (registry.authorized i entry stage answer) := by
  have hstage := fun next => worked_modify (same_atStage next) registry i
  have hdone := worked_modify same_done registry i
  unfold authorized
  split
  · exact hstage _
  · exact hstage _
  · exact hstage _
  · exact worked_openStream registry i _
  · exact (worked_stopStream registry i entry).trans (worked_modify same_done _ i)
  · exact (worked_stopStream registry i entry).trans (worked_modify same_done _ i)
  · exact hdone
  · exact hdone
  · exact hdone
  · exact .refl i registry

theorem worked_leaseAnswered (registry : SharedMonitorRegistry ν) (i : ℕ)
    (entry : MonitorEntry ν) (work : ReconcileWork) (now : ℤ) :
    Worked i registry (registry.leaseAnswered i entry work now) := by
  have hdone := worked_modify same_done registry i
  unfold leaseAnswered
  split
  · rename_i generation _
    have harmed : Worked i registry (registry.modify i fun entry =>
        ({ entry with leaseGeneration := some generation }).armed now) := by
      apply worked_modify
      intro entry
      exact ⟨rfl, rfl, rfl, rfl⟩
    exact harmed.trans (worked_startStream _ i work.authorizes entry)
  · exact hdone
  · exact (worked_modify (same_armed now) registry i).trans
      (worked_startStream _ i work.authorizes entry)
  · have hlost := (worked_modify same_unleased registry i).trans
      (worked_stopStream _ i entry)
    exact (hlost.trans (worked_lose _ i)).trans (worked_modify same_done _ i)
  · exact hdone
  · exact .refl i registry

theorem worked_loaded (registry : SharedMonitorRegistry ν) (i : ℕ)
    (entry : MonitorEntry ν) (authorizes : Bool) (controller : ℕ) (snapshot : Option ν) :
    Worked i registry (registry.loaded i entry authorizes controller snapshot) := by
  cases snapshot with
  | none => exact (worked_stopStream registry i entry).trans (worked_modify same_done _ i)
  | some snapshot =>
    unfold loaded
    dsimp only
    split
    · exact worked_modify same_done registry i
    · have haccepted : Worked i registry (registry.modify i fun entry =>
          { entry with baselineAccepted := true, baselineValue := some snapshot }) := by
        apply worked_modify
        intro entry
        exact ⟨rfl, rfl, rfl, rfl⟩
      have hpublished := haccepted.trans
        (worked_publish _ i controller entry (.baseline snapshot))
      split
      · exact hpublished.trans (worked_modify (same_atStage _) _ i)
      · exact hpublished.trans (worked_openStream _ i controller)

theorem worked_streamOpened (registry : SharedMonitorRegistry ν) (i : ℕ)
    (entry : MonitorEntry ν) (s : ℕ) (stream : MonitorStream) (resolves : Bool) :
    Worked i registry (registry.streamOpened i entry s stream resolves) := by
  unfold streamOpened
  split
  · have hclosed : Worked i registry { registry with
        streams := registry.streams.set s { stream with stage := .closed } } :=
      worked_of_entries i rfl rfl rfl rfl
    exact (hclosed.trans (worked_stopStream _ i entry)).trans (worked_modify same_done _ i)
  · split
    · exact worked_of_modify rfl same_done rfl rfl rfl
    · exact worked_of_modify rfl (fun _ => ⟨rfl, rfl, rfl, rfl⟩) rfl rfl rfl

theorem worked_acquireServed (registry : SharedMonitorRegistry ν) (i : ℕ)
    (entry : MonitorEntry ν) (answer : AcquireAnswer) :
    Worked i registry (registry.acquireServed i entry answer) := by
  have hstage := fun next => worked_modify (same_atStage next) registry i
  unfold acquireServed
  split
  · split
    · exact .refl i registry
    · exact worked_of_modify rfl (same_atStage _) rfl rfl rfl
  · exact hstage _
  · exact hstage _

theorem worked_renewServed (registry : SharedMonitorRegistry ν) (i : ℕ)
    (entry : MonitorEntry ν) (generation : Option ℕ) (rejects : Bool) :
    Worked i registry (registry.renewServed i entry generation rejects) :=
  worked_modify (same_atStage _) registry i

theorem worked_leaseExpired (registry : SharedMonitorRegistry ν) (i : ℕ) (entry : MonitorEntry ν) :
    Worked i registry (((registry.modify i .unleased).stopStream i entry).lose i) :=
  ((worked_modify same_unleased registry i).trans (worked_stopStream _ i entry)).trans
    (worked_lose _ i)

/-! ### The calls -/

variable {key : String}

theorem not_registered_of_get {i : ℕ}
    (h : registry.get key = none) (hentry : registry.entries[i]? = some entry)
    (hkey : entry.leaseKey = key) : entry.registered = false := by
  have hnone := List.findIdx?_eq_none_iff.mp h entry (List.mem_of_getElem? hentry)
  simpa [hkey] using hnone

theorem get_some {i : ℕ} (h : registry.get key = some i) :
    ∃ entry, registry.entries[i]? = some entry ∧ entry.registered = true ∧
      entry.leaseKey = key := by
  obtain ⟨hlt, hfound, -⟩ := List.findIdx?_eq_some_iff_getElem.mp h
  simp only [Bool.and_eq_true, beq_iff_eq] at hfound
  exact ⟨_, List.getElem?_eq_getElem hlt, hfound⟩

theorem lookup_some (h : registry.lookup key = some (i, entry)) :
    registry.entries[i]? = some entry ∧ entry.registered = true ∧ entry.leaseKey = key := by
  unfold lookup at h
  rw [Option.bind_eq_some_iff] at h
  obtain ⟨j, hget, hmap⟩ := h
  obtain ⟨found, hfound, hpair⟩ := Option.map_eq_some_iff.mp hmap
  cases hpair
  obtain ⟨entry', hentry', hfacts⟩ := get_some hget
  obtain rfl : entry' = entry := Option.some.inj (hentry'.symm.trans hfound)
  exact ⟨hfound, hfacts⟩

theorem get_of_lookup_none (h : registry.lookup key = none) : registry.get key = none := by
  unfold lookup at h
  cases hget : registry.get key with
  | none => rfl
  | some i =>
    obtain ⟨entry, hentry, -⟩ := get_some hget
    rw [hget, Option.bind_some, hentry] at h
    cases h

theorem subscribe_cases {target : MonitorTarget} {listener : ℕ}
    {subscribed : SharedMonitorRegistry ν}
    (h : registry.subscribe target listener = .ok subscribed) :
    (∃ i entry, registry.entries[i]? = some entry ∧ subscribed = registry.join i entry listener) ∨
    ∃ normalized uniqueUsers, registry.lookup (monitorLeaseKey normalized) = none ∧
      registry.reserve normalized = .ok (some uniqueUsers) ∧
      subscribed = { registry with
        uniqueUsers := uniqueUsers
        entries := registry.entries ++ [MonitorEntry.created normalized] }.join
          registry.entries.length (MonitorEntry.created normalized) listener := by
  simp only [SharedMonitorRegistry.subscribe, except_bind_eq_ok] at h
  obtain ⟨normalized, -, h⟩ := h
  cases hlookup : registry.lookup (monitorLeaseKey normalized) with
  | some found =>
    rw [hlookup] at h
    cases h
    exact .inl ⟨found.1, found.2, (lookup_some hlookup).1, rfl⟩
  | none =>
    rw [hlookup] at h
    simp only [except_bind_eq_ok] at h
    obtain ⟨reserved, hreserved, h⟩ := h
    cases reserved with
    | none => cases h
    | some uniqueUsers =>
      cases h
      exact .inr ⟨normalized, uniqueUsers, hlookup, hreserved, rfl⟩

/-! ### What a step does -/

inductive Move (registry : SharedMonitorRegistry ν) :
    MonitorEvent ν → SharedMonitorRegistry ν → Prop
  | nothing (event : MonitorEvent ν) : Move registry event registry
  | joined (target : MonitorTarget) (listener i : ℕ) (entry : MonitorEntry ν)
      (hentry : registry.entries[i]? = some entry) :
      Move registry (.subscribe target listener) (registry.join i entry listener)
  | created (target normalized : MonitorTarget) (listener : ℕ) (uniqueUsers : List String)
      (hlookup : registry.lookup (monitorLeaseKey normalized) = none)
      (hreserved : registry.reserve normalized = .ok (some uniqueUsers)) :
      Move registry (.subscribe target listener) ({ registry with
        uniqueUsers := uniqueUsers
        entries := registry.entries ++ [MonitorEntry.created normalized] }.join
          registry.entries.length (MonitorEntry.created normalized) listener)
  | left (h : ℕ) (handle : MonitorHandle) (hhandle : registry.handles[h]? = some handle)
      (hopen : handle.released = false) :
      Move registry (.unsubscribe h) (registry.unsubscribe h handle)
  | reconciled (authorizes : Bool) (now : ℤ) :
      Move registry (.reconcile authorizes now) (registry.step (.reconcile authorizes now))
  | closed : Move registry .close (registry.step .close)
  | authorized (i : ℕ) (entry : MonitorEntry ν) (work : ReconcileWork) (answer : Option Bool)
      (hentry : registry.entries[i]? = some entry) (hwork : entry.reconciling = some work) :
      Move registry (.authorized i answer) (registry.authorized i entry work.stage answer)
  | acquireServed (i : ℕ) (entry : MonitorEntry ν) (authorizes : Bool) (answer : AcquireAnswer)
      (hentry : registry.entries[i]? = some entry)
      (hwork : entry.reconciling = some ⟨authorizes, .acquiring none⟩) :
      Move registry (.acquireServed i answer) (registry.acquireServed i entry answer)
  | renewServed (i : ℕ) (entry : MonitorEntry ν) (authorizes : Bool) (generation : Option ℕ)
      (rejects : Bool) (hentry : registry.entries[i]? = some entry)
      (hwork : entry.reconciling = some ⟨authorizes, .renewing generation none⟩) :
      Move registry (.renewServed i rejects) (registry.renewServed i entry generation rejects)
  | leaseAnswered (i : ℕ) (entry : MonitorEntry ν) (work : ReconcileWork) (now : ℤ)
      (hentry : registry.entries[i]? = some entry) (hwork : entry.reconciling = some work) :
      Move registry (.leaseAnswered i now) (registry.leaseAnswered i entry work now)
  | loaded (i : ℕ) (entry : MonitorEntry ν) (authorizes : Bool) (c : ℕ) (snapshot : Option ν)
      (hentry : registry.entries[i]? = some entry)
      (hwork : entry.reconciling = some ⟨authorizes, .loading c⟩) :
      Move registry (.loaded i snapshot) (registry.loaded i entry authorizes c snapshot)
  | streamOpened (i : ℕ) (entry : MonitorEntry ν) (authorizes : Bool) (s : ℕ)
      (stream : MonitorStream) (resolves : Bool) (hentry : registry.entries[i]? = some entry)
      (hwork : entry.reconciling = some ⟨authorizes, .opening s⟩)
      (hstream : registry.streams[s]? = some stream) :
      Move registry (.streamOpened i resolves) (registry.streamOpened i entry s stream resolves)
  | delta (s : ℕ) (stream : MonitorStream) (i : ℕ) (entry : MonitorEntry ν) (value : ν)
      (hstream : registry.streams[s]? = some stream)
      (howner : registry.owner stream = some (i, entry))
      (haccepted : entry.baselineAccepted = true)
      (hlive : registry.aborted stream.controller = false) :
      Move registry (.delta s value) (registry.publish i stream.controller entry (.delta value))
  | gap (s : ℕ) (stream : MonitorStream) (i : ℕ) (entry : MonitorEntry ν)
      (hstream : registry.streams[s]? = some stream)
      (howner : registry.owner stream = some (i, entry)) :
      Move registry (.gap s) ((registry.stopStream i entry).lose i)
  | leaseExpired (i : ℕ) (entry : MonitorEntry ν) (hentry : registry.entries[i]? = some entry)
      (harmed : entry.leaseExpiry ≠ none) :
      Move registry (.leaseExpired i)
        (((registry.modify i .unleased).stopStream i entry).lose i)
  | releaseKept (r : ℕ) (release : LeaseRelease) (rejects : Bool)
      (hrelease : registry.releases[r]? = some release) (hanswer : release.answer = none)
      (hkept : rejects = true ∨ registry.store release.leaseKey ≠ some release.generation) :
      Move registry (.releaseServed r rejects) { registry with
        releases := registry.releases.set r { release with answer := some (!rejects) } }
  | releaseCleared (r : ℕ) (release : LeaseRelease)
      (hrelease : registry.releases[r]? = some release) (hanswer : release.answer = none) :
      Move registry (.releaseServed r false) ({ registry with
        releases := registry.releases.set r { release with answer := some true } }.clear
          release.leaseKey)
  | releaseSettled (r : ℕ) (release : LeaseRelease) (uniqueUsers : List String)
      (hrelease : registry.releases[r]? = some release) (hanswer : release.answer ≠ none) :
      Move registry (.releaseSettled r) { registry with
        releases := registry.releases.set r { release with settled := true }
        uniqueUsers := uniqueUsers }
  | storeExpired (key : String) : Move registry (.storeExpired key) (registry.clear key)

theorem owner_some {stream : MonitorStream} (h : registry.owner stream = some (i, entry)) :
    registry.entries[i]? = some entry ∧
      ∃ controller, registry.controllers[stream.controller]? = some controller ∧
        controller.entry = i := by
  unfold owner at h
  rw [Option.bind_eq_some_iff] at h
  obtain ⟨controller, hcontroller, hmap⟩ := h
  obtain ⟨found, hfound, hpair⟩ := Option.map_eq_some_iff.mp hmap
  cases hpair
  exact ⟨hfound, controller, hcontroller, rfl⟩

/-- Every event moves the registry in one of the ways of `Move`. -/
theorem move_step (registry : SharedMonitorRegistry ν) (event : MonitorEvent ν) :
    Move registry event (registry.step event) := by
  have hnothing : Move registry event registry := .nothing event
  cases event with
  | subscribe target listener =>
    unfold step
    dsimp only
    split
    · rename_i subscribed hsubscribe
      rcases subscribe_cases hsubscribe with ⟨i, entry, hentry, rfl⟩ |
          ⟨normalized, uniqueUsers, hlookup, hreserved, rfl⟩
      · exact .joined target listener i entry hentry
      · exact .created target normalized listener uniqueUsers hlookup hreserved
    · exact hnothing
  | unsubscribe h =>
    unfold step
    dsimp only
    split
    · exact hnothing
    · rename_i handle hhandle
      split
      · exact hnothing
      · rename_i hopen
        exact .left h handle hhandle (Bool.not_eq_true _ ▸ hopen)
  | reconcile authorizes now => exact .reconciled authorizes now
  | close => exact .closed
  | authorized i answer =>
    unfold step
    dsimp only
    split
    · exact hnothing
    · rename_i entry hentry
      split
      · exact hnothing
      · rename_i work hwork
        exact .authorized i entry work answer hentry hwork
  | acquireServed i answer =>
    unfold step
    dsimp only
    split
    · exact hnothing
    · rename_i entry hentry
      split
      · rename_i authorizes hwork
        exact .acquireServed i entry authorizes answer hentry hwork
      · exact hnothing
  | renewServed i rejects =>
    unfold step
    dsimp only
    split
    · exact hnothing
    · rename_i entry hentry
      split
      · rename_i authorizes generation hwork
        exact .renewServed i entry authorizes generation rejects hentry hwork
      · exact hnothing
  | leaseAnswered i now =>
    unfold step
    dsimp only
    split
    · exact hnothing
    · rename_i entry hentry
      split
      · exact hnothing
      · rename_i work hwork
        exact .leaseAnswered i entry work now hentry hwork
  | loaded i snapshot =>
    unfold step
    dsimp only
    split
    · exact hnothing
    · rename_i entry hentry
      split
      · rename_i authorizes c hwork
        exact .loaded i entry authorizes c snapshot hentry hwork
      · exact hnothing
  | streamOpened i resolves =>
    unfold step
    dsimp only
    split
    · exact hnothing
    · rename_i entry hentry
      split
      · rename_i authorizes s hwork
        split
        · exact hnothing
        · rename_i stream hstream
          exact .streamOpened i entry authorizes s stream resolves hentry hwork hstream
      · exact hnothing
  | delta s value =>
    unfold step
    dsimp only
    split
    · exact hnothing
    · rename_i stream hstream
      split
      · exact hnothing
      · rename_i i entry howner
        split
        · exact hnothing
        · rename_i hopen
          rw [not_or, Bool.not_eq_false, Bool.not_eq_true] at hopen
          exact .delta s stream i entry value hstream howner hopen.1 hopen.2
  | gap s =>
    unfold step
    dsimp only
    split
    · exact hnothing
    · rename_i stream hstream
      split
      · exact hnothing
      · rename_i i entry howner
        split
        · exact hnothing
        · exact .gap s stream i entry hstream howner
  | leaseExpired i =>
    unfold step
    dsimp only
    split
    · exact hnothing
    · rename_i entry hentry
      split
      · exact hnothing
      · rename_i harmed
        exact .leaseExpired i entry hentry harmed
  | releaseServed r rejects =>
    unfold step
    dsimp only
    split
    · exact hnothing
    · rename_i release hrelease
      split
      · exact hnothing
      · rename_i hopen
        rw [Bool.not_eq_true, Option.isSome_eq_false_iff, Option.isNone_iff_eq_none] at hopen
        split
        · rename_i hheld
          rw [Bool.and_eq_true, Bool.not_eq_true'] at hheld
          obtain ⟨rfl, -⟩ := hheld
          exact .releaseCleared r release hrelease hopen
        · rename_i hheld
          refine .releaseKept r release rejects hrelease hopen ?_
          cases rejects with
          | true => exact .inl rfl
          | false => exact .inr (by simpa using hheld)
  | releaseSettled r =>
    unfold step
    dsimp only
    split
    · exact hnothing
    · rename_i release hrelease
      split
      · exact hnothing
      · rename_i hopen
        rw [not_or] at hopen
        split
        · exact .releaseSettled r release _ hrelease hopen.1
        · exact .releaseSettled r release _ hrelease hopen.1
  | storeExpired key => exact .storeExpired key

def isCall : MonitorEvent ν → Bool
  | .subscribe .. | .unsubscribe _ | .reconcile .. | .close | .releaseServed ..
  | .releaseSettled _ => true
  | .authorized .. | .acquireServed .. | .renewServed .. | .leaseAnswered .. | .loaded ..
  | .streamOpened .. | .delta .. | .gap _ | .leaseExpired _ | .storeExpired _ => false

theorem worked_step (registry : SharedMonitorRegistry ν) {event : MonitorEvent ν}
    (h : isCall event = false) : ∃ i, Worked i registry (registry.step event) := by
  have hmove := move_step registry event
  generalize registry.step event = after at hmove ⊢
  cases hmove with
  | nothing event => exact ⟨0, .refl 0 registry⟩
  | joined target listener i entry hentry => cases h
  | created target normalized listener uniqueUsers hlookup hreserved => cases h
  | left n handle => cases h
  | reconciled authorizes now => cases h
  | closed => cases h
  | authorized i entry work answer hentry hwork =>
    exact ⟨i, worked_authorized registry i entry work.stage answer⟩
  | acquireServed i entry authorizes answer hentry hwork =>
    exact ⟨i, worked_acquireServed registry i entry answer⟩
  | renewServed i entry authorizes generation rejects hentry hwork =>
    exact ⟨i, worked_renewServed registry i entry generation rejects⟩
  | leaseAnswered i entry work now hentry hwork =>
    exact ⟨i, worked_leaseAnswered registry i entry work now⟩
  | loaded i entry authorizes c snapshot hentry hwork =>
    exact ⟨i, worked_loaded registry i entry authorizes c snapshot⟩
  | streamOpened i entry authorizes s stream resolves hentry hwork hstream =>
    exact ⟨i, worked_streamOpened registry i entry s stream resolves⟩
  | delta s stream i entry value hstream howner haccepted hlive =>
    exact ⟨i, worked_publish registry i _ entry _⟩
  | gap s stream i entry hstream howner =>
    exact ⟨i, (worked_stopStream registry i entry).trans (worked_lose _ i)⟩
  | leaseExpired i entry hentry harmed => exact ⟨i, worked_leaseExpired registry i entry⟩
  | releaseKept r release rejects hrelease hanswer hkept => cases h
  | releaseCleared r release hrelease hanswer => cases h
  | releaseSettled r release uniqueUsers hrelease hanswer => cases h
  | storeExpired key => exact ⟨0, worked_of_entries 0 rfl rfl rfl rfl⟩

theorem reconcile_induction (hstep : ∀ registry i authorizes now, motive registry →
      motive (reconcileEntry authorizes now registry i))
    (h : motive registry) (authorizes : Bool) (now : ℤ) :
    motive (registry.step (.reconcile authorizes now)) :=
  List.foldlRecOn _ _ h fun before hbefore i _ => hstep before i authorizes now hbefore

theorem close_induction (hstep : ∀ registry i, motive registry → motive (closeEntry registry i))
    (h : motive registry) : motive (registry.step .close) :=
  List.foldlRecOn _ _ h fun before hbefore i _ => hstep before i hbefore

end SharedMonitorRegistry

end HyperTrader
