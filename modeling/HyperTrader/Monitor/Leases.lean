import HyperTrader.Monitor.Deliveries

/-!
# The leases that the registry holds

While a key has an entry, its lease may be renewed, or run out. Once it has none, the row
that the store keeps of it is on its way to be released: the grant of an acquisition, or
the answer to a release, has not arrived. An entry that was removed while its acquisition
was under way takes the lease all the same, and nothing releases it then; nor is the row
released of an entry that is removed after its own timer has fired, or whose release is
rejected. When none of these happens to a key, it is left with no lease, and in any case
with no stream.
-/

namespace HyperTrader

open Library

variable {ν : Type}

/-- The store has granted the entry a lease, and the answer has not arrived. -/
def MonitorEntry.grants (entry : MonitorEntry ν) (generation : ℕ) : Bool :=
  match entry.reconciling with
  | some ⟨_, .acquiring (some (.granted other))⟩ => other == generation
  | _ => false

namespace SharedMonitorRegistry

open MonitorEntry

def UnderWay (registry : SharedMonitorRegistry ν) (key : String) (generation : ℕ) : Prop :=
  (∃ entry ∈ registry.entries, entry.leaseKey = key ∧ entry.grants generation = true) ∨
  ∃ release ∈ registry.releases,
    release.leaseKey = key ∧ release.generation = generation ∧ release.answer = none

instance (registry : SharedMonitorRegistry ν) (key : String) (generation : ℕ) :
    Decidable (registry.UnderWay key generation) := inferInstanceAs (Decidable (_ ∨ _))

/-- An entry of the key that is removed would leave no row behind: the store keeps none,
or the entry releases it, or it is under way. -/
def knowsLease (registry : SharedMonitorRegistry ν) (key : String)
    (entry : MonitorEntry ν) : Bool :=
  (registry.store key).all fun generation =>
    entry.leaseGeneration == some generation || decide (registry.UnderWay key generation)

/-- The step orphans no lease of the key: no grant that the store still keeps arrives for
a removed entry, no entry is removed that does not know of the row the store keeps, and no
release of that row is rejected; unless something else is there to release it. -/
def KeepsLease (key : String) (registry : SharedMonitorRegistry ν) : MonitorEvent ν → Bool
  | .leaseAnswered i _ =>
    (registry.entries[i]?).all fun entry =>
      entry.leaseKey != key || entry.registered || (registry.get key).isSome ||
        (registry.store key).all fun generation =>
          !entry.grants generation || decide ((registry.modify i .done).UnderWay key generation)
  | .unsubscribe h =>
    (registry.handles[h]?).all fun handle =>
      handle.released || handle.leaseKey != key || (registry.lookup key).all fun found =>
        !(found.2.listeners.filter fun other => other ≠ handle.listener).isEmpty ||
          registry.knowsLease key found.2
  | .close =>
    registry.entries.all fun entry =>
      !entry.registered || entry.leaseKey != key || registry.knowsLease key entry
  | .releaseServed r true =>
    (registry.releases[r]?).all fun release =>
      release.answer.isSome || release.leaseKey != key || (registry.get key).isSome ||
        (registry.store key).all fun generation => decide (release.generation ≠ generation) ||
          decide (UnderWay { registry with
            releases := registry.releases.set r { release with answer := some false } }
              key generation)
  | _ => true

/-- The row of a key without an entry is under way. -/
structure Held (key : String) (registry : SharedMonitorRegistry ν) : Prop where
  covered : registry.get key = none → ∀ generation, registry.store key = some generation →
    registry.UnderWay key generation
  answered : ∀ release ∈ registry.releases, release.settled = true → release.answer ≠ none

theorem held_create (key : String) : Held key (create : SharedMonitorRegistry ν) where
  covered _ generation h := by simp [create] at h
  answered release h := absurd h List.not_mem_nil

variable {key : String} {registry after : SharedMonitorRegistry ν} {i : ℕ}
  {entry new : MonitorEntry ν} {generation : ℕ}

theorem get_none_iff : registry.get key = none ↔
    ∀ entry ∈ registry.entries, entry.leaseKey = key → entry.registered = false := by
  constructor
  · intro h entry hmem hkey
    obtain ⟨j, hj⟩ := List.mem_iff_getElem?.mp hmem
    exact not_registered_of_get h hj hkey
  · intro h
    refine List.findIdx?_eq_none_iff.mpr fun entry hmem => ?_
    by_cases hkey : entry.leaseKey = key
    · simp [h entry hmem hkey]
    · simp [hkey]

theorem grants_eq_true (h : entry.grants generation = true) :
    ∃ authorizes,
      entry.reconciling = some ⟨authorizes, .acquiring (some (.granted generation))⟩ := by
  unfold MonitorEntry.grants at h
  split at h
  · rename_i authorizes other hwork
    rw [beq_iff_eq.mp h] at hwork
    exact ⟨authorizes, hwork⟩
  · cases h

theorem grants_of_work {work : ReconcileWork} (hwork : entry.reconciling = some work)
    (hstage : ∀ other, work.stage ≠ .acquiring (some (.granted other))) :
    entry.grants generation = false := by
  by_contra hgrants
  obtain ⟨authorizes, hgranted⟩ := grants_eq_true (Bool.not_eq_false _ ▸ hgrants)
  rw [hwork] at hgranted
  cases hgranted
  exact hstage generation rfl

theorem grants_same (hwork : new.reconciling = entry.reconciling) (generation : ℕ) :
    new.grants generation = entry.grants generation := by
  unfold MonitorEntry.grants
  rw [hwork]

/-- What covers the row of a key is kept, and no entry of it goes. -/
theorem Held.keep (h : Held key registry)
    (hget : after.get key = none → registry.get key = none)
    (hstore : after.store = registry.store)
    (hway : registry.get key = none → ∀ generation, registry.store key = some generation →
      registry.UnderWay key generation → after.UnderWay key generation)
    (hreleases : after.releases = registry.releases) : Held key after where
  covered hnone generation hheld := by
    rw [hstore] at hheld
    exact hway (hget hnone) generation hheld (h.covered (hget hnone) generation hheld)
  answered := by
    rw [hreleases]
    exact h.answered

theorem get_none_of_forward (hforward : ∀ (j : ℕ) (old : MonitorEntry ν),
      registry.entries[j]? = some old → ∃ new, after.entries[j]? = some new ∧
        new.leaseKey = old.leaseKey ∧ new.registered = old.registered)
    (h : after.get key = none) : registry.get key = none := by
  refine get_none_iff.mpr fun old hold hkey => ?_
  obtain ⟨j, hj⟩ := List.mem_iff_getElem?.mp hold
  obtain ⟨new, hnew, hsame, hregistered⟩ := hforward j old hj
  rw [← hregistered]
  exact get_none_iff.mp h new (List.mem_of_getElem? hnew) (hsame.trans hkey)

/-- One entry changed, and its grant, if it waits for one, is still on its way. -/
theorem underWay_of_others (hothers : ∀ j, j ≠ i → after.entries[j]? = registry.entries[j]?)
    (hentry : registry.entries[i]? = some entry) (hnew : after.entries[i]? = some new)
    (hkey : new.leaseKey = entry.leaseKey)
    (hgrants : entry.leaseKey = key → entry.grants generation = true →
      new.grants generation = true)
    (hreleases : ∀ release ∈ registry.releases, release ∈ after.releases)
    (h : registry.UnderWay key generation) : after.UnderWay key generation := by
  rcases h with ⟨old, hold, hsame, hgranted⟩ | ⟨release, hmem, hfacts⟩
  · obtain ⟨j, hj⟩ := List.mem_iff_getElem?.mp hold
    by_cases hij : j = i
    · subst hij
      obtain rfl : entry = old := Option.some.inj (hentry.symm.trans hj)
      exact .inl ⟨new, List.mem_of_getElem? hnew, hkey.trans hsame, hgrants hsame hgranted⟩
    · rw [← hothers j hij] at hj
      exact .inl ⟨old, List.mem_of_getElem? hj, hsame, hgranted⟩
  · exact .inr ⟨release, hreleases release hmem, hfacts⟩

theorem Held.worked (h : Held key registry) (hworked : Worked i registry after)
    (hstore : after.store = registry.store) (hentry : registry.entries[i]? = some entry)
    (hnew : after.entries[i]? = some new)
    (hgrants : ∀ generation, entry.grants generation = true → new.grants generation = true) :
    Held key after := by
  obtain ⟨found, hfound, hsame⟩ := hworked.forward hentry
  obtain rfl : new = found := Option.some.inj (hnew.symm.trans hfound)
  refine h.keep (get_none_of_forward fun j old hold => ?_) hstore ?_ hworked.releases
  · obtain ⟨next, hnext, hkept⟩ := hworked.forward hold
    exact ⟨next, hnext, hkept.leaseKey, hkept.registered⟩
  · intro _ generation _ hway
    exact underWay_of_others hworked.others hentry hnew hsame.leaseKey
      (fun _ => hgrants generation) (fun release hmem => hworked.releases ▸ hmem) hway

/-- The work of an entry that waits for no grant goes on. -/
theorem Held.idle (h : Held key registry) (hworked : Worked i registry after)
    (hstore : after.store = registry.store) (hentry : registry.entries[i]? = some entry)
    (hgrants : ∀ generation, entry.grants generation = false) : Held key after := by
  obtain ⟨new, hnew, -⟩ := hworked.forward hentry
  refine h.worked hworked hstore hentry hnew fun generation hgranted => ?_
  rw [hgrants generation] at hgranted
  cases hgranted

/-! ### The work -/

theorem store_startStream (registry : SharedMonitorRegistry ν) (i : ℕ) (authorizes : Bool)
    (entry : MonitorEntry ν) :
    (registry.startStream i authorizes entry).store = registry.store := by
  unfold startStream
  split
  · rfl
  · rfl

theorem store_authorized (i : ℕ) (entry : MonitorEntry ν) (stage : ReconcileStage)
    (answer : Option Bool) :
    (registry.authorized i entry stage answer).store = registry.store := by
  unfold SharedMonitorRegistry.authorized
  split <;> rfl

theorem store_leaseAnswered (i : ℕ) (entry : MonitorEntry ν) (work : ReconcileWork) (now : ℤ) :
    (registry.leaseAnswered i entry work now).store = registry.store := by
  unfold SharedMonitorRegistry.leaseAnswered
  split
  · exact store_startStream _ _ _ _
  · rfl
  · exact store_startStream _ _ _ _
  · rfl
  · rfl
  · rfl

theorem store_loaded (i : ℕ) (entry : MonitorEntry ν) (authorizes : Bool) (c : ℕ)
    (snapshot : Option ν) :
    (registry.loaded i entry authorizes c snapshot).store = registry.store := by
  cases snapshot with
  | none => rfl
  | some snapshot =>
    unfold SharedMonitorRegistry.loaded
    dsimp only
    split
    · rfl
    · split
      · rfl
      · rfl

theorem store_streamOpened (i : ℕ) (entry : MonitorEntry ν) (s : ℕ) (stream : MonitorStream)
    (resolves : Bool) :
    (registry.streamOpened i entry s stream resolves).store = registry.store := by
  unfold SharedMonitorRegistry.streamOpened
  split
  · rfl
  · split
    · rfl
    · rfl

theorem Held.authorized (h : Held key registry) (hentry : registry.entries[i]? = some entry)
    {work : ReconcileWork} (hwork : entry.reconciling = some work) (answer : Option Bool) :
    Held key (registry.authorized i entry work.stage answer) := by
  by_cases hgranted : ∃ generation, work.stage = .acquiring (some (.granted generation))
  · obtain ⟨generation, hstage⟩ := hgranted
    rw [hstage]
    exact h
  · refine h.idle (worked_authorized registry i entry work.stage answer)
      (store_authorized i entry _ answer) hentry fun generation => ?_
    exact grants_of_work hwork fun other hstage => hgranted ⟨other, hstage⟩

theorem Held.leaseAnswered (h : Held key registry)
    (hentry : registry.entries[i]? = some entry) {work : ReconcileWork}
    (hwork : entry.reconciling = some work) {now : ℤ}
    (hkeeps : registry.KeepsLease key (.leaseAnswered i now) = true) :
    Held key (registry.leaseAnswered i entry work now) := by
  have hworked := worked_leaseAnswered registry i entry work now
  have hstore : (registry.leaseAnswered i entry work now).store = registry.store :=
    store_leaseAnswered i entry work now
  by_cases hgranted : ∃ generation, work.stage = .acquiring (some (.granted generation))
  · -- the grant has arrived: something else covers a row that is kept for a removed entry
    obtain ⟨new, hnew, hsame⟩ := hworked.forward hentry
    refine h.keep (get_none_of_forward fun j old hold => ?_) hstore ?_ hworked.releases
    · obtain ⟨next, hnext, hkept⟩ := hworked.forward hold
      exact ⟨next, hnext, hkept.leaseKey, hkept.registered⟩
    · intro hnone generation hheld hway
      have hreleases : ∀ release ∈ registry.releases,
          release ∈ (registry.leaseAnswered i entry work now).releases :=
        fun release hmem => hworked.releases ▸ hmem
      by_cases hcovers : entry.leaseKey = key ∧ entry.grants generation = true
      · obtain ⟨hkey, hgrants⟩ := hcovers
        have hremoved := not_registered_of_get hnone hentry hkey
        dsimp only [KeepsLease] at hkeeps
        rw [hentry, Option.all_some, hkey, hremoved, hnone, hheld, Option.all_some,
          hgrants] at hkeeps
        simp only [bne_self_eq_false, Option.isSome_none, Bool.or_self, Bool.false_or,
          Bool.not_true, decide_eq_true_eq] at hkeeps
        have hothers : ∀ j, j ≠ i → (registry.leaseAnswered i entry work now).entries[j]? =
            (registry.modify i .done).entries[j]? := by
          intro j hj
          rw [hworked.others j hj]
          exact (getElem?_modify_of_ne hj _).symm
        exact underWay_of_others hothers (modify_entry hentry .done) hnew hsame.leaseKey
          (fun _ hdone => by cases hdone) hreleases hkeeps
      · exact underWay_of_others hworked.others hentry hnew hsame.leaseKey
          (fun hkey hgrants => absurd ⟨hkey, hgrants⟩ hcovers) hreleases hway
  · refine h.idle hworked hstore hentry fun generation => ?_
    exact grants_of_work hwork fun other hstage => hgranted ⟨other, hstage⟩

theorem Held.loaded (h : Held key registry) (hentry : registry.entries[i]? = some entry)
    {authorizes : Bool} {c : ℕ} (hwork : entry.reconciling = some ⟨authorizes, .loading c⟩)
    (snapshot : Option ν) : Held key (registry.loaded i entry authorizes c snapshot) :=
  h.idle (worked_loaded registry i entry authorizes c snapshot)
    (store_loaded i entry authorizes c snapshot) hentry
    fun _ => grants_of_work hwork fun _ => ReconcileStage.noConfusion

theorem Held.streamOpened (h : Held key registry) (hentry : registry.entries[i]? = some entry)
    {authorizes : Bool} {s : ℕ} (hwork : entry.reconciling = some ⟨authorizes, .opening s⟩)
    (stream : MonitorStream) (resolves : Bool) :
    Held key (registry.streamOpened i entry s stream resolves) :=
  h.idle (worked_streamOpened registry i entry s stream resolves)
    (store_streamOpened i entry s stream resolves) hentry
    fun _ => grants_of_work hwork fun _ => ReconcileStage.noConfusion

theorem Held.renewServed (h : Held key registry) (hentry : registry.entries[i]? = some entry)
    {authorizes : Bool} {generation : Option ℕ}
    (hwork : entry.reconciling = some ⟨authorizes, .renewing generation none⟩) (rejects : Bool) :
    Held key (registry.renewServed i entry generation rejects) :=
  h.idle (worked_renewServed registry i entry generation rejects) rfl hentry
    fun _ => grants_of_work hwork fun _ => ReconcileStage.noConfusion

theorem Held.acquireServed (h : Held key registry) (hentry : registry.entries[i]? = some entry)
    {authorizes : Bool} (hwork : entry.reconciling = some ⟨authorizes, .acquiring none⟩)
    (answer : AcquireAnswer) : Held key (registry.acquireServed i entry answer) := by
  have hnone : ∀ generation, entry.grants generation = false :=
    fun _ => grants_of_work hwork fun _ hstage => by cases hstage
  have hanswered : Held key (registry.modify i (.atStage (.acquiring (some answer)))) :=
    h.idle (worked_modify (same_atStage _) registry i) rfl hentry hnone
  cases answer with
  | refused => exact hanswered
  | rejected => exact hanswered
  | granted generation =>
    unfold SharedMonitorRegistry.acquireServed
    dsimp only
    split
    · exact h
    · refine ⟨fun hget other hheld => ?_, hanswered.answered⟩
      dsimp only at hheld
      by_cases hsame : key = entry.leaseKey
      · rw [if_pos hsame] at hheld
        cases hheld
        refine .inl ⟨entry.atStage (.acquiring (some (.granted generation))),
          List.mem_of_getElem? (getElem?_modify_self hentry _), hsame.symm, ?_⟩
        unfold MonitorEntry.grants
        rw [reconciling_atStage hwork]
        exact beq_self_eq_true generation
      · rw [if_neg hsame] at hheld
        exact hanswered.covered hget other hheld

theorem Held.reconcileEntry (h : Held key registry) (authorizes : Bool) (now : ℤ) (i : ℕ) :
    Held key (SharedMonitorRegistry.reconcileEntry authorizes now registry i) := by
  have hworked := worked_reconcileEntry authorizes now registry i
  unfold SharedMonitorRegistry.reconcileEntry at hworked ⊢
  cases hentry : registry.entries[i]? with
  | none => exact h
  | some entry =>
    rw [hentry] at hworked
    dsimp only at hworked ⊢
    split
    · exact h
    · rename_i hidle
      rw [if_neg hidle] at hworked
      rw [not_or, Bool.not_eq_true, Option.isSome_eq_false_iff, Option.isNone_iff_eq_none] at hidle
      refine h.idle hworked ?_ hentry fun generation => ?_
      · split
        · rfl
        · split
          · rfl
          · exact store_startStream _ _ _ _
      · unfold MonitorEntry.grants
        rw [hidle.2]

theorem Held.stopped (h : Held key registry) (hworked : Worked i registry after)
    (hstore : after.store = registry.store) (hentry : registry.entries[i]? = some entry)
    (hnew : after.entries[i]? = some new) (hwork : new.reconciling = entry.reconciling) :
    Held key after :=
  h.worked hworked hstore hentry hnew fun generation hgrants =>
    (grants_same hwork generation).trans hgrants

/-! ### The calls -/

structure Listening (registry after : SharedMonitorRegistry ν) : Prop where
  forward : ∀ (j : ℕ) (old : MonitorEntry ν), registry.entries[j]? = some old →
    ∃ new, after.entries[j]? = some new ∧ new.leaseKey = old.leaseKey ∧
      new.registered = old.registered ∧ new.reconciling = old.reconciling
  store : after.store = registry.store
  releases : after.releases = registry.releases

theorem Listening.underWay (h : Listening registry after)
    (hway : registry.UnderWay key generation) : after.UnderWay key generation := by
  rcases hway with ⟨old, hold, hkey, hgrants⟩ | ⟨release, hmem, hfacts⟩
  · obtain ⟨j, hj⟩ := List.mem_iff_getElem?.mp hold
    obtain ⟨new, hnew, hsame, -, hwork⟩ := h.forward j old hj
    exact .inl ⟨new, List.mem_of_getElem? hnew, hsame.trans hkey,
      (grants_same hwork generation).trans hgrants⟩
  · exact .inr ⟨release, h.releases ▸ hmem, hfacts⟩

theorem Held.listening (h : Held key registry) (hlistening : Listening registry after) :
    Held key after := by
  refine h.keep (get_none_of_forward fun j old hold => ?_) hlistening.store
    (fun _ _ _ hway => hlistening.underWay hway) hlistening.releases
  obtain ⟨new, hnew, hkey, hregistered, -⟩ := hlistening.forward j old hold
  exact ⟨new, hnew, hkey, hregistered⟩

theorem listening_modify {f : MonitorEntry ν → MonitorEntry ν}
    (hentries : after.entries = registry.entries.modify i f)
    (hf : ∀ old, (f old).leaseKey = old.leaseKey ∧ (f old).registered = old.registered ∧
      (f old).reconciling = old.reconciling)
    (hstore : after.store = registry.store) (hreleases : after.releases = registry.releases) :
    Listening registry after := by
  refine ⟨fun j old hold => ?_, hstore, hreleases⟩
  rw [hentries]
  by_cases hj : j = i
  · subst hj
    exact ⟨f old, getElem?_modify_self hold f, hf old⟩
  · exact ⟨old, (getElem?_modify_of_ne hj f).trans hold, rfl, rfl, rfl⟩

theorem knowsLease_of (hstore : after.store = registry.store)
    (hlease : new.leaseGeneration = entry.leaseGeneration)
    (hway : ∀ generation, registry.UnderWay key generation → after.UnderWay key generation)
    (h : registry.knowsLease key entry = true) : after.knowsLease key new = true := by
  unfold knowsLease at h ⊢
  rw [hstore, hlease]
  cases hkey : registry.store key with
  | none => rfl
  | some generation =>
    rw [hkey, Option.all_some, Bool.or_eq_true, decide_eq_true_eq] at h
    rw [Option.all_some, Bool.or_eq_true, decide_eq_true_eq]
    exact h.imp id (hway generation)

theorem Held.join (h : Held key registry) (i : ℕ) (entry : MonitorEntry ν) (listener : ℕ) :
    Held key (registry.join i entry listener) :=
  h.listening (listening_modify rfl (fun _ => ⟨rfl, rfl, rfl⟩) rfl rfl)

theorem Held.created (h : Held key registry) (target : MonitorTarget) (users : List String) :
    Held key { registry with
      uniqueUsers := users
      entries := registry.entries ++ [.created target] } :=
  h.listening ⟨fun _ old hold => ⟨old, getElem?_append_of_some hold _, rfl, rfl, rfl⟩, rfl, rfl⟩

theorem others_removed
    (hentries : after.entries = (registry.entries.modify i .removed).modify i .stopped) {j : ℕ}
    (hj : j ≠ i) : after.entries[j]? = registry.entries[j]? := by
  rw [hentries, getElem?_modify_of_ne hj, getElem?_modify_of_ne hj]

theorem underWay_removed (hentry : registry.entries[i]? = some entry)
    (hentries : after.entries = (registry.entries.modify i .removed).modify i .stopped)
    (hreleases : ∀ release ∈ registry.releases, release ∈ after.releases)
    (h : registry.UnderWay key generation) : after.UnderWay key generation := by
  have hnew : after.entries[i]? = some entry.removed.stopped := by
    rw [hentries]
    exact getElem?_modify_self (getElem?_modify_self hentry _) _
  exact underWay_of_others (fun _ => others_removed hentries) hentry hnew rfl
    (fun _ hgrants => hgrants) hreleases h

/-- An entry is removed; if it is of the key, the row is released or under way. -/
theorem Held.removed (h : Held key registry) (hentry : registry.entries[i]? = some entry)
    (hentries : after.entries = (registry.entries.modify i .removed).modify i .stopped)
    (hstore : after.store = registry.store) (more : List LeaseRelease)
    (hreleases : after.releases = registry.releases ++ more)
    (hmore : ∀ release ∈ more, release.settled = false)
    (hknows : entry.leaseKey = key → registry.knowsLease key entry = true)
    (hreleased : ∀ generation, entry.leaseGeneration = some generation → ∃ release ∈ more,
      release.leaseKey = entry.leaseKey ∧ release.generation = generation ∧
        release.answer = none) : Held key after := by
  have hkept : ∀ generation, registry.UnderWay key generation → after.UnderWay key generation :=
    fun _ => underWay_removed hentry hentries fun _ hmem => hreleases ▸ List.mem_append_left _ hmem
  constructor
  · intro hnone generation hheld
    rw [hstore] at hheld
    by_cases hkey : entry.leaseKey = key
    · have hknown := hknows hkey
      unfold knowsLease at hknown
      rw [hheld, Option.all_some, Bool.or_eq_true, beq_iff_eq, decide_eq_true_eq] at hknown
      rcases hknown with hlease | hway
      · obtain ⟨release, hmem, hsame, hfacts⟩ := hreleased generation hlease
        refine .inr ⟨release, ?_, hsame.trans hkey, hfacts⟩
        rw [hreleases]
        exact List.mem_append_right _ hmem
      · exact hkept generation hway
    · refine hkept generation
        (h.covered (get_none_iff.mpr fun old hold hsame => ?_) generation hheld)
      obtain ⟨j, hj⟩ := List.mem_iff_getElem?.mp hold
      have hij : j ≠ i := by
        rintro rfl
        obtain rfl : entry = old := Option.some.inj (hentry.symm.trans hj)
        exact hkey hsame
      rw [← others_removed hentries hij] at hj
      exact get_none_iff.mp hnone old (List.mem_of_getElem? hj) hsame
  · rw [hreleases]
    intro release hmem hsettled
    rcases List.mem_append.mp hmem with hold | hnext
    · exact h.answered release hold hsettled
    · rw [hmore release hnext] at hsettled
      cases hsettled

theorem Held.remove (h : Held key registry) (hentry : registry.entries[i]? = some entry)
    (hknows : entry.leaseKey = key → registry.knowsLease key entry = true) :
    Held key (registry.remove i entry) := by
  unfold SharedMonitorRegistry.remove
  cases hlease : entry.leaseGeneration with
  | some generation =>
    refine h.removed hentry rfl rfl
      [⟨entry.leaseKey, generation, entry.target.isAccount, none, false⟩] rfl ?_ hknows ?_
    · intro release hmem
      rw [List.mem_singleton.mp hmem]
    · rintro other hother
      rw [hlease] at hother
      cases hother
      exact ⟨_, List.mem_singleton_self _, rfl, rfl, rfl⟩
  | none =>
    have hnone : ∀ generation, entry.leaseGeneration = some generation →
        ∃ release ∈ ([] : List LeaseRelease), release.leaseKey = entry.leaseKey ∧
          release.generation = generation ∧ release.answer = none := by
      intro generation hsome
      rw [hlease] at hsome
      cases hsome
    dsimp only
    split
    · exact h.removed hentry rfl rfl [] (List.append_nil _).symm
        (fun _ hmem => absurd hmem List.not_mem_nil) hknows hnone
    · exact h.removed hentry rfl rfl [] (List.append_nil _).symm
        (fun _ hmem => absurd hmem List.not_mem_nil) hknows hnone

theorem Held.left (h : Held key registry) {n : ℕ} {handle : MonitorHandle}
    (hhandle : registry.handles[n]? = some handle) (hopen : handle.released = false)
    (hkeeps : registry.KeepsLease key (.unsubscribe n) = true) :
    Held key (registry.unsubscribe n handle) := by
  dsimp only [KeepsLease] at hkeeps
  rw [hhandle, Option.all_some, hopen, Bool.false_or] at hkeeps
  have hcalled : Listening registry { registry with
      handles := registry.handles.set n { handle with released := true } } :=
    ⟨fun _ old hold => ⟨old, hold, rfl, rfl, rfl⟩, rfl, rfl⟩
  have hlookup : lookup { registry with
      handles := registry.handles.set n { handle with released := true } } handle.leaseKey =
        registry.lookup handle.leaseKey := rfl
  unfold SharedMonitorRegistry.unsubscribe SharedMonitorRegistry.leave
  rw [hlookup]
  cases hfound : registry.lookup handle.leaseKey with
  | none => exact h.listening hcalled
  | some found =>
    obtain ⟨i, entry⟩ := found
    obtain ⟨hentry, -, hkey⟩ := lookup_some hfound
    have hleft : Listening registry (modify { registry with
        handles := registry.handles.set n { handle with released := true } } i fun other =>
          { other with listeners := entry.listeners.filter fun other =>
              other ≠ handle.listener }) :=
      listening_modify rfl (fun _ => ⟨rfl, rfl, rfl⟩) rfl rfl
    dsimp only
    split
    · rename_i hlast
      refine (h.listening hleft).remove (getElem?_modify_self hentry _) fun hsame => ?_
      have hhandleKey : handle.leaseKey = key := hkey.symm.trans hsame
      rw [← hhandleKey, bne_self_eq_false, Bool.false_or, hfound, Option.all_some, hlast] at hkeeps
      simp only [List.isEmpty_nil, Bool.not_true, Bool.false_or] at hkeeps
      rw [hhandleKey] at hkeeps
      exact knowsLease_of hleft.store rfl (fun _ => hleft.underWay) hkeeps
    · exact h.listening hleft

def Known (key : String) (registry : SharedMonitorRegistry ν) : Prop :=
  ∀ (j : ℕ) (entry : MonitorEntry ν), registry.entries[j]? = some entry →
    entry.registered = true → entry.leaseKey = key → registry.knowsLease key entry = true

theorem Known.removed (h : Known key registry) (hentry : registry.entries[i]? = some entry)
    (hentries : after.entries = (registry.entries.modify i .removed).modify i .stopped)
    (hstore : after.store = registry.store)
    (hreleases : ∀ release ∈ registry.releases, release ∈ after.releases) : Known key after := by
  intro j other hother hregistered hkey
  by_cases hj : j = i
  · subst hj
    rw [hentries, getElem?_modify_self (getElem?_modify_self hentry _)] at hother
    cases hother
    cases hregistered
  · rw [others_removed hentries hj] at hother
    exact knowsLease_of hstore rfl (fun _ => underWay_removed hentry hentries hreleases)
      (h j other hother hregistered hkey)

theorem Held.closeEntry (h : Held key registry) (hknown : Known key registry) (i : ℕ) :
    Held key (SharedMonitorRegistry.closeEntry registry i) ∧
      Known key (SharedMonitorRegistry.closeEntry registry i) := by
  unfold SharedMonitorRegistry.closeEntry
  cases hentry : registry.entries[i]? with
  | none => exact ⟨h, hknown⟩
  | some entry =>
    dsimp only
    split
    · exact ⟨h, hknown⟩
    · rename_i hregistered
      have hknows : entry.leaseKey = key → registry.knowsLease key entry = true :=
        hknown i entry hentry (Bool.not_eq_false _ ▸ hregistered)
      cases hlease : entry.leaseGeneration with
      | none =>
        refine ⟨h.removed hentry rfl rfl [] (List.append_nil _).symm
          (fun _ hmem => absurd hmem List.not_mem_nil) hknows ?_,
          hknown.removed hentry rfl rfl fun _ hmem => hmem⟩
        intro generation hsome
        rw [hlease] at hsome
        cases hsome
      | some generation =>
        refine ⟨h.removed hentry rfl rfl [⟨entry.leaseKey, generation, false, none, false⟩]
          rfl ?_ hknows ?_,
          hknown.removed hentry rfl rfl fun _ hmem => List.mem_append_left _ hmem⟩
        · intro release hmem
          rw [List.mem_singleton.mp hmem]
        · rintro other hother
          rw [hlease] at hother
          cases hother
          exact ⟨_, List.mem_singleton_self _, rfl, rfl, rfl⟩

theorem Held.closed (h : Held key registry) (hkeeps : registry.KeepsLease key .close = true) :
    Held key (registry.step .close) := by
  have hknown : Known key registry := by
    intro j entry hentry hregistered hkey
    have hknows := List.all_eq_true.mp hkeeps entry (List.mem_of_getElem? hentry)
    simpa [hregistered, hkey] using hknows
  exact (close_induction (motive := fun before => Held key before ∧ Known key before)
    (fun _ i hbefore => hbefore.1.closeEntry hbefore.2 i) ⟨h, hknown⟩).1

/-! ### The releases -/

/-- A release is answered, or settles; the row it would release is gone, or something else
covers it. -/
theorem Held.released (h : Held key registry) {r : ℕ} {release next : LeaseRelease}
    (hrelease : registry.releases[r]? = some release)
    (hentries : after.entries = registry.entries)
    (hreleases : after.releases = registry.releases.set r next)
    (hstore : ∀ generation, after.store key = some generation →
      registry.store key = some generation)
    (hcovers : registry.get key = none → ∀ generation, after.store key = some generation →
      release.leaseKey = key → release.generation = generation → release.answer = none →
        after.UnderWay key generation)
    (hanswered : next.settled = true → next.answer ≠ none) : Held key after where
  covered hnone generation hheld := by
    have hget : registry.get key = none := by
      refine get_none_iff.mpr fun entry hmem => get_none_iff.mp hnone entry ?_
      rw [hentries]
      exact hmem
    rcases h.covered hget generation (hstore generation hheld) with
      hentry | ⟨found, hfound, hkey, hgeneration, hanswer⟩
    · refine .inl ?_
      rw [hentries]
      exact hentry
    · by_cases hsame : found = release
      · subst hsame
        exact hcovers hget generation hheld hkey hgeneration hanswer
      · obtain ⟨n, hn⟩ := List.mem_iff_getElem?.mp hfound
        have hother : r ≠ n := by
          rintro rfl
          exact hsame (Option.some.inj (hn.symm.trans hrelease))
        refine .inr ⟨found, ?_, hkey, hgeneration, hanswer⟩
        rw [hreleases]
        exact List.mem_of_getElem? ((List.getElem?_set_ne hother).trans hn)
  answered found hfound hsettled := by
    rw [hreleases] at hfound
    rcases List.mem_or_eq_of_mem_set hfound with hold | rfl
    · exact h.answered found hold hsettled
    · exact hanswered hsettled

theorem clear_store {other : String} (h : (registry.clear other).store key = some generation) :
    registry.store key = some generation ∧ key ≠ other := by
  unfold SharedMonitorRegistry.clear at h
  dsimp only at h
  split at h
  · cases h
  · exact ⟨h, ‹_›⟩

theorem Held.rejected (h : Held key registry) {r : ℕ} {release : LeaseRelease} {rejects : Bool}
    (hrelease : registry.releases[r]? = some release) (hanswer : release.answer = none)
    (hkept : rejects = true ∨ registry.store release.leaseKey ≠ some release.generation)
    (hkeeps : registry.KeepsLease key (.releaseServed r rejects) = true) :
    Held key { registry with
      releases := registry.releases.set r { release with answer := some (!rejects) } } := by
  refine h.released hrelease rfl rfl (fun _ hheld => hheld) ?_ fun _ => Option.some_ne_none _
  rintro hnone generation hheld hkey hgeneration -
  rcases hkept with rfl | hdiffers
  · dsimp only [KeepsLease] at hkeeps
    have hstore : registry.store key = some generation := hheld
    rw [hrelease, Option.all_some, hnone, hstore, Option.all_some] at hkeeps
    simpa [hanswer, hkey, hgeneration] using hkeeps
  · rw [hkey, hgeneration] at hdiffers
    exact absurd hheld hdiffers

theorem Held.step (h : Held key registry) {event : MonitorEvent ν}
    (hkeeps : registry.KeepsLease key event = true) : Held key (registry.step event) := by
  have hmove := move_step registry event
  have hreconcile : ∀ authorizes now, Held key (registry.step (.reconcile authorizes now)) :=
    reconcile_induction
      (fun _ i authorizes now hbefore => hbefore.reconcileEntry authorizes now i) h
  generalize hafter : registry.step event = after at hmove ⊢
  cases hmove with
  | nothing event => exact h
  | joined target listener i entry hentry => exact h.join i entry listener
  | created target normalized listener uniqueUsers hlookup hreserved =>
    exact (h.created normalized uniqueUsers).join _ _ listener
  | left n handle hhandle hopen => exact h.left hhandle hopen hkeeps
  | reconciled authorizes now => exact hreconcile authorizes now
  | closed => exact h.closed hkeeps
  | authorized i entry work answer hentry hwork => exact h.authorized hentry hwork answer
  | acquireServed i entry authorizes answer hentry hwork =>
    exact h.acquireServed hentry hwork answer
  | renewServed i entry authorizes generation rejects hentry hwork =>
    exact h.renewServed hentry hwork rejects
  | leaseAnswered i entry work now hentry hwork => exact h.leaseAnswered hentry hwork hkeeps
  | loaded i entry authorizes c snapshot hentry hwork => exact h.loaded hentry hwork snapshot
  | streamOpened i entry authorizes s stream resolves hentry hwork hstream =>
    exact h.streamOpened hentry hwork stream resolves
  | delta s stream i entry value hstream howner haccepted hlive =>
    exact h.listening ⟨fun _ old hold => ⟨old, hold, rfl, rfl, rfl⟩, rfl, rfl⟩
  | gap s stream i entry hstream howner =>
    exact h.stopped ((worked_stopStream registry i entry).trans (worked_lose _ i)) rfl
      (owner_some howner).1 (getElem?_modify_self (owner_some howner).1 _) rfl
  | leaseExpired i entry hentry harmed =>
    exact h.stopped (worked_leaseExpired registry i entry) rfl hentry
      (getElem?_modify_self (getElem?_modify_self hentry _) _) rfl
  | releaseKept r release rejects hrelease hanswer hkept =>
    exact h.rejected hrelease hanswer hkept hkeeps
  | releaseCleared r release hrelease hanswer =>
    refine h.released hrelease rfl rfl (fun _ hheld => (clear_store hheld).1) ?_
      fun _ => Option.some_ne_none _
    intro _ generation hheld hkey
    exact absurd hkey.symm (clear_store hheld).2
  | releaseSettled r release uniqueUsers hrelease hanswer =>
    exact h.released hrelease rfl rfl (fun _ hheld => hheld)
      (fun _ _ _ _ _ hnone => absurd hnone hanswer) fun _ => hanswer
  | storeExpired other =>
    refine ⟨fun hnone generation hheld => ?_, h.answered⟩
    exact h.covered hnone generation (clear_store hheld).1

end SharedMonitorRegistry

/-- **No orphaned monitor lease.** When no step orphans the lease of a key, the key is left
with no lease once it has no listener and its works and releases are over: no grant that the
store keeps arrived for a removed entry, no entry was removed that had let go of a row the
store still kept, and no release of such a row was rejected. In any case no stream of it is
open. -/
theorem unsubscribed_keys_released (events : List (MonitorEvent ν)) (key : String)
    (hkeeps : Along SharedMonitorRegistry.step
      (fun registry event => registry.KeepsLease key event = true) .create events) :
    let registry := run SharedMonitorRegistry.step .create events
    (∀ entry ∈ registry.entries, entry.leaseKey = key →
      entry.registered = false ∧ entry.reconciling = none) →
    (∀ release ∈ registry.releases, release.leaseKey = key → release.settled = true) →
    registry.store key = none ∧
      ∀ stream ∈ registry.streams, ∀ i entry, registry.owner stream = some (i, entry) →
        entry.leaseKey = key → stream.stage = .closed := by
  intro registry hentries hreleases
  have hheld : SharedMonitorRegistry.Held key registry :=
    run_invariant_along (fun _ _ h hevent => h.step hevent)
      (SharedMonitorRegistry.held_create key) hkeeps
  have hsane : registry.Sane := (SharedMonitorRegistry.sound_run events).1
  constructor
  · cases hstore : registry.store key with
    | none => rfl
    | some generation =>
      have hnone : registry.get key = none :=
        SharedMonitorRegistry.get_none_iff.mpr fun entry hmem hkey => (hentries entry hmem hkey).1
      rcases hheld.covered hnone generation hstore with
        ⟨entry, hmem, hkey, hgrants⟩ | ⟨release, hmem, hkey, -, hanswer⟩
      · obtain ⟨authorizes, hwork⟩ := SharedMonitorRegistry.grants_eq_true hgrants
        rw [(hentries entry hmem hkey).2] at hwork
        cases hwork
      · exact absurd hanswer (hheld.answered release hmem (hreleases release hmem hkey))
  · intro stream hstream i entry howner hkey
    obtain ⟨hentry, howns⟩ := SharedMonitorRegistry.owner_some howner
    obtain ⟨hregistered, hidle⟩ := hentries entry (List.mem_of_getElem? hentry) hkey
    have hsound := hsane.sound i entry hentry
    obtain ⟨s, hs⟩ := List.mem_iff_getElem?.mp hstream
    apply (hsound.streams s stream hs howns).closed_of_idle
    · intro authorizes n hopening
      rw [hidle] at hopening
      cases hopening
    · cases hclose : entry.streamClose with
      | none => rfl
      | some n =>
        have hfalse := (hsound.accepted (hsound.close n hclose).1).1
        rw [hregistered] at hfalse
        cases hfalse

def otherAccount : MonitorTarget :=
  .account .testnet ("0x" ++ String.ofList (List.replicate 40 'b'))

/-- The timer of the first account's lease fires before its row runs out, and a second lease
is acquired and released; the lease of another account is orphaned meanwhile. -/
def monitoredTwice : List (MonitorEvent ℕ) :=
  [.subscribe monitoredAccount 0, .reconcile false 0, .acquireServed 0 (.granted 1),
    .leaseAnswered 0 1, .loaded 0 none, .leaseExpired 0,
    .storeExpired (monitorLeaseKey monitoredAccount), .subscribe otherAccount 1,
    .reconcile false 40000, .unsubscribe 1, .acquireServed 1 (.granted 1), .leaseAnswered 1 40001,
    .acquireServed 0 (.granted 2), .leaseAnswered 0 40001, .unsubscribe 0, .loaded 0 (some 7),
    .releaseServed 0 false, .releaseSettled 0]

theorem unsubscribed_keys_released_twice :
    let registry := run SharedMonitorRegistry.step .create monitoredTwice
    registry.store (monitorLeaseKey monitoredAccount) = none ∧
      ∀ stream ∈ registry.streams, ∀ i entry, registry.owner stream = some (i, entry) →
        entry.leaseKey = monitorLeaseKey monitoredAccount → stream.stage = .closed :=
  unsubscribed_keys_released _ _ (by decide) (by decide) (by decide)

/-- The only listener leaves while the acquisition is under way: the lease is granted,
and when everything is over the store keeps it. -/
theorem unsubscribed_key_kept :
    let registry := run SharedMonitorRegistry.step .create
      ([.subscribe monitoredAccount 0, .reconcile false 0, .unsubscribe 0,
        .acquireServed 0 (.granted 1), .leaseAnswered 0 1, .loaded 0 (some 7)] :
          List (MonitorEvent ℕ))
    (∀ entry ∈ registry.entries, entry.registered = false ∧ entry.reconciling = none) ∧
    (∀ release ∈ registry.releases, release.settled = true) ∧
    registry.store (monitorLeaseKey monitoredAccount) = some 1 := by
  decide

end HyperTrader
