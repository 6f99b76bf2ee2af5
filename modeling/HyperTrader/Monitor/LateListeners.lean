import HyperTrader.Monitor.Deliveries

/-!
# Listeners that join late

A step gives every listener of an entry the same updates. A listener that joins a live
entry is given the remembered baseline first, and from then on what the others are given
(`received_run`).
-/

namespace HyperTrader

open Library

variable {ν : Type}

namespace SharedMonitorRegistry

open MonitorEntry

variable {registry : SharedMonitorRegistry ν} {i listener : ℕ}

def givenBy (i listener : ℕ) : MonitorRecord ν → Option (MonitorUpdate ν)
  | .delivered j _ other update => if j = i ∧ other = listener then some update else none
  | .lost _ => none

def received (log : List (MonitorRecord ν)) (i listener : ℕ) : List (MonitorUpdate ν) :=
  log.filterMap (givenBy i listener)

def Attends (registry : SharedMonitorRegistry ν) (i listener : ℕ) : Prop :=
  ∃ entry, registry.entries[i]? = some entry ∧ listener ∈ entry.listeners

instance (registry : SharedMonitorRegistry ν) (i listener : ℕ) :
    Decidable (registry.Attends i listener) :=
  decidable_of_iff (((registry.entries[i]?).any fun entry =>
    decide (listener ∈ entry.listeners)) = true) (by
      unfold Attends
      cases registry.entries[i]? <;> simp)

def subscribes (listener : ℕ) : MonitorEvent ν → Bool
  | .subscribe _ other => other == listener
  | _ => false

def Distinct (registry : SharedMonitorRegistry ν) : Prop :=
  ∀ (i : ℕ) (entry : MonitorEntry ν), registry.entries[i]? = some entry →
    entry.listeners.Nodup

theorem distinct_create : (create : SharedMonitorRegistry ν).Distinct := by
  intro i entry h
  cases h

variable {before after : SharedMonitorRegistry ν} {j : ℕ} {entry : MonitorEntry ν}

theorem Distinct.worked (h : before.Distinct)
    (hworked : Worked i before after) : after.Distinct := by
  intro j new hnew
  obtain ⟨old, hold, hsame⟩ := hworked.backward hnew
  rw [hsame.listeners]
  exact h j old hold

theorem Distinct.of_entries (h : before.Distinct)
    (hentries : after.entries = before.entries) : after.Distinct := by
  unfold Distinct
  rw [hentries]
  exact h

theorem Distinct.modify (h : before.Distinct)
    {f : MonitorEntry ν → MonitorEntry ν} (hentries : after.entries = before.entries.modify i f)
    (hf : ∀ entry, before.entries[i]? = some entry → (f entry).listeners.Nodup) :
    after.Distinct := by
  intro j entry hentry
  rw [hentries] at hentry
  by_cases hj : j = i
  · subst hj
    cases hold : before.entries[j]? with
    | none =>
      rw [List.getElem?_modify, hold] at hentry
      cases hentry
    | some old =>
      rw [getElem?_modify_self hold] at hentry
      cases hentry
      exact hf old hold
  · rw [getElem?_modify_of_ne hj] at hentry
    exact h j entry hentry

theorem Distinct.join (h : registry.Distinct) (i : ℕ) (entry : MonitorEntry ν)
    (listener : ℕ) : (registry.join i entry listener).Distinct := by
  refine h.modify rfl ?_
  intro old hold
  have hnodup := h i old hold
  dsimp only
  split
  · exact hnodup
  · rename_i hnew
    refine List.nodup_append.mpr ⟨hnodup, List.pairwise_singleton _ _, ?_⟩
    intro other hother same hsame heq
    rw [List.mem_singleton.mp hsame] at heq
    rw [heq] at hother
    exact hnew hother

theorem Distinct.created (h : registry.Distinct) (target : MonitorTarget)
    (uniqueUsers : List String) : Distinct { registry with
      uniqueUsers := uniqueUsers
      entries := registry.entries ++ [MonitorEntry.created target] } := by
  intro j entry hentry
  rcases getElem?_append_cases hentry with hold | ⟨-, rfl⟩
  · exact h j entry hold
  · exact List.nodup_nil

theorem Distinct.stopStream (h : registry.Distinct) (i : ℕ) (entry : MonitorEntry ν) :
    (registry.stopStream i entry).Distinct := h.worked (worked_stopStream registry i entry)

theorem Distinct.removed (h : registry.Distinct) (i : ℕ) :
    (registry.modify i .removed).Distinct := h.modify rfl fun old hold => h i old hold

theorem Distinct.closeEntry (h : registry.Distinct) (i : ℕ) :
    (SharedMonitorRegistry.closeEntry registry i).Distinct := by
  unfold SharedMonitorRegistry.closeEntry
  split
  · exact h
  · rename_i entry _
    dsimp only
    split
    · exact h
    · exact ((h.removed i).stopStream i entry).of_entries rfl

theorem Distinct.remove (h : registry.Distinct) (i : ℕ) (entry : MonitorEntry ν) :
    (registry.remove i entry).Distinct := by
  have hstopped := (h.removed i).stopStream i entry
  unfold SharedMonitorRegistry.remove
  dsimp only
  split
  · exact hstopped.of_entries rfl
  · split
    · exact hstopped.of_entries rfl
    · exact hstopped

theorem Distinct.leave (h : registry.Distinct) (handle : MonitorHandle) :
    (registry.leave handle).Distinct := by
  unfold SharedMonitorRegistry.leave
  split
  · exact h
  · rename_i i entry hlookup
    have hentry := (lookup_some hlookup).1
    have hleft : (registry.modify i fun other => { other with
        listeners := entry.listeners.filter fun other => other ≠ handle.listener }).Distinct :=
      h.modify rfl fun _ _ => (h i entry hentry).filter _
    dsimp only
    split
    · exact hleft.remove i _
    · exact hleft

theorem Distinct.step (h : registry.Distinct) (event : MonitorEvent ν) :
    (registry.step event).Distinct := by
  by_cases hcall : isCall event = false
  · obtain ⟨i, hworked⟩ := worked_step registry hcall
    exact h.worked hworked
  · have hmove := move_step registry event
    have hreconcile : ∀ authorizes now, (registry.step (.reconcile authorizes now)).Distinct :=
      reconcile_induction (fun before i authorizes now hbefore =>
        hbefore.worked (worked_reconcileEntry authorizes now before i)) h
    have hclose : (registry.step .close).Distinct :=
      close_induction (fun _ i hbefore => hbefore.closeEntry i) h
    generalize registry.step event = after at hmove ⊢
    cases hmove with
    | nothing event => exact h
    | joined target listener i entry hentry => exact h.join i entry listener
    | created target normalized listener uniqueUsers hlookup hreserved =>
      exact (h.created normalized uniqueUsers).join _ _ listener
    | left n handle =>
      have hreleased : Distinct { registry with
          handles := registry.handles.set n { handle with released := true } } :=
        h.of_entries rfl
      exact hreleased.leave handle
    | reconciled authorizes now => exact hreconcile authorizes now
    | closed => exact hclose
    | releaseKept r release rejects hrelease hanswer hkept => exact h.of_entries rfl
    | releaseCleared r release hrelease hanswer => exact h.of_entries rfl
    | releaseSettled r release uniqueUsers hrelease hanswer => exact h.of_entries rfl
    | _ => exact absurd rfl hcall

theorem distinct_run (events : List (MonitorEvent ν)) :
    (run step create events : SharedMonitorRegistry ν).Distinct :=
  run_invariant (fun _ event h => h.step event) distinct_create events

theorem received_append (log new : List (MonitorRecord ν)) (i listener : ℕ) :
    received (log ++ new) i listener = received log i listener ++ received new i listener :=
  List.filterMap_append

theorem received_publish {listeners : List ℕ} (hnodup : listeners.Nodup) (i j c listener : ℕ)
    (update : MonitorUpdate ν) :
    received (listeners.map (MonitorRecord.delivered j c · update)) i listener =
      if j = i ∧ listener ∈ listeners then [update] else [] := by
  induction listeners with
  | nil => simp [received]
  | cons other listeners ih =>
    obtain ⟨hnot, hrest⟩ := List.nodup_cons.mp hnodup
    have ih := ih hrest
    unfold received at ih ⊢
    rw [List.map_cons, List.filterMap_cons, ih]
    unfold givenBy
    by_cases hj : j = i
    · by_cases hother : other = listener
      · subst hother
        simp [hj, hnot]
      · have hne : listener ≠ other := fun heq => hother heq.symm
        simp [hj, hother, hne]
    · simp [hj]

/-- What a step adds to the log gives every listener of the entry that it does not
subscribe the same. -/
def Equal (registry : SharedMonitorRegistry ν) (i : ℕ) (event : MonitorEvent ν)
    (new : List (MonitorRecord ν)) : Prop :=
  ∃ updates, ∀ listener, registry.Attends i listener → subscribes listener event = false →
    received new i listener = updates

theorem equal_nil (registry : SharedMonitorRegistry ν) (i : ℕ) (event : MonitorEvent ν) :
    Equal registry i event [] := ⟨[], fun _ _ _ => rfl⟩

theorem equal_lost (registry : SharedMonitorRegistry ν) (i j : ℕ) (event : MonitorEvent ν) :
    Equal registry i event [.lost j] := ⟨[], fun _ _ _ => rfl⟩

theorem Distinct.equal_publish (h : registry.Distinct)
    (hentry : registry.entries[j]? = some entry) (i c : ℕ) (event : MonitorEvent ν)
    (update : MonitorUpdate ν) :
    Equal registry i event (entry.listeners.map (MonitorRecord.delivered j c · update)) := by
  by_cases hj : j = i
  · subst hj
    refine ⟨[update], ?_⟩
    rintro listener ⟨found, hfound, hmem⟩ -
    obtain rfl : found = entry := Option.some.inj (hfound.symm.trans hentry)
    rw [received_publish (h j found hentry), if_pos ⟨rfl, hmem⟩]
  · refine ⟨[], ?_⟩
    intro listener _ _
    rw [received_publish (h j entry hentry), if_neg fun hboth => hj hboth.1]

theorem equal_join (target : MonitorTarget) (j : ℕ) (entry : MonitorEntry ν)
    (listener : ℕ) (i : ℕ) :
    ∃ new, (registry.join j entry listener).log = registry.log ++ new ∧
      Equal registry i (.subscribe target listener) new := by
  refine ⟨_, rfl, [], ?_⟩
  intro other _ hother
  split
  · rename_i value c _ _ _
    have hne : ¬ listener = other := beq_eq_false_iff_ne.mp hother
    simp [received, givenBy, hne]
  · rfl

theorem Distinct.equal_loaded (h : registry.Distinct)
    (hentry : registry.entries[j]? = some entry) (authorizes : Bool) (c : ℕ)
    (snapshot : Option ν) (i : ℕ) :
    ∃ new, (registry.loaded j entry authorizes c snapshot).log = registry.log ++ new ∧
      Equal registry i (.loaded j snapshot) new := by
  cases snapshot with
  | none => exact ⟨[], (List.append_nil _).symm, equal_nil registry i _⟩
  | some snapshot =>
    unfold SharedMonitorRegistry.loaded
    dsimp only
    split
    · exact ⟨[], (List.append_nil _).symm, equal_nil registry i _⟩
    · split
      · exact ⟨_, rfl, h.equal_publish hentry i c _ _⟩
      · exact ⟨_, rfl, h.equal_publish hentry i c _ _⟩

theorem log_leaseAnswered (registry : SharedMonitorRegistry ν) (j : ℕ) (entry : MonitorEntry ν)
    (work : ReconcileWork) (now : ℤ) :
    (registry.leaseAnswered j entry work now).log = registry.log ∨
      (registry.leaseAnswered j entry work now).log = registry.log ++ [.lost j] := by
  unfold SharedMonitorRegistry.leaseAnswered
  split
  · exact .inl (log_startStream _ _ _ _)
  · exact .inl rfl
  · exact .inl (log_startStream _ _ _ _)
  · exact .inr rfl
  · exact .inl rfl
  · exact .inl rfl

theorem Distinct.equal_step (h : registry.Distinct) (i : ℕ) (event : MonitorEvent ν) :
    ∃ new, (registry.step event).log = registry.log ++ new ∧ Equal registry i event new := by
  have hmove := move_step registry event
  have hreconcile : ∀ authorizes now,
      (registry.step (.reconcile authorizes now)).log = registry.log :=
    reconcile_induction (motive := fun after => after.log = registry.log)
      (fun _ i authorizes now hbefore => (log_reconcileEntry authorizes now i).trans hbefore) rfl
  have hclose : (registry.step .close).log = registry.log :=
    close_induction (motive := fun after => after.log = registry.log)
      (fun _ i hbefore => (log_closeEntry i).trans hbefore) rfl
  have hkept : ∀ {after : SharedMonitorRegistry ν} (event : MonitorEvent ν),
      after.log = registry.log →
        ∃ new, after.log = registry.log ++ new ∧ Equal registry i event new :=
    fun event h => ⟨[], h.trans (List.append_nil _).symm, equal_nil registry i event⟩
  generalize registry.step event = after at hmove ⊢
  cases hmove with
  | nothing event => exact hkept event rfl
  | joined target listener j entry hentry => exact equal_join target j entry listener i
  | created target normalized listener uniqueUsers hlookup hreserved =>
    exact hkept _ (List.append_nil _)
  | left n handle => exact hkept _ (log_leave handle)
  | reconciled authorizes now => exact hkept _ (hreconcile authorizes now)
  | closed => exact hkept _ hclose
  | authorized j entry work answer hentry hwork =>
    exact hkept _ (log_authorized j entry _ answer)
  | acquireServed j entry authorizes answer hentry hwork =>
    exact hkept _ (log_acquireServed j entry answer)
  | renewServed j entry authorizes generation rejects hentry hwork => exact hkept _ rfl
  | leaseAnswered j entry work now hentry hwork =>
    rcases log_leaseAnswered registry j entry work now with hlog | hlog
    · exact hkept _ hlog
    · exact ⟨_, hlog, equal_lost registry i j _⟩
  | loaded j entry authorizes c snapshot hentry hwork =>
    exact h.equal_loaded hentry authorizes c snapshot i
  | streamOpened j entry authorizes s stream resolves hentry hwork hstream =>
    exact hkept _ (log_streamOpened j entry s stream resolves)
  | delta s stream j entry value hstream howner haccepted hlive =>
    exact ⟨_, rfl, h.equal_publish (owner_some howner).1 i _ _ _⟩
  | gap s stream j entry hstream howner => exact ⟨_, rfl, equal_lost registry i j _⟩
  | leaseExpired j entry hentry harmed => exact ⟨_, rfl, equal_lost registry i j _⟩
  | releaseKept r release rejects hrelease hanswer hkept' => exact hkept _ rfl
  | releaseCleared r release hrelease hanswer => exact hkept _ rfl
  | releaseSettled r release uniqueUsers hrelease hanswer => exact hkept _ rfl
  | storeExpired key => exact hkept _ rfl

theorem subscribe_of_lookup {target normalized : MonitorTarget}
    (hnormal : normalizeMonitorTarget target = .ok normalized)
    (hlookup : registry.lookup (monitorLeaseKey normalized) = some (i, entry)) (listener : ℕ) :
    registry.subscribe target listener = .ok (registry.join i entry listener) := by
  unfold SharedMonitorRegistry.subscribe
  rw [hnormal]
  dsimp only [bind, Except.bind]
  rw [hlookup]

def Stays (i listener : ℕ) (registry : SharedMonitorRegistry ν) (event : MonitorEvent ν) : Prop :=
  registry.Attends i listener ∧ subscribes listener event = false

instance (i listener : ℕ) (registry : SharedMonitorRegistry ν) (event : MonitorEvent ν) :
    Decidable (Stays i listener registry event) :=
  inferInstanceAs (Decidable (_ ∧ _))

theorem received_run (events : List (MonitorEvent ν)) (h : registry.Distinct) (i : ℕ) :
    ∃ updates, ∀ listener, Along step (Stays i listener) registry events →
      received (run step registry events).log i listener =
        received registry.log i listener ++ updates := by
  induction events generalizing registry with
  | nil => exact ⟨[], fun _ _ => (List.append_nil _).symm⟩
  | cons event events ih =>
    obtain ⟨new, hnew, updates, hupdates⟩ := h.equal_step i event
    obtain ⟨later, hlater⟩ := ih (h.step event)
    refine ⟨updates ++ later, ?_⟩
    intro listener halong
    rw [along_cons] at halong
    obtain ⟨⟨hattends, hnot⟩, hrest⟩ := halong
    rw [run_cons, hlater listener hrest, hnew, received_append, hupdates listener hattends hnot,
      List.append_assoc]

theorem received_join {entry : MonitorEntry ν} {value : ν} {c : ℕ}
    (haccepted : entry.baselineAccepted = true) (hvalue : entry.baselineValue = some value)
    (hcontroller : entry.controller = some c) (i listener other : ℕ) :
    received (registry.join i entry listener).log i other =
      received registry.log i other ++ if listener = other then [.baseline value] else [] := by
  have hlog : (registry.join i entry listener).log =
      registry.log ++ [.delivered i c listener (.baseline value)] := by
    unfold SharedMonitorRegistry.join
    dsimp only
    rw [haccepted, hvalue, hcontroller]
    rfl
  rw [hlog, received_append]
  by_cases hother : listener = other
  · simp [received, givenBy, hother]
  · simp [received, givenBy, hother]

end SharedMonitorRegistry

end HyperTrader
