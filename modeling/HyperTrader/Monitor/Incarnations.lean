import HyperTrader.Library.Since
import HyperTrader.Monitor.Work

/-!
# The incarnations of an entry's stream

Every attempt to open the stream of an entry has a controller of its own, its
incarnation. The controller that the entry holds is live; a work that is behind a live
controller is behind the one the entry holds; and a stream that may still call back is
the one the entry holds or the one its work is opening. The baseline is accepted only
under a lease whose expiry is armed, and then every listener was given it, with nothing
lost since.
-/

namespace HyperTrader

open Library

variable {ν : Type}

/-- The listener was given a baseline of the incarnation `c` of the entry `i`, which has
lost nothing since. -/
def Fresh (log : List (MonitorRecord ν)) (i c listener : ℕ) : Prop :=
  Since (fun record => ∃ value, record = .delivered i c listener (.baseline value))
    (fun record => record = .lost i) log

theorem Fresh.append {log new : List (MonitorRecord ν)} {i c listener : ℕ}
    (h : Fresh log i c listener) (hnew : .lost i ∉ new) : Fresh (log ++ new) i c listener := by
  apply Since.append h
  rintro record hrecord rfl
  exact hnew hrecord

namespace SharedMonitorRegistry

open MonitorEntry

def Owns (registry : SharedMonitorRegistry ν) (i c : ℕ) : Prop :=
  ∃ controller, registry.controllers[c]? = some controller ∧ controller.entry = i

def StageSound (registry : SharedMonitorRegistry ν) (i : ℕ) (entry : MonitorEntry ν) :
    ReconcileStage → Prop
  | .authorizingAcquire | .acquiring _ | .authorizingRenew | .renewing .. => True
  | .authorizingLoad c | .loading c =>
    entry.streamClose = none ∧ registry.Owns i c ∧
      (registry.aborted c = false → entry.controller = some c)
  | .authorizingOpen c =>
    entry.streamClose = none ∧ registry.Owns i c ∧
      (registry.aborted c = false → entry.controller = some c ∧ entry.baselineAccepted = true)
  | .opening s =>
    entry.streamClose = none ∧ ∃ c, registry.streams[s]? = some ⟨c, .opening⟩ ∧
      registry.Owns i c ∧
      (registry.aborted c = false → entry.controller = some c ∧ entry.baselineAccepted = true)

def StreamSound (registry : SharedMonitorRegistry ν) (entry : MonitorEntry ν) (s : ℕ)
    (stream : MonitorStream) : Prop :=
  match stream.stage with
  | .opening => ∃ authorizes, entry.reconciling = some ⟨authorizes, .opening s⟩
  | .opened => entry.streamClose = some s
  | .closed => registry.aborted stream.controller = true

structure Sound (registry : SharedMonitorRegistry ν) (i : ℕ) (entry : MonitorEntry ν) :
    Prop where
  accepted : entry.baselineAccepted = true → entry.registered = true ∧
    entry.leaseGeneration.isSome = true ∧ entry.baselineValue.isSome = true ∧
    ∃ c, entry.controller = some c ∧
      ∀ listener ∈ entry.listeners, Fresh registry.log i c listener
  armed : entry.registered = true → entry.leaseGeneration.isSome = true →
    entry.leaseExpiry.isSome = true
  controller : ∀ c, entry.controller = some c → registry.controllers[c]? = some ⟨i, false⟩
  work : ∀ work, entry.reconciling = some work → registry.StageSound i entry work.stage
  close : ∀ s, entry.streamClose = some s → entry.baselineAccepted = true ∧
    ∃ c, entry.controller = some c ∧ registry.streams[s]? = some ⟨c, .opened⟩
  streams : ∀ (s : ℕ) (stream : MonitorStream), registry.streams[s]? = some stream →
    registry.Owns i stream.controller → registry.StreamSound entry s stream

structure Sane (registry : SharedMonitorRegistry ν) : Prop where
  sound : ∀ (i : ℕ) (entry : MonitorEntry ν), registry.entries[i]? = some entry →
    registry.Sound i entry
  owners : ∀ (c : ℕ) (controller : MonitorController), registry.controllers[c]? = some controller →
    controller.entry < registry.entries.length
  numbered : ∀ stream ∈ registry.streams, stream.controller < registry.controllers.length

theorem sane_create : (create : SharedMonitorRegistry ν).Sane where
  sound i entry h := by simp [create] at h
  owners c controller h := by simp [create] at h
  numbered stream h := absurd h List.not_mem_nil

variable {registry : SharedMonitorRegistry ν} {i c : ℕ} {entry : MonitorEntry ν} {j s : ℕ}
  {before after : SharedMonitorRegistry ν} {stage next : ReconcileStage} {new : MonitorEntry ν}
  {f : MonitorEntry ν → MonitorEntry ν} {work : ReconcileWork} {authorizes : Bool}
  {stream : MonitorStream}

theorem Owns.eq (h : registry.Owns i c) (h' : registry.Owns j c) : i = j := by
  obtain ⟨controller, hcontroller, rfl⟩ := h
  obtain ⟨other, hother, rfl⟩ := h'
  rw [hcontroller] at hother
  cases hother
  rfl

/-! ### Changes of one entry -/

structure Local (i : ℕ) (before after : SharedMonitorRegistry ν) : Prop where
  others : ∀ j : ℕ, j ≠ i → after.entries[j]? = before.entries[j]?
  length : after.entries.length = before.entries.length
  controllers : ∀ (c : ℕ) (controller : MonitorController), controller.entry ≠ i →
    (after.controllers[c]? = some controller ↔ before.controllers[c]? = some controller)
  streams : ∀ (j s : ℕ) (stream : MonitorStream), j ≠ i → before.Owns j stream.controller →
    (after.streams[s]? = some stream ↔ before.streams[s]? = some stream)
  numbered : ∀ stream ∈ after.streams, stream.controller < after.controllers.length
  log : ∃ new, after.log = before.log ++ new ∧ ∀ j, j ≠ i → .lost j ∉ new

theorem Local.owns (h : Local i before after) (hj : j ≠ i) : after.Owns j c ↔ before.Owns j c := by
  apply exists_congr
  intro controller
  apply and_congr_left
  rintro rfl
  exact h.controllers c controller hj

theorem Local.aborted (h : Local i before after) (hj : j ≠ i) (howns : before.Owns j c) :
    after.aborted c = before.aborted c := by
  obtain ⟨controller, hcontroller, rfl⟩ := howns
  rw [SharedMonitorRegistry.aborted, SharedMonitorRegistry.aborted, hcontroller,
    (h.controllers c controller hj).mpr hcontroller]

theorem StageSound.other (hstage : before.StageSound j entry stage)
    (h : Local i before after) (hj : j ≠ i) : after.StageSound j entry stage := by
  cases stage with
  | authorizingAcquire => trivial
  | acquiring answer => trivial
  | authorizingRenew => trivial
  | renewing generation answer => trivial
  | authorizingLoad c =>
    obtain ⟨hclose, howns, hlive⟩ := hstage
    refine ⟨hclose, (h.owns hj).mpr howns, ?_⟩
    rwa [h.aborted hj howns]
  | loading c =>
    obtain ⟨hclose, howns, hlive⟩ := hstage
    refine ⟨hclose, (h.owns hj).mpr howns, ?_⟩
    rwa [h.aborted hj howns]
  | authorizingOpen c =>
    obtain ⟨hclose, howns, hlive⟩ := hstage
    refine ⟨hclose, (h.owns hj).mpr howns, ?_⟩
    rwa [h.aborted hj howns]
  | opening s =>
    obtain ⟨hclose, c, hstream, howns, hlive⟩ := hstage
    refine ⟨hclose, c, (h.streams j s ⟨c, .opening⟩ hj howns).mpr hstream,
      (h.owns hj).mpr howns, ?_⟩
    rwa [h.aborted hj howns]

theorem Sound.other (hsound : before.Sound j entry) (h : Local i before after) (hj : j ≠ i) :
    after.Sound j entry where
  accepted haccepted := by
    obtain ⟨hregistered, hlease, hvalue, c, hcontroller, hfresh⟩ :=
      hsound.accepted haccepted
    refine ⟨hregistered, hlease, hvalue, c, hcontroller, ?_⟩
    intro listener hlistener
    obtain ⟨new, hnew, hlost⟩ := h.log
    rw [hnew]
    exact (hfresh listener hlistener).append (hlost j hj)
  armed := hsound.armed
  controller c hcontroller :=
    (h.controllers c ⟨j, false⟩ hj).mpr (hsound.controller c hcontroller)
  work work hwork := (hsound.work work hwork).other h hj
  close s hclose := by
    obtain ⟨haccepted, c, hcontroller, hstream⟩ := hsound.close s hclose
    refine ⟨haccepted, c, hcontroller, ?_⟩
    exact (h.streams j s ⟨c, .opened⟩ hj ⟨_, hsound.controller c hcontroller, rfl⟩).mpr hstream
  streams s stream hstream howns := by
    have howned := (h.owns hj).mp howns
    have hbefore := hsound.streams s stream ((h.streams j s stream hj howned).mp hstream)
      howned
    unfold StreamSound at hbefore ⊢
    rwa [h.aborted hj howned]

theorem Sane.local (h : registry.Sane)
    (hentry : registry.entries[i]? = some entry) (hlocal : Local i registry after)
    (hnew : after.entries[i]? = some new)
    (hsound : after.Sound i new) : after.Sane where
  sound j other hother := by
    by_cases hj : j = i
    · subst hj
      rw [hnew] at hother
      cases hother
      exact hsound
    · rw [hlocal.others j hj] at hother
      exact (h.sound j other hother).other hlocal hj
  owners c controller hcontroller := by
    rw [hlocal.length]
    by_cases hi : controller.entry = i
    · rw [hi]
      exact lt_length_of_getElem? hentry
    · exact h.owners c controller ((hlocal.controllers c controller hi).mp hcontroller)
  numbered := hlocal.numbered

/-- The entry of a sound one goes on: it keeps its controller, its stream and its
baseline, and its work is not opening another stream. -/
theorem Sound.update (h : registry.Sound i entry)
    (haccepted : new.baselineAccepted = entry.baselineAccepted)
    (hvalue : new.baselineValue = entry.baselineValue)
    (hcontroller : new.controller = entry.controller) (hclose : new.streamClose = entry.streamClose)
    (hlisteners : ∀ listener ∈ new.listeners, listener ∈ entry.listeners)
    (hleased : new.baselineAccepted = true →
      new.registered = true ∧ new.leaseGeneration.isSome = true)
    (harmed : new.registered = true → new.leaseGeneration.isSome = true →
      new.leaseExpiry.isSome = true)
    (hwork : ∀ work, new.reconciling = some work → registry.StageSound i new work.stage)
    (hopening : ∀ authorizes s, entry.reconciling = some ⟨authorizes, .opening s⟩ →
      ∃ authorizes, new.reconciling = some ⟨authorizes, .opening s⟩) :
    registry.Sound i new where
  accepted hnew := by
    obtain ⟨-, -, hsome, c, hc, hfresh⟩ := h.accepted (haccepted ▸ hnew)
    exact ⟨(hleased hnew).1, (hleased hnew).2, hvalue ▸ hsome, c, hcontroller ▸ hc,
      fun listener hlistener => hfresh listener (hlisteners listener hlistener)⟩
  armed := harmed
  controller c hc := h.controller c (hcontroller ▸ hc)
  work := hwork
  close s hs := by
    obtain ⟨hnew, c, hc, hstream⟩ := h.close s (hclose ▸ hs)
    exact ⟨haccepted ▸ hnew, c, hcontroller ▸ hc, hstream⟩
  streams s stream hstream howns := by
    have hbefore := h.streams s stream hstream howns
    unfold StreamSound at hbefore ⊢
    split
    · rename_i hstage
      rw [hstage] at hbefore
      obtain ⟨authorizes, hreconciling⟩ := hbefore
      exact hopening authorizes s hreconciling
    · rename_i hstage
      rw [hstage] at hbefore
      rw [hclose]
      exact hbefore
    · rename_i hstage
      rw [hstage] at hbefore
      exact hbefore

theorem local_modify (h : registry.Sane) (i : ℕ) (f : MonitorEntry ν → MonitorEntry ν) :
    Local i registry (registry.modify i f) where
  others _ hj := getElem?_modify_of_ne hj f
  length := List.length_modify f registry.entries i
  controllers _ _ _ := Iff.rfl
  streams _ _ _ _ _ := Iff.rfl
  numbered := h.numbered
  log := ⟨[], (List.append_nil _).symm, fun _ _ => List.not_mem_nil⟩

theorem Sane.modify (h : registry.Sane) (hentry : registry.entries[i]? = some entry)
    (hsound : registry.Sound i (f entry)) : (registry.modify i f).Sane :=
  h.local hentry (local_modify h i f) (getElem?_modify_self hentry f)
    ⟨hsound.accepted, hsound.armed, hsound.controller, hsound.work, hsound.close, hsound.streams⟩

/-! ### The stream is stopped -/

theorem aborted_stopStream (registry : SharedMonitorRegistry ν) (i : ℕ)
    (entry : MonitorEntry ν) (c : ℕ) :
    (registry.stopStream i entry).aborted c =
      (registry.aborted c || decide (entry.controller = some c)) := by
  unfold SharedMonitorRegistry.aborted stopStream
  cases entry.controller with
  | none => simp
  | some held =>
    simp only [Option.elim_some, Option.some.injEq, List.getElem?_modify,
      Option.map_eq_map, Option.all_map]
    cases registry.controllers[c]? with
    | none => simp
    | some controller =>
      by_cases hheld : held = c
      · simp [hheld]
      · simp [hheld]

theorem owns_stopStream (registry : SharedMonitorRegistry ν) (i : ℕ) (entry : MonitorEntry ν) :
    (registry.stopStream i entry).Owns j c ↔ registry.Owns j c := by
  unfold Owns stopStream
  cases entry.controller with
  | none => exact Iff.rfl
  | some held =>
    simp only [Option.elim_some, List.getElem?_modify, Option.map_eq_map, Option.map_eq_some_iff]
    constructor
    · rintro ⟨_, ⟨controller, hcontroller, rfl⟩, hentry⟩
      refine ⟨controller, hcontroller, ?_⟩
      split at hentry
      · exact hentry
      · exact hentry
    · rintro ⟨controller, hcontroller, hentry⟩
      refine ⟨_, ⟨controller, hcontroller, rfl⟩, ?_⟩
      split
      · exact hentry
      · exact hentry

theorem local_stopStream (h : registry.Sane) (hsound : registry.Sound i entry) :
    Local i registry (registry.stopStream i entry) where
  others _ hj := getElem?_modify_of_ne hj _
  length := List.length_modify _ registry.entries i
  controllers c controller hi := by
    unfold stopStream
    cases hheld : entry.controller with
    | none => exact Iff.rfl
    | some held =>
      apply getElem?_modify_of_differs
      intro old hold
      rw [hsound.controller held hheld] at hold
      cases hold
      constructor
      · rintro rfl
        exact hi rfl
      · rintro rfl
        exact hi rfl
  streams j s stream hj howns := by
    unfold stopStream
    cases hclose : entry.streamClose with
    | none => exact Iff.rfl
    | some closed =>
      obtain ⟨-, c, hcontroller, hstream⟩ := hsound.close closed hclose
      have howned : registry.Owns i c := ⟨_, hsound.controller c hcontroller, rfl⟩
      apply getElem?_modify_of_differs
      intro old hold
      rw [hstream] at hold
      cases hold
      constructor
      · rintro rfl
        exact hj (howns.eq howned)
      · rintro rfl
        exact hj (howns.eq howned)
  numbered stream hstream := by
    have hlength : (registry.stopStream i entry).controllers.length =
        registry.controllers.length := by
      unfold stopStream
      cases entry.controller with
      | none => rfl
      | some held => exact List.length_modify _ _ _
    rw [hlength]
    unfold stopStream at hstream
    cases hclose : entry.streamClose with
    | none =>
      rw [hclose] at hstream
      exact h.numbered stream hstream
    | some closed =>
      rw [hclose] at hstream
      obtain ⟨n, hn⟩ := List.mem_iff_getElem?.mp hstream
      rcases getElem?_modify_cases hn with ⟨old, hold, -, rfl⟩ | ⟨-, hold⟩
      · exact h.numbered old (List.mem_of_getElem? hold)
      · exact h.numbered stream (List.mem_of_getElem? hold)
  log := ⟨[], (List.append_nil _).symm, fun _ _ => List.not_mem_nil⟩

theorem StageSound.stopped (h : registry.StageSound i entry stage) :
    (registry.stopStream i entry).StageSound i entry.stopped stage := by
  have hdead : ∀ c, (registry.aborted c = false → entry.controller = some c) →
      (registry.stopStream i entry).aborted c ≠ false := by
    intro c hlive hafter
    rw [aborted_stopStream, Bool.or_eq_false_iff, decide_eq_false_iff_not] at hafter
    exact hafter.2 (hlive hafter.1)
  cases stage with
  | authorizingAcquire => trivial
  | acquiring answer => trivial
  | authorizingRenew => trivial
  | renewing generation answer => trivial
  | authorizingLoad c =>
    obtain ⟨-, howns, hlive⟩ := h
    exact ⟨rfl, (owns_stopStream registry i entry).mpr howns,
      fun hafter => absurd hafter (hdead c hlive)⟩
  | loading c =>
    obtain ⟨-, howns, hlive⟩ := h
    exact ⟨rfl, (owns_stopStream registry i entry).mpr howns,
      fun hafter => absurd hafter (hdead c hlive)⟩
  | authorizingOpen c =>
    obtain ⟨-, howns, hlive⟩ := h
    exact ⟨rfl, (owns_stopStream registry i entry).mpr howns,
      fun hafter => absurd hafter (hdead c fun hbefore => (hlive hbefore).1)⟩
  | opening s =>
    obtain ⟨hclose, c, hstream, howns, hlive⟩ := h
    refine ⟨rfl, c, ?_, (owns_stopStream registry i entry).mpr howns,
      fun hafter => absurd hafter (hdead c fun hbefore => (hlive hbefore).1)⟩
    unfold stopStream
    rw [hclose]
    exact hstream

theorem Sound.stopped (h : registry.Sound i entry) :
    (registry.stopStream i entry).Sound i entry.stopped where
  accepted haccepted := by cases haccepted
  armed := h.armed
  controller c hcontroller := by cases hcontroller
  work work hwork := (h.work work hwork).stopped
  close s hclose := by cases hclose
  streams s stream hstream howns := by
    have howned := (owns_stopStream registry i entry).mp howns
    have hkept : registry.streams[s]? = some stream → entry.streamClose ≠ some s →
        (registry.stopStream i entry).StreamSound entry.stopped s stream := by
      intro hold hother
      have hbefore := h.streams s stream hold howned
      unfold StreamSound at hbefore ⊢
      cases hstage : stream.stage with
      | opening =>
        rw [hstage] at hbefore
        exact hbefore
      | opened =>
        rw [hstage] at hbefore
        exact absurd hbefore hother
      | closed =>
        rw [hstage] at hbefore
        dsimp only at hbefore ⊢
        rw [aborted_stopStream, hbefore, Bool.true_or]
    cases hclose : entry.streamClose with
    | none =>
      apply hkept
      · unfold stopStream at hstream
        rw [hclose] at hstream
        exact hstream
      · rw [hclose]
        intro hsome
        cases hsome
    | some closed =>
      unfold stopStream at hstream
      rw [hclose] at hstream
      rcases getElem?_modify_cases hstream with
          ⟨old, hold, hsame, rfl⟩ | ⟨hs, hold⟩
      · obtain ⟨-, c, hcontroller, hopened⟩ := h.close closed hclose
        rw [hsame, hopened] at hold
        cases hold
        unfold StreamSound
        dsimp only
        rw [aborted_stopStream, hcontroller]
        simp
      · apply hkept hold
        rw [hclose]
        intro hsome
        exact hs (Option.some.inj hsome).symm

theorem Sane.stopStream (h : registry.Sane) (hentry : registry.entries[i]? = some entry) :
    (registry.stopStream i entry).Sane :=
  h.local hentry (local_stopStream h (h.sound i entry hentry))
    (getElem?_modify_self hentry _) (h.sound i entry hentry).stopped

theorem stopStream_modify (registry : SharedMonitorRegistry ν) (i : ℕ)
    (entry : MonitorEntry ν) (f : MonitorEntry ν → MonitorEntry ν)
    (hf : ∀ other, f other.stopped = (f other).stopped) :
    (registry.modify i f).stopStream i entry = (registry.stopStream i entry).modify i f := by
  unfold SharedMonitorRegistry.stopStream SharedMonitorRegistry.modify
  simp only [List.modify_modify_eq]
  congr 2
  funext other
  exact (hf other).symm

/-! ### What the log gains -/

theorem Sane.logged (h : registry.Sane)
    {new : List (MonitorRecord ν)} (hentries : after.entries = registry.entries)
    (hcontrollers : after.controllers = registry.controllers)
    (hstreams : after.streams = registry.streams) (hlog : after.log = registry.log ++ new)
    (hnew : ∀ j, .lost j ∉ new) : after.Sane := by
  have haborted : after.aborted = registry.aborted := by
    funext c
    unfold SharedMonitorRegistry.aborted
    rw [hcontrollers]
  have howns : after.Owns = registry.Owns := by
    funext j c
    unfold Owns
    rw [hcontrollers]
  refine ⟨?_, ?_, ?_⟩
  · intro i entry hentry
    rw [hentries] at hentry
    have hsound := h.sound i entry hentry
    refine ⟨?_, hsound.armed, ?_, ?_, ?_, ?_⟩
    · intro haccepted
      obtain ⟨hregistered, hlease, hvalue, c, hc, hfresh⟩ := hsound.accepted haccepted
      refine ⟨hregistered, hlease, hvalue, c, hc, ?_⟩
      intro listener hlistener
      rw [hlog]
      exact (hfresh listener hlistener).append (hnew i)
    · rw [hcontrollers]
      exact hsound.controller
    · intro work hwork
      have hstage := hsound.work work hwork
      unfold StageSound at hstage ⊢
      rw [haborted, howns, hstreams]
      exact hstage
    · rw [hstreams]
      exact hsound.close
    · unfold StreamSound
      rw [hstreams, haborted, howns]
      exact hsound.streams
  · rw [hentries, hcontrollers]
    exact h.owners
  · rw [hcontrollers, hstreams]
    exact h.numbered

theorem Sane.publish (h : registry.Sane) (i c : ℕ) (entry : MonitorEntry ν)
    (update : MonitorUpdate ν) : (registry.publish i c entry update).Sane := by
  refine h.logged rfl rfl rfl rfl ?_
  intro j hmem
  obtain ⟨_, -, hrecord⟩ := List.mem_map.mp hmem
  cases hrecord

theorem Sane.lose (h : registry.Sane) (hentry : registry.entries[i]? = some entry)
    (haccepted : entry.baselineAccepted = false) : (registry.lose i).Sane := by
  have hsound := h.sound i entry hentry
  have hlocal : Local i registry (registry.lose i) := by
    refine ⟨fun _ _ => rfl, rfl, fun _ _ _ => Iff.rfl, fun _ _ _ _ _ => Iff.rfl,
      h.numbered, [.lost i], rfl, ?_⟩
    intro j hj hmem
    cases List.mem_singleton.mp hmem
    exact hj rfl
  refine h.local hentry hlocal hentry
    ⟨?_, hsound.armed, hsound.controller, hsound.work, hsound.close, hsound.streams⟩
  intro htrue
  rw [haccepted] at htrue
  cases htrue

/-! ### The stages of the work -/

def NotOpening (entry : MonitorEntry ν) : Prop :=
  ∀ authorizes s, entry.reconciling ≠ some ⟨authorizes, .opening s⟩

theorem Sound.done (h : registry.Sound i entry) (hnot : NotOpening entry) :
    registry.Sound i entry.done := by
  refine h.update rfl rfl rfl rfl (fun _ => id) ?_ h.armed ?_ ?_
  · intro haccepted
    exact ⟨(h.accepted haccepted).1, (h.accepted haccepted).2.1⟩
  · intro work hwork
    cases hwork
  · intro authorizes s hopening
    exact absurd hopening (hnot authorizes s)

theorem Sound.staged (h : registry.Sound i entry) (hnot : NotOpening entry)
    (hwork : registry.StageSound i entry work.stage) :
    registry.Sound i { entry with reconciling := some work } := by
  refine h.update rfl rfl rfl rfl (fun _ => id) ?_ h.armed ?_ ?_
  · intro haccepted
    exact ⟨(h.accepted haccepted).1, (h.accepted haccepted).2.1⟩
  · rintro other ⟨⟩
    exact hwork
  · intro authorizes s hopening
    exact absurd hopening (hnot authorizes s)

theorem atStage_eq (h : entry.reconciling = some ⟨authorizes, stage⟩) (next : ReconcileStage) :
    entry.atStage next = { entry with reconciling := some ⟨authorizes, next⟩ } := by
  rw [atStage, h]
  rfl

theorem reconciling_atStage
    (h : entry.reconciling = some ⟨authorizes, stage⟩) (next : ReconcileStage) :
    (entry.atStage next).reconciling = some ⟨authorizes, next⟩ := by
  rw [atStage_eq h]

theorem Sound.atStage (h : registry.Sound i entry)
    (hwork : entry.reconciling = some ⟨authorizes, stage⟩)
    (hnot : NotOpening entry) (hnext : registry.StageSound i entry next) :
    registry.Sound i (entry.atStage next) := by
  rw [atStage_eq hwork]
  exact h.staged hnot hnext

theorem Sane.done (h : registry.Sane) (hentry : registry.entries[i]? = some entry)
    (hnot : NotOpening entry) : (registry.modify i .done).Sane :=
  h.modify hentry ((h.sound i entry hentry).done hnot)

theorem Sane.atStage (h : registry.Sane) (hentry : registry.entries[i]? = some entry)
    (hwork : entry.reconciling = some ⟨authorizes, stage⟩) (hnot : NotOpening entry)
    (hnext : registry.StageSound i entry next) : (registry.modify i (.atStage next)).Sane :=
  h.modify hentry ((h.sound i entry hentry).atStage hwork hnot hnext)

theorem Sane.stop_done (h : registry.Sane) (hentry : registry.entries[i]? = some entry)
    (hnot : NotOpening entry) : ((registry.stopStream i entry).modify i .done).Sane :=
  (h.stopStream hentry).done (getElem?_modify_self hentry _) hnot

theorem Sane.expired (h : registry.Sane) (hentry : registry.entries[i]? = some entry) :
    (((registry.modify i .unleased).stopStream i entry).lose i).Sane := by
  have hunleased : ((registry.stopStream i entry).modify i .unleased).Sane := by
    refine (h.stopStream hentry).modify (getElem?_modify_self hentry _) ?_
    have hstopped := (h.sound i entry hentry).stopped
    refine hstopped.update rfl rfl rfl rfl (fun _ => id) ?_ ?_ ?_ ?_
    · intro haccepted
      cases haccepted
    · intro _ hlease
      cases hlease
    · exact hstopped.work
    · intro authorizes s hopening
      exact ⟨authorizes, hopening⟩
  rw [stopStream_modify registry i entry .unleased fun _ => rfl]
  refine hunleased.lose (getElem?_modify_self (getElem?_modify_self hentry _) _) rfl

theorem StreamSound.closed_of_idle
    (h : registry.StreamSound entry s stream) (hnot : NotOpening entry)
    (hclose : entry.streamClose = none) : stream.stage = .closed := by
  unfold StreamSound at h
  cases hstage : stream.stage with
  | opening =>
    rw [hstage] at h
    obtain ⟨authorizes, hopening⟩ := h
    exact absurd hopening (hnot authorizes s)
  | opened =>
    rw [hstage] at h
    rw [hclose] at h
    cases h
  | closed => rfl

theorem StreamSound.of_closed (hstage : stream.stage = .closed) :
    registry.StreamSound entry s stream ↔ registry.aborted stream.controller = true := by
  rw [StreamSound, hstage]

theorem Sane.startStream (h : registry.Sane) (hentry : registry.entries[i]? = some entry)
    (hnot : NotOpening entry) (authorizes : Bool) {old : MonitorEntry ν}
    (hold : old.streamClose = entry.streamClose) :
    (registry.startStream i authorizes old).Sane := by
  unfold SharedMonitorRegistry.startStream
  rw [hold]
  cases hclose : entry.streamClose with
  | some s => exact h.done hentry hnot
  | none =>
    rw [if_neg (by simp)]
    have hsound := h.sound i entry hentry
    have hfresh : ∀ {c controller}, registry.controllers[c]? = some controller →
        (registry.controllers ++ [⟨i, false⟩])[c]? = some controller :=
      fun hc => getElem?_append_of_some hc _
    refine h.local hentry ⟨?_, ?_, ?_, fun _ _ _ _ _ => Iff.rfl, ?_, ?_⟩
      (getElem?_modify_self hentry _) ⟨?_, hsound.armed, ?_, ?_, ?_, ?_⟩
    · intro j hj
      exact getElem?_modify_of_ne hj _
    · exact List.length_modify _ _ _
    · intro c controller hi
      refine ⟨fun hc => ?_, hfresh⟩
      rcases getElem?_append_cases hc with hbefore | ⟨-, rfl⟩
      · exact hbefore
      · exact absurd rfl hi
    · intro stream hstream
      have hlt := h.numbered stream hstream
      simp only [List.length_append, List.length_singleton]
      omega
    · exact ⟨[], (List.append_nil _).symm, fun _ _ => List.not_mem_nil⟩
    · intro haccepted
      cases haccepted
    · rintro c ⟨⟩
      exact List.getElem?_concat_length
    · rintro work ⟨⟩
      have hstage : ∀ flag, entry.streamClose = none ∧
          (∃ controller, (registry.controllers ++ [⟨i, false⟩])[registry.controllers.length]?
            = some controller ∧ controller.entry = i) ∧
          (flag = false → some registry.controllers.length = some registry.controllers.length) :=
        fun _ => ⟨hclose, ⟨_, List.getElem?_concat_length, rfl⟩, fun _ => rfl⟩
      cases authorizes with
      | true => exact hstage _
      | false => exact hstage _
    · intro s hs
      rw [hclose] at hs
      cases hs
    · intro s stream hstream howns
      have hlt := h.numbered stream (List.mem_of_getElem? hstream)
      obtain ⟨controller, hcontroller, howned⟩ := howns
      dsimp only at hcontroller
      rw [List.getElem?_append_left hlt] at hcontroller
      have hbefore := hsound.streams s stream hstream ⟨controller, hcontroller, howned⟩
      have hclosed := hbefore.closed_of_idle hnot hclose
      rw [StreamSound.of_closed hclosed] at hbefore ⊢
      unfold SharedMonitorRegistry.aborted at hbefore ⊢
      rw [hcontroller] at hbefore
      dsimp only
      rwa [hfresh hcontroller]

theorem Sane.openStream (h : registry.Sane) (hentry : registry.entries[i]? = some entry)
    (hwork : entry.reconciling = some ⟨authorizes, stage⟩) (hnot : NotOpening entry)
    (hstage : registry.StageSound i entry (.authorizingOpen c)) :
    (registry.openStream i c).Sane := by
  obtain ⟨hclose, howns, hlive⟩ := hstage
  have hsound := h.sound i entry hentry
  refine h.local hentry ⟨?_, ?_, fun _ _ _ => Iff.rfl, ?_, ?_, ?_⟩
    (getElem?_modify_self hentry _) ⟨hsound.accepted, hsound.armed, hsound.controller, ?_, ?_, ?_⟩
  · intro j hj
    exact getElem?_modify_of_ne hj _
  · exact List.length_modify _ _ _
  · intro j s stream hj howned
    refine ⟨fun hs => ?_, fun hs => getElem?_append_of_some hs _⟩
    rcases getElem?_append_cases hs with hbefore | ⟨-, rfl⟩
    · exact hbefore
    · exact absurd (howned.eq howns) hj
  · intro stream hstream
    rcases List.mem_append.mp hstream with hbefore | hnew
    · exact h.numbered stream hbefore
    · obtain ⟨controller, hcontroller, -⟩ := howns
      cases List.mem_singleton.mp hnew
      exact lt_length_of_getElem? hcontroller
  · exact ⟨[], (List.append_nil _).symm, fun _ _ => List.not_mem_nil⟩
  · intro work hreconciling
    rw [atStage_eq hwork] at hreconciling ⊢
    cases hreconciling
    exact ⟨hclose, c, List.getElem?_concat_length, howns, hlive⟩
  · intro s hs
    have hnone : entry.streamClose = some s := hs
    rw [hclose] at hnone
    cases hnone
  · intro s stream hstream howned
    rcases getElem?_append_cases hstream with hbefore | ⟨rfl, rfl⟩
    · have hstream := hsound.streams s stream hbefore howned
      have hclosed := hstream.closed_of_idle hnot hclose
      rw [StreamSound.of_closed hclosed] at hstream ⊢
      exact hstream
    · rw [atStage_eq hwork]
      exact ⟨authorizes, rfl⟩

theorem Sane.accept (h : registry.Sane) (hentry : registry.entries[i]? = some entry)
    (hnot : NotOpening entry) (hstage : registry.StageSound i entry (.loading c))
    (hlive : registry.aborted c = false) (hregistered : entry.registered = true)
    (hlease : entry.leaseGeneration.isSome = true) (snapshot : ν) :
    ((registry.modify i fun entry =>
      { entry with baselineAccepted := true, baselineValue := some snapshot }).publish i c
        entry (.baseline snapshot)).Sane := by
  obtain ⟨hclose, howns, hcontroller⟩ := hstage
  have hpublished : (registry.publish i c entry (.baseline snapshot)).Sane :=
    h.publish i c entry _
  have hsound := hpublished.sound i entry hentry
  have haccepted : ((registry.publish i c entry (.baseline snapshot)).modify i fun entry =>
      { entry with baselineAccepted := true, baselineValue := some snapshot }).Sane := by
    refine hpublished.modify hentry ⟨?_, hsound.armed, hsound.controller, ?_, ?_, ?_⟩
    · intro _
      refine ⟨hregistered, hlease, rfl, c, hcontroller hlive, ?_⟩
      intro listener hlistener
      apply since_of_mem (List.mem_map.mpr ⟨listener, hlistener, rfl⟩)
      · exact ⟨snapshot, rfl⟩
      · rintro other hother rfl
        obtain ⟨_, -, hrecord⟩ := List.mem_map.mp hother
        cases hrecord
    · intro work hwork
      have hbefore := hsound.work work hwork
      obtain ⟨authorizes, stage⟩ := work
      cases stage with
      | authorizingAcquire => trivial
      | acquiring answer => trivial
      | authorizingRenew => trivial
      | renewing generation answer => trivial
      | authorizingLoad c => exact hbefore
      | loading c => exact hbefore
      | authorizingOpen c =>
        exact ⟨hbefore.1, hbefore.2.1, fun halive => ⟨(hbefore.2.2 halive).1, rfl⟩⟩
      | opening s => exact absurd hwork (hnot authorizes s)
    · intro s hs
      have hnone : entry.streamClose = some s := hs
      rw [hclose] at hnone
      cases hnone
    · exact hsound.streams
  exact haccepted

/-! ### The end of `openStream` -/

theorem local_setStream (h : registry.Sane)
    (hstream : registry.streams[s]? = some stream) (howns : registry.Owns i stream.controller)
    (f : MonitorEntry ν → MonitorEntry ν) (stage : StreamStage) :
    Local i registry { registry with
      entries := registry.entries.modify i f
      streams := registry.streams.set s { stream with stage := stage } } where
  others _ hj := getElem?_modify_of_ne hj f
  length := List.length_modify f registry.entries i
  controllers _ _ _ := Iff.rfl
  streams j n other hj howned := by
    dsimp only
    by_cases hn : s = n
    · subst hn
      rw [hstream, List.getElem?_set_self (lt_length_of_getElem? hstream)]
      constructor
      · rintro ⟨⟩
        exact absurd (howned.eq howns) hj
      · rintro ⟨⟩
        exact absurd (howned.eq howns) hj
    · rw [List.getElem?_set_ne hn]
  numbered other hother := by
    rcases List.mem_or_eq_of_mem_set hother with hmem | rfl
    · exact h.numbered other hmem
    · exact h.numbered stream (List.mem_of_getElem? hstream)
  log := ⟨[], (List.append_nil _).symm, fun _ _ => List.not_mem_nil⟩

theorem Sound.others_closed (h : registry.Sound i entry) {n : ℕ}
    (hwork : entry.reconciling = some ⟨authorizes, .opening s⟩)
    (hclose : entry.streamClose = none) (hn : n ≠ s) (hstream : registry.streams[n]? = some stream)
    (howns : registry.Owns i stream.controller) : stream.stage = .closed := by
  have hbefore := h.streams n stream hstream howns
  unfold StreamSound at hbefore
  cases hstage : stream.stage with
  | opening =>
    rw [hstage] at hbefore
    obtain ⟨_, hopening⟩ := hbefore
    rw [hwork] at hopening
    cases hopening
    exact absurd rfl hn
  | opened =>
    rw [hstage] at hbefore
    dsimp only at hbefore
    rw [hclose] at hbefore
    cases hbefore
  | closed => rfl

theorem Sane.closed (h : registry.Sane) (hentry : registry.entries[i]? = some entry)
    (hwork : entry.reconciling = some ⟨authorizes, .opening s⟩) (hclose : entry.streamClose = none)
    (hstream : registry.streams[s]? = some stream) (howns : registry.Owns i stream.controller)
    (hdead : registry.aborted stream.controller = true) :
    Sane { registry with
      entries := registry.entries.modify i .done
      streams := registry.streams.set s { stream with stage := .closed } } := by
  have hsound := h.sound i entry hentry
  refine h.local hentry (local_setStream h hstream howns .done .closed)
    (getElem?_modify_self hentry _) ⟨hsound.accepted, hsound.armed, hsound.controller, ?_, ?_, ?_⟩
  · intro work hreconciling
    cases hreconciling
  · intro n hn
    have hnone : entry.streamClose = some n := hn
    rw [hclose] at hnone
    cases hnone
  · intro n other hother howned
    rcases getElem?_set_cases hother with ⟨rfl, rfl⟩ | ⟨hn, hold⟩
    · exact hdead
    · have hstage := hsound.others_closed hwork hclose hn hold howned
      have hbefore := hsound.streams n other hold howned
      rw [StreamSound.of_closed hstage] at hbefore ⊢
      exact hbefore

theorem Sane.opened (h : registry.Sane) (hentry : registry.entries[i]? = some entry)
    (hwork : entry.reconciling = some ⟨authorizes, .opening s⟩) (hclose : entry.streamClose = none)
    (hstream : registry.streams[s]? = some stream) (howns : registry.Owns i stream.controller)
    (hcontroller : entry.controller = some stream.controller)
    (haccepted : entry.baselineAccepted = true) :
    Sane { registry with
      entries := registry.entries.modify i fun entry =>
        { entry with streamClose := some s, reconciling := none }
      streams := registry.streams.set s { stream with stage := .opened } } := by
  have hsound := h.sound i entry hentry
  refine h.local hentry (local_setStream h hstream howns _ .opened)
    (getElem?_modify_self hentry _) ⟨hsound.accepted, hsound.armed, hsound.controller, ?_, ?_, ?_⟩
  · intro work hreconciling
    cases hreconciling
  · rintro n ⟨⟩
    exact ⟨haccepted, stream.controller, hcontroller,
      List.getElem?_set_self (lt_length_of_getElem? hstream)⟩
  · intro n other hother howned
    rcases getElem?_set_cases hother with ⟨rfl, rfl⟩ | ⟨hn, hold⟩
    · rfl
    · have hstage := hsound.others_closed hwork hclose hn hold howned
      have hbefore := hsound.streams n other hold howned
      rw [StreamSound.of_closed hstage] at hbefore ⊢
      exact hbefore

theorem Sane.streamOpened (h : registry.Sane) (hentry : registry.entries[i]? = some entry)
    (hwork : entry.reconciling = some ⟨authorizes, .opening s⟩)
    (hstream : registry.streams[s]? = some stream) (resolves : Bool) :
    (registry.streamOpened i entry s stream resolves).Sane := by
  obtain ⟨hclose, c, hopening, howns, hlive⟩ := (h.sound i entry hentry).work _ hwork
  rw [hstream] at hopening
  cases hopening
  unfold SharedMonitorRegistry.streamOpened
  split
  · have hkept : (registry.stopStream i entry).streams = registry.streams := by
      unfold SharedMonitorRegistry.stopStream
      rw [hclose]
      rfl
    have hdead : (registry.stopStream i entry).aborted c = true := by
      rw [aborted_stopStream, Bool.or_eq_true, decide_eq_true_iff]
      cases hc : registry.aborted c with
      | true => exact .inl rfl
      | false => exact .inr (hlive hc).1
    have hclosed := (h.stopStream hentry).closed (getElem?_modify_self hentry _) hwork rfl
      (hkept.symm ▸ hstream) ((owns_stopStream registry i entry).mpr howns) hdead
    refine hclosed.logged ?_ ?_ ?_ (List.append_nil _).symm fun _ => List.not_mem_nil
    · rfl
    · rfl
    · rw [hkept]
      unfold SharedMonitorRegistry.modify SharedMonitorRegistry.stopStream
      rw [hclose]
      rfl
  · split
    · rename_i hdead
      exact h.closed hentry hwork hclose hstream howns hdead
    · rename_i halive
      obtain ⟨hcontroller, haccepted⟩ := hlive (Bool.eq_false_iff.mpr halive)
      exact h.opened hentry hwork hclose hstream howns hcontroller haccepted

/-! ### The calls -/

theorem Sane.same (h : registry.Sane) (hentries : after.entries = registry.entries)
    (hcontrollers : after.controllers = registry.controllers)
    (hstreams : after.streams = registry.streams) (hlog : after.log = registry.log) : after.Sane :=
  h.logged hentries hcontrollers hstreams (hlog.trans (List.append_nil _).symm)
    fun _ => List.not_mem_nil

theorem Sane.joined (h : registry.Sane) (hentry : registry.entries[i]? = some entry)
    {listener : ℕ} {new : List (MonitorRecord ν)} (hnew : ∀ j, .lost j ∉ new)
    (hbaseline : entry.baselineAccepted = true → ∀ c, entry.controller = some c →
      ∃ value, .delivered i c listener (.baseline value) ∈ new) (handles : List MonitorHandle) :
    Sane { registry.modify i fun entry =>
        { entry with listeners :=
            if listener ∈ entry.listeners then entry.listeners
            else entry.listeners ++ [listener] } with
      handles := handles
      log := registry.log ++ new } := by
  have hlogged : Sane { registry with handles := handles, log := registry.log ++ new } :=
    h.logged rfl rfl rfl rfl hnew
  have hsound := hlogged.sound i entry hentry
  apply hlogged.modify hentry
  refine ⟨?_, hsound.armed, hsound.controller, hsound.work, hsound.close, hsound.streams⟩
  intro haccepted
  obtain ⟨hregistered, hlease, hvalue, c, hcontroller, hfresh⟩ := hsound.accepted haccepted
  refine ⟨hregistered, hlease, hvalue, c, hcontroller, ?_⟩
  intro other hother
  have hcases : other ∈ entry.listeners ∨ other = listener := by
    dsimp only at hother
    split at hother
    · exact .inl hother
    · simpa using hother
  rcases hcases with hmem | rfl
  · exact hfresh other hmem
  · obtain ⟨value, hmem⟩ := hbaseline haccepted c hcontroller
    refine since_of_mem hmem ⟨value, rfl⟩ ?_
    rintro record hrecord rfl
    exact hnew i hrecord

theorem Sane.join (h : registry.Sane) (hentry : registry.entries[i]? = some entry)
    (listener : ℕ) : (registry.join i entry listener).Sane := by
  unfold SharedMonitorRegistry.join
  apply h.joined hentry
  · intro j hmem
    split at hmem
    · cases List.mem_singleton.mp hmem
    · cases hmem
  · intro haccepted c hcontroller
    obtain ⟨-, -, hvalue, -⟩ := (h.sound i entry hentry).accepted haccepted
    obtain ⟨value, hvalue⟩ := Option.isSome_iff_exists.mp hvalue
    refine ⟨value, ?_⟩
    rw [haccepted, hvalue, hcontroller]
    exact List.mem_singleton_self _

theorem Sane.created (h : registry.Sane) (target : MonitorTarget) (users : List String) :
    Sane { registry with
      uniqueUsers := users
      entries := registry.entries ++ [.created target] } where
  sound j other hother := by
    rcases getElem?_append_cases hother with hold | ⟨rfl, rfl⟩
    · have hsound := h.sound j other hold
      exact ⟨hsound.accepted, hsound.armed, hsound.controller, hsound.work, hsound.close,
        hsound.streams⟩
    · refine ⟨?_, ?_, ?_, ?_, ?_, ?_⟩
      · intro haccepted
        cases haccepted
      · intro _ hlease
        cases hlease
      · intro c hcontroller
        cases hcontroller
      · intro work hwork
        cases hwork
      · intro s hclose
        cases hclose
      · rintro s stream - ⟨controller, hcontroller, hlast⟩
        have hlt := h.owners _ controller hcontroller
        omega
  owners c controller hcontroller := by
    have hlt := h.owners c controller hcontroller
    simp only [List.length_append, List.length_singleton]
    omega
  numbered := h.numbered

theorem Sane.removed (h : registry.Sane) (hentry : registry.entries[i]? = some entry) :
    ((registry.modify i .removed).stopStream i entry).Sane := by
  rw [stopStream_modify registry i entry .removed fun _ => rfl]
  refine (h.stopStream hentry).modify (getElem?_modify_self hentry _) ?_
  have hstopped := (h.sound i entry hentry).stopped
  refine hstopped.update rfl rfl rfl rfl (fun _ => id) ?_ ?_ hstopped.work ?_
  · intro haccepted
    cases haccepted
  · intro hregistered
    cases hregistered
  · intro authorizes s hopening
    exact ⟨authorizes, hopening⟩

theorem Sane.remove (h : registry.Sane) (hentry : registry.entries[i]? = some entry)
    {left : MonitorEntry ν} (hcontroller : left.controller = entry.controller)
    (hclose : left.streamClose = entry.streamClose) : (registry.remove i left).Sane := by
  have hremoved := h.removed hentry
  have hstopped : (registry.modify i .removed).stopStream i left =
      (registry.modify i .removed).stopStream i entry := by
    unfold SharedMonitorRegistry.stopStream
    rw [hcontroller, hclose]
  unfold SharedMonitorRegistry.remove
  rw [hstopped]
  cases left.leaseGeneration with
  | some generation => exact hremoved.same rfl rfl rfl rfl
  | none =>
    dsimp only
    split
    · exact hremoved.same rfl rfl rfl rfl
    · exact hremoved

theorem Sane.closeEntry (h : registry.Sane) (i : ℕ) :
    (SharedMonitorRegistry.closeEntry registry i).Sane := by
  unfold SharedMonitorRegistry.closeEntry
  cases hentry : registry.entries[i]? with
  | none => exact h
  | some entry =>
    dsimp only
    split
    · exact h
    · exact (h.removed hentry).same rfl rfl rfl rfl

theorem Sane.leave (h : registry.Sane) (handle : MonitorHandle) : (registry.leave handle).Sane := by
  unfold SharedMonitorRegistry.leave
  cases hlookup : registry.lookup handle.leaseKey with
  | none => exact h
  | some found =>
    obtain ⟨i, entry⟩ := found
    obtain ⟨hentry, -, -⟩ := lookup_some hlookup
    have hsound := h.sound i entry hentry
    have hleft : (registry.modify i fun other =>
        { other with listeners :=
            entry.listeners.filter fun other => other ≠ handle.listener }).Sane := by
      apply h.modify hentry
      refine hsound.update rfl rfl rfl rfl ?_ ?_ hsound.armed hsound.work ?_
      · intro listener hlistener
        exact List.mem_of_mem_filter hlistener
      · intro haccepted
        exact ⟨(hsound.accepted haccepted).1, (hsound.accepted haccepted).2.1⟩
      · intro authorizes s hopening
        exact ⟨authorizes, hopening⟩
    dsimp only
    split
    · exact hleft.remove (getElem?_modify_self hentry _) rfl rfl
    · exact hleft

theorem Sane.reconcileEntry (h : registry.Sane) (authorizes : Bool) (now : ℤ) (i : ℕ) :
    (SharedMonitorRegistry.reconcileEntry authorizes now registry i).Sane := by
  unfold SharedMonitorRegistry.reconcileEntry
  cases hentry : registry.entries[i]? with
  | none => exact h
  | some entry =>
    dsimp only
    split
    · exact h
    · rename_i hidle
      have hsound := h.sound i entry hentry
      have hnot : NotOpening entry := by
        intro flag s hopening
        apply hidle
        rw [hopening]
        exact .inr rfl
      cases entry.leaseGeneration with
      | none =>
        apply h.modify hentry
        apply hsound.staged hnot
        cases authorizes with
        | true => trivial
        | false => trivial
      | some generation =>
        dsimp only
        split
        · apply h.modify hentry
          apply hsound.staged hnot
          cases authorizes with
          | true => trivial
          | false => trivial
        · exact h.startStream hentry hnot authorizes rfl

theorem notOpening_of_work (hwork : entry.reconciling = some work)
    (hstage : ∀ s, work.stage ≠ .opening s) : NotOpening entry := by
  intro flag s hopening
  rw [hwork] at hopening
  cases hopening
  exact hstage s rfl

theorem Sane.authorized (h : registry.Sane) (hentry : registry.entries[i]? = some entry)
    (hwork : entry.reconciling = some work) (answer : Option Bool) :
    (registry.authorized i entry work.stage answer).Sane := by
  obtain ⟨authorizes, stage⟩ := work
  have hstage := (h.sound i entry hentry).work _ hwork
  cases stage with
  | authorizingAcquire =>
    have hnot := notOpening_of_work hwork (by simp)
    have hdone := h.done hentry hnot
    cases answer with
    | none => exact hdone
    | some answer =>
      cases answer with
      | false => exact hdone
      | true => exact h.atStage hentry hwork hnot trivial
  | authorizingRenew =>
    have hnot := notOpening_of_work hwork (by simp)
    have hdone := h.done hentry hnot
    cases answer with
    | none => exact hdone
    | some answer =>
      cases answer with
      | false => exact hdone
      | true => exact h.atStage hentry hwork hnot trivial
  | authorizingLoad c =>
    have hnot := notOpening_of_work hwork (by simp)
    cases answer with
    | none => exact h.stop_done hentry hnot
    | some answer =>
      cases answer with
      | false => exact h.done hentry hnot
      | true => exact h.atStage hentry hwork hnot hstage
  | authorizingOpen c =>
    have hnot := notOpening_of_work hwork (by simp)
    cases answer with
    | none => exact h.stop_done hentry hnot
    | some answer =>
      cases answer with
      | false => exact h.stop_done hentry hnot
      | true => exact h.openStream hentry hwork hnot hstage
  | acquiring given => exact h
  | renewing generation given => exact h
  | loading c => exact h
  | opening s => exact h

theorem Sane.leased (h : registry.Sane) (hentry : registry.entries[i]? = some entry)
    (hwork : entry.reconciling = some work)
    (hstage : ∀ after : MonitorEntry ν, registry.StageSound i after work.stage)
    (hnot : NotOpening entry) {now : ℤ} {generation : Option ℕ}
    (hgeneration : entry.baselineAccepted = true → generation.isSome = true)
    (hf : f entry = ({ entry with leaseGeneration := generation }).armed now) :
    ((registry.modify i f).startStream i work.authorizes entry).Sane := by
  have hsound := h.sound i entry hentry
  have hleased : (registry.modify i f).entries[i]? =
      some (({ entry with leaseGeneration := generation }).armed now) :=
    hf ▸ getElem?_modify_self hentry f
  have harmed : (registry.modify i f).Sane := by
    apply h.modify hentry
    rw [hf]
    refine hsound.update rfl rfl rfl rfl (fun _ => id) ?_ (fun _ _ => rfl) ?_ ?_
    · intro haccepted
      exact ⟨(hsound.accepted haccepted).1, hgeneration haccepted⟩
    · intro other hother
      have hsame : entry.reconciling = some other := hother
      rw [hwork] at hsame
      cases hsame
      exact hstage _
    · intro authorizes s hopening
      exact ⟨authorizes, hopening⟩
  exact harmed.startStream hleased hnot work.authorizes rfl

theorem Sane.leaseAnswered (h : registry.Sane) (hentry : registry.entries[i]? = some entry)
    (hwork : entry.reconciling = some work) (now : ℤ) :
    (registry.leaseAnswered i entry work now).Sane := by
  have hsound := h.sound i entry hentry
  unfold SharedMonitorRegistry.leaseAnswered
  split
  · rename_i generation hstage
    have hnot := notOpening_of_work hwork (by rw [hstage]; simp)
    refine h.leased hentry hwork ?_ hnot (fun _ => rfl) rfl
    intro after
    rw [hstage]
    trivial
  · rename_i given hstage
    exact h.done hentry (notOpening_of_work hwork (by rw [hstage]; simp))
  · rename_i generation hstage
    have hnot := notOpening_of_work hwork (by rw [hstage]; simp)
    refine h.leased hentry hwork ?_ hnot (fun haccepted => (hsound.accepted haccepted).2.1) rfl
    intro after
    rw [hstage]
    trivial
  · rename_i generation hstage
    have hnot := notOpening_of_work hwork (by rw [hstage]; simp)
    exact (h.expired hentry).done
      (getElem?_modify_self (getElem?_modify_self hentry _) _) hnot
  · rename_i generation hstage
    exact h.done hentry (notOpening_of_work hwork (by rw [hstage]; simp))
  · exact h

theorem Sane.loaded (h : registry.Sane) (hentry : registry.entries[i]? = some entry)
    (hwork : entry.reconciling = some ⟨authorizes, .loading c⟩)
    (snapshot : Option ν) : (registry.loaded i entry authorizes c snapshot).Sane := by
  have hnot := notOpening_of_work hwork (by simp)
  have hstage := (h.sound i entry hentry).work _ hwork
  cases snapshot with
  | none => exact h.stop_done hentry hnot
  | some snapshot =>
    unfold SharedMonitorRegistry.loaded
    dsimp only
    split
    · exact h.done hentry hnot
    · rename_i hheld
      rw [not_or, not_or, Bool.not_eq_true, Bool.not_eq_false] at hheld
      obtain ⟨hlive, hregistered, hlease⟩ := hheld
      have hpublished := h.accept hentry hnot hstage hlive hregistered
        (Option.isSome_iff_ne_none.mpr hlease) snapshot
      obtain ⟨hclose, howns, hcontroller⟩ := hstage
      have haccepted := getElem?_modify_self hentry fun entry : MonitorEntry ν =>
        { entry with baselineAccepted := true, baselineValue := some snapshot }
      split
      · exact hpublished.atStage haccepted hwork hnot
          ⟨hclose, howns, fun halive => ⟨hcontroller halive, rfl⟩⟩
      · exact hpublished.openStream haccepted hwork hnot
          ⟨hclose, howns, fun halive => ⟨hcontroller halive, rfl⟩⟩

theorem Sane.acquireServed (h : registry.Sane) (hentry : registry.entries[i]? = some entry)
    (hwork : entry.reconciling = some ⟨authorizes, .acquiring none⟩)
    (answer : AcquireAnswer) : (registry.acquireServed i entry answer).Sane := by
  have hnot := notOpening_of_work hwork (by simp)
  have hanswered : (registry.modify i (.atStage (.acquiring (some answer)))).Sane :=
    h.atStage hentry hwork hnot trivial
  cases answer with
  | refused => exact hanswered
  | rejected => exact hanswered
  | granted generation =>
    unfold SharedMonitorRegistry.acquireServed
    dsimp only
    split
    · exact h
    · exact hanswered.same rfl rfl rfl rfl

theorem Sane.step (h : registry.Sane) (event : MonitorEvent ν) : (registry.step event).Sane := by
  have hmove := move_step registry event
  have hreconcile : ∀ authorizes now, (registry.step (.reconcile authorizes now)).Sane :=
    reconcile_induction (fun _ i authorizes now hbefore => hbefore.reconcileEntry authorizes now i)
      h
  have hclose : (registry.step .close).Sane :=
    close_induction (fun _ i hbefore => hbefore.closeEntry i) h
  generalize registry.step event = after at hmove ⊢
  cases hmove with
  | nothing event => exact h
  | joined target listener i entry hentry => exact h.join hentry listener
  | created target normalized listener uniqueUsers hlookup hreserved =>
    exact (h.created normalized uniqueUsers).join (List.getElem?_concat_length) listener
  | left n handle =>
    have hcalled : Sane { registry with
        handles := registry.handles.set n { handle with released := true } } :=
      h.same rfl rfl rfl rfl
    exact hcalled.leave handle
  | reconciled authorizes now => exact hreconcile authorizes now
  | closed => exact hclose
  | authorized i entry work answer hentry hwork => exact h.authorized hentry hwork answer
  | acquireServed i entry authorizes answer hentry hwork =>
    exact h.acquireServed hentry hwork answer
  | renewServed i entry authorizes generation rejects hentry hwork =>
    exact h.atStage hentry hwork (notOpening_of_work hwork (by simp)) trivial
  | leaseAnswered i entry work now hentry hwork => exact h.leaseAnswered hentry hwork now
  | loaded i entry authorizes c snapshot hentry hwork => exact h.loaded hentry hwork snapshot
  | streamOpened i entry authorizes s stream resolves hentry hwork hstream =>
    exact h.streamOpened hentry hwork hstream resolves
  | delta s stream i entry value hstream howner haccepted hlive => exact h.publish i _ entry _
  | gap s stream i entry hstream howner =>
    obtain ⟨hentry, -⟩ := owner_some howner
    exact (h.stopStream hentry).lose (getElem?_modify_self hentry _) rfl
  | leaseExpired i entry hentry harmed => exact h.expired hentry
  | releaseKept r release rejects hrelease hanswer hkept => exact h.same rfl rfl rfl rfl
  | releaseCleared r release hrelease hanswer => exact h.same rfl rfl rfl rfl
  | releaseSettled r release uniqueUsers hrelease hanswer => exact h.same rfl rfl rfl rfl
  | storeExpired key => exact h.same rfl rfl rfl rfl

end SharedMonitorRegistry

end HyperTrader
