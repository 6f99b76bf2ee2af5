import HyperTrader.Workers.Ownership

/-!
# Every shutdown of the workers completes

The loop of the service ticks until it is aborted: a tick activates the supervisor
and runs the workers once, and deactivates where either fails. A deactivation is a
chain of calls that may fail themselves; it completes exactly where the last one of
a tick, or of the shutdown, meets no failure.
-/

namespace HyperTrader

open Library

namespace Workers

/-- Where `run` is; a loop that ends has failed where an error was thrown out of it. -/
inductive Loop where
  | sleeping
  | ticking (task : WorkerTask)
  /-- the `finally` block, for `stop` -/
  | stopping (task : WorkerTask) (failed : Bool)
  | ended (failed : Bool)
  deriving DecidableEq

def Loop.task : Loop → Option WorkerTask
  | .ticking task | .stopping task _ => some task
  | .sleeping | .ended _ => none

def Loop.running : Loop → Bool
  | .sleeping | .ticking _ => true
  | .stopping _ _ | .ended _ => false

structure Runtime where
  leases : MonitorLeases
  supervisor : WorkerSupervisor
  aborted : Bool
  loop : Loop

inductive RuntimeEvent where
  /-- The loop comes round. -/
  | tick
  | abort
  | resume (now : ℤ) (reply : WorkerReply)
  /-- Others change the database. -/
  | elsewhere (leases : MonitorLeases)

namespace Runtime

def stop (runtime : Runtime) (failed : Bool) : Runtime :=
  { runtime with loop := .stopping ⟨.direct, runtime.supervisor.deactivate .stopped⟩ failed }

def ticked (runtime : Runtime) (task : WorkerTask) : Runtime :=
  match task.stage with
  | .returned => { runtime with loop := .sleeping }
  | .threw => runtime.stop (!runtime.aborted)
  | _ => { runtime with loop := .ticking task }

def stopped (runtime : Runtime) (failed : Bool) (task : WorkerTask) : Runtime :=
  match task.stage with
  | .returned => { runtime with loop := .ended failed }
  | .threw => { runtime with loop := .ended true }
  | _ => { runtime with loop := .stopping task failed }

def tick (runtime : Runtime) : Runtime :=
  if runtime.aborted then runtime.stop false
  else
    let (supervisor, stage) := runtime.supervisor.activate .tickTry
    { runtime with supervisor := supervisor }.ticked ⟨.tickTry, stage⟩

def resumed (runtime : Runtime) : RuntimeEvent → Option Resumed
  | .resume now reply => runtime.loop.task.map fun task =>
    resume runtime.leases runtime.supervisor task.frame task.stage now reply
  | _ => none

def goOn (runtime : Runtime) (next : Resumed) : Runtime :=
  let after := { runtime with leases := next.leases, supervisor := next.supervisor }
  match runtime.loop with
  | .stopping _ failed => after.stopped failed next.task
  | _ => after.ticked next.task

def step (runtime : Runtime) : RuntimeEvent → Runtime
  | .tick => if runtime.loop = .sleeping then runtime.tick else runtime
  | .abort => { runtime with aborted := true }
  | .elsewhere leases => { runtime with leases := leases }
  | .resume now reply => (runtime.resumed (.resume now reply)).elim runtime runtime.goOn

def initial (supervisor : WorkerSupervisor) (leases : MonitorLeases) : Runtime where
  leases := leases
  supervisor := { supervisor with generation := none, state := .stopped, rulesOpen := false }
  aborted := false
  loop := .sleeping

end Runtime

def WorkerStage.deactivating : WorkerStage → Bool
  | .renewingLast _ _ | .closingGates _ _ _ | .closingRules _ _ | .releasing _ _ => true
  | _ => false

def WorkerStage.ended : WorkerStage → Bool
  | .returned | .threw => true
  | _ => false

/-- The workers are down, and a later tick can activate them again. -/
structure WorkerSupervisor.Down (supervisor : WorkerSupervisor) : Prop where
  rules : supervisor.rulesOpen = false
  generation : supervisor.generation = none
  state : supervisor.state ≠ .active
  activates : supervisor.providerWorkersEnabled = true →
    supervisor.activate .tickTry = (supervisor, .checkingDependencies)

structure Completes (runtime : Runtime) (event : RuntimeEvent) : Prop where
  /-- No tick and no shutdown throws. -/
  returns : ∀ next ∈ runtime.resumed event, next.task.stage ≠ .threw
  /-- A deactivation that ends has taken the workers down. -/
  down : ∀ task ∈ runtime.loop.task, task.stage.deactivating = true →
    ∀ next ∈ runtime.resumed event, next.task.stage = .returned → next.supervisor.Down
  /-- A tick whose `try` block has failed ends with the workers down. -/
  caught : ∀ next ∈ runtime.resumed event, next.task.frame = .tickCatch →
    next.task.stage = .returned → next.supervisor.Down
  /-- The loop is left only when it is aborted. -/
  aborted : runtime.loop.running = true → (runtime.step event).loop.running = false →
    runtime.aborted = true

/-- What a deactivation waits for does not fail: its renewal finds the monitors enabled,
and the database and the rule worker answer. -/
def Answers (leases : MonitorLeases) : WorkerStage → WorkerReply → Prop
  | .renewingLast _ _, .renewed fault _ =>
    fault = none ∧ leases.service.assertMonitorsEnabled = .ok ()
  | .closingGates _ _ _, .gatesClosed fault => fault = none
  | .closingRules _ _, .rulesClosed succeeds => succeeds = true
  | .releasing _ _, .released fault => fault = none
  | _, _ => True

/-- Where `tickOnce` has no `catch` left, a deactivation meets no failure. -/
def Cooperates (runtime : Runtime) : RuntimeEvent → Prop
  | .resume _ reply => ∀ task ∈ runtime.loop.task, task.frame ≠ .tickTry →
      Answers runtime.leases task.stage reply
  | .tick | .abort | .elsewhere _ => True

def Fits (supervisor : WorkerSupervisor) : WorkerStage → Prop
  | .renewingLast generation _ | .closingGates generation _ _ =>
    supervisor.generation = some generation
  | .closingRules generation _ => supervisor.generation = generation
  | .releasing generation _ =>
    supervisor.generation = some generation ∧ supervisor.rulesOpen = false
  | _ => True

structure Sound (supervisor : WorkerSupervisor) (task : WorkerTask) : Prop where
  generation : ∀ generation ∈ supervisor.generation, isLeaseGeneration generation
  fits : Fits supervisor task.stage
  caught : task.frame = .tickTry → task.stage ≠ .threw
  deactivates : task.frame ≠ .tickTry →
    task.stage.deactivating = true ∨ task.stage.ended = true

section

variable {leases : MonitorLeases} {supervisor : WorkerSupervisor} {frame : WorkerFrame}
  {stage : WorkerStage} {left : DeactivationState} {now : ℤ} {reply : WorkerReply}
  {fault : Option StoreFailure}

theorem WorkerSupervisor.Down.of_deactivated (hrules : supervisor.rulesOpen = false)
    (left : DeactivationState) : (supervisor.deactivated left).Down where
  rules := hrules
  generation := rfl
  state := by cases left <;> exact fun h => by cases h
  activates henabled := by
    have hidle : ¬((supervisor.deactivated left).state = .active ∧
        (supervisor.deactivated left).generation.isSome = true) := fun h => by cases h.2
    have hallowed : (supervisor.deactivated left).providerWorkersEnabled ≠ false := by
      rw [henabled]
      decide
    unfold WorkerSupervisor.activate
    rw [if_neg hidle, if_neg hallowed]

theorem WorkerSupervisor.deactivate_deactivating :
    (supervisor.deactivate left).deactivating = true := by
  unfold WorkerSupervisor.deactivate
  split <;> rfl

theorem WorkerStage.ne_threw_of_deactivating (h : stage.deactivating = true) : stage ≠ .threw := by
  rintro rfl
  cases h

theorem Sound.goes_on
    (hgeneration : ∀ generation ∈ supervisor.generation, isLeaseGeneration generation)
    (hfits : Fits supervisor stage) (hstage : stage ≠ .threw) :
    Sound supervisor ⟨.tickTry, stage⟩ :=
  ⟨hgeneration, hfits, fun _ => hstage, fun h => absurd rfl h⟩

theorem Sound.deactivate
    (hgeneration : ∀ generation ∈ supervisor.generation, isLeaseGeneration generation) :
    Sound supervisor ⟨frame, supervisor.deactivate left⟩ where
  generation := hgeneration
  fits := by
    unfold WorkerSupervisor.deactivate
    split
    · assumption
    · assumption
  caught _ :=
    WorkerStage.ne_threw_of_deactivating WorkerSupervisor.deactivate_deactivating
  deactivates _ := .inl WorkerSupervisor.deactivate_deactivating

theorem Sound.throws
    (hgeneration : ∀ generation ∈ supervisor.generation, isLeaseGeneration generation) :
    Sound supervisor (supervisor.throws frame) := by
  cases frame with
  | tickTry => exact Sound.deactivate hgeneration
  | direct => exact ⟨hgeneration, trivial, fun h => (by cases h), fun _ => .inr rfl⟩
  | tickCatch => exact ⟨hgeneration, trivial, fun h => (by cases h), fun _ => .inr rfl⟩

theorem Sound.fails {leases : MonitorLeases}
    (hgeneration : ∀ generation ∈ supervisor.generation, isLeaseGeneration generation) :
    Sound (fails leases supervisor frame).supervisor (fails leases supervisor frame).task :=
  Sound.throws hgeneration

theorem Sound.activated
    (hgeneration : ∀ generation ∈ supervisor.generation, isLeaseGeneration generation) :
    Sound supervisor ⟨.tickTry, supervisor.activated .tickTry⟩ := by
  change Sound supervisor ⟨.tickTry, supervisor.runOnce⟩
  unfold WorkerSupervisor.runOnce
  split
  · exact Sound.goes_on hgeneration trivial fun h => by cases h
  · exact Sound.goes_on hgeneration trivial fun h => by cases h

theorem Sound.activate
    (hgeneration : ∀ generation ∈ supervisor.generation, isLeaseGeneration generation) :
    Sound (supervisor.activate .tickTry).1 ⟨.tickTry, (supervisor.activate .tickTry).2⟩ := by
  unfold WorkerSupervisor.activate
  split
  · exact Sound.activated hgeneration
  · split
    · exact Sound.activated hgeneration
    · exact Sound.goes_on hgeneration trivial fun h => by cases h

theorem Sound.resume_trying (h : Sound supervisor ⟨.tickTry, stage⟩)
    (hstage : stage.deactivating = false) :
    Sound (resume leases supervisor .tickTry stage now reply).supervisor
      (resume leases supervisor .tickTry stage now reply).task := by
  have hgeneration := h.generation
  unfold resume
  split
  · unfold afterDependencies
    split
    · exact Sound.fails hgeneration
    · exact Sound.activated hgeneration
    · exact Sound.goes_on hgeneration trivial fun h => by cases h
  · unfold afterGatesOpened
    split
    · exact Sound.fails hgeneration
    · exact Sound.goes_on hgeneration trivial fun h => by cases h
  · unfold afterAcquired
    split
    · exact Sound.fails hgeneration
    · exact Sound.activated hgeneration
    · rename_i generation after hacquired
      refine Sound.goes_on ?_ trivial fun h => by cases h
      rintro _ ⟨⟩
      rcases MonitorLeases.acquire_cases supervisor.ownerPattern with
        ⟨failure, hfails⟩ | ⟨given, state, hstatement, hgives⟩
      · rw [hfails] at hacquired
        cases hacquired
      · rw [hgives] at hacquired
        cases hacquired
        exact MonitorLeases.isLeaseGeneration_of_acquire hstatement
  · exact Sound.activated hgeneration
  · unfold afterRenewed
    split
    · exact Sound.fails hgeneration
    · exact Sound.deactivate hgeneration
    · exact Sound.goes_on hgeneration trivial fun h => by cases h
  · unfold afterRecheck
    split
    · exact Sound.fails hgeneration
    · exact Sound.deactivate hgeneration
    · split
      · exact Sound.fails hgeneration
      · exact Sound.goes_on hgeneration trivial fun h => by cases h
  · exact Sound.goes_on hgeneration trivial fun h => by cases h
  · split
    · exact Sound.goes_on hgeneration trivial fun h => by cases h
    · exact Sound.fails hgeneration
  · unfold afterRenewedAgain
    split
    · exact Sound.fails hgeneration
    · exact Sound.deactivate hgeneration
    · split
      · exact Sound.goes_on hgeneration trivial fun h => by cases h
      · exact Sound.goes_on hgeneration trivial fun h => by cases h
  · split
    · exact Sound.goes_on hgeneration trivial fun h => by cases h
    · exact Sound.fails hgeneration
  · split
    · exact Sound.goes_on hgeneration trivial fun h => by cases h
    · exact Sound.fails hgeneration
  · cases hstage
  · cases hstage
  · cases hstage
  · cases hstage
  · exact h

theorem Sound.deactivates_on {leases : MonitorLeases}
    (hgeneration : ∀ generation ∈ supervisor.generation, isLeaseGeneration generation)
    (hfits : Fits supervisor stage) (hstage : stage.deactivating = true) :
    Sound (goesOn leases supervisor frame stage).supervisor
      (goesOn leases supervisor frame stage).task :=
  ⟨hgeneration, hfits, fun _ => WorkerStage.ne_threw_of_deactivating hstage, fun _ => .inl hstage⟩

theorem Sound.deactivated {leases : MonitorLeases} :
    Sound (goesOn leases (supervisor.deactivated left) frame .returned).supervisor
      (goesOn leases (supervisor.deactivated left) frame .returned).task :=
  ⟨fun _ h => (by cases h), trivial, fun _ h => (by cases h), fun _ => .inr rfl⟩

theorem Sound.resume_deactivating (h : Sound supervisor ⟨frame, stage⟩)
    (hstage : stage.deactivating = true) :
    Sound (resume leases supervisor frame stage now reply).supervisor
      (resume leases supervisor frame stage now reply).task := by
  have hgeneration := h.generation
  have hfits := h.fits
  unfold resume
  split
  iterate 11 cases hstage
  · unfold afterRenewedLast
    split
    · exact Sound.fails hgeneration
    · exact Sound.deactivates_on hgeneration hfits rfl
    · exact Sound.deactivates_on hgeneration hfits rfl
  · unfold afterGatesClosed
    split
    · exact Sound.deactivates_on hgeneration hfits rfl
    · exact Sound.fails hgeneration
  · unfold afterRulesClosed
    split
    · exact Sound.fails hgeneration
    · split
      · exact Sound.deactivates_on hgeneration ⟨hfits, rfl⟩ rfl
      · exact Sound.deactivated
  · unfold afterReleased
    split
    · exact Sound.fails hgeneration
    · exact Sound.deactivated
  · exact h

theorem Sound.resume (h : Sound supervisor ⟨frame, stage⟩) (hstage : stage.ended = false) :
    Sound (resume leases supervisor frame stage now reply).supervisor
      (resume leases supervisor frame stage now reply).task := by
  cases hdeactivating : stage.deactivating with
  | true => exact h.resume_deactivating hdeactivating
  | false =>
    have hframe : frame = .tickTry := by
      by_contra hframe
      rcases h.deactivates hframe with hdeactivates | hended
      · rw [hdeactivating] at hdeactivates
        cases hdeactivates
      · rw [hstage] at hended
        cases hended
    subst hframe
    exact h.resume_trying hdeactivating

/-- A deactivation throws only where a lease call is not answered. -/
theorem threw_iff_of_deactivating (h : Sound supervisor ⟨frame, stage⟩)
    (hframe : frame ≠ .tickTry) (hstage : stage.deactivating = true) :
    (resume leases supervisor frame stage now reply).task.stage = .threw ↔
      ¬Answers leases stage reply := by
  have hthrows : (supervisor.throws frame).stage = .threw := by
    cases frame with
    | tickTry => exact absurd rfl hframe
    | direct => rfl
    | tickCatch => rfl
  have hfits := h.fits
  cases stage with
  | renewingLast generation left =>
    cases reply with
    | renewed fault capacity =>
      change (afterRenewedLast leases supervisor frame generation left now
        fault).task.stage = .threw ↔
          ¬(fault = none ∧ leases.service.assertMonitorsEnabled = .ok ())
      unfold afterRenewedLast WorkerSupervisor.renewOwnership
      rw [show supervisor.generation = some generation from hfits]
      rcases @MonitorLeases.renew_cases leases supervisor.ownerId now fault
        supervisor.ownerPattern generation (h.generation generation hfits) with
        ⟨failure, hfails, hanswers⟩ | ⟨hfault, hopen, hgives⟩
      · simp only [hfails]
        exact iff_of_true hthrows hanswers
      · simp only [hgives]
        refine iff_of_false ?_ (not_not.mpr ⟨hfault, hopen⟩)
        cases Table.changes leases.rows _ == 1 with
        | true => exact fun h => by cases h
        | false => exact fun h => by cases h
    | _ => exact iff_of_false (fun h => by cases h) (not_not.mpr trivial)
  | closingGates generation renewedUntil left =>
    cases reply with
    | gatesClosed fault =>
      change (afterGatesClosed leases supervisor frame generation left fault).task.stage =
        .threw ↔ ¬fault = none
      unfold afterGatesClosed
      by_cases hfault : fault = none
      · rw [if_pos hfault]
        exact iff_of_false (fun h => by cases h) (not_not.mpr hfault)
      · rw [if_neg hfault]
        exact iff_of_true hthrows hfault
    | _ => exact iff_of_false (fun h => by cases h) (not_not.mpr trivial)
  | closingRules generation left =>
    cases reply with
    | rulesClosed succeeds =>
      cases succeeds with
      | false => exact iff_of_true hthrows fun h => by cases h
      | true =>
        refine iff_of_false ?_ (not_not.mpr rfl)
        cases generation with
        | none => exact fun h => by cases h
        | some generation => exact fun h => by cases h
    | _ => exact iff_of_false (fun h => by cases h) (not_not.mpr trivial)
  | releasing generation left =>
    cases reply with
    | released fault =>
      change (afterReleased leases supervisor frame generation left fault).task.stage =
        .threw ↔ ¬fault = none
      unfold afterReleased
      rcases @MonitorLeases.release_cases leases supervisor.ownerId fault
        supervisor.ownerPattern generation with
        ⟨failure, hfails, hfault⟩ | ⟨hfault, after, -, hgives⟩
      · simp only [hfails]
        exact iff_of_true hthrows hfault
      · simp only [hgives]
        exact iff_of_false (fun h => by cases h) (not_not.mpr hfault)
    | _ => exact iff_of_false (fun h => by cases h) (not_not.mpr trivial)
  | _ => cases hstage

theorem throws_ne_returned (supervisor : WorkerSupervisor) (frame : WorkerFrame) :
    (supervisor.throws frame).stage ≠ .returned := by
  cases frame with
  | tickTry =>
    intro h
    have hdeactivating :=
      @WorkerSupervisor.deactivate_deactivating supervisor .dependenciesBlocked
    rw [show supervisor.deactivate .dependenciesBlocked = .returned from h] at hdeactivating
    cases hdeactivating
  | direct => exact fun h => by cases h
  | tickCatch => exact fun h => by cases h

theorem down_of_returned (hfits : Fits supervisor stage) (hstage : stage.deactivating = true)
    (hreturned : (resume leases supervisor frame stage now reply).task.stage = .returned) :
    (resume leases supervisor frame stage now reply).supervisor.Down := by
  have hthrows := throws_ne_returned supervisor frame
  unfold resume at hreturned ⊢
  split at hreturned
  iterate 11 cases hstage
  · unfold afterRenewedLast at hreturned
    split at hreturned
    · exact absurd hreturned hthrows
    · cases hreturned
    · cases hreturned
  · unfold afterGatesClosed at hreturned
    split at hreturned
    · cases hreturned
    · exact absurd hreturned hthrows
  · unfold afterRulesClosed at hreturned ⊢
    split at hreturned
    · exact absurd hreturned hthrows
    · rename_i hsucceeds
      rw [if_neg hsucceeds]
      split at hreturned
      · cases hreturned
      · exact WorkerSupervisor.Down.of_deactivated rfl _
  · unfold afterReleased at hreturned ⊢
    split at hreturned
    · exact absurd hreturned hthrows
    · exact WorkerSupervisor.Down.of_deactivated hfits.2 _
  · change _ = WorkerStage.returned at hreturned
    subst hreturned
    cases hstage

end

section

variable {leases : MonitorLeases} {supervisor : WorkerSupervisor} {frame : WorkerFrame}
  {stage : WorkerStage} {now : ℤ} {reply : WorkerReply}

theorem resume_cases :
    (∃ (after : MonitorLeases) (left : WorkerSupervisor) (stage' : WorkerStage),
      resume leases supervisor frame stage now reply = goesOn after left frame stage') ∨
    ∃ (after : MonitorLeases) (left : WorkerSupervisor),
      resume leases supervisor frame stage now reply = fails after left frame := by
  unfold resume afterDependencies afterGatesOpened afterAcquired afterRenewed afterRecheck
    afterRenewedAgain afterRenewedLast afterGatesClosed afterRulesClosed afterReleased
  repeat' split
  all_goals first | exact .inl ⟨_, _, _, rfl⟩ | exact .inr ⟨_, _, rfl⟩

theorem frame_resume_of_returned
    (h : (resume leases supervisor frame stage now reply).task.stage = .returned) :
    (resume leases supervisor frame stage now reply).task.frame = frame := by
  rcases resume_cases with ⟨after, left, stage', hgoes⟩ | ⟨after, left, hfails⟩
  · rw [hgoes]
    rfl
  · rw [hfails] at h
    exact absurd h (throws_ne_returned left frame)

theorem resume_ne_threw (h : Sound supervisor ⟨.tickTry, stage⟩) (hstage : stage.ended = false) :
    (resume leases supervisor .tickTry stage now reply).task.stage ≠ .threw := by
  have hnext : Sound (resume leases supervisor .tickTry stage now reply).supervisor
      (resume leases supervisor .tickTry stage now reply).task := h.resume hstage
  rcases resume_cases with ⟨after, left, stage', hgoes⟩ | ⟨after, left, hfails⟩
  · rw [hgoes] at hnext ⊢
    exact hnext.caught rfl
  · rw [hfails]
    exact WorkerStage.ne_threw_of_deactivating WorkerSupervisor.deactivate_deactivating

end

structure Regular (runtime : Runtime) : Prop where
  generation : ∀ generation ∈ runtime.supervisor.generation, isLeaseGeneration generation
  sound : ∀ task ∈ runtime.loop.task, Sound runtime.supervisor task ∧ task.stage.ended = false

section

variable {runtime : Runtime} {task : WorkerTask}

theorem WorkerStage.ended_eq_false {stage : WorkerStage} (hreturned : stage ≠ .returned)
    (hthrew : stage ≠ .threw) : stage.ended = false := by
  cases stage with
  | returned => exact absurd rfl hreturned
  | threw => exact absurd rfl hthrew
  | _ => rfl

theorem WorkerStage.ended_of_deactivating {stage : WorkerStage}
    (h : stage.deactivating = true) : stage.ended = false := by
  cases stage with
  | returned => cases h
  | threw => cases h
  | _ => rfl

theorem Regular.stop
    (hgeneration : ∀ generation ∈ runtime.supervisor.generation, isLeaseGeneration generation)
    (failed : Bool) : Regular (runtime.stop failed) where
  generation := hgeneration
  sound := by
    rintro _ ⟨⟩
    exact ⟨Sound.deactivate hgeneration,
      WorkerStage.ended_of_deactivating WorkerSupervisor.deactivate_deactivating⟩

theorem Regular.ticked (h : Sound runtime.supervisor task) : Regular (runtime.ticked task) := by
  unfold Runtime.ticked
  split
  · exact ⟨h.generation, fun _ hnone => by cases hnone⟩
  · exact Regular.stop h.generation _
  · rename_i hreturned hthrew
    refine ⟨h.generation, ?_⟩
    rintro _ ⟨⟩
    exact ⟨h, WorkerStage.ended_eq_false hreturned hthrew⟩

theorem Regular.stopped (h : Sound runtime.supervisor task) (failed : Bool) :
    Regular (runtime.stopped failed task) := by
  unfold Runtime.stopped
  split
  · exact ⟨h.generation, fun _ hnone => by cases hnone⟩
  · exact ⟨h.generation, fun _ hnone => by cases hnone⟩
  · rename_i hreturned hthrew
    refine ⟨h.generation, ?_⟩
    rintro _ ⟨⟩
    exact ⟨h, WorkerStage.ended_eq_false hreturned hthrew⟩

theorem Regular.tick (h : Regular runtime) : Regular runtime.tick := by
  unfold Runtime.tick
  split
  · exact Regular.stop h.generation _
  · exact Regular.ticked (Sound.activate h.generation)

theorem Regular.deactivating (h : Regular runtime) (htask : runtime.loop.task = some task)
    (hframe : task.frame ≠ .tickTry) : task.stage.deactivating = true := by
  obtain ⟨hsound, hended⟩ := h.sound task htask
  refine (hsound.deactivates hframe).resolve_right fun hends => ?_
  rw [hended] at hends
  cases hends

variable {event : RuntimeEvent} {next : Resumed}

theorem Regular.resumed (h : Regular runtime)
    (hnext : runtime.resumed event = some next) : Sound next.supervisor next.task := by
  cases event with
  | resume now reply =>
    obtain ⟨task, htask, rfl⟩ := Option.map_eq_some_iff.mp hnext
    obtain ⟨hsound, hended⟩ := h.sound task htask
    exact hsound.resume hended
  | tick => cases hnext
  | abort => cases hnext
  | elsewhere leases => cases hnext

theorem Regular.goOn (h : Regular runtime)
    (hnext : runtime.resumed event = some next) : Regular (runtime.goOn next) := by
  have hsound := h.resumed hnext
  unfold Runtime.goOn
  split
  · exact Regular.stopped hsound _
  · exact Regular.ticked hsound

theorem Regular.step (h : Regular runtime) (event : RuntimeEvent) :
    Regular (runtime.step event) := by
  cases event with
  | tick =>
    change Regular (if runtime.loop = .sleeping then runtime.tick else runtime)
    split
    · exact h.tick
    · exact h
  | abort => exact ⟨h.generation, h.sound⟩
  | elsewhere leases => exact ⟨h.generation, h.sound⟩
  | resume now reply =>
    change Regular ((runtime.resumed (.resume now reply)).elim runtime runtime.goOn)
    cases hnext : runtime.resumed (.resume now reply) with
    | none => exact h
    | some next => exact h.goOn hnext

theorem regular_initial (supervisor : WorkerSupervisor) (leases : MonitorLeases) :
    Regular (Runtime.initial supervisor leases) :=
  ⟨fun _ h => (by cases h), fun _ h => (by cases h)⟩

theorem ticked_running (h : task.stage ≠ .threw) : (runtime.ticked task).loop.running = true := by
  unfold Runtime.ticked
  split
  · rfl
  · exact absurd ‹_› h
  · rfl

theorem left_of_step (h : Regular runtime) (hrunning : runtime.loop.running = true)
    (hleft : (runtime.step event).loop.running = false) :
    runtime.aborted = true ∨
      ∃ next ∈ runtime.resumed event, next.task.stage = .threw := by
  have hkept (after : Runtime) (hafter : runtime.step event = after)
      (hloop : after.loop.running = true) : False := by
    rw [hafter, hloop] at hleft
    cases hleft
  cases event with
  | tick =>
    by_cases hsleeping : runtime.loop = .sleeping
    · by_cases haborted : runtime.aborted = true
      · exact .inl haborted
      · refine (hkept runtime.tick (if_pos hsleeping) ?_).elim
        unfold Runtime.tick
        rw [if_neg haborted]
        exact ticked_running ((Sound.activate h.generation).caught rfl)
    · exact (hkept runtime (if_neg hsleeping) hrunning).elim
  | abort => exact (hkept _ rfl hrunning).elim
  | elsewhere leases => exact (hkept _ rfl hrunning).elim
  | resume now reply =>
    cases hnext : runtime.resumed (.resume now reply) with
    | none =>
      refine (hkept runtime ?_ hrunning).elim
      exact congrArg (Option.elim · runtime runtime.goOn) hnext
    | some next =>
      by_cases hthrew : next.task.stage = .threw
      · exact .inr ⟨next, rfl, hthrew⟩
      · refine (hkept (runtime.goOn next) ?_ ?_).elim
        · exact congrArg (Option.elim · runtime runtime.goOn) hnext
        unfold Runtime.goOn
        split
        · rename_i hloop
          rw [hloop] at hrunning
          cases hrunning
        · exact ticked_running hthrew

/-- A step completes exactly when what its last calls await is answered without a failure. -/
theorem completes_iff (h : Regular runtime) (event : RuntimeEvent) :
    Completes runtime event ↔ Cooperates runtime event := by
  constructor
  · intro hcompletes
    cases event with
    | resume now reply =>
      intro task htask hframe
      by_contra hanswers
      apply hcompletes.returns _ (Option.map_eq_some_iff.mpr ⟨task, htask, rfl⟩)
      exact (threw_iff_of_deactivating (h.sound task htask).1 hframe
        (h.deactivating htask hframe)).mpr hanswers
    | tick => trivial
    | abort => trivial
    | elsewhere leases => trivial
  · intro hcooperates
    have hreturns : ∀ next ∈ runtime.resumed event, next.task.stage ≠ .threw := by
      cases event with
      | resume now reply =>
        intro next hnext
        obtain ⟨task, htask, rfl⟩ := Option.map_eq_some_iff.mp hnext
        obtain ⟨hsound, hended⟩ := h.sound task htask
        by_cases hframe : task.frame = .tickTry
        · obtain ⟨frame, stage⟩ := task
          subst hframe
          exact resume_ne_threw hsound hended
        · intro hthrew
          exact (threw_iff_of_deactivating hsound hframe (h.deactivating htask hframe)).mp
            hthrew (hcooperates task htask hframe)
      | tick => exact fun _ hnone => by cases hnone
      | abort => exact fun _ hnone => by cases hnone
      | elsewhere leases => exact fun _ hnone => by cases hnone
    have hdown : ∀ task ∈ runtime.loop.task, task.stage.deactivating = true →
        ∀ next ∈ runtime.resumed event, next.task.stage = .returned → next.supervisor.Down := by
      intro task htask hdeactivating next hnext hreturned
      cases event with
      | resume now reply =>
        obtain ⟨task', htask', rfl⟩ := Option.map_eq_some_iff.mp hnext
        obtain rfl : task' = task := Option.some.inj (htask'.symm.trans htask)
        exact down_of_returned (h.sound task' htask).1.fits hdeactivating hreturned
      | tick => cases hnext
      | abort => cases hnext
      | elsewhere leases => cases hnext
    refine ⟨hreturns, hdown, ?_, ?_⟩
    · intro next hnext hframe hreturned
      cases event with
      | resume now reply =>
        -- a call that returns has its frame kept, and the `catch` block only deactivates
        obtain ⟨task, htask, rfl⟩ := Option.map_eq_some_iff.mp hnext
        have hcatch : task.frame = .tickCatch :=
          (frame_resume_of_returned hreturned).symm.trans hframe
        have htrying : task.frame ≠ .tickTry := by
          rw [hcatch]
          decide
        exact hdown task htask (h.deactivating htask htrying) _ hnext hreturned
      | tick => cases hnext
      | abort => cases hnext
      | elsewhere leases => cases hnext
    · intro hrunning hleft
      refine (left_of_step h hrunning hleft).resolve_right ?_
      rintro ⟨next, hnext, hthrew⟩
      exact hreturns next hnext hthrew

end

/-- Every shutdown of the workers completes, and the loop is left only when it is aborted,
where the deactivations that have no `catch` left are answered. -/
theorem shutdown_completes_iff (supervisor : WorkerSupervisor) (leases : MonitorLeases)
    (events : List RuntimeEvent) :
    Along Runtime.step Completes (Runtime.initial supervisor leases) events ↔
      Along Runtime.step Cooperates (Runtime.initial supervisor leases) events :=
  @along_iff_of_invariant _ _ Runtime.step Completes Cooperates Regular
    (fun _ event h => h.step event) (fun _ event h => completes_iff h event) _
    (regular_initial supervisor leases) events

theorem workerA_pattern : workerIdPattern.test "worker-a" = true := by decide

def workerA : WorkerSupervisor where
  ownerId := "worker-a"
  ownerPattern := workerA_pattern
  providerWorkersEnabled := true
  generation := none
  state := .stopped
  rulesOpen := false

def gatesClosedElsewhere : List RuntimeEvent :=
  [.tick, .resume 0 (.dependencies (some true)), .resume 0 (.gatesOpened true none),
    .resume 0 (.acquired none), .resume 0 .reported,
    .elsewhere (deactivateWorkerGates ⟨MonitorLeases.serving,
      [⟨notificationEgressLeaseKey, "worker-a", 30000, 0, 1⟩],
      [⟨notificationEgressLeaseKey, "worker-a", 1, false⟩]⟩), .resume 1 (.renewed none true)]

/-- The renewal throws, the deactivation asks for another one, and the loop ends with the
supervisor active. -/
theorem shutdown_incomplete :
    let runtime := run Runtime.step
      (Runtime.initial workerA (MonitorLeases.initial MonitorLeases.serving))
      (gatesClosedElsewhere ++ [.resume 2 (.renewed none true), .resume 3 (.renewed none true)])
    runtime.loop = .ended true ∧ runtime.aborted = false ∧ runtime.supervisor.state = .active ∧
      runtime.supervisor.generation = some 1 ∧
      ¬Along Runtime.step Completes
        (Runtime.initial workerA (MonitorLeases.initial MonitorLeases.serving))
        (gatesClosedElsewhere ++
          [.resume 2 (.renewed none true), .resume 3 (.renewed none true)]) := by
  refine ⟨by decide, by decide, by decide, by decide, ?_⟩
  rw [along_append]
  rintro ⟨-, hcompletes, -⟩
  have haborted := hcompletes.aborted (by decide) (by decide)
  revert haborted
  decide

end Workers

end HyperTrader
