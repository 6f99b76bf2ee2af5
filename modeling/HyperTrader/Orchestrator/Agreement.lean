import HyperTrader.Orchestrator.Port

/-!
# The flow agrees with the journal

A confirmation is sound when what the flow shows of its generation is so in the
journal, and its stage knows the record it has reserved. Its own parts keep it
sound; the others keep it so because they have other records, and because a flow is
changed only by the confirmation of its own generation. A flow that shows a result
therefore shows the state of a record that its confirmation has reserved.
-/

namespace HyperTrader

open Library ConfirmState

def ConfirmState.Undecided (generation : ℤ) (s : ConfirmState) : Prop :=
  s.flow.generation = generation → s.flow.phase.isResult = false

def ConfirmStage.Fits (generation : ℤ) (s : ConfirmState) : ConfirmStage → Prop
  | .refreshing => s.journalId = none ∧ s.Undecided generation
  | .unlocking _ _ => s.journalId = none ∧ s.Undecided generation
  | .signing prepared =>
    s.journalId = some prepared.record.journalId ∧ s.Undecided generation
  | .permitted prepared _ _ =>
    s.journalId = some prepared.record.journalId ∧ s.Undecided generation
  | .submitting prepared =>
    s.journalId = some prepared.record.journalId ∧ s.Undecided generation
  | .failing _ => s.Undecided generation
  | .reconciling journalId port =>
    (s.flow.generation = generation → s.journalId = some journalId) ∧
      port.Sound s.repository.database journalId
  | .finished => True

namespace ConfirmState

variable {generation : ℤ} {marked : Option String} {start s : ConfirmState}

theorem Agrees.here (h : Agrees generation marked start s) :
    Agrees generation none s s where
  rows := .refl _
  stale _ := rfl
  same := rfl
  reserved := h.reserved
  journalId := h.journalId
  fresh := .inl rfl
  terminal := h.terminal
  failed := h.failed

theorem Agrees.underway (h : Agrees generation none s s)
    (hopen : s.Undecided generation) (marked : Option String) :
    Underway generation marked s s where
  rows := .refl _
  stale _ := rfl
  same := rfl
  reserved := h.reserved
  journalId := h.journalId
  fresh := .inl rfl
  undecided := hopen

def Passed (generation : ℤ) (marked : Option String) (start : ConfirmState)
    (p : ConfirmStage × ConfirmState) : Prop :=
  Agrees generation marked start p.2 ∧ p.1.Fits generation p.2

theorem passed_after {α : Type} {x : Confirming α} {pre raises : ConfirmState → Prop}
    {post : α → ConfirmState → Prop} {next : α → ConfirmStage}
    (hx : Action.Meets pre x post raises) (hpre : pre start) (hpost : ∀ a s, post a s →
      Agrees generation marked start s ∧ (next a).Fits generation s)
    (hraises : ∀ s, raises s → Underway generation marked start s) :
    Passed generation marked start (ConfirmStage.after next (x start)) := by
  rcases ConfirmStage.after_cases next (x start) with
    ⟨a, hresult, hafter⟩ | ⟨error, hresult, hafter⟩
  · rw [hafter]
    exact hpost a _ (hx.returns start a _ hpre (Prod.ext hresult rfl))
  · rw [hafter]
    have hthrown := hraises _ (hx.throws start error _ hpre (Prod.ext hresult rfl))
    exact ⟨hthrown.agrees, hthrown.undecided⟩

end ConfirmState

namespace ConfirmRun

section

variable {run : ConfirmRun} {s : ConfirmState}

theorem passed_afterRecovery {generation : ℤ} {attempts : ℕ}
    {p : Outcome Unit × ConfirmState} (h : Agrees generation none s p.2) :
    Passed generation none s (ConfirmStage.afterRecovery attempts p) := by
  obtain ⟨result, t⟩ := p
  cases result with
  | error error => exact ⟨h, trivial⟩
  | ok _ =>
    rw [ConfirmStage.afterRecovery]
    split
    · split
      · rename_i journalId hid
        exact ⟨h, fun hcurrent => h.journalId hcurrent journalId hid, trivial⟩
      · exact ⟨h, trivial⟩
    · exact ⟨h, trivial⟩

variable {journalId : String}

theorem passed_afterPort {viem : Viem} {generation : ℤ}
    {port : PortStage} {method : Method PortStage}
    (hport : PortStage.Attends viem journalId port method) (h : Agrees generation none s s)
    (hid : s.flow.generation = generation → s.journalId = some journalId)
    (hsound : port.Sound s.repository.database journalId) :
    Passed generation none s (ConfirmStage.afterPort journalId
      (Confirming.onRepository method s)) := by
  have hmeets := hport.meets hsound
  have hstart : KeepsRows s.repository.database s.repository := RowsKept.refl _
  cases hrun : method s.repository with
  | mk result repository =>
    unfold Confirming.onRepository
    rw [hrun]
    cases result with
    | ok next =>
      obtain ⟨hrows, hnext⟩ := hmeets.returns _ _ _ hstart hrun
      exact ⟨h.onRepository hrows, hid, hnext⟩
    | error error =>
      exact ⟨h.onRepository (hmeets.throws _ _ _ hstart hrun), trivial⟩

theorem passed_publish {phase : Option ReconciledActionPhase} (h : Agrees run.generation none s s)
    (hid : s.flow.generation = run.generation → s.journalId = some journalId)
    (hsound : (PortStage.returned phase).Sound s.repository.database journalId) :
    Passed run.generation none s
      (ConfirmStage.after (fun _ => .finished) (run.publish journalId phase s)) := by
  cases phase with
  | none => exact ⟨h, trivial⟩
  | some phase => exact ⟨h.publish hid hsound, trivial⟩

end

structure Sound (run : ConfirmRun) (s : ConfirmState) : Prop where
  agrees : Agrees run.generation none s s
  fits : run.stage.Fits run.generation s

theorem Proceeded.passed {viem : Viem} {encode : MessagePack} {run : ConfirmRun}
    {s : ConfirmState} {p : ConfirmStage × ConfirmState}
    (h : run.Proceeded viem encode s p) (hsound : run.Sound s) :
    ∃ marked, (∀ journalId, marked = some journalId → s.journalId = some journalId) ∧
      Passed run.generation marked s p := by
  have hfits := hsound.fits
  cases h with
  | ignored => exact ⟨none, nofun, hsound.agrees, hfits⟩
  | refreshed result current hstage =>
    rw [hstage] at hfits
    refine ⟨none, nofun, passed_after (Confirming.refreshed_meets viem run.review result current)
      ⟨hsound.agrees.underway hfits.2 none, hfits.1⟩ ?_ fun _ h => h⟩
    rintro r t ⟨-, hunderway, hid⟩
    exact ⟨hunderway.agrees, hid, hunderway.undecided⟩
  | unlocked refreshedInput refreshed answers hstage =>
    rw [hstage] at hfits
    refine ⟨none, nofun, passed_after
      (Confirming.unlocked_meets viem encode run.review refreshedInput refreshed answers)
      ⟨hsound.agrees.underway hfits.2 none, hfits.1⟩ ?_ fun _ h => h⟩
    rintro prepared t ⟨-, hunderway, hid⟩
    exact ⟨hunderway.agrees, hid, hunderway.undecided⟩
  | signed prepared answers hstage =>
    rw [hstage] at hfits
    refine ⟨some prepared.record.journalId, ?_, passed_after
      (Confirming.signed_meets run.review prepared answers)
      ⟨⟨hsound.agrees.underway hfits.2 _, hfits.1⟩, rfl⟩ ?_ fun _ h => h⟩
    · rintro journalId ⟨⟩
      exact hfits.1
    · rintro r t ⟨⟨hunderway, hid⟩, -, -⟩
      exact ⟨hunderway.agrees, hid, hunderway.undecided⟩
  | consumed prepared signature permit hstage =>
    rw [hstage] at hfits
    have hunderway := hsound.agrees.underway hfits.2 none
    have hconsume : Action.Meets (fun t => t = s)
        (Action.check permit.consume.1 : Confirming Unit) (fun _ t => t = s)
        (fun t => t = s) := .check (fun _ h => h) fun _ _ _ h => h
    refine ⟨none, nofun, passed_after hconsume rfl ?_ ?_⟩
    · rintro r t rfl
      exact ⟨hsound.agrees, hfits⟩
    · rintro t rfl
      exact hunderway
  | answered prepared answers hstage =>
    rw [hstage] at hfits
    refine ⟨none, nofun, passed_after (Confirming.submitted_meets prepared answers)
      ⟨hsound.agrees.underway hfits.2 none, hfits.1⟩ ?_ fun _ h => h.1⟩
    rintro unresolved t ⟨hagrees, hid⟩
    refine ⟨hagrees, ?_⟩
    cases unresolved with
    | true => exact ⟨fun _ => hid, trivial⟩
    | false => trivial
  | recovered error answers hstage =>
    rw [hstage] at hfits
    have hagrees := (Confirming.reconcileFailure_meets error answers).final
      (hsound.agrees.underway hfits none)
    exact ⟨none, nofun, passed_afterRecovery hagrees⟩
  | ported journalId port method hstage hport =>
    rw [hstage] at hfits
    exact ⟨none, nofun, passed_afterPort hport hsound.agrees hfits.1 hfits.2⟩
  | published journalId phase hstage =>
    rw [hstage] at hfits
    exact ⟨none, nofun, passed_publish hsound.agrees hfits.1 hfits.2⟩

theorem sound_of_fresh {run : ConfirmRun} {s : ConfirmState}
    (hid : s.journalId = none) (hnone : s.flow.journalId = none)
    (hphase : s.flow.phase = .refreshing)
    (hstage : run.stage = .refreshing ∨ ∃ error, run.stage = .failing error) : run.Sound s := by
  have hopen : s.Undecided run.generation := by
    intro _
    rw [hphase]
    rfl
  have hunderway : Underway run.generation none s s := by
    refine ⟨⟨.refl _, fun _ => rfl, rfl, ?_, ?_, .inl rfl⟩, hopen⟩
    · intro journalId hsome
      rw [hid] at hsome
      cases hsome
    · intro _ journalId hsome
      rw [hnone] at hsome
      cases hsome
  refine ⟨hunderway.agrees, ?_⟩
  rcases hstage with hstage | ⟨error, hstage⟩
  · rw [hstage]
    exact ⟨hid, hopen⟩
  · rw [hstage]
    exact hopen

theorem Sound.other {run : ConfirmRun} {s t : ConfirmState}
    {marked : Option String} (h : run.Sound s) (hid : t.journalId = s.journalId)
    (hrows : RowsKept marked s.repository.database t.repository.database)
    (hmarked : ∀ journalId, marked = some journalId → s.journalId ≠ some journalId)
    (hflow : t.flow = s.flow ∨ t.flow.generation ≠ run.generation) : run.Sound t := by
  have hsame : t.flow.generation = run.generation → t.flow = s.flow :=
    fun hcurrent => hflow.resolve_right fun hstale => hstale hcurrent
  have hopen : s.Undecided run.generation → t.Undecided run.generation := by
    intro hundecided hcurrent
    have heq := hsame hcurrent
    rw [heq] at hcurrent ⊢
    exact hundecided hcurrent
  constructor
  · constructor
    · constructor
      · exact .refl _
      · exact fun _ => rfl
      · rfl
      · intro journalId hsome
        exact (h.agrees.reserved journalId (hid ▸ hsome)).kept hrows
          fun _ _ _ _ _ => trivial
      · intro hcurrent journalId hsome
        have heq := hsame hcurrent
        rw [heq] at hcurrent hsome
        exact hid.trans (h.agrees.journalId hcurrent journalId hsome)
      · exact .inl rfl
    · intro hcurrent phase hphase
      have heq := hsame hcurrent
      rw [heq] at hcurrent hphase
      obtain ⟨journalId, hsome, hholds⟩ := h.agrees.terminal hcurrent phase hphase
      exact ⟨journalId, hid.trans hsome, hholds.kept hrows fun _ _ _ hkept hshows =>
        hshows.kept hkept⟩
    · intro hcurrent hphase journalId hsome
      have heq := hsame hcurrent
      rw [heq] at hcurrent hphase
      have hsome' := hid ▸ hsome
      refine (h.agrees.failed hcurrent hphase journalId hsome').kept hrows ?_
      intro row row' hrowid hkept hmarker
      refine (hkept.marker fun hown => ?_).trans hmarker
      rw [hrowid] at hown
      exact hmarked journalId hown.symm hsome'
  · have hfits := h.fits
    cases hstage : run.stage with
    | refreshing =>
      rw [hstage] at hfits
      exact ⟨hid.trans hfits.1, hopen hfits.2⟩
    | unlocking refreshedInput refreshed =>
      rw [hstage] at hfits
      exact ⟨hid.trans hfits.1, hopen hfits.2⟩
    | signing prepared =>
      rw [hstage] at hfits
      exact ⟨hid.trans hfits.1, hopen hfits.2⟩
    | permitted prepared signature permit =>
      rw [hstage] at hfits
      exact ⟨hid.trans hfits.1, hopen hfits.2⟩
    | submitting prepared =>
      rw [hstage] at hfits
      exact ⟨hid.trans hfits.1, hopen hfits.2⟩
    | failing error =>
      rw [hstage] at hfits
      exact hopen hfits
    | reconciling journalId port =>
      rw [hstage] at hfits
      refine ⟨fun hcurrent => ?_, hfits.2.kept hrows⟩
      have heq := hsame hcurrent
      rw [heq] at hcurrent
      exact hid.trans (hfits.1 hcurrent)
    | finished => trivial

end ConfirmRun

def ConfirmRun.key (run : ConfirmRun) : ℕ × ℤ :=
  (run.orchestrator, run.generation)

namespace OrchestratorWorld

theorem goOn_flows_self (world : OrchestratorWorld) (i : ℕ) (run : ConfirmRun)
    (stage : ConfirmStage) (s : ConfirmState) :
    (world.goOn i run stage s).flows run.orchestrator = s.flow :=
  Function.update_self _ _ _

theorem goOn_flows_of_ne (world : OrchestratorWorld) (i : ℕ) {run : ConfirmRun}
    (stage : ConfirmStage) (s : ConfirmState) {orchestrator : ℕ}
    (h : orchestrator ≠ run.orchestrator) :
    (world.goOn i run stage s).flows orchestrator = world.flows orchestrator :=
  Function.update_of_ne h _ _

theorem goOn_runs {world : OrchestratorWorld} {i j : ℕ} {run other : ConfirmRun}
    (stage : ConfirmStage) (s : ConfirmState) (hrun : world.runs[i]? = some run)
    (hother : world.runs[j]? = some other) :
    ∃ next, (world.goOn i run stage s).runs[j]? = some next ∧
      next.key = other.key := by
  by_cases hown : j = i
  · subst hown
    rw [hrun] at hother
    cases hother
    refine ⟨{ run with journalId := s.journalId, stage := stage }, ?_, rfl⟩
    exact List.getElem?_set_self (lt_length_of_getElem? hrun)
  · refine ⟨other, ?_, rfl⟩
    exact (List.getElem?_set_ne fun h => hown h.symm).trans hother

/-- Every confirmation is sound, no two share a generation or a record, and a flow
that has begun is that of a confirmation under way. -/
structure Agreeing (world : OrchestratorWorld) : Prop where
  sound : ∀ (i : ℕ) (run : ConfirmRun), world.runs[i]? = some run →
    run.Sound (world.view run)
  generations : ∀ (i : ℕ) (run : ConfirmRun), world.runs[i]? = some run →
    run.generation ≤ (world.flows run.orchestrator).generation
  keys : DistinctKeys ConfirmRun.key world.runs
  records : ∀ (i j : ℕ) (a b : ConfirmRun) (journalId : String),
    world.runs[i]? = some a → world.runs[j]? = some b →
      a.journalId = some journalId → b.journalId = some journalId → i = j
  shown : ∀ orchestrator, (world.flows orchestrator).phase ≠ .review →
    ∃ (i : ℕ) (run : ConfirmRun), world.runs[i]? = some run ∧
      run.orchestrator = orchestrator ∧
      run.generation = (world.flows orchestrator).generation
  markers : ∀ row ∈ world.database.actionJournal, row.MarkerAgrees

namespace Agreeing

theorem of_idle {world : OrchestratorWorld} (hruns : world.runs = [])
    (hflows : ∀ orchestrator, (world.flows orchestrator).phase = .review)
    (hmarkers : ∀ row ∈ world.database.actionJournal, row.MarkerAgrees) : world.Agreeing := by
  have hnone : ∀ (i : ℕ) (run : ConfirmRun), world.runs[i]? ≠ some run := by
    intro i run
    rw [hruns]
    exact nofun
  constructor
  · exact fun i run hrun => absurd hrun (hnone i run)
  · exact fun i run hrun => absurd hrun (hnone i run)
  · exact fun i _ a _ ha => absurd ha (hnone i a)
  · exact fun i _ a _ _ ha => absurd ha (hnone i a)
  · exact fun orchestrator hphase => absurd (hflows orchestrator) hphase
  · exact hmarkers

theorem create : Agreeing create :=
  .of_idle rfl (fun _ => rfl) fun _ hrow => absurd hrow List.not_mem_nil

variable {world : OrchestratorWorld} {i orchestrator : ℕ} {flow : ActionFlowState} {viem : Viem}
  {encode : MessagePack} {next : OrchestratorWorld}

theorem goOn (h : world.Agreeing) {run : ConfirmRun} {stage : ConfirmStage}
    {s : ConfirmState} {marked : Option String} (hrun : world.runs[i]? = some run)
    (hmarked : ∀ journalId, marked = some journalId → run.journalId = some journalId)
    (hpassed : Passed run.generation marked (world.view run) (stage, s)) :
    (world.goOn i run stage s).Agreeing := by
  obtain ⟨hagrees, hfits⟩ := hpassed
  have hgeneration : ∀ orchestrator,
      ((world.goOn i run stage s).flows orchestrator).generation =
        (world.flows orchestrator).generation := by
    intro orchestrator
    by_cases hown : orchestrator = run.orchestrator
    · rw [hown, goOn_flows_self]
      exact hagrees.same
    · rw [goOn_flows_of_ne world i stage s hown]
  have hflow : ∀ (j : ℕ) (other : ConfirmRun), j ≠ i →
      world.runs[j]? = some other →
      (world.goOn i run stage s).flows other.orchestrator =
          world.flows other.orchestrator ∨
        ((world.goOn i run stage s).flows other.orchestrator).generation ≠
          other.generation := by
    intro j other hne hother
    by_cases hown : other.orchestrator = run.orchestrator
    · by_cases hcurrent : (world.flows run.orchestrator).generation = run.generation
      · right
        rw [hgeneration, hown, hcurrent]
        intro hsame
        exact hne (h.keys j i other run hother hrun (Prod.ext hown hsame.symm))
      · left
        rw [hown, goOn_flows_self]
        exact hagrees.stale hcurrent
    · exact .inl (goOn_flows_of_ne world i stage s hown)
  have hother : ∀ (j : ℕ) (other : ConfirmRun) (journalId : String), j ≠ i →
      world.runs[j]? = some other → other.journalId = some journalId →
        s.journalId ≠ some journalId := by
    intro j other journalId hne hother hid hown
    rcases hagrees.fresh with hsame | ⟨-, hfresh⟩
    · exact hne (h.records j i other run journalId hother hrun hid (hsame.symm.trans hown))
    · obtain ⟨row, hrow, hrowid, -⟩ :=
        (h.sound j other hother).agrees.reserved journalId hid
      exact hfresh journalId hown row hrow hrowid
  constructor
  · intro j other hj
    rcases getElem?_set_cases hj with ⟨rfl, rfl⟩ | ⟨hne, hold⟩
    · constructor
      · simpa [OrchestratorWorld.view, OrchestratorWorld.goOn] using hagrees.here
      · simpa [OrchestratorWorld.view, OrchestratorWorld.goOn] using hfits
    · refine (h.sound j other hold).other rfl hagrees.rows ?_ (hflow j other hne hold)
      intro journalId hmark hid
      exact hne (h.records j i other run journalId hold hrun hid (hmarked journalId hmark))
  · intro j other hj
    rw [hgeneration]
    rcases getElem?_set_cases hj with ⟨rfl, rfl⟩ | ⟨-, hold⟩
    · exact h.generations j run hrun
    · exact h.generations j other hold
  · exact h.keys.set hrun rfl
  · intro j k a b journalId ha hb hida hidb
    rcases getElem?_set_cases ha with ⟨rfl, rfl⟩ | ⟨hja, holda⟩ <;>
      rcases getElem?_set_cases hb with ⟨rfl, rfl⟩ | ⟨hkb, holdb⟩
    · rfl
    · exact absurd hida (hother k b journalId hkb holdb hidb)
    · exact absurd hidb (hother j a journalId hja holda hida)
    · exact h.records j k a b journalId holda holdb hida hidb
  · intro orchestrator hphase
    rw [hgeneration]
    have hold : (∃ (j : ℕ) (other : ConfirmRun), world.runs[j]? = some other ∧
        other.orchestrator = orchestrator ∧
        other.generation = (world.flows orchestrator).generation) := by
      by_cases hown : orchestrator = run.orchestrator
      · subst hown
        by_cases hcurrent : (world.flows run.orchestrator).generation =
            run.generation
        · exact ⟨i, run, hrun, rfl, hcurrent.symm⟩
        · rw [goOn_flows_self, hagrees.stale hcurrent] at hphase
          exact h.shown run.orchestrator hphase
      · rw [goOn_flows_of_ne world i stage s hown] at hphase
        exact h.shown orchestrator hphase
    obtain ⟨j, other, hj, hown, hcurrent⟩ := hold
    obtain ⟨next, hnext, hkey⟩ := goOn_runs stage s hrun hj
    exact ⟨j, next, hnext, (congrArg Prod.fst hkey).trans hown,
      (congrArg Prod.snd hkey).trans hcurrent⟩
  · exact Table.Follows.all hagrees.rows (fun _ h => h)
      (fun _ _ hagree hkept => hkept.agrees hagree) h.markers

theorem sound_of_newer (h : world.Agreeing)
    (hnewer : (world.flows orchestrator).generation < flow.generation)
    {run : ConfirmRun} (hrun : world.runs[i]? = some run) :
    run.Sound
      { world.view run with
        flow := Function.update world.flows orchestrator flow run.orchestrator } := by
  refine (h.sound i run hrun).other rfl (RowsKept.refl _ : RowsKept none _ _) nofun ?_
  by_cases hown : run.orchestrator = orchestrator
  · right
    have hle := h.generations i run hrun
    rw [hown] at hle ⊢
    simp only [Function.update_self]
    omega
  · left
    exact Function.update_of_ne hown _ _

theorem generations_of_newer (h : world.Agreeing)
    (hnewer : (world.flows orchestrator).generation < flow.generation)
    {run : ConfirmRun} (hrun : world.runs[i]? = some run) :
    run.generation ≤
      (Function.update world.flows orchestrator flow run.orchestrator).generation := by
  have hle := h.generations i run hrun
  by_cases hown : run.orchestrator = orchestrator
  · rw [hown] at hle ⊢
    rw [Function.update_self]
    omega
  · rwa [Function.update_of_ne hown]

theorem confirmed (h : world.Agreeing) {run : ConfirmRun} (howner : run.orchestrator = orchestrator)
    (hphase : flow.phase = .refreshing) (hnone : flow.journalId = none)
    (hcurrent : flow.generation = run.generation)
    (hgeneration : run.generation = (world.flows orchestrator).generation + 1)
    (hid : run.journalId = none)
    (hstage : run.stage = .refreshing ∨ ∃ error, run.stage = .failing error) :
    Agreeing
      { world with
        flows := Function.update world.flows orchestrator flow
        runs := world.runs ++ [run] } := by
  have hnewer : (world.flows orchestrator).generation < flow.generation := by
    omega
  constructor
  · intro j other hj
    rcases getElem?_append_cases hj with hold | ⟨-, rfl⟩
    · exact h.sound_of_newer hnewer hold
    · have hown : Function.update world.flows orchestrator flow
          other.orchestrator = flow := by
        rw [howner, Function.update_self]
      refine ConfirmRun.sound_of_fresh hid ?_ ?_ hstage
      · exact (congrArg ActionFlowState.journalId hown).trans hnone
      · exact (congrArg ActionFlowState.phase hown).trans hphase
  · intro j other hj
    rcases getElem?_append_cases hj with hold | ⟨-, rfl⟩
    · exact h.generations_of_newer hnewer hold
    · dsimp only
      rw [howner, Function.update_self, hcurrent]
  · refine h.keys.append fun j other hj hkey => ?_
    have hle := h.generations j other hj
    have hown : other.orchestrator = orchestrator :=
      (congrArg Prod.fst hkey).trans howner
    have hsame : other.generation = run.generation := congrArg Prod.snd hkey
    rw [hown] at hle
    omega
  · intro j k a b journalId ha hb hida hidb
    rcases getElem?_append_cases ha with holda | ⟨-, rfl⟩
    · rcases getElem?_append_cases hb with holdb | ⟨-, rfl⟩
      · exact h.records j k a b journalId holda holdb hida hidb
      · rw [hid] at hidb
        cases hidb
    · rw [hid] at hida
      cases hida
  · intro other hbegun
    by_cases hown : other = orchestrator
    · subst hown
      refine ⟨world.runs.length, run, List.getElem?_concat_length, howner, ?_⟩
      simp only [Function.update_self, hcurrent]
    · simp only [Function.update_of_ne hown] at hbegun ⊢
      obtain ⟨j, found, hj, howned, hsame⟩ := h.shown other hbegun
      exact ⟨j, found, getElem?_append_of_some hj run, howned, hsame⟩
  · exact h.markers

theorem reset (h : world.Agreeing) (orchestrator : ℕ) :
    Agreeing
      { world with
        flows := Function.update world.flows orchestrator
          (reduceActionFlow (world.flows orchestrator) .reset) } := by
  have hnewer : (world.flows orchestrator).generation <
      (reduceActionFlow (world.flows orchestrator) .reset).generation :=
    Int.lt_succ _
  constructor
  · exact fun j other hj => h.sound_of_newer hnewer hj
  · exact fun j other hj => h.generations_of_newer hnewer hj
  · exact h.keys
  · exact h.records
  · intro other hphase
    by_cases hown : other = orchestrator
    · subst hown
      simp only [Function.update_self] at hphase
      exact absurd rfl hphase
    · simp only [Function.update_of_ne hown] at hphase ⊢
      exact h.shown other hphase
  · exact h.markers

theorem called (h : world.Agreeing) {database : Database} {reservations : ℕ → String → Option ℤ}
    (hrows : RowsKept none world.database database) :
    Agreeing { world with database := database, reservations := reservations } where
  sound i run hrun := (h.sound i run hrun).other rfl hrows nofun (.inl rfl)
  generations := h.generations
  keys := h.keys
  records := h.records
  shown := h.shown
  markers := Table.Follows.all hrows (fun _ h => h)
    (fun _ _ hagree hkept => hkept.agrees hagree) h.markers

theorem stepped (h : world.Agreeing) (hstep : world.Stepped viem encode next) : next.Agreeing := by
  cases hstep with
  | nothing => exact h
  | confirmed orchestrator repository attempts input review stage _ hphase hstage =>
    refine h.confirmed rfl ?_ ?_ ?_ rfl rfl hstage <;>
      simp [reduceActionFlow, hphase]
  | answered i run stage s hrun hproceeded =>
    obtain ⟨marked, hmarked, hpassed⟩ := hproceeded.passed (h.sound i run hrun)
    exact h.goOn hrun hmarked hpassed
  | reset orchestrator => exact h.reset orchestrator
  | called database reservations hkept => exact h.called (.of_markersKept hkept)
  | crashed => exact .of_idle rfl (fun _ => rfl) h.markers

theorem run (viem : Viem) (encode : MessagePack) (events : List OrchestratorEvent) :
    (Library.run (step viem encode) OrchestratorWorld.create events).Agreeing :=
  run_invariant (fun world event h => h.stepped (stepped_step viem encode world event))
    .create events

theorem aged (h : world.Agreeing) (hstep : world.Stepped viem encode next) :
    RowsAged world.database next.database := by
  cases hstep with
  | nothing => exact .refl _
  | confirmed => exact .refl _
  | answered i run stage s hrun hproceeded =>
    obtain ⟨marked, -, hpassed⟩ := hproceeded.passed (h.sound i run hrun)
    exact hpassed.1.rows.aged
  | reset => exact .refl _
  | called database reservations hkept =>
    exact RowsKept.aged (.of_markersKept hkept : RowsKept none _ _)
  | crashed => exact .refl _

theorem run_aged (viem : Viem) (encode : MessagePack) (h : world.Agreeing)
    (events : List OrchestratorEvent) :
    RowsAged world.database (Library.run (step viem encode) world events).database := by
  induction events generalizing world with
  | nil => exact .refl _
  | cons event events ih =>
    have hstep := stepped_step viem encode world event
    exact (h.aged hstep).trans (ih (h.stepped hstep))

theorem current (h : world.Agreeing) (hresult : (world.flows orchestrator).phase.isResult = true) :
    ∃ run ∈ world.runs, run.orchestrator = orchestrator ∧
      run.generation = (world.flows orchestrator).generation ∧
      run.Sound (world.view run) := by
  have hbegun : (world.flows orchestrator).phase ≠ .review := by
    intro hphase
    rw [hphase] at hresult
    cases hresult
  obtain ⟨i, run, hrun, hown, hcurrent⟩ := h.shown orchestrator hbegun
  exact ⟨run, List.mem_of_getElem? hrun, hown, hcurrent, h.sound i run hrun⟩

end Agreeing

/-- In every run a flow that shows a terminal phase shows the state of the record
its confirmation reserved; one that shows a failure before the submission belongs
to a confirmation that has no record, or one that has never been submitted; and a
confirmation whose generation has been left changes no flow. -/
theorem flow_agrees_with_journal (viem : Viem) (encode : MessagePack)
    (events : List OrchestratorEvent) :
    let world := Library.run (step viem encode) create events
    (∀ (orchestrator : ℕ) (phase : ReconciledActionPhase),
      (world.flows orchestrator).phase = phase.phase →
        ∃ run ∈ world.runs, run.orchestrator = orchestrator ∧
          run.generation = (world.flows orchestrator).generation ∧
          ∃ row ∈ world.database.actionJournal, run.journalId = some row.journalId ∧
            Confirming.terminalPhase row.state = some phase) ∧
    (∀ orchestrator : ℕ, (world.flows orchestrator).phase = .failedBeforeSubmission →
        ∃ run ∈ world.runs, run.orchestrator = orchestrator ∧
          run.generation = (world.flows orchestrator).generation ∧
          ∀ earlier later, events = earlier ++ later →
            ∀ row ∈ (Library.run (step viem encode) create earlier).database.actionJournal,
                run.journalId = some row.journalId →
                  row.state = .prepared ∨ row.state = .abandonedBeforeSubmission) ∧
    ∀ (i : ℕ) (run : ConfirmRun) (answer : ConfirmAnswer),
      world.runs[i]? = some run →
        run.generation ≠ (world.flows run.orchestrator).generation →
          (world.step viem encode (.answer i answer)).flows = world.flows := by
  intro world
  have hagreeing : world.Agreeing := .run viem encode events
  refine ⟨?_, ?_, ?_⟩
  · intro orchestrator phase hphase
    obtain ⟨run, hrun, hown, hcurrent, hsound⟩ :=
      hagreeing.current (hphase ▸ phase.isResult)
    subst hown
    obtain ⟨journalId, hid, row, hrow, rfl, hshows⟩ :=
      hsound.agrees.terminal hcurrent.symm phase hphase
    exact ⟨run, hrun, rfl, hcurrent, row, hrow, hid, hshows⟩
  · intro orchestrator hphase
    have hresult : (world.flows orchestrator).phase.isResult = true := by
      rw [hphase]
      rfl
    obtain ⟨run, hrun, hown, hcurrent, hsound⟩ := hagreeing.current hresult
    subst hown
    refine ⟨run, hrun, rfl, hcurrent, ?_⟩
    intro earlier later hevents row hrow hid
    have hearlier : Agreeing (Library.run (step viem encode) create earlier) :=
      .run viem encode earlier
    have hlater : world = Library.run (step viem encode)
        (Library.run (step viem encode) create earlier) later := by
      rw [← run_append, ← hevents]
    have haged := hearlier.run_aged viem encode later
    rw [← hlater] at haged
    obtain ⟨row', hrow', hkey, haging⟩ := haged.forward row hrow
    obtain ⟨found, hfound, hfoundid, hmarker⟩ :=
      hsound.agrees.failed hcurrent.symm hphase row.journalId hid
    obtain rfl := world.database.uniqueIds.eq_of_mem hfound hrow'
      (hfoundid.trans hkey.symm)
    refine (hearlier.markers row hrow).mp ?_
    by_contra hsome
    have hkept := haging.started (Option.isSome_iff_ne_none.mpr hsome)
    exact hsome (hkept.symm.trans hmarker)
  · intro i run answer hrun hstale
    have hstep : world.step viem encode (.answer i answer) =
        world.goOn i run (run.proceed viem encode (world.view run) answer).1
          (run.proceed viem encode (world.view run) answer).2 := by
      simp only [step, hrun]
    obtain ⟨marked, -, hagrees, -⟩ :=
      (run.proceeded viem encode (world.view run) answer).passed
        (hagreeing.sound i run hrun)
    rw [hstep]
    funext orchestrator
    by_cases hown : orchestrator = run.orchestrator
    · rw [hown, goOn_flows_self]
      exact hagrees.stale fun hcurrent => hstale hcurrent.symm
    · exact goOn_flows_of_ne world i _ _ hown

end OrchestratorWorld

end HyperTrader
