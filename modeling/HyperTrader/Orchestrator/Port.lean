import HyperTrader.Orchestrator.Parts

/-!
# What the reconciliation port does

A step of the port leaves no row with a marker it did not have, and a phase it
returns is the one the record then shows. What it throws is dropped by
`confirm`, so a thrower only has to keep the rows.
-/

namespace HyperTrader

open Library

def KeepsRows (start : Database) (s : Repository) : Prop :=
  RowsKept none start s.database

theorem KeepsRows.rewrite {start : Database} {s s' : Repository}
    {row row' : PreparedActionRecord} (h : KeepsRows start s)
    (hrewrite : JournalRewrite s.database s'.database row row')
    (hkept : MarkerKept row row') : KeepsRows start s' :=
  RowsKept.trans h (.of_markersKept (.of_rewrite hrewrite hkept))

theorem FailsClean.meets {α : Type} {method : Method α} {P : Repository → Prop}
    {post : α → Repository → Prop} (hclean : FailsClean method)
    (hok : ∀ s a s', P s → method s = (.ok a, s') → post a s') :
    Action.Meets P method post P where
  returns s a s' hs hrun := hok s a s' hs hrun
  throws s e s' hs hrun := by rwa [hclean s s' e hrun]

def ActionReconcilerResult.Sound (database : Database) (journalId : String) :
    ActionReconcilerResult → Prop
  | .decided (.terminal state) => database.Holds journalId fun row =>
    row.state = state.journalState
  | .alreadyTerminal state => database.Holds journalId fun row => row.state = state
  | _ => True

def Reconciling.Sound (database : Database) (journalId : String) :
    Reconciling → Prop
  | .finished result => result.Sound database journalId
  | .claimed record _ => record.journalId = journalId

namespace PortStage

def Sound (database : Database) (journalId : String) : PortStage → Prop
  | .claimed _ record _ => record.journalId = journalId
  | .returned (some phase) => database.Holds journalId (Shows phase)
  | _ => True

variable {journalId : String}

theorem Sound.kept {marked : Option String} {before after : Database}
    {port : PortStage} (h : port.Sound before journalId)
    (hrows : RowsKept marked before after) : port.Sound after journalId := by
  cases port with
  | head attempts => trivial
  | ready attempts => trivial
  | claimed attempts record lease => exact h
  | returned phase =>
    cases phase with
    | none => trivial
    | some phase =>
      exact Database.Holds.kept h hrows fun _ _ _ hkept hshows =>
        hshows.kept hkept

theorem terminalPhase_journalState (state : ReconciledState) :
    Confirming.terminalPhase state.journalState = some (reconciledPhase state) := by
  cases state <;> rfl

theorem afterResult_sound {database : Database} {attempts : ℕ} {result : ActionReconcilerResult}
    (h : result.Sound database journalId) :
    (afterResult attempts result).Sound database journalId := by
  cases result with
  | decided decision =>
    cases decision with
    | unresolved reason => trivial
    | terminal state =>
      obtain ⟨row, hrow, hid, hstate⟩ := h
      refine ⟨row, hrow, hid, ?_⟩
      rw [Shows, hstate, terminalPhase_journalState]
  | alreadyTerminal state =>
    obtain ⟨row, hrow, hid, hstate⟩ := h
    cases hphase : Confirming.terminalPhase state with
    | none =>
      rw [afterResult, hphase]
      trivial
    | some phase =>
      rw [afterResult, hphase]
      refine ⟨row, hrow, hid, ?_⟩
      rw [Shows, hstate, hphase]
  | notReconcilable => trivial
  | leaseLost => trivial

end PortStage

section

variable {start : Database} {faults : ReconcilerFaults} {owner : String} {now : ℤ}

theorem getAction_meets {P : Repository → Prop} (fault : Option Failure) (journalId : String) :
    Action.Meets P (getAction fault journalId)
      (fun found s => P s ∧ s.database.getAction journalId = .ok found) P := by
  refine (getAction_failsClean fault journalId).meets fun s found s' hs hrun => ?_
  obtain ⟨rfl, hfound⟩ := getAction_ok hrun
  exact ⟨hs, hfound⟩

theorem claim_meets (fault : Option Failure) (journalId : String) :
    Action.Meets (KeepsRows start) (claimReconciliationLease fault journalId owner now none)
      (fun _ => KeepsRows start) (KeepsRows start) := by
  refine (claimReconciliationLease_failsClean _ _ _ _ _).meets ?_
  intro s lease s' hs hrun
  cases lease with
  | none => rwa [claimReconciliationLease_none hrun]
  | some lease =>
    obtain ⟨-, -, -, row, -, hstate, hfree, hrewrite⟩ :=
      claimReconciliationLease_some hrun
    exact hs.rewrite hrewrite (.of_state_eq (.claim hstate hfree) rfl rfl)

theorem renew_meets (fault : Option Failure) (lease : ReconciliationLease) :
    Action.Meets (KeepsRows start) (renewReconciliationLease fault lease now none)
      (fun _ => KeepsRows start) (KeepsRows start) := by
  refine (renewReconciliationLease_failsClean _ _ _ _).meets ?_
  intro s renewed s' hs hrun
  cases renewed with
  | none => rwa [renewReconciliationLease_none hrun]
  | some renewed =>
    obtain ⟨row, hholds, hlive, -, -, hrewrite⟩ := renewReconciliationLease_some hrun
    exact hs.rewrite hrewrite (.of_state_eq (.renew hholds hlive) rfl rfl)

theorem recordDecision_meets (record : PreparedActionRecord) (decision : ReconciliationDecision) :
    Action.Meets (KeepsRows start) (recordDecision faults owner now record decision)
      (fun _ s => KeepsRows start s ∧
        (ActionReconcilerResult.decided decision).Sound s.database record.journalId)
      (KeepsRows start) := by
  refine (recordDecision_failsClean _ _ _ _ _).meets fun s written s' hs hrun => ?_
  obtain ⟨row, hid, -, hstored, hdecided, hrewrite⟩ := recordDecision_ok hrun
  cases hdecided with
  | scheduled hleased hstate =>
    exact ⟨hs.rewrite hrewrite (.schedule hleased hstate hstored), trivial⟩
  | settled hallowed =>
    refine ⟨hs.rewrite hrewrite (.transition hallowed hstored), ?_⟩
    exact ⟨_, hrewrite.rewrites.mem_after, hid, rfl⟩

theorem reconcile_meets (journalId : String) :
    Action.Meets (KeepsRows start) (reconcile faults owner now journalId)
      (fun result s => KeepsRows start s ∧ result.Sound s.database journalId)
      (KeepsRows start) := by
  unfold reconcile
  refine .bind (.weaken (getAction_meets faults.read journalId) (fun _ h => h)
    (fun _ _ h => h) fun _ h => h) fun found => ?_
  cases found with
  | none => exact .pure fun s hs => ⟨hs.1, trivial⟩
  | some record =>
    dsimp only
    split
    · refine .pure fun s hs => ⟨hs.1, ?_⟩
      obtain ⟨hmem, hid, -⟩ := Database.getAction_eq_some.mp hs.2
      exact ⟨record, hmem, hid, rfl⟩
    split
    · refine .known (fun s hs => (Database.getAction_eq_some.mp hs.2).2.1) ?_
      intro hid
      refine .bind (.weaken (claim_meets _ _) (fun _ hs => hs.1) (fun _ _ h => h)
        fun _ h => h) fun lease => ?_
      cases lease with
      | none => exact .pure fun s hs => ⟨hs, trivial⟩
      | some lease => exact .pure fun s hs => ⟨hs, hid⟩
    · exact .pure fun s hs => ⟨hs.1, trivial⟩

theorem reconcileClaim_meets (viem : Viem) (record : PreparedActionRecord)
    (lease : ReconciliationLease) (evidence : Outcome ReconciliationEvidence) :
    Action.Meets (KeepsRows start) (reconcileClaim viem faults owner now record lease evidence)
      (fun result s => KeepsRows start s ∧ result.Sound s.database record.journalId)
      (KeepsRows start) := by
  rw [reconcileClaim_eq]
  refine .bind (renew_meets _ _) fun renewed => ?_
  cases renewed with
  | none => exact .pure fun s hs => ⟨hs, trivial⟩
  | some renewed =>
    refine .check_bind (fun _ hs => hs) fun decision _ => ?_
    refine .bind (recordDecision_meets record decision) fun _ => ?_
    exact .pure fun s hs => hs

end

namespace PortStage

theorem Attends.meets {viem : Viem} {journalId : String} {port : PortStage}
    {method : Method PortStage} (h : Attends viem journalId port method) {start : Database}
    (hport : port.Sound start journalId) :
    Action.Meets (KeepsRows start) method
      (fun next s => KeepsRows start s ∧ next.Sound s.database journalId) (KeepsRows start) := by
  have hstop : Action.Meets (KeepsRows start) 
      (pure (.returned none) : Method PortStage)
      (fun next s => KeepsRows start s ∧ next.Sound s.database journalId)
      (KeepsRows start) := .pure fun s hs => ⟨hs, trivial⟩
  cases h with
  | read shouldContinue fault attempts =>
    cases attempts with
    | zero => exact hstop
    | succ attempts =>
      unfold PortStage.next
      refine .check_bind (fun _ hs => hs) fun continues _ => ?_
      split
      · refine .bind (getAction_meets fault journalId) fun found => ?_
        cases found with
        | none => exact .pure fun s hs => ⟨hs.1, trivial⟩
        | some record =>
          dsimp only
          split
          · rename_i phase hphase
            refine .pure fun s hs => ⟨hs.1, ?_⟩
            obtain ⟨hmem, hid, -⟩ := Database.getAction_eq_some.mp hs.2
            exact ⟨record, hmem, hid, hphase⟩
          · split
            · exact .pure fun s hs => ⟨hs.1, trivial⟩
            · exact .pure fun s hs => ⟨hs.1, trivial⟩
      · exact hstop
  | attempted shouldContinue faults owner now attempts =>
    unfold PortStage.attempt
    refine .check_bind (fun _ hs => hs) fun continues _ => ?_
    split
    · refine .bind (reconcile_meets journalId) fun result => ?_
      cases result with
      | finished result =>
        exact .pure fun s hs => ⟨hs.1, afterResult_sound hs.2⟩
      | claimed record lease => exact .pure fun s hs => ⟨hs.1, hs.2⟩
    · exact hstop
  | resumed faults owner now attempts record lease evidence =>
    have hid : record.journalId = journalId := hport
    unfold PortStage.resume
    refine .bind (reconcileClaim_meets viem record lease evidence) fun result => ?_
    exact .pure fun s hs => ⟨hs.1, hid ▸ afterResult_sound hs.2⟩

end PortStage

end HyperTrader
