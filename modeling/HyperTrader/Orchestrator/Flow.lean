import HyperTrader.Basic

/-!
# The action flow

The state a user sees of the action under way. Every confirmation has its own
generation; a dispatch of an older one changes nothing. A reset begins a new
generation, so a generation that has been left never comes back.
-/

namespace HyperTrader

inductive ActionFlowPhase where
  | review
  | unlocking
  | refreshing
  | reserving
  | signing
  | submissionStart
  | submitting
  | reconciling
  | accepted
  | rejected
  | expired
  | ambiguous
  | failedBeforeSubmission
  deriving DecidableEq

structure ActionFlowState where
  phase : ActionFlowPhase
  generation : ℤ
  journalId : Option String
  message : Option String

def initialActionFlow : ActionFlowState where
  phase := .review
  generation := 0
  journalId := none
  message := none

inductive ReconciledActionPhase where
  | accepted
  | rejected
  | expired
  | ambiguous

def ReconciledActionPhase.phase : ReconciledActionPhase → ActionFlowPhase
  | accepted => .accepted
  | rejected => .rejected
  | expired => .expired
  | ambiguous => .ambiguous

inductive ActionFlowAction where
  | confirm
  | advance (generation : ℤ) (phase : ActionFlowPhase) (journalId : Option String)
  | unresolved (generation : ℤ) (journalId : String)
  | terminal (generation : ℤ) (journalId : String) (phase : ReconciledActionPhase)
      (message : Option String)
  | failBeforeSubmission (generation : ℤ) (journalId : Option String)
      (message : String)
  | reset

def nextPhase : ActionFlowPhase → Option ActionFlowPhase
  | .refreshing => some .unlocking
  | .unlocking => some .reserving
  | .reserving => some .signing
  | .signing => some .submissionStart
  | .submissionStart => some .submitting
  | _ => none

def ActionFlowPhase.confirmable (phase : ActionFlowPhase) : Bool :=
  phase == .review || phase == .failedBeforeSubmission

def ActionFlowPhase.beforeSubmission (phase : ActionFlowPhase) : Bool :=
  phase == .unlocking || phase == .refreshing || phase == .reserving ||
    phase == .signing || phase == .submissionStart

def reduceActionFlow (state : ActionFlowState) :
    ActionFlowAction → ActionFlowState
  | .confirm =>
    if state.phase.confirmable then
      { phase := .refreshing
        generation := state.generation + 1
        journalId := none
        message := none }
    else state
  | .advance generation phase journalId =>
    if state.generation = generation ∧ nextPhase state.phase = some phase then
      { state with
        phase := phase
        journalId := journalId.or state.journalId
        message := none }
    else state
  | .unresolved generation journalId =>
    if state.generation = generation ∧ state.phase = .submitting then
      { state with
        phase := .reconciling
        journalId := some journalId
        message := some "Hyperliquid has not confirmed the result yet." }
    else state
  | .terminal generation journalId phase message =>
    if state.generation = generation ∧
        (state.phase = .submitting ∨ state.phase = .reconciling) then
      { state with
        phase := phase.phase
        journalId := some journalId
        message := message }
    else state
  | .failBeforeSubmission generation journalId message =>
    if state.generation = generation ∧ state.phase.beforeSubmission then
      { state with
        phase := .failedBeforeSubmission
        journalId := journalId.or state.journalId
        message := some message }
    else state
  | .reset => { initialActionFlow with generation := state.generation + 1 }

def ActionFlowAction.generation : ActionFlowAction → Option ℤ
  | .confirm => none
  | .advance generation _ _ => some generation
  | .unresolved generation _ => some generation
  | .terminal generation _ _ _ => some generation
  | .failBeforeSubmission generation _ _ => some generation
  | .reset => none

variable {state : ActionFlowState} {action : ActionFlowAction}

theorem reduceActionFlow_of_stale {generation : ℤ} (haction : action.generation = some generation)
    (hstale : state.generation ≠ generation) : reduceActionFlow state action = state := by
  cases action with
  | confirm => simp [ActionFlowAction.generation] at haction
  | advance g phase journalId =>
    cases haction
    simp [reduceActionFlow, hstale]
  | unresolved g journalId =>
    cases haction
    simp [reduceActionFlow, hstale]
  | terminal g journalId phase message =>
    cases haction
    simp [reduceActionFlow, hstale]
  | failBeforeSubmission g journalId message =>
    cases haction
    simp [reduceActionFlow, hstale]
  | reset => simp [ActionFlowAction.generation] at haction

theorem reduceActionFlow_generation {generation : ℤ}
    (haction : action.generation = some generation) :
    (reduceActionFlow state action).generation = state.generation := by
  cases action with
  | confirm => simp [ActionFlowAction.generation] at haction
  | reset => simp [ActionFlowAction.generation] at haction
  | _ =>
    simp only [reduceActionFlow]
    split <;> rfl

end HyperTrader
