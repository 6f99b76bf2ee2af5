import HyperTrader.Basic

/-!
# The lifecycle of a journal record

The states a journal record passes through, the transitions the journal allows
and the result class each state carries. `lifecycleRank` orders the states: an
allowed transition raises the rank, and a terminal state allows none, so a
record goes through at most three states.
-/

namespace HyperTrader

open Library

inductive JournalActionType where
  | marketOrder
  | limitOrder
  | cancel
  | bulkCancel
  | updateLeverage
  | reduceOnlyClose
  | positionTpsl
  deriving DecidableEq

def JournalActionType.text : JournalActionType → String
  | marketOrder => "market_order"
  | limitOrder => "limit_order"
  | cancel => "cancel"
  | bulkCancel => "bulk_cancel"
  | updateLeverage => "update_leverage"
  | reduceOnlyClose => "reduce_only_close"
  | positionTpsl => "position_tpsl"

inductive JournalResultClass where
  | accepted
  | rejected
  | expired
  | unresolved
  | ambiguous
  deriving DecidableEq

def JournalResultClass.text : JournalResultClass → String
  | accepted => "accepted"
  | rejected => "rejected"
  | expired => "expired"
  | unresolved => "unresolved"
  | ambiguous => "ambiguous"

inductive JournalState where
  | prepared
  | submissionStarted
  | unresolved
  | accepted
  | rejected
  | expired
  | abandonedBeforeSubmission
  | reconciledAmbiguous
  deriving DecidableEq

namespace JournalState

def text : JournalState → String
  | prepared => "prepared"
  | submissionStarted => "submission_started"
  | unresolved => "unresolved"
  | accepted => "accepted"
  | rejected => "rejected"
  | expired => "expired"
  | abandonedBeforeSubmission => "abandoned_before_submission"
  | reconciledAmbiguous => "reconciled_ambiguous"

/-- `TERMINAL_JOURNAL_STATE_VALUES` -/
def terminalValues : List JournalState :=
  [accepted, rejected, expired, abandonedBeforeSubmission, reconciledAmbiguous]

def allowedTransitions : JournalState → List JournalState
  | prepared => [submissionStarted, abandonedBeforeSubmission]
  | submissionStarted =>
    [accepted, rejected, expired, unresolved, reconciledAmbiguous]
  | unresolved => [accepted, rejected, expired, reconciledAmbiguous]
  | accepted => []
  | rejected => []
  | expired => []
  | abandonedBeforeSubmission => []
  | reconciledAmbiguous => []

/-- The states the reconciler works on: `state IN ('submission_started',
'unresolved')`. -/
def reconcilable (state : JournalState) : Bool :=
  state == submissionStarted || state == unresolved

end JournalState

def isTerminalJournalState (state : JournalState) : Bool :=
  JournalState.terminalValues.contains state

def assertJournalTransition (current next : JournalState) : Outcome Unit :=
  require (next ∈ current.allowedTransitions)
    (.validation "journal.state" ("transition from " ++ current.text ++ " to " ++ next.text ++
        " is forbidden"))

variable {current next : JournalState} {u : Unit}

@[simp] theorem assertJournalTransition_eq_ok
    : assertJournalTransition current next = .ok u ↔
      next ∈ current.allowedTransitions := by
  simp [assertJournalTransition]

def resultForState : JournalState → Option JournalResultClass
  | .prepared => none
  | .submissionStarted => none
  | .unresolved => some .unresolved
  | .accepted => some .accepted
  | .rejected => some .rejected
  | .expired => some .expired
  | .abandonedBeforeSubmission => none
  | .reconciledAmbiguous => some .ambiguous

def assertJournalResultClass (state : JournalState)
    (resultClass : Option JournalResultClass) : Outcome Unit :=
  require (resultClass = resultForState state)
    (.validation "journal.lastResultClass"
      ("result class " ++ (resultClass.map JournalResultClass.text).getD "null" ++
        " is invalid for state " ++ state.text))

@[simp] theorem assertJournalResultClass_eq_ok {state : JournalState}
    {resultClass : Option JournalResultClass} :
    assertJournalResultClass state resultClass = .ok u ↔
      resultClass = resultForState state := by
  simp [assertJournalResultClass]

theorem isTerminalJournalState_iff (state : JournalState) :
    isTerminalJournalState state = true ↔ state.allowedTransitions = [] := by
  cases state <;> simp [isTerminalJournalState, JournalState.terminalValues,
    JournalState.allowedTransitions]

def lifecycleRank : JournalState → ℕ
  | .prepared => 0
  | .submissionStarted => 1
  | .unresolved => 2
  | _ => 3

theorem lifecycleRank_lt (h : next ∈ current.allowedTransitions) :
    lifecycleRank current < lifecycleRank next := by
  cases current <;> cases next <;>
    simp_all [JournalState.allowedTransitions, lifecycleRank]

theorem ne_prepared_of_mem_allowedTransitions
    (h : next ∈ current.allowedTransitions) : next ≠ .prepared := by
  intro hnext
  have hrank := lifecycleRank_lt h
  rw [hnext] at hrank
  simp [lifecycleRank] at hrank

end HyperTrader
