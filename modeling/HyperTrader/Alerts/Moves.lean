import HyperTrader.Alerts.Entry

/-!
# What a reply does to an open

Whatever an open waits for, its next step changes its own stage, perhaps takes
its alert out of those in flight, puts it into the history, or switches the
context. `Moved` says which of these goes with which stages, so that what holds
of all opens needs no look at the single steps.
-/

namespace HyperTrader

open Library

namespace Alerts

namespace Stage

def holds : Stage → Bool
  | .settling _ _ | .returning _ | .returned _ => false
  | _ => true

def claimed : Stage → Bool
  | .claiming | .checking | .settling _ _ | .returning _ | .returned _ => false
  | _ => true

def live : Stage → Bool
  | .returning _ | .returned _ => false
  | _ => true

def isSettling : Stage → Bool
  | .settling _ _ => true
  | _ => false

/-- The alert that the open is about to return as ready: the context has been
found or made the alert's. -/
def entered : Stage → Option MobileAlert
  | .selecting _ alert | .refreshing _ alert | .committing alert | .marking alert
  | .settling alert true | .returning (.ready alert) => some alert
  | _ => none

def recorded : Stage → Bool
  | .settling _ true | .returning (.ready _) | .returned (.ready _) => true
  | _ => false

def quiet : Stage → Bool
  | .returning .duplicate | .returned .duplicate
  | .returning .targetUnavailable | .returned .targetUnavailable
  | .returning .declined | .returned .declined
  | .returning .contextChangeFailed | .returned .contextChangeFailed => true
  | _ => false

/-- The context has been found or made the alert's, or the open has ended after
that or by a failure. -/
def turned : Stage → Bool
  | .selecting _ _ | .refreshing _ _ | .committing _ | .marking _ | .settling _ _
  | .returning .refreshFailed | .returned .refreshFailed
  | .returning (.ready _) | .returned (.ready _)
  | .returning .rejected | .returned .rejected => true
  | _ => false

variable {stage : Stage}

theorem not_quiet_of_turned (h : stage.turned = true) : stage.quiet = false := by
  cases stage with
  | returning result | returned result => cases result <;> first | rfl | cases h
  | _ => rfl

theorem holds_of_claimed (h : stage.claimed = true) : stage.holds = true := by
  cases stage <;> first | rfl | cases h

theorem not_recorded_of_claimed (h : stage.claimed = true) : stage.recorded = false := by
  cases stage <;> first | rfl | cases h

theorem holds_or_isSettling_of_live (h : stage.live = true) :
    stage.holds = true ∨ stage.isSettling = true := by
  cases stage <;> first | exact .inl rfl | exact .inr rfl | cases h

theorem not_holds_of_isSettling (h : stage.isSettling = true) : stage.holds = false := by
  cases stage <;> first | rfl | cases h

end Stage

/-- The switch takes effect, and it changes the context. -/
def SwitchCommits (entry : Entry) (alert : MobileAlert) (switchEpoch : ℕ) (cancelled : Bool)
    (failing : Option SwitchCallback) : Prop :=
  cancelled = true ∧ switchEpoch = entry.supervisor.epoch ∧
    (failing = none ∨ failing = some .onCommit) ∧
    normalizeTradingContext alert.context ≠ entry.supervisor.current

instance (entry : Entry) (alert : MobileAlert) (switchEpoch : ℕ) (cancelled : Bool)
    (failing : Option SwitchCallback) :
    Decidable (SwitchCommits entry alert switchEpoch cancelled failing) :=
  inferInstanceAs (Decidable (_ ∧ _))

/-- Every other open that has entered its own alert is in the context of this one's. -/
def OthersIn (entry : Entry) (i : ℕ) (alert : MobileAlert) : Prop :=
  ∀ other ∈ entry.opens.eraseIdx i, ∀ entered ∈ other.stage.entered,
    sameContext entered alert.context = true

instance (entry : Entry) (i : ℕ) (alert : MobileAlert) : Decidable (OthersIn entry i alert) :=
  inferInstanceAs (Decidable (∀ other ∈ entry.opens.eraseIdx i,
    ∀ entered ∈ other.stage.entered, sameContext entered alert.context = true))

/-- The alert that was fetched is compared with the context: the open goes on and the alert's
target is there. -/
def Entry.compares (entry : Entry) (call : Open) (operation : ℕ) (alert : MobileAlert) : Bool :=
  !entry.interrupted call operation && alert.active && alert.ruleScope.isSome &&
    targetExists entry.accounts alert

/-- The condition on the end of an await. An alert that is found in the context of the last
render is in the one that holds; a switch changes the context only where every other open that
has entered its own alert is in the new context, and with the account still saved; the
selection of the account does not fail. -/
def CarefulReply (entry : Entry) (i : ℕ) (call : Open) (reply : Reply) : Prop :=
  match call.stage, reply with
  | .fetching operation, .fetched (some alert) =>
    entry.compares call operation alert = true →
      sameContext alert (entry.seen call.coordinator) = true →
        sameContext alert entry.supervisor.current = true
  | .switching _ alert switchEpoch, .switched cancelled failing =>
    SwitchCommits entry alert switchEpoch cancelled failing →
      OthersIn entry i alert ∧ (failing = none → alert.account = none ∨
        entry.accounts.any (isAccountOf alert) = true)
  | .selecting _ _, .selected succeeds => succeeds = true
  | _, _ => True

instance (entry : Entry) (i : ℕ) (call : Open) (reply : Reply) :
    Decidable (CarefulReply entry i call reply) := by
  unfold CarefulReply
  split <;> exact inferInstance

/-- The context is left as it is, or the open's own switch takes it to the context
of its alert, where every other open that has entered its own alert stays. -/
def TurnsOnly (entry : Entry) (i : ℕ) (call : Open) (next : Stage)
    (current : TradingContextIdentity) : Prop :=
  current = entry.supervisor.current ∨
    next.turned = true ∧ ∃ operation alert switchEpoch,
      call.stage = .switching operation alert switchEpoch ∧
        current = normalizeTradingContext alert.context ∧ OthersIn entry i alert

structure Moved (entry : Entry) (i : ℕ) (call : Open) (next : Stage) (after : Entry) : Prop where
  opens : after.opens = entry.opens.modify i fun call => { call with stage := next }
  inFlight :
    next.holds = call.stage.holds ∧ after.inFlightAlertIds = entry.inFlightAlertIds ∨
      call.stage.live = true ∧ next.holds = false ∧
        after.inFlightAlertIds = entry.inFlightAlertIds.filter (· ≠ call.alertId)
  handled :
    after.handledAlertIds = entry.handledAlertIds ∨
      call.stage.claimed = true ∧ next.recorded = true ∧
        ∀ alertId ∈ after.handledAlertIds,
          alertId ∈ entry.handledAlertIds ∨ alertId = call.alertId
  holds : next.holds = true → call.stage.holds = true
  claimed : next.claimed = true →
    call.stage.claimed = true ∨ call.alertId ∉ entry.handledAlertIds
  settling : next.isSettling = true → call.stage.claimed = true
  recorded : next.recorded = true → call.stage.recorded = true ∨ call.stage.claimed = true
  returned : ∀ alert, next = .returned (.ready alert) →
    call.stage = .returning (.ready alert) ∧
      after.supervisor.current = entry.supervisor.current
  keepsRecorded : call.stage.recorded = true → next.recorded = true
  turned : call.stage.turned = true → next.turned = true
  entered : ∀ alert ∈ next.entered, call.stage.entered = some alert ∨
    sameContext alert after.supervisor.current = true
  context : TurnsOnly entry i call next after.supervisor.current

namespace Moved

variable {entry : Entry} {i : ℕ} {call : Open} {stage : Stage} {after : Entry}

theorem goesOn {next : Stage} (hstage : call.stage = stage)
    (hreturned : ∀ alert, next = .returned (.ready alert) → stage = .returning (.ready alert))
    (hopens : after.opens = entry.opens.modify i fun call => { call with stage := next })
    (hinFlight : after.inFlightAlertIds = entry.inFlightAlertIds)
    (hhandled : after.handledAlertIds = entry.handledAlertIds)
    (hcurrent : after.supervisor.current = entry.supervisor.current)
    (hholds : next.holds = stage.holds) (hclaimed : next.claimed = true →
      stage.claimed = true ∨ call.alertId ∉ entry.handledAlertIds)
    (hsettling : next.isSettling = false) (hrecorded : next.recorded = stage.recorded)
    (hturned : stage.turned = true → next.turned = true)
    (hentered : ∀ alert ∈ next.entered, stage.entered = some alert ∨
      sameContext alert entry.supervisor.current = true) : Moved entry i call next after := by
  subst hstage
  exact {
    opens := hopens
    inFlight := .inl ⟨hholds, hinFlight⟩
    handled := .inl hhandled
    holds := fun h => hholds ▸ h
    claimed := hclaimed
    settling := fun h => by rw [hsettling] at h; cases h
    recorded := fun h => .inl (hrecorded ▸ h)
    returned := fun alert h => ⟨hreturned alert h, hcurrent⟩
    keepsRecorded := fun h => hrecorded.symm ▸ h
    turned := hturned
    entered := fun alert halert => (hentered alert halert).imp_right (hcurrent ▸ ·)
    context := .inl hcurrent }

theorem ends {result : EntryResult} (hstage : call.stage = stage)
    (hlive : stage.live = true) (hrecorded : stage.recorded = false)
    (hready : ∀ alert, result ≠ .ready alert)
    (hturned : stage.turned = true → (Stage.returning result).turned = true)
    (hopens : after.opens = entry.opens)
    (hinFlight : after.inFlightAlertIds = entry.inFlightAlertIds)
    (hhandled : after.handledAlertIds = entry.handledAlertIds)
    (hcontext : TurnsOnly entry i call (.returning result) after.supervisor.current) :
    Moved entry i call (.returning result) (after.finish i call result) := by
  subst hstage
  have hplain : (Stage.returning result).recorded = false ∧
      (Stage.returning result).entered = none := by
    cases result with
    | ready alert => exact absurd rfl (hready alert)
    | _ => exact ⟨rfl, rfl⟩
  exact {
    opens := by
      change after.opens.modify i _ = _
      rw [hopens]
    inFlight := .inr ⟨hlive, rfl, congrArg (List.filter _) hinFlight⟩
    handled := .inl hhandled
    holds := fun h => by cases h
    claimed := fun h => by cases h
    settling := fun h => by cases h
    recorded := fun h => by rw [hplain.1] at h; cases h
    returned := fun _ h => by cases h
    keepsRecorded := fun h => by rw [hrecorded] at h; cases h
    turned := hturned
    entered := fun alert halert => by rw [hplain.2] at halert; cases halert
    context := hcontext }

theorem declined (hstage : call.stage = stage)
    (hlive : stage.live = true) (hrecorded : stage.recorded = false)
    (hturned : stage.turned = false) (hopens : after.opens = entry.opens)
    (hinFlight : after.inFlightAlertIds = entry.inFlightAlertIds)
    (hhandled : after.handledAlertIds = entry.handledAlertIds)
    (hcurrent : after.supervisor.current = entry.supervisor.current) :
    Moved entry i call (.returned .duplicate) (after.declineClaim i call) := by
  subst hstage
  exact {
    opens := by
      change after.opens.modify i _ = _
      rw [hopens]
    inFlight := .inr ⟨hlive, rfl, congrArg (List.filter _) hinFlight⟩
    handled := .inl hhandled
    holds := fun h => by cases h
    claimed := fun h => by cases h
    settling := fun h => by cases h
    recorded := fun h => by cases h
    returned := fun _ h => by cases h
    keepsRecorded := fun h => by rw [hrecorded] at h; cases h
    turned := fun h => by rw [hturned] at h; cases h
    entered := fun _ h => by cases h
    context := .inl hcurrent }

theorem commits {alert : MobileAlert} {recorded : Bool}
    (hstage : call.stage = stage) (hlive : stage.live = true) (hclaimed : stage.claimed = true)
    (hrecorded : stage.recorded = false) (hentered : stage.entered = some alert)
    (hopens : after.opens = entry.opens)
    (hinFlight : after.inFlightAlertIds = entry.inFlightAlertIds)
    (hhandled : after.handledAlertIds = entry.handledAlertIds ∨
      recorded = true ∧ ∀ alertId ∈ after.handledAlertIds,
        alertId ∈ entry.handledAlertIds ∨ alertId = call.alertId)
    (hcurrent : after.supervisor.current = entry.supervisor.current) :
    Moved entry i call (.settling alert recorded) (after.endCommit i call alert recorded) := by
  subst hstage
  exact {
    opens := by
      change after.opens.modify i _ = _
      rw [hopens]
    inFlight := .inr ⟨hlive, rfl, congrArg (List.filter _) hinFlight⟩
    handled := hhandled.imp_right fun ⟨hset, hmem⟩ => ⟨hclaimed, by rw [hset]; rfl, hmem⟩
    holds := fun h => by cases h
    claimed := fun h => by cases h
    settling := fun _ => hclaimed
    recorded := fun _ => .inr hclaimed
    returned := fun _ h => by cases h
    keepsRecorded := fun h => by rw [hrecorded] at h; cases h
    turned := fun _ => rfl
    entered := fun other hother => by
      cases recorded with
      | false => cases hother
      | true =>
        cases hother
        exact .inl hentered
    context := .inl hcurrent }

end Moved

end Alerts

end HyperTrader
