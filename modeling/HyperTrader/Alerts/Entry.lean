import HyperTrader.Context.Supervisor
import HyperTrader.Library.Processes
import HyperTrader.Library.Hex

/-!
# Opening an alert

A screen opens an alert through its own entry coordinator. An open claims the
alert, fetches it, switches the trading context where it has to, refreshes the
alert's target and records the alert as handled. The opens of all coordinators
share the trading context, the set of alerts in flight and the history of
handled alerts; the machine interleaves them at their awaits, and every port may
succeed or fail.
-/

namespace HyperTrader

open Library

namespace Alerts

def alertIdPattern : TextPattern where
  lead := ""
  digit := isLowerHexDigit
  least := 32
  most := 32

def addressPattern : TextPattern where
  lead := "0x"
  digit := isLowerHexDigit
  least := 40
  most := 40

def maxHandledAlerts : ℕ := 256

structure AlertAccount where
  masterAccount : String
  targetAccount : String
  masterPattern : addressPattern.test masterAccount = true
  targetPattern : addressPattern.test targetAccount = true
  deriving DecidableEq

inductive RuleScope where
  | price
  | account
  deriving DecidableEq

/-- `MobileAlertResponse`, as far as an open reads it. -/
structure MobileAlert where
  active : Bool
  network : HyperliquidNetwork
  ruleScope : Option RuleScope
  account : Option AlertAccount
  deriving DecidableEq

def MobileAlert.context (alert : MobileAlert) : TradingContextIdentity where
  network := alert.network
  masterAccount := alert.account.map (·.masterAccount)
  targetAccount := alert.account.map (·.targetAccount)
  signer := none

def sameContext (alert : MobileAlert) (current : TradingContextIdentity) : Bool :=
  if current.network ≠ alert.network then false
  else
    match alert.account with
    | none => true
    | some account =>
      current.masterAccount == some account.masterAccount &&
        current.targetAccount == some account.targetAccount

structure SavedAccount where
  id : String
  network : HyperliquidNetwork
  masterAccount : String
  targetAddress : String

def isAccountOf (alert : MobileAlert) (saved : SavedAccount) : Bool :=
  match alert.account with
  | none => false
  | some account =>
    saved.network == alert.network && saved.masterAccount == account.masterAccount &&
      saved.targetAddress == account.targetAccount

def targetExists (accounts : List SavedAccount) (alert : MobileAlert) : Bool :=
  alert.ruleScope == some .price || accounts.any (isAccountOf alert)

/-- `NotificationEntryResult`; `rejected` stands for a call that throws. -/
inductive EntryResult where
  | duplicate
  | targetUnavailable
  | declined
  | contextChangeFailed
  | refreshFailed
  | ready (alert : MobileAlert)
  | rejected
  deriving DecidableEq

inductive Stage where
  /-- `claim`, for the history to be hydrated -/
  | claiming
  /-- `claim`, for the history to be asked; it is looked at when this await ends, which in
  `hasHandledAlert` is done just before it -/
  | checking
  /-- the end of `claim` -/
  | starting
  /-- `fetchAlert` -/
  | fetching (operation : ℕ)
  /-- `confirmSwitch` -/
  | confirming (operation : ℕ) (alert : MobileAlert)
  /-- `activate`, for its switch -/
  | switching (operation : ℕ) (alert : MobileAlert) (switchEpoch : ℕ)
  /-- `activate`, for the selection of the account -/
  | selecting (operation : ℕ) (alert : MobileAlert)
  /-- `refresh` -/
  | refreshing (operation : ℕ) (alert : MobileAlert)
  /-- `commit`, for the history to be hydrated -/
  | committing (alert : MobileAlert)
  /-- `commit`, for the alert to be marked -/
  | marking (alert : MobileAlert)
  /-- the end of `commit`, which has taken the alert out of those in flight -/
  | settling (alert : MobileAlert) (recorded : Bool)
  /-- `release`, with the result that the open returns -/
  | returning (result : EntryResult)
  | returned (result : EntryResult)
  deriving DecidableEq

structure Open where
  coordinator : ℕ
  alertId : String
  aborted : Bool
  stage : Stage
  deriving DecidableEq

/-- What the opens share, and the opens. `seen` is the context that the screen of a
coordinator was last rendered with; the saved accounts, of which every screen keeps a ref, are
one list here. -/
structure Entry where
  supervisor : ContextSupervisor
  seen : ℕ → TradingContextIdentity
  generation : ℕ → ℕ
  accounts : List SavedAccount
  hydrated : Bool
  handledAlertIds : List String
  inFlightAlertIds : List String
  opens : List Open

inductive Reply where
  | hydrated (succeeds : Bool)
  | checked
  | started
  | fetched (answer : Option MobileAlert)
  | confirmed (accepted : Bool)
  | switched (cancelled : Bool) (failing : Option SwitchCallback)
  | selected (succeeds : Bool)
  | refreshed (succeeds : Bool)
  | marked (succeeds : Bool)
  | settled
  | returned

/-- A call, the end of an await of the open with an index, or a change around the
opens. -/
inductive EntryEvent where
  | called (coordinator : ℕ) (alertId : String)
  | resumed (i : ℕ) (reply : Reply)
  /-- The signal of the open is aborted. -/
  | aborted (i : ℕ)
  /-- The screen of the coordinator is rendered. -/
  | rendered (coordinator : ℕ)
  /-- The saved accounts change. -/
  | accountsChanged (accounts : List SavedAccount)

namespace Entry

def create (initial : TradingContextIdentity) (accounts : List SavedAccount)
    (handledAlertIds : List String) : Entry where
  supervisor := ContextSupervisor.create initial
  seen _ := normalizeTradingContext initial
  generation _ := 0
  accounts := accounts
  hydrated := false
  handledAlertIds := handledAlertIds
  inFlightAlertIds := []
  opens := []

def setStage (entry : Entry) (i : ℕ) (stage : Stage) : Entry :=
  { entry with opens := entry.opens.modify i fun call => { call with stage := stage } }

def releaseAlert (entry : Entry) (alertId : String) : Entry :=
  { entry with inFlightAlertIds := entry.inFlightAlertIds.filter (· ≠ alertId) }

def finish (entry : Entry) (i : ℕ) (call : Open) (result : EntryResult) : Entry :=
  (entry.releaseAlert call.alertId).setStage i (.returning result)

def interrupted (entry : Entry) (call : Open) (operation : ℕ) : Bool :=
  operation ≠ entry.generation call.coordinator || call.aborted

def call (entry : Entry) (coordinator : ℕ) (alertId : String) : Entry :=
  if alertIdPattern.test alertId = false then
    { entry with
      opens := entry.opens ++ [⟨coordinator, alertId, false, .returned .targetUnavailable⟩] }
  else if alertId ∈ entry.inFlightAlertIds then
    { entry with opens := entry.opens ++ [⟨coordinator, alertId, false, .returned .duplicate⟩] }
  else
    { entry with
      inFlightAlertIds := alertId :: entry.inFlightAlertIds
      opens := entry.opens ++ [⟨coordinator, alertId, false, .claiming⟩] }

def hydrate (entry : Entry) (succeeds : Bool) : Entry :=
  { entry with hydrated := entry.hydrated || succeeds }

def declineClaim (entry : Entry) (i : ℕ) (call : Open) : Entry :=
  (entry.releaseAlert call.alertId).setStage i (.returned .duplicate)

def endCommit (entry : Entry) (i : ℕ) (call : Open) (alert : MobileAlert) (recorded : Bool) :
    Entry :=
  (entry.releaseAlert call.alertId).setStage i (.settling alert recorded)

def afterClaimHydrated (entry : Entry) (i : ℕ) (call : Open) (succeeds : Bool) : Entry :=
  let entry := entry.hydrate succeeds
  if entry.hydrated then entry.setStage i .checking else entry.declineClaim i call

def afterCheck (entry : Entry) (i : ℕ) (call : Open) : Entry :=
  if call.alertId ∈ entry.handledAlertIds then entry.declineClaim i call
  else entry.setStage i .starting

def afterClaim (entry : Entry) (i : ℕ) (call : Open) : Entry :=
  let operation := entry.generation call.coordinator + 1
  { entry with
    generation := Function.update entry.generation call.coordinator operation }.setStage i
      (.fetching operation)

def afterFetch (entry : Entry) (i : ℕ) (call : Open) (operation : ℕ)
    (answer : Option MobileAlert) : Entry :=
  match answer with
  | none => entry.finish i call .targetUnavailable
  | some alert =>
    if entry.interrupted call operation then entry.finish i call .refreshFailed
    else if alert.active = false ∨ alert.ruleScope = none ∨
        targetExists entry.accounts alert = false then
      entry.finish i call .targetUnavailable
    else if sameContext alert (entry.seen call.coordinator) then
      entry.setStage i (.refreshing operation alert)
    else entry.setStage i (.confirming operation alert)

/-- The rest after `confirmSwitch`: `activate` requests the switch. The call of
`switchContext` keeps its epoch and its context while it waits. -/
def afterConfirm (entry : Entry) (i : ℕ) (call : Open) (operation : ℕ) (alert : MobileAlert)
    (accepted : Bool) : Entry :=
  if accepted = false then entry.finish i call .declined
  else if entry.interrupted call operation then entry.finish i call .refreshFailed
  else
    { entry with
      supervisor := { entry.supervisor with epoch := entry.supervisor.epoch + 1 } }.setStage i
        (.switching operation alert (entry.supervisor.epoch + 1))

def afterSwitch (entry : Entry) (i : ℕ) (call : Open) (operation : ℕ) (alert : MobileAlert)
    (switchEpoch : ℕ) (cancelled : Bool) (failing : Option SwitchCallback) : Entry :=
  let switch : PendingSwitch := ⟨switchEpoch, normalizeTradingContext alert.context⟩
  let resumed := { entry with supervisor := entry.supervisor.commit switch failing }
  if cancelled = false then entry.finish i call .rejected
  else if switchEpoch ≠ entry.supervisor.epoch then
    resumed.finish i call .contextChangeFailed
  else if failing.isSome then resumed.finish i call .rejected
  else if alert.account = none ∨ entry.accounts.any (isAccountOf alert) then
    resumed.setStage i (.selecting operation alert)
  else resumed.finish i call .contextChangeFailed

def afterRefresh (entry : Entry) (i : ℕ) (call : Open) (operation : ℕ) (alert : MobileAlert)
    (succeeds : Bool) : Entry :=
  if succeeds = false then entry.finish i call .refreshFailed
  else if entry.interrupted call operation then entry.finish i call .refreshFailed
  else entry.setStage i (.committing alert)

def afterSelect (entry : Entry) (i : ℕ) (call : Open) (operation : ℕ) (alert : MobileAlert)
    (succeeds : Bool) : Entry :=
  if succeeds then entry.setStage i (.refreshing operation alert)
  else entry.finish i call .contextChangeFailed

def afterCommitHydrated (entry : Entry) (i : ℕ) (call : Open) (alert : MobileAlert)
    (succeeds : Bool) : Entry :=
  let entry := entry.hydrate succeeds
  if entry.hydrated then entry.setStage i (.marking alert)
  else entry.endCommit i call alert false

def afterMark (entry : Entry) (i : ℕ) (call : Open) (alert : MobileAlert) (succeeds : Bool) :
    Entry :=
  if call.alertId ∈ entry.handledAlertIds then entry.endCommit i call alert true
  else if succeeds then
    let handled := entry.handledAlertIds ++ [call.alertId]
    { entry with
      handledAlertIds := handled.drop (handled.length - maxHandledAlerts) }.endCommit i call
        alert true
  else entry.endCommit i call alert false

def afterCommit (entry : Entry) (i : ℕ) (call : Open) (alert : MobileAlert) (recorded : Bool) :
    Entry :=
  entry.finish i call (if recorded then .ready alert else .refreshFailed)

/-- The end of an await of an open; a reply that the open does not wait for is
none. -/
def resume (entry : Entry) (i : ℕ) (call : Open) (reply : Reply) : Entry :=
  match call.stage, reply with
  | .claiming, .hydrated succeeds => entry.afterClaimHydrated i call succeeds
  | .checking, .checked => entry.afterCheck i call
  | .starting, .started => entry.afterClaim i call
  | .fetching operation, .fetched answer => entry.afterFetch i call operation answer
  | .confirming operation alert, .confirmed accepted =>
    entry.afterConfirm i call operation alert accepted
  | .switching operation alert switchEpoch, .switched cancelled failing =>
    entry.afterSwitch i call operation alert switchEpoch cancelled failing
  | .selecting operation alert, .selected succeeds =>
    entry.afterSelect i call operation alert succeeds
  | .refreshing operation alert, .refreshed succeeds =>
    entry.afterRefresh i call operation alert succeeds
  | .committing alert, .hydrated succeeds => entry.afterCommitHydrated i call alert succeeds
  | .marking alert, .marked succeeds => entry.afterMark i call alert succeeds
  | .settling alert recorded, .settled => entry.afterCommit i call alert recorded
  | .returning result, .returned => entry.setStage i (.returned result)
  | _, _ => entry

def step (entry : Entry) : EntryEvent → Entry
  | .called coordinator alertId => entry.call coordinator alertId
  | .resumed i reply =>
    match entry.opens[i]? with
    | some call => entry.resume i call reply
    | none => entry
  | .aborted i =>
    { entry with opens := entry.opens.modify i fun call => { call with aborted := true } }
  | .rendered coordinator =>
    { entry with seen := Function.update entry.seen coordinator entry.supervisor.current }
  | .accountsChanged accounts => { entry with accounts := accounts }

end Entry

end Alerts

end HyperTrader
