import HyperTrader.Library.Text
import HyperTrader.Library.Processes
import Mathlib.Algebra.Ring.Int.Defs

/-!
# Deliveries and their verdicts

An alert goes through the outbox to the push provider: a worker claims it with a
permit, reads the push token of its installation, sends it and records the
answer; an accepted request leaves a ticket, whose receipt is asked later. A
rebind replaces the token in the row of the installation. The transactions of the
store are atomic; workers, rebinds and receipts interleave between them.
-/

namespace HyperTrader

open Library

namespace Delivery

/-- `DeliveryRejectionCode` -/
inductive RejectionCode where
  | deviceNotRegistered
  | messageTooBig
  | messageRateExceeded
  | mismatchSenderId
  | invalidCredentials
  | providerRateLimited
  | providerUnauthorized
  | providerInvalidRequest
  | providerUnavailable
  | providerProtocolError
  | authorizationRevoked
  | providerDeadlineExpired
  | tokenUnavailable
  deriving DecidableEq

/-- `delivery_state` -/
inductive TokenState where
  | active
  | invalid
  deriving DecidableEq

/-- A row of `notification_push_tokens`; the token stands for its fingerprint and
its ciphertext. -/
structure TokenRow where
  tokenId : String
  installationId : String
  pushToken : String
  deliveryState : TokenState
  deriving DecidableEq

/-- `notification_push_tokens`, with `PRIMARY KEY (token_id)` and
`UNIQUE (installation_id, provider)`. -/
structure TokenTable where
  rows : List TokenRow
  ids : (rows.map (·.tokenId)).Nodup
  installations : (rows.map (·.installationId)).Nodup

inductive OutboxState where
  | pending
  | leased
  | providerSubmissionStarted
  | providerAccepted
  | providerRejected
  | providerOutcomeUnknown
  | cancelled
  deriving DecidableEq

structure OutboxRow where
  installationId : String
  state : OutboxState
  claimAttempts : ℕ
  leaseExpiresAt : Option ℤ

inductive PermitState where
  | active
  | submissionStarted
  | finished
  | expired
  deriving DecidableEq

inductive Outcome where
  | accepted (ticketId : String)
  | rejected (errorCode : RejectionCode)
  | unknown
  deriving DecidableEq

inductive RunStage where
  | claimed
  | submissionStarted
  | tokenRead
  | sending
  /-- The outcome is recorded next; where that throws, `instead` is. -/
  | recording (outcome : Outcome) (instead : Option Outcome)
  | ended

/-- A row of `notification_dispatch_permits` with the run of its worker. `pushToken`
is the token that the run has read; `rebound` is the token that the installation
was last bound to since, which no column holds. -/
structure Dispatch where
  outbox : ℕ
  installationId : String
  permit : PermitState
  expiresAt : ℤ
  providerDeadlineAt : ℤ
  stage : RunStage
  pushToken : Option String
  rebound : Option String

inductive ReceiptState where
  | pending
  | delivered
  | failed
  | unknown
  deriving DecidableEq

/-- A row of `notification_provider_tickets`. `dispatch` is the request that the
provider accepted with this ticket. -/
structure TicketRow where
  providerTicketId : String
  dispatch : ℕ
  tokenId : String
  receiptState : ReceiptState
  receiptAttempts : ℕ
  nextReceiptAt : ℤ
  /-- `receipt_lease_owner` and `receipt_lease_expires_at` -/
  receiptLease : Option (String × ℤ)

structure DeliveryStore where
  tokens : TokenTable
  outbox : List OutboxRow
  dispatches : List Dispatch
  tickets : List TicketRow

inductive SendResult where
  | accepted (ticketId : String)
  | rejected (errorCode : RejectionCode)
  | deadlineError
  | failed

inductive ReceiptResult where
  | delivered
  | failed (errorCode : RejectionCode)
  deriving DecidableEq

/-- A transaction of the store, or the end of a request to the provider. `authorized`
stands for what the statement reads of other tables: the service's state, the
egress fence, the installation, its links and its proofs. Where a statement skips
locked rows, `rows` are the ones it may take. -/
inductive DeliveryEvent where
  | rebindPushToken (installationId pushToken : String) (authorized : Bool)
  | rebindPriceOnlyPushToken (installationId pushToken : String)
      (authorized accountAuthority : Bool)
  | createAlertForRuleMatch (installationId : String) (authorized : Bool)
  | claimNextDispatch (now : ℤ) (rows : List ℕ)
  | markProviderSubmissionStarted (i : ℕ) (now : ℤ) (authorized : Bool)
  | readDecryptedPushToken (i : ℕ) (now : ℤ) (authorized decrypts : Bool)
  | authorizeProviderFetch (i : ℕ) (now : ℤ) (authorized : Bool) (workerNow : ℤ)
  | sent (i : ℕ) (result : SendResult)
  | record (i : ℕ) (now : ℤ)
  | recoverExpiredDispatches (now : ℤ) (rows : List ℕ)
  | recoverExpiredReceiptLeases (now : ℤ) (rows : List ℕ)
  | claimDueReceipts (workerId : String) (now : ℤ) (rows : List ℕ)
  | completeReceipt (ticketId workerId : String) (now : ℤ) (result : ReceiptResult)
  | deferReceipt (ticketId workerId : String) (now : ℤ)

def permitInterval : ℤ := 30000

def providerDeadlineInterval : ℤ := 10000

def receiptLeaseInterval : ℤ := 30000

def receiptInterval : ℤ := 900000

def maxClaimAttempts : ℕ := 8

def maxReceiptAttempts : ℕ := 5

def expoReceiptBatchSize : ℕ := 100

def ticketIdPattern : TextPattern where
  lead := ""
  digit := inRange '!' '~'
  least := 1
  most := 256

namespace TokenTable

/-- `UPDATE … SET … WHERE …` of a row; its keys stay. -/
def updateRow (condition : TokenRow → Bool) (pushToken : TokenRow → String)
    (deliveryState : TokenState) (row : TokenRow) : TokenRow :=
  if condition row then
    { row with pushToken := pushToken row, deliveryState := deliveryState }
  else row

variable (condition : TokenRow → Bool) (pushToken : TokenRow → String)
  (deliveryState : TokenState)

@[simp] theorem tokenId_updateRow (row : TokenRow) :
    (updateRow condition pushToken deliveryState row).tokenId = row.tokenId := by
  unfold updateRow
  split <;> rfl

@[simp] theorem installationId_updateRow (row : TokenRow) :
    (updateRow condition pushToken deliveryState row).installationId = row.installationId := by
  unfold updateRow
  split <;> rfl

/-- `UPDATE notification_push_tokens` -/
def update (table : TokenTable) : TokenTable where
  rows := table.rows.map (updateRow condition pushToken deliveryState)
  ids := by
    rw [List.map_map]
    convert table.ids using 2
    funext row
    exact tokenId_updateRow condition pushToken deliveryState row
  installations := by
    rw [List.map_map]
    convert table.installations using 2
    funext row
    exact installationId_updateRow condition pushToken deliveryState row

def activeRow (table : TokenTable) (installationId : String) : Option TokenRow :=
  table.rows.find? fun row =>
    row.installationId == installationId && row.deliveryState == .active

end TokenTable

namespace DeliveryStore

def deliverable (store : DeliveryStore) (installationId : String) : Bool :=
  (store.tokens.activeRow installationId).isSome

/-- The `UPDATE` of a rebind, and what the runs that have read a token of the
installation see of it. -/
def bindToken (store : DeliveryStore) (installationId pushToken : String) : DeliveryStore :=
  { store with
    tokens := store.tokens.update (·.installationId == installationId) (fun _ => pushToken)
      .active
    dispatches := store.dispatches.map fun dispatch =>
      if dispatch.installationId = installationId ∧ dispatch.pushToken.isSome then
        { dispatch with rebound := some pushToken }
      else dispatch }

def rebind (store : DeliveryStore) (installationId pushToken : String) : DeliveryStore :=
  if store.tokens.rows.any fun row =>
      row.pushToken == pushToken && row.installationId != installationId then
    store
  else store.bindToken installationId pushToken

def rebindPushToken (store : DeliveryStore) (installationId pushToken : String)
    (authorized : Bool) : DeliveryStore :=
  if authorized then store.rebind installationId pushToken else store

def rebindPriceOnlyPushToken (store : DeliveryStore) (installationId pushToken : String)
    (authorized accountAuthority : Bool) : DeliveryStore :=
  if authorized && !accountAuthority then store.rebind installationId pushToken else store

/-- The `INSERT INTO notification_outbox` of `createAlertForRuleMatch`. -/
def createAlertForRuleMatch (store : DeliveryStore) (installationId : String)
    (authorized : Bool) : DeliveryStore :=
  if authorized && store.deliverable installationId then
    { store with outbox := store.outbox ++ [⟨installationId, .pending, 0, none⟩] }
  else store

/-- A row of the outbox may be claimed, as far as the delivery tables say. -/
def claimable (store : DeliveryStore) (entry : OutboxRow) : Bool :=
  entry.state == .pending && entry.claimAttempts < maxClaimAttempts &&
    store.deliverable entry.installationId

def claimNextDispatch (store : DeliveryStore) (now : ℤ) (rows : List ℕ) : DeliveryStore :=
  match rows.find? fun j => (store.outbox[j]?).any store.claimable with
  | none => store
  | some j =>
    match store.outbox[j]? with
    | none => store
    | some entry =>
      { store with
        outbox := store.outbox.set j
          { entry with
            state := .leased, claimAttempts := entry.claimAttempts + 1,
            leaseExpiresAt := some (now + permitInterval) }
        dispatches := store.dispatches ++ [{
          outbox := j
          installationId := entry.installationId
          permit := .active
          expiresAt := now + permitInterval
          providerDeadlineAt := now + providerDeadlineInterval
          stage := .claimed
          pushToken := none
          rebound := none }] }

def outboxState (store : DeliveryStore) (dispatch : Dispatch) : Option OutboxState :=
  (store.outbox[dispatch.outbox]?).map (·.state)

def setOutbox (store : DeliveryStore) (j : ℕ) (state : OutboxState) : DeliveryStore :=
  { store with outbox := store.outbox.modify j fun entry => { entry with state := state } }

def setDispatch (store : DeliveryStore) (i : ℕ) (permit : PermitState) (stage : RunStage) :
    DeliveryStore :=
  { store with
    dispatches := store.dispatches.modify i fun dispatch =>
      { dispatch with permit := permit, stage := stage } }

def reopened (entry : OutboxRow) : OutboxRow :=
  if entry.state = .leased then
    { entry with
      state := if entry.claimAttempts < maxClaimAttempts then .pending else .cancelled,
      leaseExpiresAt := none }
  else entry

def abandonUnstartedDispatch (store : DeliveryStore) (i : ℕ) (dispatch : Dispatch) :
    DeliveryStore :=
  if dispatch.permit = .active then
    { store with outbox := store.outbox.modify dispatch.outbox reopened }.setDispatch i .expired
      .ended
  else store.setDispatch i dispatch.permit .ended

/-- `markProviderSubmissionStarted`, with the `abandonUnstartedDispatch` that its caller goes
on to where it fails: the two transactions are one step. -/
def markProviderSubmissionStarted (store : DeliveryStore) (i : ℕ) (dispatch : Dispatch)
    (now : ℤ) (authorized : Bool) : DeliveryStore :=
  if authorized && dispatch.permit == .active && store.deliverable dispatch.installationId &&
      store.outboxState dispatch == some .leased && now < dispatch.expiresAt &&
      now < dispatch.providerDeadlineAt then
    (store.setOutbox dispatch.outbox .providerSubmissionStarted).setDispatch i .submissionStarted
      .submissionStarted
  else store.abandonUnstartedDispatch i dispatch

def inFlight (store : DeliveryStore) (dispatch : Dispatch) : Bool :=
  dispatch.permit == .submissionStarted &&
    store.outboxState dispatch == some .providerSubmissionStarted

/-- `#authorizedProviderRows` -/
def authorizedProviderRow (store : DeliveryStore) (dispatch : Dispatch) (now : ℤ)
    (authorized : Bool) : Option TokenRow :=
  if authorized && store.inFlight dispatch && now < dispatch.providerDeadlineAt then
    store.tokens.activeRow dispatch.installationId
  else none

def readDecryptedPushToken (store : DeliveryStore) (i : ℕ) (dispatch : Dispatch) (now : ℤ)
    (authorized decrypts : Bool) : DeliveryStore :=
  match store.authorizedProviderRow dispatch now authorized with
  | none =>
    store.setDispatch i dispatch.permit
      (.recording (.rejected .authorizationRevoked) none)
  | some row =>
    if decrypts then
      { store with
        dispatches := store.dispatches.modify i fun dispatch =>
          { dispatch with
            stage := .tokenRead, pushToken := some row.pushToken, rebound := none } }
    else
      store.setDispatch i dispatch.permit (.recording (.rejected .tokenUnavailable) none)

def authorizeProviderFetch (store : DeliveryStore) (i : ℕ) (dispatch : Dispatch) (now : ℤ)
    (authorized : Bool) (workerNow : ℤ) : DeliveryStore :=
  if store.authorizedProviderRow dispatch now authorized = none then
    store.setDispatch i dispatch.permit (.recording (.rejected .authorizationRevoked) none)
  else if dispatch.providerDeadlineAt ≤ workerNow then
    store.setDispatch i dispatch.permit
      (.recording (.rejected .providerDeadlineExpired) (some (.rejected .tokenUnavailable)))
  else store.setDispatch i dispatch.permit .sending

def recorded : SendResult → RunStage
  | .accepted ticketId => .recording (.accepted ticketId) (some .unknown)
  | .rejected errorCode => .recording (.rejected errorCode) (some .unknown)
  | .deadlineError => .recording (.rejected .providerDeadlineExpired) none
  | .failed => .recording .unknown none

def finishDispatchInTransaction (store : DeliveryStore) (i : ℕ) (dispatch : Dispatch)
    (outcome : OutboxState) : DeliveryStore :=
  { store with
    outbox := store.outbox.modify dispatch.outbox fun entry =>
      { entry with state := outcome, leaseExpiresAt := none } }.setDispatch i .finished .ended

def finishDispatchPermit (store : DeliveryStore) (i : ℕ) (dispatch : Dispatch)
    (outcome : OutboxState) : DeliveryStore :=
  (store.setOutbox dispatch.outbox outcome).setDispatch i .finished .ended

/-- The `UPDATE` of a device that is not registered. -/
def invalidate (store : DeliveryStore) (condition : TokenRow → Bool) : DeliveryStore :=
  { store with
    tokens := store.tokens.update (fun row => condition row && row.deliveryState == .active)
      (·.pushToken) .invalid }

def recordProviderAccepted (store : DeliveryStore) (i : ℕ) (dispatch : Dispatch)
    (ticketId : String) (now : ℤ) : Option DeliveryStore :=
  if ticketIdPattern.test ticketId && store.inFlight dispatch then
    match store.tokens.rows.find? (·.installationId == dispatch.installationId) with
    | none => none
    | some row =>
      if store.tickets.any (·.providerTicketId == ticketId) then none
      else
        let ticket : TicketRow :=
          ⟨ticketId, i, row.tokenId, .pending, 0, now + receiptInterval, none⟩
        some ({ store with tickets := store.tickets ++ [ticket] }.finishDispatchInTransaction i
          dispatch .providerAccepted)
  else none

def recordProviderRejected (store : DeliveryStore) (i : ℕ) (dispatch : Dispatch)
    (errorCode : RejectionCode) : Option DeliveryStore :=
  if store.inFlight dispatch then
    let marked :=
      if errorCode = .deviceNotRegistered then
        store.invalidate (·.installationId == dispatch.installationId)
      else store
    some (marked.finishDispatchInTransaction i dispatch .providerRejected)
  else none

def recordProviderOutcomeUnknown (store : DeliveryStore) (i : ℕ) (dispatch : Dispatch) :
    Option DeliveryStore :=
  if store.inFlight dispatch then
    some (store.finishDispatchPermit i dispatch .providerOutcomeUnknown)
  else none

def recordOutcome (store : DeliveryStore) (i : ℕ) (dispatch : Dispatch) (now : ℤ) :
    Outcome → Option DeliveryStore
  | .accepted ticketId => store.recordProviderAccepted i dispatch ticketId now
  | .rejected errorCode => store.recordProviderRejected i dispatch errorCode
  | .unknown => store.recordProviderOutcomeUnknown i dispatch

/-- A run records its outcome; where that throws, it goes on as its `catch` says. -/
def record (store : DeliveryStore) (i : ℕ) (dispatch : Dispatch) (outcome : Outcome)
    (instead : Option Outcome) (now : ℤ) : DeliveryStore :=
  (store.recordOutcome i dispatch now outcome).getD
    (store.setDispatch i dispatch.permit
      (instead.elim .ended fun outcome => .recording outcome none))

def hasOpenPermit (store : DeliveryStore) (j : ℕ) : Bool :=
  store.dispatches.any fun dispatch => dispatch.outbox == j &&
    (dispatch.permit == .active || dispatch.permit == .submissionStarted)

def hasOverduePermit (store : DeliveryStore) (now : ℤ) (j : ℕ) : Bool :=
  store.dispatches.any fun dispatch => dispatch.outbox == j &&
    dispatch.permit == .finished && dispatch.providerDeadlineAt ≤ now

def setPermits (store : DeliveryStore) (f : ℕ → Dispatch → PermitState) : DeliveryStore :=
  { store with
    dispatches := store.dispatches.mapIdx fun i dispatch =>
      { dispatch with permit := f i dispatch } }

/-- The first and third statement of `recoverExpiredDispatches`. -/
def expiredPermit (now : ℤ) (rows : List ℕ) (i : ℕ) (dispatch : Dispatch) : PermitState :=
  if i ∈ rows ∧ dispatch.permit = .submissionStarted ∧ dispatch.providerDeadlineAt ≤ now then
    .finished
  else if i ∈ rows ∧ dispatch.permit = .active ∧ dispatch.expiresAt ≤ now then .expired
  else dispatch.permit

/-- The second and fourth statement of `recoverExpiredDispatches`. -/
def recoveredRow (store : DeliveryStore) (now : ℤ) (j : ℕ) (entry : OutboxRow) : OutboxRow :=
  if entry.state = .providerSubmissionStarted ∧ store.hasOverduePermit now j = true then
    { entry with state := .providerOutcomeUnknown, leaseExpiresAt := none }
  else if (entry.leaseExpiresAt.any fun expiresAt => expiresAt ≤ now) = true ∧
      store.hasOpenPermit j = false then
    reopened entry
  else entry

def recoverExpiredDispatches (store : DeliveryStore) (now : ℤ) (rows : List ℕ) : DeliveryStore :=
  let expired := store.setPermits (expiredPermit now rows)
  { expired with outbox := expired.outbox.mapIdx (expired.recoveredRow now) }

def setTickets (store : DeliveryStore) (f : ℕ → TicketRow → TicketRow) : DeliveryStore :=
  { store with tickets := store.tickets.mapIdx f }

def recoverExpiredReceiptLeases (store : DeliveryStore) (now : ℤ) (rows : List ℕ) : DeliveryStore :=
  store.setTickets fun j ticket =>
    if j ∈ rows ∧ ticket.receiptState = .pending ∧
        (ticket.receiptLease.any fun lease => lease.2 ≤ now) = true then
      { ticket with receiptLease := none }
    else ticket

def claimDueReceipts (store : DeliveryStore) (workerId : String) (now : ℤ) (rows : List ℕ) :
    DeliveryStore :=
  store.setTickets fun j ticket =>
    if j ∈ rows ∧ ticket.receiptState = .pending ∧
        ticket.receiptAttempts < maxReceiptAttempts ∧ ticket.nextReceiptAt ≤ now ∧
        ticket.receiptLease = none then
      { ticket with receiptLease := some (workerId, now + receiptLeaseInterval) }
    else ticket

def leasedTo (ticketId workerId : String) (now : ℤ) (ticket : TicketRow) : Bool :=
  ticket.providerTicketId == ticketId && ticket.receiptState == .pending &&
    ticket.receiptLease.any fun lease => lease.1 == workerId && now < lease.2

def leasedTicket (store : DeliveryStore) (ticketId workerId : String) (now : ℤ) :
    Option TicketRow :=
  store.tickets.find? (leasedTo ticketId workerId now)

def status : ReceiptResult → ReceiptState
  | .delivered => .delivered
  | .failed _ => .failed

def completeReceipt (store : DeliveryStore) (ticketId workerId : String) (now : ℤ)
    (result : ReceiptResult) : DeliveryStore :=
  match store.leasedTicket ticketId workerId now with
  | none => store
  | some ticket =>
    let completed := store.setTickets fun _ ticket =>
      if leasedTo ticketId workerId now ticket then
        { ticket with receiptState := status result, receiptLease := none }
      else ticket
    if result = .failed .deviceNotRegistered then
      completed.invalidate (·.tokenId == ticket.tokenId)
    else completed

def deferReceipt (store : DeliveryStore) (ticketId workerId : String) (now : ℤ) : DeliveryStore :=
  store.setTickets fun _ ticket =>
    if leasedTo ticketId workerId now ticket then
      if maxReceiptAttempts ≤ ticket.receiptAttempts + 1 then
        { ticket with
          receiptState := .unknown, receiptAttempts := maxReceiptAttempts,
          receiptLease := none }
      else
        { ticket with
          receiptAttempts := ticket.receiptAttempts + 1,
          nextReceiptAt := now + receiptInterval * 2 ^ (ticket.receiptAttempts + 1),
          receiptLease := none }
    else ticket

def stepRun (store : DeliveryStore) (i : ℕ) (dispatch : Dispatch) :
    RunStage → DeliveryEvent → DeliveryStore
  | .claimed, .markProviderSubmissionStarted _ now authorized =>
    store.markProviderSubmissionStarted i dispatch now authorized
  | .submissionStarted, .readDecryptedPushToken _ now authorized decrypts =>
    store.readDecryptedPushToken i dispatch now authorized decrypts
  | .tokenRead, .authorizeProviderFetch _ now authorized workerNow =>
    store.authorizeProviderFetch i dispatch now authorized workerNow
  | .sending, .sent _ result => store.setDispatch i dispatch.permit (recorded result)
  | .recording outcome instead, .record _ now => store.record i dispatch outcome instead now
  | _, _ => store

def runOf : DeliveryEvent → Option ℕ
  | .markProviderSubmissionStarted i _ _ | .readDecryptedPushToken i _ _ _
  | .authorizeProviderFetch i _ _ _ | .sent i _ | .record i _ => some i
  | _ => none

def step (store : DeliveryStore) (event : DeliveryEvent) : DeliveryStore :=
  match event with
  | .rebindPushToken installationId pushToken authorized =>
    store.rebindPushToken installationId pushToken authorized
  | .rebindPriceOnlyPushToken installationId pushToken authorized accountAuthority =>
    store.rebindPriceOnlyPushToken installationId pushToken authorized accountAuthority
  | .createAlertForRuleMatch installationId authorized =>
    store.createAlertForRuleMatch installationId authorized
  | .claimNextDispatch now rows => store.claimNextDispatch now rows
  | .recoverExpiredDispatches now rows => store.recoverExpiredDispatches now rows
  | .recoverExpiredReceiptLeases now rows => store.recoverExpiredReceiptLeases now rows
  | .claimDueReceipts workerId now rows => store.claimDueReceipts workerId now rows
  | .completeReceipt ticketId workerId now result =>
    store.completeReceipt ticketId workerId now result
  | .deferReceipt ticketId workerId now => store.deferReceipt ticketId workerId now
  | event =>
    match (runOf event).bind fun i => (store.dispatches[i]?).map (Prod.mk i) with
    | some (i, dispatch) => store.stepRun i dispatch dispatch.stage event
    | none => store

end DeliveryStore

end Delivery

end HyperTrader
