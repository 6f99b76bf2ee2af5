import HyperTrader.Library.Machine
import HyperTrader.Transport.WebSocket

/-!
# A session as its callers and the server see it

The observer does not look into the session: it keeps what the session has asked for and
the server has acknowledged, who is subscribed by the calls that were made, and who the
last data message was handed to. What the server may send and what a listener should get
are said in these terms.
-/

namespace HyperTrader

open Library

/-- Whether a message for `origin` is one for a subscription: it matches, and on an
exclusive channel it is the subscription's own. -/
def belongs (origin : PublicSubscription) (message : PublicWebSocketEnvelope)
    (subscription : PublicSubscription) : Bool :=
  matchesSubscription subscription message &&
    (subscription.exclusive.isNone || subscription == origin)

structure ObservedSession where
  session : WebSocketSession
  /-- The requests sent and not acknowledged yet. -/
  sent : List (WireOperation × PublicSubscription)
  /-- The subscriptions sent whose end has not been acknowledged. -/
  served : List PublicSubscription
  /-- Who is subscribed. -/
  active : List (PublicSubscription × ℕ)
  /-- The last data message. -/
  data : Option (PublicSubscription × PublicWebSocketEnvelope)
  /-- Who was subscribed when it came, and has been since. -/
  staying : List (PublicSubscription × ℕ)
  /-- Who has been called with it. -/
  calls : List (PublicSubscription × ℕ)
  failedByMessage : Bool

namespace ObservedSession

def opened (maxSubscriptions : ℕ)
    (capacity : 1 ≤ maxSubscriptions ∧ maxSubscriptions ≤ 700) : ObservedSession where
  session := .opened maxSubscriptions capacity
  sent := []
  served := []
  active := []
  data := none
  staying := []
  calls := []
  failedByMessage := false

def hear (observed : ObservedSession) : Frame → ObservedSession
  | .acknowledgement operation subscription =>
    { observed with
      sent := observed.sent.tail
      served :=
        match operation with
        | .subscribe => observed.served
        | .unsubscribe => observed.served.erase subscription }
  | .data origin message =>
    { observed with
      data := some (origin, message)
      staying := observed.active
      calls := [] }
  | .pong => observed
  | .other _ => observed

/-- What the call or the frame itself says, before the session answers. -/
def note (observed : ObservedSession) (throws : Bool) : WebSocketEvent → ObservedSession
  | .subscribe subscription listener _ =>
    if throws ∨ (subscription, listener) ∈ observed.active then observed
    else { observed with active := observed.active ++ [(subscription, listener)] }
  | .unsubscribe subscription listener _ =>
    { observed with
      active := observed.active.filter fun other => other ≠ (subscription, listener)
      staying := observed.staying.filter fun other => other ≠ (subscription, listener) }
  | .received frame => if observed.session.listening then observed.hear frame else observed
  | .returned _ => observed
  | .failed => observed
  | .close => observed

/-- The session's answer; no one is subscribed to a session that is closed. -/
def conclude (observed : ObservedSession) (result : WebSocketSession × WebSocketOutput) :
    ObservedSession :=
  { observed with
    session := result.1
    sent := observed.sent ++ result.2.sent.toList
    served := observed.served ++ result.2.sent.toList.filterMap fun request =>
      if request.1 = .subscribe then some request.2 else none
    active := if result.1.closed then [] else observed.active
    staying := if result.1.closed then [] else observed.staying
    calls := observed.calls ++ result.2.called.toList
    failedByMessage := observed.failedByMessage || result.2.failedByMessage }

def step (observed : ObservedSession) (event : WebSocketEvent) : ObservedSession :=
  (observed.note (observed.session.step event).2.throws event).conclude
    (observed.session.step event)

/-- What the server may send: acknowledgements in the order of the requests, and data for
subscriptions that were sent and whose end has not been acknowledged. -/
def serverSends (observed : ObservedSession) : WebSocketEvent → Bool
  | .received (.acknowledgement operation subscription) =>
    !observed.session.listening ||
      observed.sent.head? == some (operation, subscription)
  | .received (.data origin message) =>
    !observed.session.listening ||
      observed.served.contains origin && matchesSubscription origin message
  | .received (.other _) => !observed.session.listening
  | _ => true

/-- The call is accepted and makes an entry of its own. -/
def entersNew (session : WebSocketSession) (subscription : PublicSubscription)
    (attempt : OperationAttempt) : Bool :=
  !session.closed && validateSubscription subscription &&
    (session.listeners.find? (subscriptionKey subscription)).isNone &&
    decide (session.listeners.rows.length < session.maxSubscriptions) &&
    !session.isTaken subscription && attempt == .sent

/-- A data message is one for a listener that is still subscribed, no listener throws while
the session is open, and none of them opens a stream of an exclusive channel for another
user while a message of that channel is handed out. -/
def hasTaker (observed : ObservedSession) : WebSocketEvent → Bool
  | .received (.data origin message) =>
    !observed.session.listening ||
      observed.active.any fun listener => belongs origin message listener.1
  | .returned throws =>
    observed.session.delivering.isNone || observed.session.closed || !throws
  | .subscribe subscription _ attempt =>
    observed.session.delivering.isNone || !entersNew observed.session subscription attempt ||
      observed.data.all fun data =>
        !matchesSubscription subscription data.2 || belongs data.1 data.2 subscription
  | _ => true

/-- No message has failed the session; the last data message has gone only to those it is
for, and, when it has been handed out, once to each of them that stayed subscribed. -/
structure Delivered (observed : ObservedSession) : Prop where
  notFailed : observed.failedByMessage = false
  only : ∀ data ∈ observed.data, ∀ listener ∈ observed.calls,
    belongs data.1 data.2 listener.1 = true
  once : observed.session.delivering = none → ∀ data ∈ observed.data,
    ∀ listener ∈ observed.staying, belongs data.1 data.2 listener.1 = true →
      observed.calls.count listener = 1

end ObservedSession

end HyperTrader
