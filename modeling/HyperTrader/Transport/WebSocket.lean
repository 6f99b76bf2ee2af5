import HyperTrader.Basic
import HyperTrader.Library.Keyed
import HyperTrader.Library.Record
import Mathlib.Logic.Function.Basic

/-!
# The public WebSocket session

One session multiplexes subscriptions over a connection: a map of listeners by
subscription, the users that the exclusive channels are for, and the operations that wait
for an acknowledgement. A message is handed to the callbacks of every entry it matches;
one that matches none fails the session. A callback may subscribe, unsubscribe or close
while it runs, so the two loops of the message handler are steps of the machine, and the
entries and callbacks still to be visited are a part of its state.
-/

namespace HyperTrader

open Library

/-! ### Subscriptions and messages -/

inductive PublicSubscription where
  | allMids (dex : Option String)
  | trades (coin : String)
  | l2Book (coin : String)
  | candle (coin interval : String)
  | activeAssetCtx (coin : String)
  | activeAssetData (user coin : String)
  | spotState (user : String) (isPortfolioMargin : Bool)
  | userEvents (user : String)
  | orderUpdates (user : String)
  | userFills (user : String) (aggregateByTime : Option Bool)
  | userFundings (user : String)
  | allDexsClearinghouseState (user : String)
  deriving DecidableEq

namespace PublicSubscription

def typeName : PublicSubscription → String
  | .allMids _ => "allMids"
  | .trades _ => "trades"
  | .l2Book _ => "l2Book"
  | .candle .. => "candle"
  | .activeAssetCtx _ => "activeAssetCtx"
  | .activeAssetData .. => "activeAssetData"
  | .spotState .. => "spotState"
  | .userEvents _ => "userEvents"
  | .orderUpdates _ => "orderUpdates"
  | .userFills .. => "userFills"
  | .userFundings _ => "userFundings"
  | .allDexsClearinghouseState _ => "allDexsClearinghouseState"

def parameters : PublicSubscription → List (String × Option Json)
  | .allMids dex => [("dex", dex.map .string)]
  | .trades coin => [("coin", some (.string coin))]
  | .l2Book coin => [("coin", some (.string coin))]
  | .candle coin interval =>
    [("coin", some (.string coin)), ("interval", some (.string interval))]
  | .activeAssetCtx coin => [("coin", some (.string coin))]
  | .activeAssetData user coin =>
    [("user", some (.string user)), ("coin", some (.string coin))]
  | .spotState user isPortfolioMargin =>
    [("user", some (.string user)), ("isPortfolioMargin", some (.bool isPortfolioMargin))]
  | .userEvents user => [("user", some (.string user))]
  | .orderUpdates user => [("user", some (.string user))]
  | .userFills user aggregateByTime =>
    [("user", some (.string user)), ("aggregateByTime", aggregateByTime.map .bool)]
  | .userFundings user => [("user", some (.string user))]
  | .allDexsClearinghouseState user => [("user", some (.string user))]

def toJson (subscription : PublicSubscription) : Json :=
  .ofFields (("type", some (.string subscription.typeName)) :: subscription.parameters)

def checkedUser : PublicSubscription → Option String
  | .userEvents user => some user
  | .orderUpdates user => some user
  | .userFills user _ => some user
  | .userFundings user => some user
  | .activeAssetData user _ => some user
  | .spotState user _ => some user
  | .allDexsClearinghouseState user => some user
  | _ => none

end PublicSubscription

def subscriptionKey (subscription : PublicSubscription) : String :=
  subscription.toJson.stringify

/-- `validateSubscription`, which throws otherwise. -/
def validateSubscription (subscription : PublicSubscription) : Bool :=
  subscription.checkedUser.all lowercaseAddressPattern.test

structure PublicWebSocketEnvelope where
  channel : String
  data : Option Json
  deriving DecidableEq

def PublicWebSocketEnvelope.toJson (message : PublicWebSocketEnvelope) : Json :=
  .ofFields [("channel", some (.string message.channel)), ("data", message.data)]

def parsePublicWebSocketMessage (parsed : Json) : Option PublicWebSocketEnvelope :=
  match parsed.text "channel" with
  | none => none
  | some "" => none
  | some channel => some ⟨channel, parsed.field "data"⟩

/-- `data?.name` -/
def PublicWebSocketEnvelope.field (message : PublicWebSocketEnvelope) (name : String) :
    Option Json :=
  message.data.bind fun data => data.field name

def expectedChannel : PublicSubscription → String
  | .userEvents _ => "user"
  | subscription => subscription.typeName

def matchesSubscription (subscription : PublicSubscription)
    (message : PublicWebSocketEnvelope) : Bool :=
  message.channel == expectedChannel subscription &&
    match subscription with
    | .allMids dex => dex == none || message.field "dex" == none ||
        message.field "dex" == dex.map Json.string
    | .l2Book coin => message.field "coin" == some (.string coin)
    | .activeAssetCtx coin => message.field "coin" == some (.string coin)
    | .activeAssetData user coin => message.field "user" == some (.string user) &&
        message.field "coin" == some (.string coin)
    | .spotState user _ => message.field "user" == some (.string user)
    | .candle coin interval => message.field "s" == some (.string coin) &&
        message.field "i" == some (.string interval)
    | .trades coin =>
      match message.data with
      | some (.array items) => items.any fun trade =>
        trade.field "coin" == some (.string coin)
      | _ => false
    | .userFills user _ => message.field "user" == some (.string user)
    | .userFundings user => message.field "user" == some (.string user)
    | .allDexsClearinghouseState user => message.field "user" == some (.string user)
    | .userEvents _ => message.channel == "user"
    | .orderUpdates _ => true

inductive ExclusiveChannel where
  | userEvents
  | orderUpdates
  deriving DecidableEq

def PublicSubscription.exclusive : PublicSubscription → Option (ExclusiveChannel × String)
  | .userEvents user => some (.userEvents, user)
  | .orderUpdates user => some (.orderUpdates, user)
  | _ => none

/-! ### The session -/

structure ListenerEntry where
  subscription : PublicSubscription
  callbacks : List ℕ

abbrev listenerKey (entry : ListenerEntry) : String := subscriptionKey entry.subscription

/-- A message being handed out: the entry whose callbacks are called, whether the map
still has it, its callbacks after the one that runs, and the entries after it. -/
structure Delivery where
  message : PublicWebSocketEnvelope
  subscription : PublicSubscription
  attached : Bool
  callbacks : List ℕ
  rest : List String

namespace Delivery

def isOver (delivery : Delivery) (key : String) : Bool :=
  delivery.attached && subscriptionKey delivery.subscription == key

def addCallback (delivery : Delivery) (key : String) (listener : ℕ) : Delivery :=
  if delivery.isOver key then
    { delivery with callbacks := delivery.callbacks ++ [listener] }
  else delivery

def deleteCallback (delivery : Delivery) (key : String) (listener : ℕ) : Delivery :=
  if delivery.isOver key then
    { delivery with callbacks := delivery.callbacks.filter fun other => other ≠ listener }
  else delivery

def addEntry (delivery : Delivery) (key : String) : Delivery :=
  { delivery with rest := delivery.rest ++ [key] }

def deleteEntry (delivery : Delivery) (key : String) : Delivery :=
  { delivery with
    attached := delivery.attached && !delivery.isOver key
    rest := delivery.rest.filter fun other => other ≠ key }

def clear (delivery : Delivery) : Delivery :=
  { delivery with attached := false, rest := [] }

end Delivery

structure WebSocketSession where
  maxSubscriptions : ℕ
  capacity : 1 ≤ maxSubscriptions ∧ maxSubscriptions ≤ 700
  listeners : Keyed listenerKey
  exclusiveUsers : ExclusiveChannel → Option String
  pendingOperations : List String
  closed : Bool
  delivering : Option Delivery

inductive WireOperation where
  | subscribe
  | unsubscribe
  deriving DecidableEq

inductive OperationAttempt where
  | reserveThrows
  | sendThrows
  | sent
  deriving DecidableEq

inductive Frame where
  | acknowledgement (operation : WireOperation) (subscription : PublicSubscription)
  | data (origin : PublicSubscription) (message : PublicWebSocketEnvelope)
  | pong
  /-- Anything else, or what `JSON.parse` refuses. -/
  | other (parsed : Option Json)

inductive WebSocketEvent where
  /-- `subscribe` is called. -/
  | subscribe (subscription : PublicSubscription) (listener : ℕ)
      (attempt : OperationAttempt)
  /-- A function that `subscribe` has returned is called. -/
  | unsubscribe (subscription : PublicSubscription) (listener : ℕ)
      (attempt : OperationAttempt)
  | received (frame : Frame)
  /-- The callback that runs returns, or throws. -/
  | returned (throws : Bool)
  /-- An acknowledgement or a heartbeat fails, or the connection closes. -/
  | failed
  | close

structure WebSocketOutput where
  throws : Bool
  sent : Option (WireOperation × PublicSubscription)
  called : Option (PublicSubscription × ℕ)
  failedByMessage : Bool

namespace WebSocketOutput

def quiet : WebSocketOutput := ⟨false, none, none, false⟩

def threw : WebSocketOutput := { quiet with throws := true }

def request (operation : WireOperation) (subscription : PublicSubscription) : WebSocketOutput :=
  { quiet with sent := some (operation, subscription) }

def call (subscription : PublicSubscription) (listener : ℕ) : WebSocketOutput :=
  { quiet with called := some (subscription, listener) }

def failure : WebSocketOutput := { quiet with failedByMessage := true }

end WebSocketOutput

def acknowledgementMessage (operation : WireOperation)
    (subscription : PublicSubscription) : PublicWebSocketEnvelope where
  channel := "subscriptionResponse"
  data := some <| .ofFields
    [("method", some <| .string <|
      match operation with
      | .subscribe => "subscribe"
      | .unsubscribe => "unsubscribe"), ("subscription", some subscription.toJson)]

def Frame.json : Frame → Option Json
  | .acknowledgement operation subscription =>
    some (acknowledgementMessage operation subscription).toJson
  | .data _ message => some message.toJson
  | .pong => some (PublicWebSocketEnvelope.toJson ⟨"pong", none⟩)
  | .other parsed => parsed

def acknowledgedKey (message : PublicWebSocketEnvelope) : String :=
  match message.field "subscription" with
  | none => ""
  | some .null => ""
  | some (.bool false) => ""
  | some (.number 0) => ""
  | some (.string "") => ""
  | some subscription => subscription.stringify

namespace WebSocketSession

def opened (maxSubscriptions : ℕ)
    (capacity : 1 ≤ maxSubscriptions ∧ maxSubscriptions ≤ 700) : WebSocketSession where
  maxSubscriptions := maxSubscriptions
  capacity := capacity
  listeners := Keyed.empty
  exclusiveUsers := fun _ => none
  pendingOperations := []
  closed := false
  delivering := none

def closeInternal (session : WebSocketSession) : WebSocketSession :=
  if session.closed then session
  else { session with
    listeners := Keyed.empty
    exclusiveUsers := fun _ => none
    pendingOperations := []
    closed := true
    delivering := session.delivering.map Delivery.clear }

def isTaken (session : WebSocketSession) (subscription : PublicSubscription) : Bool :=
  match subscription.exclusive with
  | none => false
  | some (channel, user) => (session.exclusiveUsers channel).any fun other => other ≠ user

/-- `entry.callbacks.add(listener)` -/
def addCallback (session : WebSocketSession) (entry : ListenerEntry) (listener : ℕ) :
    WebSocketSession :=
  if listener ∈ entry.callbacks then session
  else { session with
    listeners := session.listeners.update
      (fun other => listenerKey other == listenerKey entry)
      (fun other => { other with callbacks := other.callbacks ++ [listener] })
      fun _ => rfl
    delivering := session.delivering.map fun delivery =>
      delivery.addCallback (listenerKey entry) listener }

/-- A new entry with its first callback; the operation waits for its acknowledgement. -/
def enter (session : WebSocketSession) (subscription : PublicSubscription)
    (listener : ℕ) : WebSocketSession :=
  { session with
    listeners := session.listeners.put ⟨subscription, [listener]⟩
    exclusiveUsers :=
      match subscription.exclusive with
      | none => session.exclusiveUsers
      | some (channel, user) => Function.update session.exclusiveUsers channel (some user)
    pendingOperations := session.pendingOperations ++ [subscriptionKey subscription]
    delivering := session.delivering.map fun delivery =>
      delivery.addEntry (subscriptionKey subscription) }

def subscribe (session : WebSocketSession) (subscription : PublicSubscription)
    (listener : ℕ) (attempt : OperationAttempt) : WebSocketSession × WebSocketOutput :=
  if session.closed then (session, .threw)
  else if validateSubscription subscription = false then (session, .threw)
  else
    match session.listeners.find? (subscriptionKey subscription) with
    | some entry => (session.addCallback entry listener, .quiet)
    | none =>
      if session.maxSubscriptions ≤ session.listeners.rows.length then (session, .threw)
      else if session.isTaken subscription then (session, .threw)
      else
        match attempt with
        | .sent => (session.enter subscription listener, .request .subscribe subscription)
        -- The entry and its user go again before the session fails.
        | _ => (session.closeInternal, .threw)

def deleteCallback (session : WebSocketSession) (key : String) (listener : ℕ) : WebSocketSession :=
  { session with
    listeners := session.listeners.update (fun other => listenerKey other == key)
      (fun other =>
        { other with callbacks := other.callbacks.filter fun other => other ≠ listener })
      fun _ => rfl
    delivering := session.delivering.map fun delivery =>
      delivery.deleteCallback key listener }

def leave (session : WebSocketSession) (subscription : PublicSubscription)
    (listener : ℕ) : WebSocketSession :=
  { session with
    listeners := session.listeners.delete fun other =>
      listenerKey other == subscriptionKey subscription
    exclusiveUsers :=
      match subscription.exclusive with
      | none => session.exclusiveUsers
      | some (channel, _) => Function.update session.exclusiveUsers channel none
    delivering := session.delivering.map fun delivery =>
      (delivery.deleteCallback (subscriptionKey subscription) listener).deleteEntry
        (subscriptionKey subscription) }

def unsubscribe (session : WebSocketSession) (subscription : PublicSubscription)
    (listener : ℕ) (attempt : OperationAttempt) : WebSocketSession × WebSocketOutput :=
  match session.listeners.find? (subscriptionKey subscription) with
  | none => (session, .quiet)
  | some entry =>
    if (entry.callbacks.filter fun other => other ≠ listener) = [] then
      let left := session.leave subscription listener
      match attempt with
      | .sent =>
        ({ left with pendingOperations :=
            left.pendingOperations ++ [subscriptionKey subscription] },
          .request .unsubscribe subscription)
      | _ => (left.closeInternal, .quiet)
    else (session.deleteCallback (subscriptionKey subscription) listener, .quiet)

def nextEntry (session : WebSocketSession) (message : PublicWebSocketEnvelope)
    (matched : Bool) : List String → WebSocketSession × WebSocketOutput
  | [] =>
    let done := { session with delivering := none }
    if matched then (done, .quiet) else (done.closeInternal, .failure)
  | key :: rest =>
    match session.listeners.find? key with
    | none => session.nextEntry message matched rest
    | some entry =>
      if matchesSubscription entry.subscription message then
        match entry.callbacks with
        | [] => session.nextEntry message true rest
        | listener :: callbacks =>
          ({ session with
              delivering := some ⟨message, entry.subscription, true, callbacks, rest⟩ },
            .call entry.subscription listener)
      else session.nextEntry message matched rest

def nextCallback (session : WebSocketSession) (delivery : Delivery) :
    WebSocketSession × WebSocketOutput :=
  match delivery.callbacks with
  | [] => session.nextEntry delivery.message true delivery.rest
  | listener :: callbacks =>
    ({ session with delivering := some { delivery with callbacks := callbacks } },
      .call delivery.subscription listener)

def receive (session : WebSocketSession) (data : Option Json) :
    WebSocketSession × WebSocketOutput :=
  match data.bind parsePublicWebSocketMessage with
  | none => (session.closeInternal, .failure)
  | some message =>
    if message.channel = "subscriptionResponse" then
      if acknowledgedKey message ∈ session.pendingOperations then
        ({ session with pendingOperations :=
            session.pendingOperations.erase (acknowledgedKey message) }, .quiet)
      else (session.closeInternal, .failure)
    else
      session.nextEntry message (message.channel == "pong")
        (session.listeners.rows.map listenerKey)

def listening (session : WebSocketSession) : Bool :=
  !session.closed && session.delivering.isNone

def step (session : WebSocketSession) : WebSocketEvent → WebSocketSession × WebSocketOutput
  | .subscribe subscription listener attempt =>
    session.subscribe subscription listener attempt
  | .unsubscribe subscription listener attempt =>
    session.unsubscribe subscription listener attempt
  | .received frame =>
    if session.listening then session.receive frame.json else (session, .quiet)
  | .returned throws =>
    match session.delivering with
    | none => (session, .quiet)
    | some delivery =>
      if throws then
        ({ session with delivering := none }.closeInternal,
          if session.closed then .quiet else .failure)
      else session.nextCallback delivery
  | .failed => (if session.delivering.isNone then session.closeInternal else session, .quiet)
  | .close => (session.closeInternal, .quiet)

end WebSocketSession

end HyperTrader
