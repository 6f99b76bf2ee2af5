import HyperTrader.Rules.Evaluator
import HyperTrader.Transport.WebSocket
import Mathlib.Data.List.Sort

/-!
# The updates of a rule

The monitor gives a rule the baselines and the deltas of its stream. A baseline sets the
metric that the rule retains; a delta is read for the executions of the rule's market or
for a new value of its metric, which is compared with the retained one.
-/

namespace HyperTrader

open Library

namespace RuleUpdates

/-- `UserFundingRecord`, as far as a rule reads it. -/
structure FundingRecord where
  coin : String
  fundingRate : DecimalString
  time : ℤ

/-- `PerpPosition`, as far as a rule reads it. -/
structure Position where
  coin : String
  liquidationPrice : Option DecimalString

/-- `NotificationAccountSnapshot`, as far as a rule reads it. -/
structure AccountSnapshot where
  positions : List Position
  totalMarginUsed : DecimalString
  funding : List FundingRecord

abbrev CoinMap := List (String × String)

/-- What `monitorPayload` makes of the value of an update; `receivedAt` is a time in
milliseconds, a safe integer. -/
inductive Payload where
  | marketSnapshot (market : Json)
  | accountSnapshot (snapshots : List AccountSnapshot) (coinToMarketId : CoinMap)
  | streamDelta (receivedAt : Fin (2 ^ 53)) (message : PublicWebSocketEnvelope)
      (coinToMarketId : CoinMap)
  /-- `null` -/
  | unknown

def get (value : Option Json) (key : String) : Option Json :=
  value.bind fun object => object.field key

def items : Option Json → List Json
  | some (.array values) => values
  | _ => []

def values : Option Json → List Json
  | some (.object fields) => fields.map Prod.snd
  | _ => []

def boundedText : Option Json → Option String
  | some (.string text) => if sourceIdPattern.test text then some text else none
  | _ => none

def decimal : Option Json → Option DecimalString
  | some (.string text) => decimalString text
  | _ => none

mutual

/-- `String(value)`, of an object that has no `toString` of its own. -/
def text : Json → String
  | .null => "null"
  | .bool value => toString value
  | .number value => toString value
  | .string value => value
  | .array values => ",".intercalate (itemTexts values)
  | .object _ => "[object Object]"
termination_by structural value => value

def itemTexts : List Json → List String
  | [] => []
  | .null :: values => "" :: itemTexts values
  | value :: values => text value :: itemTexts values
termination_by structural values => values

end

def textOf (value : Option Json) : String := value.elim "undefined" text

def joinedSource (values : List String) : Option String :=
  let source := ":".intercalate values
  if sourceIdPattern.test source then some source else none

def includes (text part : String) : Bool := decide (part.toList <:+: text.toList)

/-- `coin ? coinToMarketId[coin] : undefined` -/
def marketOf (coinToMarketId : CoinMap) (coin : Option String) : Option String :=
  coin.bind fun coin => coinToMarketId.lookup coin

def executionEvent (rule : NotificationRuleRecord) (accountLinkId : String)
    (eventType : Notifications.NotificationEventType) (sourceId : String) : NotificationRuleEvent :=
  .execution eventType rule.network rule.marketId accountLinkId sourceId

def fillSource (fill : Json) : Option String :=
  (boundedText (fill.field "hash")).or
    (joinedSource [textOf (fill.field "oid"), textOf (fill.field "time"), "fill"])

def fillEvent (rule : NotificationRuleRecord) (accountLinkId : String)
    (coinToMarketId : CoinMap) (fill : Json) : Option NotificationRuleEvent :=
  if marketOf coinToMarketId (boundedText (fill.field "coin")) = some rule.marketId then
    (fillSource fill).map (executionEvent rule accountLinkId .fill)
  else none

def orderStatus (wrapper : Json) : Option String :=
  (boundedText (wrapper.field "status")).map asciiLower

def orderEventType (status : Option String) : Option Notifications.NotificationEventType :=
  status.bind fun status =>
    if includes status "cancel" then some .cancellation
    else if includes status "reject" then some .rejection
    else none

def orderSource (wrapper : Json) : Option String :=
  joinedSource [textOf (get (wrapper.field "order") "oid"),
    textOf (wrapper.field "statusTimestamp"), (orderStatus wrapper).getD "undefined"]

def orderEvent (rule : NotificationRuleRecord) (accountLinkId : String)
    (coinToMarketId : CoinMap) (wrapper : Json) : Option NotificationRuleEvent :=
  if marketOf coinToMarketId (boundedText (get (wrapper.field "order") "coin")) =
        some rule.marketId ∧ orderEventType (orderStatus wrapper) = some rule.eventType then
    (orderSource wrapper).map (executionEvent rule accountLinkId rule.eventType)
  else none

def asksExecutions : Notifications.NotificationEventType → Bool
  | .fill | .cancellation | .rejection => true
  | _ => false

def executionEvents (rule : NotificationRuleRecord) (message : PublicWebSocketEnvelope)
    (coinToMarketId : CoinMap) : List NotificationRuleEvent :=
  if asksExecutions rule.eventType = false then []
  else
    match rule.accountLinkId with
    | none | some "" => []
    | some accountLinkId =>
      if message.channel = "userFills" then
        if rule.eventType = .fill then
          (items (message.field "fills")).filterMap
            (fillEvent rule accountLinkId coinToMarketId)
        else []
      else if message.channel = "orderUpdates" then
        (items message.data).filterMap (orderEvent rule accountLinkId coinToMarketId)
      else []

/-- The latest funding of a coin, the first of several at one time. -/
def latestFunding (funding : List FundingRecord) (coin : String) : Option FundingRecord :=
  ((funding.filter fun entry => entry.coin == coin).insertionSort
    fun left right => right.time ≤ left.time).head?

def metricFromBaseline (rule : NotificationRuleRecord) : Payload → Option DecimalString
  | .marketSnapshot market =>
    match rule.eventType with
    | .priceAbove | .priceBelow =>
      (decimal (market.field "markPx")).or (decimal (market.field "midPx"))
    | _ => none
  | .accountSnapshot snapshots coinToMarketId =>
    match coinToMarketId.find? fun entry => entry.2 == rule.marketId with
    | none | some ("", _) => none
    | some (coin, _) =>
      let holds (snapshot : AccountSnapshot) :=
        snapshot.positions.find? fun position => position.coin == coin
      match rule.eventType with
      | .fundingAbove | .fundingBelow =>
        (latestFunding ((snapshots.head?.map (·.funding)).getD []) coin).map
          (·.fundingRate)
      | .marginRisk =>
        (snapshots.find? fun snapshot => (holds snapshot).isSome).map
          (·.totalMarginUsed)
      | .liquidationRisk => (snapshots.findSome? holds).bind (·.liquidationPrice)
      | _ => none
  | .streamDelta _ _ _ | .unknown => none

def priceFromDelta (rule : NotificationRuleRecord) (message : PublicWebSocketEnvelope)
    (coinToMarketId : CoinMap) : Option DecimalString :=
  if marketOf coinToMarketId (boundedText (message.field "coin")) = some rule.marketId then
    let context := message.field "ctx"
    (decimal (get context "markPx")).or (decimal (get context "midPx"))
  else none

def fundingFromDelta (rule : NotificationRuleRecord) (message : PublicWebSocketEnvelope)
    (coinToMarketId : CoinMap) : Option DecimalString :=
  (items (message.field "fundings")).findSome? fun value =>
    let delta := value.field "delta"
    if marketOf coinToMarketId (boundedText (get delta "coin")) = some rule.marketId then
      decimal (get delta "fundingRate")
    else none

/-- The first clearinghouse with a position in the rule's market, and that position. -/
def positionFromDelta (rule : NotificationRuleRecord) (message : PublicWebSocketEnvelope)
    (coinToMarketId : CoinMap) : Option (Json × Json) :=
  (values (message.field "clearinghouseStates")).findSome? fun clearinghouse =>
    ((items (clearinghouse.field "assetPositions")).filterMap (·.field "position")).find?
      (fun position => marketOf coinToMarketId (boundedText (position.field "coin")) ==
        some rule.marketId)
    |>.map fun position => (clearinghouse, position)

def metricFromDelta (rule : NotificationRuleRecord) (message : PublicWebSocketEnvelope)
    (coinToMarketId : CoinMap) : Option (RuleMetric × DecimalString) :=
  match rule.eventType, message.channel with
  | .priceAbove, "activeAssetCtx" | .priceBelow, "activeAssetCtx" =>
    (priceFromDelta rule message coinToMarketId).map (.price, ·)
  | .fundingAbove, "userFundings" | .fundingBelow, "userFundings" =>
    (fundingFromDelta rule message coinToMarketId).map (.funding, ·)
  | .marginRisk, "allDexsClearinghouseState" =>
    (positionFromDelta rule message coinToMarketId).bind fun found =>
      (decimal (get (found.1.field "marginSummary") "totalMarginUsed")).map
        (.marginRisk, ·)
  | .liquidationRisk, "allDexsClearinghouseState" =>
    (positionFromDelta rule message coinToMarketId).bind fun found =>
      (decimal (found.2.field "liquidationPx")).map (.liquidationRisk, ·)
  | _, _ => none

def metricEvent (rule : NotificationRuleRecord) (previous : Option DecimalString)
    (receivedAt : Fin (2 ^ 53)) (channel : String) (metric : RuleMetric × DecimalString) :
    NotificationRuleEvent :=
  .metric metric.1 rule.network rule.marketId (rule.accountLinkId.filter (· ≠ "")) previous
    metric.2 (channel ++ ":" ++ toString receivedAt.val)

/-- `normalizeRuleUpdate`; of the map of metrics a rule has one entry, that of its event
type. -/
def normalizeRuleUpdate (rule : NotificationRuleRecord) (retained : Option DecimalString) :
    MonitorUpdate Payload → Option DecimalString × List NotificationRuleEvent
  | .baseline payload => ((metricFromBaseline rule payload).or retained, [])
  | .delta (.streamDelta receivedAt message coinToMarketId) =>
    let executions := executionEvents rule message coinToMarketId
    if executions ≠ [] then (retained, executions)
    else
      match metricFromDelta rule message coinToMarketId with
      | none => (retained, [])
      | some metric =>
        (some metric.2, [metricEvent rule retained receivedAt message.channel metric])
  | .delta _ => (retained, [])

def evaluated (sha256Hex : String → String) (rule : NotificationRuleRecord)
    (events : List NotificationRuleEvent) : List NotificationRuleMatch :=
  events.filterMap fun event =>
    match evaluateNotificationRule sha256Hex rule event with
    | .ok found => found
    | .error _ => none

/-- `#handleUpdate`: what the rule retains, and what it asks the store to alert. -/
def handleUpdate (sha256Hex : String → String) (rule : NotificationRuleRecord)
    (retained : Option DecimalString) (update : MonitorUpdate Payload) :
    Option DecimalString × List NotificationRuleMatch :=
  let normalized := normalizeRuleUpdate rule retained update
  (normalized.1, evaluated sha256Hex rule normalized.2)

def retainedAfter (rule : NotificationRuleRecord) (retained : Option DecimalString)
    (updates : List (MonitorUpdate Payload)) : Option DecimalString :=
  updates.foldl (fun retained update => (normalizeRuleUpdate rule retained update).1) retained

def matchesOf (sha256Hex : String → String) (rule : NotificationRuleRecord) :
    Option DecimalString → List (MonitorUpdate Payload) → List (List NotificationRuleMatch)
  | _, [] => []
  | retained, update :: updates =>
    let handled := handleUpdate sha256Hex rule retained update
    handled.2 :: matchesOf sha256Hex rule handled.1 updates

end RuleUpdates

end HyperTrader
