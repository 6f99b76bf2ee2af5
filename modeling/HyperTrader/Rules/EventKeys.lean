import HyperTrader.Library.Joined
import HyperTrader.Rules.Crossings

/-!
# The keys of executions

A fill is known by its transaction hash when it carries one, otherwise by its order and
its time; an order update by its order, the time of its status and the status. The event
keys of two executions are equal exactly if the rule's scope and this identity are, so the
fills of one transaction have one key.
-/

namespace HyperTrader

open Library

namespace RuleUpdates

/-! ### Executions -/

def transactionHashPattern : TextPattern where
  lead := "0x"
  digit := isHexDigit
  least := 64
  most := 64

/-- A fill whose identity fields are well formed. -/
structure Fill where
  record : Json
  coin : String
  hash : Option String
  oid : ℤ
  time : ℤ
  tid : ℤ
  coin_eq : record.field "coin" = some (.string coin)
  hash_eq : record.field "hash" = hash.map Json.string
  hash_valid : ∀ text, hash = some text → transactionHashPattern.test text = true
  oid_eq : record.field "oid" = some (.number oid)
  time_eq : record.field "time" = some (.number time)
  tid_eq : record.field "tid" = some (.number tid)

structure OrderUpdate where
  record : Json
  order : Json
  coin : String
  oid : ℤ
  statusTimestamp : ℤ
  status : String
  order_eq : record.field "order" = some order
  coin_eq : order.field "coin" = some (.string coin)
  oid_eq : order.field "oid" = some (.number oid)
  statusTimestamp_eq : record.field "statusTimestamp" = some (.number statusTimestamp)
  status_eq : record.field "status" = some (.string status)

inductive Execution where
  | fill (fill : Fill)
  | order (update : OrderUpdate)

inductive ExecutionIdentity where
  | transaction (hash : String)
  | trade (oid time : ℤ)
  | status (oid statusTimestamp : ℤ) (text : String)

def ExecutionIdentity.source : ExecutionIdentity → String
  | transaction hash => hash
  | trade oid time => ":".intercalate [toString oid, toString time, "fill"]
  | status oid statusTimestamp text =>
    ":".intercalate [toString oid, toString statusTimestamp, text]

namespace Execution

def coin : Execution → String
  | fill trade => trade.coin
  | order update => update.coin

def eventType : Execution → Option Notifications.NotificationEventType
  | fill _ => some .fill
  | order update => orderEventType (orderStatus update.record)

def identity : Execution → ExecutionIdentity
  | fill trade =>
    match trade.hash with
    | some hash => .transaction hash
    | none => .trade trade.oid trade.time
  | order update =>
    .status update.oid update.statusTimestamp (asciiLower update.status)

def exchangeIdentity : Execution → ℤ × ℤ × Option ℤ
  | fill trade => (trade.oid, trade.time, some trade.tid)
  | order update => (update.oid, update.statusTimestamp, none)

/-- The rule asks for this execution of one of its market's coins, and its identity is within
the bound of an event's source. -/
def concerns (rule : NotificationRuleRecord) (coinToMarketId : CoinMap)
    (execution : Execution) : Bool :=
  decide (marketOf coinToMarketId (boundedText (some (.string execution.coin))) =
    some rule.marketId) && decide (execution.eventType = some rule.eventType) &&
      sourceIdPattern.test execution.identity.source

end Execution

def reportsNoExecutions : MonitorUpdate Payload → Bool
  | .delta (.streamDelta _ message _) =>
    decide (message.channel ≠ "userFills") && decide (message.channel ≠ "orderUpdates")
  | _ => true

/-- An event of the account; a message with executions has only well-formed ones. -/
inductive AccountEvent where
  | fills (receivedAt : Fin (2 ^ 53)) (data : Json) (trades : List Fill)
      (reads : data.field "fills" = some (.array (trades.map (·.record))))
      (coinToMarketId : CoinMap)
  | orders (receivedAt : Fin (2 ^ 53)) (updates : List OrderUpdate)
      (coinToMarketId : CoinMap)
  | other (update : MonitorUpdate Payload) (reports : reportsNoExecutions update = true)

namespace AccountEvent

def update : AccountEvent → MonitorUpdate Payload
  | fills receivedAt data _ _ coinToMarketId =>
    .delta (.streamDelta receivedAt ⟨"userFills", some data⟩ coinToMarketId)
  | orders receivedAt updates coinToMarketId =>
    .delta (.streamDelta receivedAt
      ⟨"orderUpdates", some (.array (updates.map (·.record)))⟩ coinToMarketId)
  | other update _ => update

def executions (rule : NotificationRuleRecord) : AccountEvent → List Execution
  | fills _ _ trades _ coinToMarketId =>
    (trades.map Execution.fill).filter (Execution.concerns rule coinToMarketId)
  | orders _ updates coinToMarketId =>
    (updates.map Execution.order).filter (Execution.concerns rule coinToMarketId)
  | other _ _ => []

end AccountEvent

def executionsOf (rule : NotificationRuleRecord) (events : List AccountEvent) : List Execution :=
  events.flatMap (AccountEvent.executions rule)

structure ExecutionRule where
  record : NotificationRuleRecord
  valid : validRule record = true
  asks : asksExecutions record.eventType = true
  accountLinkId : String
  linked : record.accountLinkId = some accountLinkId

namespace ExecutionRule

def event (rule : ExecutionRule) (execution : Execution) : NotificationRuleEvent :=
  executionEvent rule.record rule.accountLinkId rule.record.eventType
    execution.identity.source

def eventKey (sha256Hex : String → String) (rule : ExecutionRule) (execution : Execution) :
    String :=
  sha256Hex (eventKeyText rule.record (rule.event execution))

def scope (rule : ExecutionRule) : String × String × NotificationNetwork × String × String :=
  (rule.record.ruleId, rule.record.identityDigest, rule.record.network, rule.record.marketId,
    rule.accountLinkId)

end ExecutionRule

/-! ### Sources -/

variable {c : Char} {m n : ℤ} {hash text : String} {fill : Fill}

theorem not_mem_toString (hc : Json.isNumberChar c = false) (n : ℤ) : c ∉ (toString n).toList := by
  intro hmem
  rw [Json.isNumberChar_of_mem hmem] at hc
  cases hc

theorem toString_injective (h : toString m = toString n) : m = n :=
  Int.repr_injective (by simpa using h)

theorem joined_inj {m' n' : ℤ} {last last' : String}
    (h : ":".intercalate [toString m, toString n, last] =
      ":".intercalate [toString m', toString n', last']) : m = m' ∧ n = n' ∧ last = last' := by
  have hfree : ∀ a b : ℤ, ∀ x ∈ [toString a, toString b], ':' ∉ x.toList := by
    intro a b x hx
    rcases List.mem_cons.mp hx with rfl | hx
    · exact not_mem_toString (by decide) a
    · rw [List.mem_singleton.mp hx]
      exact not_mem_toString (by decide) b
  obtain ⟨hnumbers, hlast⟩ := joined_concat_inj (hfree m n) (hfree m' n') rfl h
  obtain ⟨hm, hrest⟩ := List.cons.inj hnumbers
  exact ⟨toString_injective hm, toString_injective (List.cons.inj hrest).1, hlast⟩

theorem toList_toString_ne_nil (n : ℤ) : (toString n).toList ≠ [] := by
  rw [Int.toString_eq_repr, Int.repr_eq_if]
  split
  · rw [Nat.toList_repr]
    exact numberDigits_ne_nil _
  · simp

theorem getElem?_number_colon (n : ℤ) (rest : List Char) :
    ∃ c, ((toString n).toList ++ ':' :: rest)[1]? = some c ∧
      (Json.isNumberChar c = true ∨ c = ':') := by
  have hnumber := fun c => @Json.isNumberChar_of_mem n c
  cases hdigits : (toString n).toList with
  | nil => exact absurd hdigits (toList_toString_ne_nil n)
  | cons c digits =>
    cases digits with
    | nil => exact ⟨':', rfl, .inr rfl⟩
    | cons d digits =>
      have hd : d ∈ (toString n).toList := by
        rw [hdigits]
        exact List.mem_cons_of_mem _ List.mem_cons_self
      exact ⟨d, rfl, .inl (hnumber d hd)⟩

theorem getElem?_hash (h : transactionHashPattern.test hash = true) :
    hash.toList[1]? = some 'x' := by
  obtain ⟨body, hbody, -, -, hall⟩ := TextPattern.test_iff.mp h
  replace hbody : textBytes hash = [48, 120] ++ body := hbody
  have hascii : ∀ byte ∈ textBytes hash, byte.toNat < 128 := by
    intro byte hbyte
    rw [hbody] at hbyte
    rcases List.mem_append.mp hbyte with hlead | hmem
    · simp only [List.mem_cons, List.not_mem_nil, or_false] at hlead
      rcases hlead with rfl | rfl <;> decide
    · exact lt_of_isHexDigit (hall byte hmem)
  obtain ⟨hbytes, hchars⟩ := textBytes_of_ascii hascii
  have hsecond : (hash.toList.map fun c => UInt8.ofNat c.toNat)[1]? = some 120 := by
    rw [← hbytes, hbody]
    rfl
  rw [List.getElem?_map] at hsecond
  obtain ⟨c, hc, hbyte⟩ := Option.map_eq_some_iff.mp hsecond
  have hsmall := hchars c (List.mem_of_getElem? hc)
  have hnat : c.toNat = 'x'.toNat := by
    have hvalue := congrArg UInt8.toNat hbyte
    rw [UInt8.toNat_ofNat', Nat.mod_eq_of_lt (by omega)] at hvalue
    exact hvalue
  rw [hc, Char.toNat_inj.mp hnat]

theorem hash_ne_joined (h : transactionHashPattern.test hash = true) (n : ℤ)
    (text : String) (texts : List String) :
    hash ≠ ":".intercalate (toString n :: text :: texts) := by
  rintro rfl
  have hx := getElem?_hash h
  rw [String.toList_intercalate, List.map_cons, List.intercalate_cons_of_ne_nil (by simp),
    List.append_assoc] at hx
  obtain ⟨c, hc, hother⟩ := getElem?_number_colon n
    (":".toList.intercalate ((text :: texts).map String.toList))
  have hsame := hc.symm.trans hx
  cases hsame
  revert hother
  decide

def ExecutionIdentity.Valid (eventType : Notifications.NotificationEventType) :
    ExecutionIdentity → Prop
  | transaction hash => transactionHashPattern.test hash = true
  | trade _ _ => eventType = .fill
  | status _ _ text => orderEventType (some text) = some eventType

theorem ExecutionIdentity.source_inj {eventType eventType' : Notifications.NotificationEventType}
    {first second : ExecutionIdentity} (hfirst : first.Valid eventType)
    (hsecond : second.Valid eventType') (h : first.source = second.source) : first = second := by
  have hfill : ∀ text eventType, orderEventType (some text) = some eventType →
      text ≠ "fill" := by
    rintro text eventType htype rfl
    have hnone : orderEventType (some "fill") = none := by decide
    rw [hnone] at htype
    cases htype
  cases first with
  | transaction hash =>
    cases second with
    | transaction hash' => exact congrArg ExecutionIdentity.transaction h
    | trade oid time => exact absurd h (hash_ne_joined hfirst oid _ _)
    | status oid time text => exact absurd h (hash_ne_joined hfirst oid _ _)
  | trade oid time =>
    cases second with
    | transaction hash => exact absurd h.symm (hash_ne_joined hsecond oid _ _)
    | trade oid' time' =>
      obtain ⟨rfl, rfl, -⟩ := joined_inj h
      rfl
    | status oid' time' text =>
      obtain ⟨-, -, hlast⟩ := joined_inj h
      exact absurd hlast.symm (hfill text _ hsecond)
  | status oid time text =>
    cases second with
    | transaction hash => exact absurd h.symm (hash_ne_joined hsecond oid _ _)
    | trade oid' time' =>
      obtain ⟨-, -, hlast⟩ := joined_inj h
      exact absurd hlast (hfill text _ hfirst)
    | status oid' time' text' =>
      obtain ⟨rfl, rfl, rfl⟩ := joined_inj h
      rfl

/-! ### Keys -/

theorem not_mem_of_test {pattern : TextPattern} (hlead : pattern.lead = "")
    (h : pattern.test text = true) (hc : c.toNat < 128)
    (hdigit : pattern.digit (UInt8.ofNat c.toNat) = false) : c ∉ text.toList := by
  obtain ⟨body, hbody, -, -, hall⟩ := TextPattern.test_iff.mp h
  intro hmem
  have hbyte : UInt8.ofNat c.toNat ∈ textBytes text := by
    rw [textBytes_eq]
    refine List.mem_flatMap.mpr ⟨c, hmem, ?_⟩
    rw [utf8EncodeChar_ascii hc]
    exact List.mem_singleton_self _
  rw [hbody, hlead] at hbyte
  rw [hall _ hbyte] at hdigit
  cases hdigit

theorem not_mem_of_canonicalNatural (h : isCanonicalNatural text = true) : '|' ∉ text.toList := by
  unfold isCanonicalNatural at h
  rw [Bool.or_eq_true, Bool.and_eq_true, List.all_eq_true] at h
  intro hmem
  rcases h with hzero | ⟨hdigits, -⟩
  · rw [beq_iff_eq.mp hzero] at hmem
    exact absurd hmem (by decide)
  · exact absurd (hdigits '|' hmem) (by decide)

theorem not_mem_of_canonicalMarket {marketId : String} (h : canonicalMarket marketId = true) :
    '|' ∉ marketId.toList := by
  have hparts : ∀ part ∈ (marketId.toList.splitOn ':').map String.ofList, '|' ∉ part.toList := by
    unfold canonicalMarket at h
    split at h
    · rename_i dex asset heq
      obtain ⟨hdex, hasset⟩ := Bool.and_eq_true_iff.mp h
      rw [heq]
      intro part hpart
      simp only [List.mem_cons, List.not_mem_nil, or_false] at hpart
      rcases hpart with rfl | rfl | rfl
      · decide
      · exact not_mem_of_canonicalNatural hdex
      · exact not_mem_of_canonicalNatural hasset
    · rename_i asset heq
      rw [heq]
      intro part hpart
      simp only [List.mem_cons, List.not_mem_nil, or_false] at hpart
      rcases hpart with rfl | rfl
      · decide
      · exact not_mem_of_canonicalNatural h
    · rename_i question side heq
      obtain ⟨hquestion, hside⟩ := Bool.and_eq_true_iff.mp h
      rw [heq]
      intro part hpart
      simp only [List.mem_cons, List.not_mem_nil, or_false] at hpart
      rcases hpart with rfl | rfl | rfl
      · decide
      · exact not_mem_of_canonicalNatural hquestion
      · rw [Bool.or_eq_true, beq_iff_eq, beq_iff_eq] at hside
        rcases hside with rfl | rfl <;> decide
    · cases h
  have hjoined : [':'].intercalate (marketId.toList.splitOn ':') = marketId.toList :=
    List.intercalate_splitOn ':'
  intro hmem
  rw [← hjoined] at hmem
  rcases mem_intercalate hmem with hsep | ⟨part, hpart, hmem⟩
  · exact absurd hsep (by decide)
  · exact hparts _ (List.mem_map_of_mem hpart) (by simpa using hmem)

namespace ExecutionRule

variable (rule : ExecutionRule)

theorem scope_eq : rule.record.scope = .account ∧
    hex128Pattern.test rule.accountLinkId = true := by
  obtain ⟨-, -, -, -, -, hlink⟩ := validRule_iff.mp rule.valid
  unfold validRuleLink at hlink
  cases hscope : rule.record.scope with
  | account =>
    rw [hscope, rule.linked] at hlink
    exact ⟨rfl, hlink⟩
  | price =>
    rw [hscope, rule.linked] at hlink
    cases hlink

def scopeTexts : List String :=
  ["notification-event/v1", rule.record.ruleId, rule.record.identityDigest,
    rule.record.network.text, rule.record.marketId, rule.accountLinkId]

theorem eventKeyText_event (execution : Execution) :
    eventKeyText rule.record (rule.event execution) =
      "|".intercalate (rule.scopeTexts ++ [execution.identity.source]) := rfl

theorem not_mem_scopeTexts : ∀ text ∈ rule.scopeTexts, '|' ∉ text.toList := by
  obtain ⟨hrule, hdigest, -, hmarket, -, -⟩ := validRule_iff.mp rule.valid
  intro text htext
  simp only [scopeTexts, List.mem_cons, List.not_mem_nil, or_false] at htext
  rcases htext with rfl | rfl | rfl | rfl | rfl | rfl
  · decide
  · exact not_mem_of_test rfl hrule (by decide) (by decide)
  · exact not_mem_of_test rfl hdigest (by decide) (by decide)
  · cases rule.record.network <;> decide
  · exact not_mem_of_canonicalMarket hmarket
  · exact not_mem_of_test rfl rule.scope_eq.2 (by decide) (by decide)

theorem scopeTexts_inj {rule other : ExecutionRule} (h : rule.scopeTexts = other.scopeTexts) :
    rule.scope = other.scope := by
  simp only [scopeTexts, List.cons.injEq, and_true, true_and] at h
  obtain ⟨hrule, hdigest, hnetwork, hmarket, hlink⟩ := h
  have hsame : rule.record.network = other.record.network := by
    revert hnetwork
    cases rule.record.network <;> cases other.record.network <;> decide
  rw [scope, scope, hrule, hdigest, hsame, hmarket, hlink]

end ExecutionRule

/-! ### What the updates report -/

theorem boundedText_string (text : String) : boundedText (some (.string text)) =
    if sourceIdPattern.test text then some text else none := rfl

theorem sourceIdPattern_hash (h : transactionHashPattern.test hash = true) :
    sourceIdPattern.test hash = true := by
  obtain ⟨body, hbody, hleast, hmost, hall⟩ := TextPattern.test_iff.mp h
  replace hbody : textBytes hash = [48, 120] ++ body := hbody
  have hlength : (textBytes hash).length = body.length + 2 := by
    rw [hbody]
    rfl
  have hsixty : body.length = 64 := Nat.le_antisymm hmost hleast
  refine TextPattern.test_iff.mpr ⟨textBytes hash, rfl, ?_, ?_, ?_⟩
  · rw [hlength, hsixty]
    decide
  · rw [hlength, hsixty]
    decide
  · intro byte hbyte
    rw [hbody] at hbyte
    rcases List.mem_append.mp hbyte with hlead | hbyte
    · simp only [List.mem_cons, List.not_mem_nil, or_false] at hlead
      rcases hlead with rfl | rfl <;> decide
    · have hhex : isHexDigit byte = true := hall byte hbyte
      have hsmall := lt_of_isHexDigit hhex
      revert hhex
      refine byte_induction hsmall ?_
      decide

theorem Execution.identity_of_hash (h : fill.hash = some hash) :
    (Execution.fill fill).identity = .transaction hash := by
  simp only [identity, h]

theorem Execution.identity_of_no_hash (h : fill.hash = none) :
    (Execution.fill fill).identity = .trade fill.oid fill.time := by
  simp only [identity, h]

theorem Execution.concerns_iff {rule : NotificationRuleRecord} {coinToMarketId : CoinMap}
    {execution : Execution} : execution.concerns rule coinToMarketId = true ↔
      (marketOf coinToMarketId (boundedText (some (.string execution.coin))) =
          some rule.marketId ∧ execution.eventType = some rule.eventType) ∧
        sourceIdPattern.test execution.identity.source = true := by
  rw [concerns, Bool.and_eq_true, Bool.and_eq_true, decide_eq_true_iff, decide_eq_true_iff]

theorem fillSource_record (fill : Fill) : fillSource fill.record =
    if sourceIdPattern.test (Execution.fill fill).identity.source then
      some (Execution.fill fill).identity.source else none := by
  unfold fillSource
  rw [fill.hash_eq, fill.oid_eq, fill.time_eq]
  cases hhash : fill.hash with
  | none =>
    rw [Execution.identity_of_no_hash hhash]
    rfl
  | some hash =>
    have htest := sourceIdPattern_hash (fill.hash_valid hash hhash)
    have hsource : (Execution.fill fill).identity.source = hash := by
      rw [Execution.identity_of_hash hhash, ExecutionIdentity.source]
    rw [hsource, Option.map_some, boundedText_string, if_pos htest, Option.some_or]

theorem orderStatus_record (update : OrderUpdate) : orderStatus update.record =
    if sourceIdPattern.test update.status then some (asciiLower update.status) else none := by
  unfold orderStatus
  rw [update.status_eq, boundedText_string]
  split <;> rfl

theorem orderSource_record {update : OrderUpdate} {status : String}
    (h : orderStatus update.record = some status) : orderSource update.record =
      if sourceIdPattern.test (Execution.order update).identity.source then
        some (Execution.order update).identity.source else none := by
  unfold orderSource
  have hstatus : status = asciiLower update.status := by
    rw [orderStatus_record] at h
    split at h
    · exact (Option.some.inj h).symm
    · cases h
  rw [h, update.order_eq, update.statusTimestamp_eq, hstatus, get, Option.bind_some, update.oid_eq]
  rfl

namespace ExecutionRule

variable (rule : ExecutionRule) (coinToMarketId : CoinMap)

theorem fillEvent_record (h : rule.record.eventType = .fill) (fill : Fill) :
    fillEvent rule.record rule.accountLinkId coinToMarketId fill.record =
      if Execution.concerns rule.record coinToMarketId (.fill fill) then
        some (rule.event (.fill fill)) else none := by
  unfold fillEvent
  rw [fill.coin_eq, fillSource_record]
  by_cases hmarket : marketOf coinToMarketId (boundedText (some (.string fill.coin))) =
      some rule.record.marketId
  · rw [if_pos hmarket]
    have htype : (Execution.fill fill).eventType = some rule.record.eventType := by
      rw [h]
      rfl
    by_cases hsource : sourceIdPattern.test (Execution.fill fill).identity.source = true
    · rw [if_pos hsource, if_pos (Execution.concerns_iff.mpr ⟨⟨hmarket, htype⟩, hsource⟩),
        Option.map_some, event, h]
    · rw [if_neg hsource, if_neg fun hall => hsource (Execution.concerns_iff.mp hall).2,
        Option.map_none]
  · rw [if_neg hmarket, if_neg fun hall => hmarket (Execution.concerns_iff.mp hall).1.1]

theorem orderEvent_record (update : OrderUpdate) :
    orderEvent rule.record rule.accountLinkId coinToMarketId update.record =
      if Execution.concerns rule.record coinToMarketId (.order update) then
        some (rule.event (.order update)) else none := by
  unfold orderEvent
  rw [update.order_eq, get, Option.bind_some, update.coin_eq]
  by_cases hscope : marketOf coinToMarketId (boundedText (some (.string update.coin))) =
      some rule.record.marketId ∧
        orderEventType (orderStatus update.record) = some rule.record.eventType
  · rw [if_pos hscope]
    cases hstatus : orderStatus update.record with
    | none =>
      rw [hstatus] at hscope
      cases hscope.2
    | some status =>
      have hasked := hscope
      rw [orderSource_record hstatus]
      by_cases hsource : sourceIdPattern.test (Execution.order update).identity.source = true
      · rw [if_pos hsource, if_pos (Execution.concerns_iff.mpr ⟨hasked, hsource⟩),
          Option.map_some, event]
      · rw [if_neg hsource, if_neg fun hall => hsource (Execution.concerns_iff.mp hall).2,
          Option.map_none]
  · rw [if_neg hscope, if_neg fun hall => hscope (Execution.concerns_iff.mp hall).1]

theorem filterMap_event {α : Type} (reports : α → Json) (execution : α → Execution)
    (read : Json → Option NotificationRuleEvent) (reported : List α)
    (h : ∀ value, read (reports value) =
      if Execution.concerns rule.record coinToMarketId (execution value) then
        some (rule.event (execution value)) else none) :
    (reported.map reports).filterMap read =
      ((reported.map execution).filter (Execution.concerns rule.record coinToMarketId)).map
        rule.event := by
  induction reported with
  | nil => rfl
  | cons value reported ih =>
    simp only [List.map_cons, List.filterMap_cons, List.filter_cons, h, ih]
    split
    · rename_i hnone
      split
      · rename_i hconcerns
        rw [if_pos hconcerns] at hnone
        cases hnone
      · rfl
    · rename_i found hfound
      split at hfound
      · rename_i hconcerns
        cases hfound
        rw [if_pos hconcerns, List.map_cons]
      · cases hfound

theorem executionEvents_update (event : AccountEvent) {receivedAt : Fin (2 ^ 53)}
    {message : PublicWebSocketEnvelope} {coinToMarketId : CoinMap}
    (h : event.update = .delta (.streamDelta receivedAt message coinToMarketId)) :
    executionEvents rule.record message coinToMarketId =
      (event.executions rule.record).map rule.event := by
  have hlink : rule.accountLinkId ≠ "" := by
    intro hempty
    have htest := rule.scope_eq.2
    rw [hempty] at htest
    revert htest
    decide
  unfold executionEvents
  rw [if_neg (by rw [rule.asks]; decide), rule.linked]
  split
  · rename_i hnone
    cases hnone
  · rename_i hempty
    exact absurd (Option.some.inj hempty) hlink
  · rename_i link _ hsome
    cases hsome
    cases event with
    | fills receivedAt data trades reads coinToMarketId =>
      cases h
      rw [if_pos rfl]
      by_cases htype : rule.record.eventType = .fill
      · rw [if_pos htype]
        have hitems : items (PublicWebSocketEnvelope.field ⟨"userFills", some data⟩ "fills") =
            trades.map (·.record) := by
          unfold PublicWebSocketEnvelope.field
          rw [Option.bind_some, reads]
          rfl
        rw [hitems]
        exact rule.filterMap_event coinToMarketId (·.record) Execution.fill _ trades
          (rule.fillEvent_record coinToMarketId htype)
      · rw [if_neg htype]
        have hnone : ∀ execution ∈ trades.map Execution.fill,
            ¬ Execution.concerns rule.record coinToMarketId execution = true := by
          intro execution hexecution hconcerns
          obtain ⟨trade, -, rfl⟩ := List.mem_map.mp hexecution
          exact htype (Option.some.inj (Execution.concerns_iff.mp hconcerns).1.2).symm
        rw [AccountEvent.executions, List.filter_eq_nil_iff.mpr hnone, List.map_nil]
    | orders receivedAt updates coinToMarketId =>
      cases h
      have hchannel : ¬ "orderUpdates" = "userFills" := by decide
      rw [if_neg hchannel, if_pos rfl]
      exact rule.filterMap_event coinToMarketId (·.record) Execution.order _ updates
        (rule.orderEvent_record coinToMarketId)
    | other update reports =>
      rw [show update = _ from h] at reports
      obtain ⟨hfills, horders⟩ := Bool.and_eq_true_iff.mp reports
      rw [if_neg (of_decide_eq_true hfills), if_neg (of_decide_eq_true horders)]
      rfl

theorem metricFromDelta_none (message : PublicWebSocketEnvelope) (coinToMarketId : CoinMap) :
    metricFromDelta rule.record message coinToMarketId = none := by
  have hasks := rule.asks
  unfold metricFromDelta
  split <;> first | rfl | (rename_i heventType _; rw [heventType] at hasks; cases hasks)

variable {execution : Execution} {other : ExecutionRule}

theorem evaluate_event
    (h : sourceIdPattern.test execution.identity.source = true) (sha256Hex : String → String) :
    evaluateNotificationRule sha256Hex rule.record (rule.event execution) =
      .ok (some ⟨rule.eventKey sha256Hex execution, .execution, .portfolio⟩) := by
  obtain ⟨-, -, -, hmarket, hthreshold, -⟩ := validRule_iff.mp rule.valid
  obtain ⟨hscope, hlink⟩ := rule.scope_eq
  have hevent : validEvent (rule.event execution) = true := by
    simp only [validEvent, event, executionEvent, NotificationRuleEvent.marketId,
      NotificationRuleEvent.sourceId, NotificationRuleEvent.accountLinkId, hmarket, h,
      Option.all_some, hlink, Bool.and_self]
  have hin : inScope rule.record (rule.event execution) = true := by
    simp only [inScope, event, executionEvent, NotificationRuleEvent.network,
      NotificationRuleEvent.marketId, NotificationRuleEvent.accountLinkId, hscope, rule.linked,
      beq_self_eq_true, Bool.and_self]
  have hthreshold' : ∃ threshold, decimalString rule.record.threshold = some threshold := by
    unfold decimalString
    split
    · rename_i hnone
      rw [hnone] at hthreshold
      cases hthreshold
    · exact ⟨_, rfl⟩
  obtain ⟨threshold, hreads⟩ := hthreshold'
  rw [evaluateNotificationRule, if_neg (by rw [rule.valid]; decide),
    if_neg (by rw [hevent]; decide), if_neg (by rw [hin]; decide), hreads, Option.bind_some]
  unfold event executionEvent eventCategory
  dsimp only
  rw [if_pos rfl]
  rfl

theorem evaluated_map (sha256Hex : String → String) (executions : List Execution)
    (h : ∀ execution ∈ executions, sourceIdPattern.test execution.identity.source = true) :
    evaluated sha256Hex rule.record (executions.map rule.event) =
      executions.map fun execution =>
        ⟨rule.eventKey sha256Hex execution, .execution, .portfolio⟩ := by
  induction executions with
  | nil => rfl
  | cons execution executions ih =>
    unfold evaluated at ih ⊢
    rw [List.map_cons, List.filterMap_cons, rule.evaluate_event (h execution List.mem_cons_self)]
    dsimp only
    rw [ih fun other hother => h other (List.mem_cons_of_mem _ hother), List.map_cons]

theorem concerns_of_mem {event : AccountEvent} (h : execution ∈ event.executions rule.record) :
    ∃ coinToMarketId, execution.concerns rule.record coinToMarketId = true := by
  cases event with
  | fills receivedAt data trades reads coinToMarketId =>
    exact ⟨coinToMarketId, (List.mem_filter.mp h).2⟩
  | orders receivedAt updates coinToMarketId =>
    exact ⟨coinToMarketId, (List.mem_filter.mp h).2⟩
  | other update reports => cases h

theorem handleUpdate_update (sha256Hex : String → String) (retained : Option DecimalString)
    (event : AccountEvent) :
    (handleUpdate sha256Hex rule.record retained event.update).2 =
      (event.executions rule.record).map fun execution =>
        ⟨rule.eventKey sha256Hex execution, .execution, .portfolio⟩ := by
  have hsource : ∀ execution ∈ event.executions rule.record,
      sourceIdPattern.test execution.identity.source = true := by
    intro execution hexecution
    obtain ⟨coinToMarketId, hconcerns⟩ := rule.concerns_of_mem hexecution
    exact (Execution.concerns_iff.mp hconcerns).2
  have hevents : (normalizeRuleUpdate rule.record retained event.update).2 =
      (event.executions rule.record).map rule.event := by
    cases hupdate : event.update with
    | baseline payload =>
      cases event with
      | fills receivedAt data trades reads coinToMarketId => cases hupdate
      | orders receivedAt updates coinToMarketId => cases hupdate
      | other update reports => rfl
    | delta payload =>
      cases payload with
      | streamDelta receivedAt message coinToMarketId =>
        have hexecutions := rule.executionEvents_update event hupdate
        unfold normalizeRuleUpdate
        dsimp only
        rw [rule.metricFromDelta_none, ← hexecutions]
        by_cases hnil : executionEvents rule.record message coinToMarketId = []
        · rw [if_neg (not_not.mpr hnil), hnil]
        · rw [if_pos hnil]
      | marketSnapshot market =>
        cases event with
        | fills receivedAt data trades reads coinToMarketId => cases hupdate
        | orders receivedAt updates coinToMarketId => cases hupdate
        | other update reports => rfl
      | accountSnapshot snapshots coinToMarketId =>
        cases event with
        | fills receivedAt data trades reads coinToMarketId => cases hupdate
        | orders receivedAt updates coinToMarketId => cases hupdate
        | other update reports => rfl
      | unknown =>
        cases event with
        | fills receivedAt data trades reads coinToMarketId => cases hupdate
        | orders receivedAt updates coinToMarketId => cases hupdate
        | other update reports => rfl
  unfold handleUpdate
  dsimp only
  rw [hevents]
  exact rule.evaluated_map sha256Hex _ hsource

theorem matchesOf_executions (sha256Hex : String → String) (retained : Option DecimalString)
    (events : List AccountEvent) :
    (matchesOf sha256Hex rule.record retained (events.map AccountEvent.update)).flatten =
      (executionsOf rule.record events).map fun execution =>
        ⟨rule.eventKey sha256Hex execution, .execution, .portfolio⟩ := by
  induction events generalizing retained with
  | nil => rfl
  | cons event events ih =>
    rw [List.map_cons, matchesOf, List.flatten_cons, ih, rule.handleUpdate_update, executionsOf,
      executionsOf, List.flatMap_cons, List.map_append]

theorem valid_of_mem {events : List AccountEvent}
    (h : execution ∈ executionsOf rule.record events) :
    execution.identity.Valid rule.record.eventType := by
  obtain ⟨event, -, hmem⟩ := List.mem_flatMap.mp h
  obtain ⟨coinToMarketId, hconcerns⟩ := rule.concerns_of_mem hmem
  have htype := (Execution.concerns_iff.mp hconcerns).1.2
  cases execution with
  | fill trade =>
    cases hhash : trade.hash with
    | none =>
      rw [Execution.identity_of_no_hash hhash]
      exact (Option.some.inj htype).symm
    | some hash =>
      rw [Execution.identity_of_hash hhash]
      exact trade.hash_valid hash hhash
  | order update =>
    change orderEventType (orderStatus update.record) = _ at htype
    rw [orderStatus_record] at htype
    split at htype
    · exact htype
    · cases htype

theorem eventKey_inj {sha256Hex : String → String} (hinjective : Function.Injective sha256Hex)
    {rule : ExecutionRule} {execution' : Execution}
    (h : execution.identity.Valid rule.record.eventType)
    (h' : execution'.identity.Valid other.record.eventType)
    (hkey : rule.eventKey sha256Hex execution = other.eventKey sha256Hex execution') :
    rule.scope = other.scope ∧ execution.identity = execution'.identity := by
  have htext := hinjective hkey
  rw [eventKeyText_event, eventKeyText_event] at htext
  obtain ⟨hscope, hsource⟩ := joined_concat_inj rule.not_mem_scopeTexts
    other.not_mem_scopeTexts rfl htext
  exact ⟨scopeTexts_inj hscope, ExecutionIdentity.source_inj h h' hsource⟩

theorem scopeTexts_of_scope {rule : ExecutionRule} (h : rule.scope = other.scope) :
    rule.scopeTexts = other.scopeTexts := by
  simp only [scope, Prod.mk.injEq] at h
  obtain ⟨hrule, hdigest, hnetwork, hmarket, hlink⟩ := h
  rw [scopeTexts, scopeTexts, hrule, hdigest, hnetwork, hmarket, hlink]

end ExecutionRule

/-- The executions that a rule asks for are matched, each with its event key; and the keys
of two executions, of one rule or of two, are equal exactly if the rules' scopes and the
executions' identities are. -/
theorem event_keys_tell_identities (sha256Hex : String → String)
    (hinjective : Function.Injective sha256Hex) (rule other : ExecutionRule)
    (events later : List AccountEvent) :
    (matchesOf sha256Hex rule.record none (events.map AccountEvent.update)).flatten =
        ((executionsOf rule.record events).map fun execution =>
          ⟨rule.eventKey sha256Hex execution, .execution, .portfolio⟩) ∧
      ∀ execution ∈ executionsOf rule.record events,
        ∀ execution' ∈ executionsOf other.record later,
          rule.eventKey sha256Hex execution = other.eventKey sha256Hex execution' ↔
            rule.scope = other.scope ∧ execution.identity = execution'.identity := by
  refine ⟨rule.matchesOf_executions sha256Hex none events, ?_⟩
  intro execution hexecution execution' hexecution'
  constructor
  · exact ExecutionRule.eventKey_inj hinjective (rule.valid_of_mem hexecution)
      (other.valid_of_mem hexecution')
  · rintro ⟨hscope, hidentity⟩
    unfold ExecutionRule.eventKey
    rw [ExecutionRule.eventKeyText_event, ExecutionRule.eventKeyText_event,
      ExecutionRule.scopeTexts_of_scope hscope, hidentity]

/-! ### Two fills of one hash -/

def zeroHash : String := "0x0000000000000000000000000000000000000000000000000000000000000000"

theorem zeroHash_valid : transactionHashPattern.test zeroHash = true := by decide

def fillOf (hash : Option String) (hhash : ∀ text, hash = some text →
    transactionHashPattern.test text = true) (oid time tid : ℤ) : Fill where
  record := .ofFields [("coin", some (.string "BTC")), ("hash", hash.map Json.string),
    ("oid", some (.number oid)), ("time", some (.number time)), ("tid", some (.number tid))]
  coin := "BTC"
  hash := hash
  oid := oid
  time := time
  tid := tid
  coin_eq := by cases hash <;> rfl
  hash_eq := by cases hash <;> rfl
  hash_valid := hhash
  oid_eq := by cases hash <;> rfl
  time_eq := by cases hash <;> rfl
  tid_eq := by cases hash <;> rfl

def zeroFill (oid time tid : ℤ) : Fill :=
  fillOf (some zeroHash) (fun _ h => Option.some.inj h ▸ zeroHash_valid) oid time tid

def plainFill (oid time tid : ℤ) : Fill := fillOf none (fun _ h => by cases h) oid time tid

def fillsEvent (trades : List Fill) : AccountEvent :=
  .fills ⟨1, Nat.one_lt_two_pow (Nat.succ_ne_zero 52)⟩
    (.object [("fills", .array (trades.map (·.record)))]) trades rfl [("BTC", "perp:0:0")]

def fillRecord : NotificationRuleRecord where
  ruleId := "11111111111111111111111111111111"
  identityDigest := "1111111111111111111111111111111111111111111111111111111111111111"
  installationId := "22222222222222222222222222222222"
  accountLinkId := some "33333333333333333333333333333333"
  scope := .account
  network := .testnet
  marketId := "perp:0:0"
  eventType := .fill
  threshold := "0"

theorem validRule_fillRecord : validRule fillRecord = true := by decide

def fillRule : ExecutionRule where
  record := fillRecord
  valid := validRule_fillRecord
  asks := rfl
  accountLinkId := "33333333333333333333333333333333"
  linked := rfl

/-- The digests of the two texts of the run below; of another text, a text that is none. -/
def fillDigest (text : String) : String :=
  if text = eventKeyText fillRecord (fillRule.event (.fill (zeroFill 5 7 1))) then
    "c52441bdfa19ad772179bc62091d1b9b3317438c1362be532627f0906c3eb0fd"
  else if text = eventKeyText fillRecord (fillRule.event (.fill (plainFill 5 7 2))) then
    "fe513b7c3fa9bf1bb7e156b0bba7482d77c30511f485d6f35e23962b047d51b9"
  else "sha256:" ++ text

theorem fillDigest_injective : Function.Injective fillDigest := by
  have hfresh : ∀ digest : String, digest.toList.head? ≠ some 's' →
      ∀ text, digest ≠ "sha256:" ++ text := by
    rintro digest hhead text rfl
    rw [String.toList_append] at hhead
    exact hhead rfl
  intro text other h
  unfold fillDigest at h
  split at h
  · rename_i htext
    split at h
    · rename_i hother
      rw [htext, hother]
    · split at h
      · exact absurd h (by decide)
      · exact absurd h (hfresh _ (by decide) other)
  · split at h
    · rename_i htext
      split at h
      · exact absurd h (by decide)
      · split at h
        · rename_i hother
          rw [htext, hother]
        · exact absurd h (hfresh _ (by decide) other)
    · split at h
      · exact absurd h.symm (hfresh _ (by decide) text)
      · split at h
        · exact absurd h.symm (hfresh _ (by decide) text)
        · have hchars := congrArg String.toList h
          rw [String.toList_append, String.toList_append] at hchars
          exact String.toList_injective (List.append_cancel_left hchars)

theorem executionsOf_fillsEvent {trades : List Fill} (h : ∀ trade ∈ trades,
    Execution.concerns fillRecord [("BTC", "perp:0:0")] (.fill trade) = true) :
    executionsOf fillRecord [fillsEvent trades] = trades.map Execution.fill := by
  have hfilter : executionsOf fillRecord [fillsEvent trades] =
      (trades.map Execution.fill).filter
        (Execution.concerns fillRecord [("BTC", "perp:0:0")]) := List.append_nil _
  rw [hfilter, List.filter_eq_self]
  intro execution hexecution
  obtain ⟨trade, htrade, rfl⟩ := List.mem_map.mp hexecution
  exact h trade htrade

theorem executionsOf_two {first second : Fill}
    (hfirst : Execution.concerns fillRecord [("BTC", "perp:0:0")] (.fill first) = true)
    (hsecond : Execution.concerns fillRecord [("BTC", "perp:0:0")] (.fill second) = true) :
    executionsOf fillRecord [fillsEvent [first, second]] = [.fill first, .fill second] := by
  apply executionsOf_fillsEvent
  intro trade htrade
  rcases List.mem_cons.mp htrade with rfl | htrade
  · exact hfirst
  · rw [List.mem_singleton.mp htrade]
    exact hsecond

/-- A fill with the zero hash and one without a hash have two keys. -/
theorem event_keys_tell_identities_fillDigest :
    fillRule.eventKey fillDigest (.fill (zeroFill 5 7 1)) ≠
      fillRule.eventKey fillDigest (.fill (plainFill 5 7 2)) := by
  have hexecutions : executionsOf fillRule.record
      [fillsEvent [zeroFill 5 7 1, plainFill 5 7 2]] =
      [.fill (zeroFill 5 7 1), .fill (plainFill 5 7 2)] :=
    executionsOf_two (by decide) (by decide)
  have hkeys := (event_keys_tell_identities fillDigest fillDigest_injective fillRule fillRule
    [fillsEvent [zeroFill 5 7 1, plainFill 5 7 2]] [fillsEvent [zeroFill 5 7 1, plainFill 5 7 2]]).2
  rw [hexecutions] at hkeys
  intro hkey
  have hsame := (hkeys _ List.mem_cons_self _ (List.mem_cons_of_mem _ List.mem_cons_self)).mp hkey
  cases hsame.2

/-- Two fills of different orders, times and trades have one key when they carry one hash,
and the second is no new event. -/
theorem event_key_shared : ¬ ∀ sha256Hex : String → String, Function.Injective sha256Hex →
    ∀ (rule : ExecutionRule) (events : List AccountEvent) (i j : ℕ)
      (execution execution' : Execution) (found found' : NotificationRuleMatch),
      (executionsOf rule.record events)[i]? = some execution →
      (executionsOf rule.record events)[j]? = some execution' →
      (matchesOf sha256Hex rule.record none
        (events.map AccountEvent.update)).flatten[i]? = some found →
      (matchesOf sha256Hex rule.record none
        (events.map AccountEvent.update)).flatten[j]? = some found' →
      execution.exchangeIdentity ≠ execution'.exchangeIdentity →
      found.eventKey ≠ found'.eventKey := by
  intro h
  have hexecutions : executionsOf fillRule.record
      [fillsEvent [zeroFill 5 7 1, zeroFill 6 8 2]] =
      [.fill (zeroFill 5 7 1), .fill (zeroFill 6 8 2)] :=
    executionsOf_two (by decide) (by decide)
  have hmatches := fillRule.matchesOf_executions id none
    [fillsEvent [zeroFill 5 7 1, zeroFill 6 8 2]]
  rw [hexecutions] at hmatches
  have hdistinct := h id Function.injective_id fillRule
    [fillsEvent [zeroFill 5 7 1, zeroFill 6 8 2]] 0 1 (.fill (zeroFill 5 7 1))
    (.fill (zeroFill 6 8 2)) ⟨fillRule.eventKey id (.fill (zeroFill 5 7 1)), .execution, .portfolio⟩
    ⟨fillRule.eventKey id (.fill (zeroFill 6 8 2)), .execution, .portfolio⟩
  rw [hexecutions, hmatches] at hdistinct
  exact hdistinct rfl rfl rfl rfl (by decide) rfl

end RuleUpdates

end HyperTrader
