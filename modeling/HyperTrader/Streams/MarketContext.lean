import HyperTrader.Markets.Discovered
import HyperTrader.Streams.LastMessage
import HyperTrader.Transport.WebSocket

/-!
# The cached market context

The wire of a market context gives every context that the exchange sends, without a
sequence, the text of its coin and its values as its content. So the cache of the
context is at the last context sent exactly while no context returns to one that the
stream still remembers, other than the one applied last.
-/

namespace HyperTrader

open Library

variable {δ : Type*}

/-- The data of a market-context stream: the catalog's context as its baseline, and the
contexts of the exchange as they were sent. -/
inductive ContextData where
  | catalog (context : MarketContext)
  | sent (ctx : Option Json)
  deriving DecidableEq

def MarketContext.toJson (context : MarketContext) : Json := .ofFields context.fields

namespace TradeMarketContextWire

def contextPath : String := "activeAssetCtx.ctx"

def stableId (coin : String) (context : MarketContext) : String :=
  (Json.array [.string coin, context.toJson]).stringify

def decode (key coin : String) (envelope : PublicWebSocketEnvelope) :
    Parsed (List (ManagedStreamMessage ContextData)) :=
  if envelope.channel ≠ "activeAssetCtx" then .ok []
  else if envelope.data.bind (Json.text "coin") ≠ some coin then .ok []
  else do
    let ctx := envelope.data.bind (Json.field "ctx")
    let context ← Catalog.parseMarketContext ctx contextPath
    pure
      [{ key := key
         sequence := none
         stableId := stableId coin context
         data := .sent ctx
         isSnapshot := false }]

def marketContextFromStreamMessage (message : ManagedStreamMessage ContextData) :
    Parsed MarketContext :=
  match message.data with
  | .catalog context => .ok context
  | .sent ctx => Catalog.parseMarketContext ctx contextPath

def cacheUpdate (key : String) (cache : Option MarketContext) :
    StreamUpdate ContextData → Option MarketContext
  | .baseline other baseline =>
    if other = key then
      match cache, baseline.data with
      | none, .catalog context => some context
      | cache, _ => cache
    else cache
  | .delta other message =>
    if other = key then
      match marketContextFromStreamMessage message with
      | .ok context => some context
      | .error _ => cache
    else cache

def cachedContext (key : String) (cache : Option MarketContext)
    (consumer : StreamConsumer ContextData) : Option MarketContext :=
  consumer.applied.foldl (cacheUpdate key) cache

def Decoded (key coin : String) (message : ManagedStreamMessage ContextData) : Prop :=
  ∃ envelope messages, decode key coin envelope = .ok messages ∧ message ∈ messages

variable {key coin : String}

variable {message : ManagedStreamMessage ContextData} {context : MarketContext}

theorem decoded_of_mem (h : Decoded key coin message) :
    message.key = key ∧ message.sequence = none ∧
      ∃ context, marketContextFromStreamMessage message = .ok context ∧
        context.Decimal ∧ message.stableId = stableId coin context := by
  obtain ⟨envelope, messages, hdecode, hmem⟩ := h
  unfold decode at hdecode
  split at hdecode
  · cases hdecode
    cases hmem
  · split at hdecode
    · cases hdecode
      cases hmem
    · rw [except_bind_eq_ok] at hdecode
      obtain ⟨context, hcontext, hmessages⟩ := hdecode
      cases hmessages
      obtain rfl := List.mem_singleton.mp hmem
      exact ⟨rfl, rfl, context, hcontext, Catalog.parseMarketContext_decimal hcontext, rfl⟩

theorem MarketContext.nodup_fields (context : MarketContext) :
    (context.fields.map Prod.fst).Nodup := by
  simp [MarketContext.fields]

theorem stableId_injective {other : MarketContext} (hdecimal : context.Decimal)
    (hother : other.Decimal) (h : stableId coin context = stableId coin other) :
    context = other := by
  have hjson : context.toJson = other.toJson := by
    have harray := Json.stringify_injective h
    injection harray with hitems
    injection hitems with _ hrest
    injection hrest
  have hread : ∀ {first : MarketContext}, first.Decimal →
      Snapshot.parseContext first.toJson contextPath = .ok first :=
    fun hfirst => (Snapshot.parseContext_written fun key _ =>
      Json.field_ofFields (MarketContext.nodup_fields _) key).mpr ⟨rfl, hfirst⟩
  have hcontext := hread hdecimal
  rw [hjson, hread hother] at hcontext
  exact (Except.ok.inj hcontext).symm

theorem cacheUpdate_baseline (key : String) (context : MarketContext) (other : String)
    (baseline : ManagedStreamBaseline ContextData) :
    cacheUpdate key (some context) (.baseline other baseline) = some context := by
  simp [cacheUpdate]

theorem cacheUpdate_delta_of_ne {other : String} (h : other ≠ key)
    (cache : Option MarketContext) (message : ManagedStreamMessage ContextData) :
    cacheUpdate key cache (.delta other message) = cache := by
  simp [cacheUpdate, h]

theorem cacheUpdate_delta (h : marketContextFromStreamMessage message = .ok context)
    (cache : Option MarketContext) : cacheUpdate key cache (.delta key message) = some context := by
  simp [cacheUpdate, h]

theorem cachedContext_of_getLast? {consumer : StreamConsumer ContextData}
    (hlast : (consumer.deltas key).getLast? = some message)
    (hcontext : marketContextFromStreamMessage message = .ok context)
    (cache : Option MarketContext) : cachedContext key cache consumer = some context := by
  unfold cachedContext
  unfold StreamConsumer.deltas at hlast
  generalize consumer.applied = updates at hlast ⊢
  induction updates using List.reverseRecOn with
  | nil => simp at hlast
  | append_singleton earlier update ih =>
    rw [List.foldl_append, List.foldl_cons, List.foldl_nil]
    rw [List.filterMap_append] at hlast
    cases update with
    | baseline other baseline =>
      rw [ih (by simpa [StreamUpdate.delta?] using hlast)]
      exact cacheUpdate_baseline key context other baseline
    | delta other applied =>
      by_cases hother : other = key
      · have hsame : applied = message := by
          simpa [StreamUpdate.delta?, hother] using hlast
        subst hother hsame
        exact cacheUpdate_delta hcontext _
      · rw [cacheUpdate_delta_of_ne hother]
        exact ih (by simpa [StreamUpdate.delta?, hother] using hlast)

/-- While its run is live, the cache of a key holds the context that the last message
received gives. -/
def CachesLast (key : String) (cache : Option MarketContext)
    (heard : HeardStream ContextData) : Prop :=
  heard.Live key → ∀ last ∈ heard.received.getLast?, ∀ context,
    marketContextFromStreamMessage last = .ok context →
      cachedContext key cache heard.manager.consumer = some context

def Own (key coin other : String) (message : ManagedStreamMessage ContextData) : Prop :=
  message.key = other ∧ (other = key → Decoded key coin message)

theorem cachesLast_iff {heard : HeardStream ContextData}
    (h : heard.Followed (Own key coin) StreamManager.Newest key) (cache : Option MarketContext) :
    CachesLast key cache heard ↔ heard.EndsAtLast key := by
  unfold CachesLast HeardStream.EndsAtLast
  refine imp_congr_right fun hlive => ?_
  rcases List.eq_nil_or_concat heard.received with hnil | ⟨earlier, last, hreceived⟩
  · simp [hnil]
  · rw [List.concat_eq_append] at hreceived
    have hlast : heard.received.getLast? = some last := by simp [hreceived]
    obtain ⟨applied, happlied, -⟩ := h.exists_applied hlive hreceived
    have hdecoded := decoded_of_mem ((h.received last (by simp [hreceived])).2 rfl)
    obtain ⟨-, -, context, hcontext, hdecimal, hcontent⟩ := hdecoded
    have hdelta := decoded_of_mem ((h.deltas applied (List.mem_of_getLast? happlied)).2 rfl)
    obtain ⟨-, -, other, hother, hdecimal', hcontent'⟩ := hdelta
    have hcached := cachedContext_of_getLast? happlied hother cache
    rw [hlast, happlied, hcached]
    constructor
    · intro hcaches message hmessage
      obtain rfl := Option.some.inj hmessage
      refine ⟨applied, rfl, ?_⟩
      rw [hcontent, hcontent', Option.some.inj (hcaches _ rfl context hcontext)]
    · intro hends message hmessage found hfound
      obtain rfl := Option.some.inj hmessage
      obtain ⟨message, hmessage, hsame⟩ := hends _ rfl
      obtain rfl := Option.some.inj hmessage
      rw [hcontent, hcontent'] at hsame
      rw [stableId_injective hdecimal' hdecimal hsame]
      rw [hcontext] at hfound
      rw [Except.ok.inj hfound]

end TradeMarketContextWire

open TradeMarketContextWire SubscriptionRunState

/-- **Unsequenced streams end at the last message exactly while no content returns.** In
every run of the manager, for a key whose messages carry no sequence: in the state reached,
if the key is live, the message applied last has the content of the message received last
if and only if that content is not one of those the key remembers (up to 256 of them, since
its baseline) other than the newest. So does the cached market context hold the last context
that the exchange sent. -/
theorem last_message_applied_iff (options : StreamManagerOptions) (key : String) :
    (∀ events : List (StreamEvent δ),
      (∀ i message, .message i message ∈ events → message.key = key → message.sequence = none) →
      let heard := run (HeardStream.step options key) .create events
      heard.EndsAtLast key ↔ (heard.Live key → ¬ Returns heard.contents)) ∧
    ∀ (coin : String) (cache : Option MarketContext) (events : List (StreamEvent ContextData)),
      (∀ i message, .message i message ∈ events → message.key = key → Decoded key coin message) →
      let heard := run (HeardStream.step options key) .create events
      CachesLast key cache heard ↔ (heard.Live key → ¬ Returns heard.contents) := by
  constructor
  · intro events hplain heard
    have hfollowed : heard.Followed
        (fun other message => message.key = other ∧ (other = key → message.sequence = none))
        StreamManager.Newest key := by
      apply HeardStream.Followed.run options (StreamManager.kept_newest fun _ h => h.2 rfl)
        (fun _ _ h => h.1) HeardStream.followed_create
      intro i message hmem
      exact ⟨rfl, hplain i message hmem⟩
    exact hfollowed.endsAtLast_iff
  · intro coin cache events hdecoded heard
    have hfollowed : heard.Followed (Own key coin) StreamManager.Newest key := by
      apply HeardStream.Followed.run options
        (StreamManager.kept_newest fun _ h => (decoded_of_mem (h.2 rfl)).2.1)
        (fun _ _ h => h.1) HeardStream.followed_create
      intro i message hmem
      exact ⟨rfl, hdecoded i message hmem⟩
    rw [cachesLast_iff hfollowed]
    exact hfollowed.endsAtLast_iff

def contextEnvelope (markPx : String) : PublicWebSocketEnvelope where
  channel := "activeAssetCtx"
  data := some (.object [("coin", .string "BTC"), ("ctx", .object [("markPx", .string markPx)])])

def contextMessage (markPx : String) : ManagedStreamMessage ContextData where
  key := "trade-market-context"
  sequence := none
  stableId := stableId "BTC" ⟨none, none, none, none, markPx, none, none, none, none, none⟩
  data := .sent (some (.object [("markPx", .string markPx)]))
  isSnapshot := false

def contextRun (prices : List String) : List (StreamEvent ContextData) :=
  [.setSubscriptions [⟨"trade-market-context"⟩], .setEnvironment true true, .connected 0 .opened,
    .loaded 0 0 (some ⟨none, .catalog ⟨none, none, none, none, none, none, none, none, none,
      none⟩⟩)] ++ prices.map fun markPx => .message 0 (contextMessage markPx)

theorem contextMessage_decoded :
    ∀ markPx ∈ ["100", "101"], Decoded "trade-market-context" "BTC" (contextMessage markPx) := by
  intro markPx hmem
  refine ⟨contextEnvelope markPx, [contextMessage markPx], ?_, List.mem_singleton_self _⟩
  simp only [List.mem_cons, List.not_mem_nil, or_false] at hmem
  rcases hmem with rfl | rfl <;> decide

theorem contextRun_decoded {prices : List String} (h : prices ⊆ ["100", "101"]) (i : ℕ)
    (message : ManagedStreamMessage ContextData) (hmem : .message i message ∈ contextRun prices) :
    Decoded "trade-market-context" "BTC" message := by
  simp only [contextRun, List.mem_append, List.mem_cons, List.mem_map, reduceCtorEq,
    List.not_mem_nil, or_self, false_or, StreamEvent.message.injEq] at hmem
  obtain ⟨markPx, hprice, -, rfl⟩ := hmem
  exact contextMessage_decoded markPx (h hprice)

theorem last_message_applied_iff_rise :
    let heard := run (HeardStream.step {} "trade-market-context") .create
      (contextRun ["100", "101"])
    (heard.EndsAtLast "trade-market-context" ↔
        (heard.Live "trade-market-context" → ¬ Returns heard.contents)) ∧
      (CachesLast "trade-market-context" none heard ↔
        (heard.Live "trade-market-context" → ¬ Returns heard.contents)) :=
  ⟨(@last_message_applied_iff ContextData {} "trade-market-context").1 _ fun i message hmem _ =>
      (decoded_of_mem (contextRun_decoded (List.Subset.refl _) i message hmem)).2.1,
    (@last_message_applied_iff ContextData {} "trade-market-context").2 "BTC" none _
      fun i message hmem _ => contextRun_decoded (List.Subset.refl _) i message hmem⟩

/-- A context that returns to the one before it is thrown away. -/
theorem returning_context_lost :
    let events := contextRun ["100", "101", "100"]
    let heard := run (HeardStream.step {} "trade-market-context") .create events
    (∀ i message, .message i message ∈ events → Decoded "trade-market-context" "BTC" message) ∧
      ¬ heard.EndsAtLast "trade-market-context" ∧
      ¬ CachesLast "trade-market-context" none heard := by
  intro events heard
  have hready : (heard.manager.state? 0 "trade-market-context").any (·.baselineReady) = true := by
    decide
  obtain ⟨state, hstate, hready⟩ := (Option.any_eq_true _ _).mp hready
  have hlive : heard.Live "trade-market-context" := ⟨0, state, by decide, hstate, hready⟩
  have hlast : heard.received.getLast? = some (contextMessage "100") := by decide
  refine ⟨contextRun_decoded (by simp), ?_, ?_⟩
  · intro hends
    obtain ⟨applied, happlied, hsame⟩ := hends hlive _ hlast
    have hdelta : (heard.manager.consumer.deltas "trade-market-context").getLast? =
        some (contextMessage "101") := by
      decide
    rw [hdelta] at happlied
    rw [← Option.some.inj happlied] at hsame
    exact absurd hsame (by decide)
  · intro hcaches
    have hcached := hcaches hlive _ hlast
      ⟨none, none, none, none, "100", none, none, none, none, none⟩ (by decide)
    exact absurd hcached (by decide)

end HyperTrader
