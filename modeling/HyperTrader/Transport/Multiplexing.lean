import HyperTrader.Transport.Deliveries

/-!
# Subscribing and unsubscribing on one session

What each call and each frame keeps, and from it what a whole run keeps: as long as every
data message is one for somebody who is still subscribed, no message fails the session,
and each listener that stays gets its messages once each. Without that the session takes a
message of a stream that was just given up for one that was never asked for.
-/

namespace HyperTrader

open Library

namespace ObservedSession

section

variable {observed : ObservedSession} {output : WebSocketOutput} {delivery : Delivery}
  {noted : ObservedSession} {session : WebSocketSession}

theorem conclude_unchanged (hopen : observed.session.closed = false) (hsent : output.sent = none)
    (hcalled : output.called = none) (hfailed : output.failedByMessage = false) :
    observed.conclude (observed.session, output) = observed := by
  unfold conclude
  simp [hopen, hsent, hcalled, hfailed]

theorem Sound.left (h : observed.Sound) (hclosed : observed.session.closed = true)
    (hdelivery : delivery ∈ observed.session.delivering) :
    delivery.rest = [] ∧ ∃ origin, observed.data = some (origin, delivery.message) ∧
      belongs origin delivery.message delivery.subscription = true :=
  ⟨(h.closed hclosed).2.2 delivery hdelivery, h.handing delivery hdelivery⟩

theorem Sound.stays (h : observed.Sound) (hclosed : observed.session.closed = true)
    (hnotFailed : noted.failedByMessage = false)
    (hdata : noted.data = observed.data) (hcalls : noted.calls = observed.calls)
    (hcalled : output.called = none) (hfailed : output.failedByMessage = false) :
    (noted.conclude (observed.session, output)).Sound := by
  refine Sound.ofClosed hnotFailed ?_ (fun delivery hdelivery => ?_) hclosed
    (h.closed hclosed).1 (fun listener hlistener => ?_) hfailed
  · rw [hdata, hcalls]
    exact h.only
  · rw [hdata]
    exact h.left hclosed hdelivery
  · rw [hcalled] at hlistener
    cases hlistener

theorem Sound.closeInternal (h : observed.Sound)
    (hnotFailed : noted.failedByMessage = false) (hdata : noted.data = observed.data)
    (hcalls : noted.calls = observed.calls) (hopen : session.closed = false)
    (hdelivering : ∀ delivery ∈ session.delivering, ∃ old ∈ observed.session.delivering,
      delivery.message = old.message ∧ delivery.subscription = old.subscription)
    (hcalled : output.called = none) (hfailed : output.failedByMessage = false) :
    (noted.conclude (session.closeInternal, output)).Sound := by
  have hclosed : session.closeInternal = { session with
      listeners := Keyed.empty
      exclusiveUsers := fun _ => none
      pendingOperations := []
      closed := true
      delivering := session.delivering.map Delivery.clear } := by
    unfold WebSocketSession.closeInternal
    rw [hopen]
    rfl
  rw [hclosed]
  refine Sound.ofClosed hnotFailed ?_ (fun delivery hdelivery => ?_) rfl rfl
    (fun listener hlistener => ?_) hfailed
  · rw [hdata, hcalls]
    exact h.only
  · obtain ⟨before, hbefore, rfl⟩ := Option.map_eq_some_iff.mp hdelivery
    obtain ⟨old, hold, hmessage, hsubscription⟩ := hdelivering before hbefore
    obtain ⟨origin, hdata', hbelongs⟩ := h.handing old hold
    refine ⟨rfl, origin, ?_, ?_⟩
    · rw [hdata, hdata']
      exact congrArg some (Prod.ext rfl hmessage.symm)
    · change belongs origin before.message before.subscription = true
      rw [hmessage, hsubscription]
      exact hbelongs
  · rw [hcalled] at hlistener
    cases hlistener

/-- The end of one callback hands the message to the next. -/
theorem Sound.returned (h : observed.Sound)
    (hdelivery : observed.session.delivering = some delivery) :
    (observed.conclude (observed.session.nextCallback delivery)).Sound := by
  obtain ⟨origin, hdata, hbelongs⟩ := h.handing delivery hdelivery
  have honly := h.only _ hdata
  unfold WebSocketSession.nextCallback
  cases hcallbacks : delivery.callbacks with
  | nil =>
    dsimp only
    rcases Bool.eq_false_or_eq_true observed.session.closed with hclosed | hclosed
    · rw [(h.closed hclosed).2.2 delivery hdelivery]
      refine Sound.ofClosed h.notFailed h.only (fun other hother => ?_) hclosed
        (h.closed hclosed).1 (fun listener hlistener => ?_) rfl
      · cases hother
      · cases hlistener
    · exact Sound.nextEntry (h.regular hclosed) hclosed h.notFailed hdata rfl honly
        (h.owed hclosed delivery hdelivery _ hdata) hcallbacks (.inl rfl)
  | cons listener callbacks =>
    dsimp only
    rcases Bool.eq_false_or_eq_true observed.session.closed with hclosed | hclosed
    · refine Sound.ofClosed h.notFailed h.only (fun other hother => ?_) hclosed
        (h.closed hclosed).1 (fun called hcalled => ?_) rfl
      · cases hother
        exact ⟨(h.closed hclosed).2.2 delivery hdelivery, origin, hdata, hbelongs⟩
      · cases hcalled
        intro data hdata'
        rw [hdata] at hdata'
        cases hdata'
        exact hbelongs
    · have hhanding := h.owed hclosed delivery hdelivery _ hdata
      have hregular := h.regular hclosed
      have hnodup := hhanding.nodup
      rw [hcallbacks] at hnodup
      obtain ⟨hnotLater, hlater⟩ := List.nodup_cons.mp hnodup
      have hattached : delivery.attached = true := by
        cases hbool : delivery.attached with
        | true => rfl
        | false =>
          have hnone := hhanding.detached hbool
          rw [hcallbacks] at hnone
          cases hnone
      refine
        { notFailed := ?_
          only := ?_
          handing := ?_
          regular := fun _ => hregular.conclude rfl rfl rfl hclosed rfl
          handed := fun _ hdone => by cases hdone
          owed := ?_
          closed := ?_ }
      · change (observed.failedByMessage || false) = false
        rw [h.notFailed]
        rfl
      · intro other hother called hcalled
        have hother : other ∈ observed.data := hother
        rw [hdata] at hother
        cases hother
        have hcalled : called ∈ observed.calls ++ [(delivery.subscription, listener)] :=
          hcalled
        rcases List.mem_append.mp hcalled with hcalled | hcalled
        · exact honly called hcalled
        · rw [List.mem_singleton.mp hcalled]
          exact hbelongs
      · intro next hnext
        cases hnext
        exact ⟨origin, hdata, hbelongs⟩
      · intro _ next hnext other hother
        cases hnext
        have hother : other ∈ observed.data := hother
        rw [hdata] at hother
        cases hother
        obtain ⟨entry, hfound, hmem, hrest⟩ := hhanding.attached hattached
        refine
          { nodup := hlater
            restNodup := hhanding.restNodup
            attached := fun _ => ⟨entry, hfound, fun other hother => ?_, hrest⟩
            detached := fun hfalse => ?_
            rest := hhanding.rest
            once := ?_ }
        · apply hmem
          rw [hcallbacks]
          exact List.mem_cons_of_mem _ hother
        · have hfalse : delivery.attached = false := hfalse
          rw [hattached] at hfalse
          cases hfalse
        · intro called hcalled hbelongs'
          have hcalled : called ∈
              if observed.session.closed then [] else observed.staying := hcalled
          rw [hclosed] at hcalled
          have honce := hhanding.once called hcalled hbelongs'
          change (observed.calls ++ [(delivery.subscription, listener)]).count called +
            Delivery.owes _ called = 1
          unfold Delivery.owes at honce ⊢
          rw [hcallbacks] at honce
          rw [List.count_append]
          dsimp only
          by_cases hpair : called = (delivery.subscription, listener)
          · rw [hpair] at honce ⊢
            rw [if_pos ⟨hattached, rfl, List.mem_cons_self⟩] at honce
            rw [List.count_singleton_self, if_neg (fun h => hnotLater h.2.2)]
            omega
          · have hsingle : [(delivery.subscription, listener)].count called = 0 :=
              List.count_eq_zero.mpr (by simpa using hpair)
            have hiff : (delivery.attached = true ∧ delivery.subscription = called.1 ∧
                  called.2 ∈ listener :: callbacks) ↔
                (delivery.attached = true ∧ delivery.subscription = called.1 ∧
                  called.2 ∈ callbacks) := by
              rw [List.mem_cons]
              constructor
              · rintro ⟨hattached, hsame, hfirst | hmem⟩
                · exact absurd (Prod.ext hsame.symm hfirst) hpair
                · exact ⟨hattached, hsame, hmem⟩
              · rintro ⟨hattached, hsame, hmem⟩
                exact ⟨hattached, hsame, .inr hmem⟩
            simp only [hiff] at honce
            rw [hsingle]
            omega
      · intro hfalse
        have hfalse : observed.session.closed = true := hfalse
        rw [hclosed] at hfalse
        cases hfalse

theorem Sound.receivedData (h : observed.Sound) (hopen : observed.session.closed = false)
    {origin : PublicSubscription} {message : PublicWebSocketEnvelope}
    (hsent : matchesSubscription origin message = true)
    (htaker : ∃ taker ∈ observed.active, belongs origin message taker.1 = true) :
    ((observed.hear (.data origin message)).conclude
      (observed.session.receive (Frame.data origin message).json)).Sound := by
  obtain ⟨hempty, hpong, hresponse⟩ := expectedChannel_ne origin
  rw [← channel_of_matches hsent] at hempty hpong hresponse
  have hreceive : observed.session.receive (Frame.data origin message).json =
      observed.session.nextEntry message false
        (observed.session.listeners.rows.map listenerKey) := by
    unfold WebSocketSession.receive Frame.json
    rw [Option.bind_some, parse_toJson hempty]
    dsimp only
    rw [if_neg hresponse, beq_false_of_ne hpong]
  obtain ⟨taker, htaker, hown⟩ := htaker
  have hregular := h.regular hopen
  obtain ⟨entry, hentry, -⟩ := (hregular.active taker.1 taker.2).mp htaker
  have htakerKey : subscriptionKey taker.1 ∈
      observed.session.listeners.rows.map listenerKey := by
    refine List.mem_map.mpr ⟨entry, (Keyed.find?_eq_some.mp hentry).1, ?_⟩
    exact Keyed.key_of_find? hentry
  rw [hreceive]
  refine @Sound.nextEntry (observed.hear (.data origin message)) (origin, message)
    ⟨message, origin, false, [], observed.session.listeners.rows.map listenerKey⟩ false
    ⟨hregular.entries, hregular.users, hregular.active, fun _ h => h, hregular.pending⟩
    hopen h.notFailed rfl rfl (fun listener hlistener => by cases hlistener) ?_ rfl
    (.inr ⟨_, htakerKey, entry, hentry, ?_⟩)
  · refine
      { nodup := List.nodup_nil
        restNodup := List.pairwise_map.mpr observed.session.listeners.unique
        attached := fun hfalse => by cases hfalse
        detached := fun _ => rfl
        rest := ?_
        once := ?_ }
    · intro key hkey
      obtain ⟨other, hother, rfl⟩ := List.mem_map.mp hkey
      have hfound := Keyed.find?_of_mem hother
      refine ⟨other, hfound, fun hmatches => belongs_of_matches hmatches hown ?_⟩
      intro channel user owner huser howner
      have hfirst := hregular.users _ other hfound channel user huser
      have hsecond := hregular.users _ entry hentry channel owner
        (subscription_of_find hentry ▸ howner)
      rw [hfirst] at hsecond
      exact Option.some.inj hsecond
    · intro listener hlistener _
      obtain ⟨other, hother, -⟩ := (hregular.active listener.1 listener.2).mp hlistener
      have hkey : subscriptionKey listener.1 ∈
          observed.session.listeners.rows.map listenerKey := by
        refine List.mem_map.mpr ⟨other, (Keyed.find?_eq_some.mp hother).1, ?_⟩
        exact Keyed.key_of_find? hother
      change ([] : List (PublicSubscription × ℕ)).count listener + Delivery.owes _ listener = 1
      unfold Delivery.owes
      rw [if_pos hkey]
      simp
  · rw [subscription_of_find hentry]
    exact matches_of_belongs hown

theorem Sound.receivedAcknowledgement (h : observed.Sound)
    (hlistening : observed.session.listening = true) {operation : WireOperation}
    {subscription : PublicSubscription}
    (hsent : observed.sent.head? = some (operation, subscription)) :
    ((observed.hear (.acknowledgement operation subscription)).conclude (observed.session.receive
        (Frame.acknowledgement operation subscription).json)).Sound := by
  unfold WebSocketSession.listening at hlistening
  rw [Bool.and_eq_true, Bool.not_eq_true', Option.isNone_iff_eq_none] at hlistening
  obtain ⟨hopen, hdone⟩ := hlistening
  obtain ⟨later, hlater⟩ : ∃ later, observed.sent = (operation, subscription) :: later :=
    ⟨_, (List.cons_head?_tail hsent).symm⟩
  have hregular := h.regular hopen
  have hpending := hregular.pending
  rw [hlater, List.map_cons] at hpending
  have hreceive : observed.session.receive
      (Frame.acknowledgement operation subscription).json =
        ({ observed.session with
            pendingOperations := later.map fun request => subscriptionKey request.2 }, .quiet) := by
    have hchannel : (acknowledgementMessage operation subscription).channel =
        "subscriptionResponse" := rfl
    have hnonempty : (acknowledgementMessage operation subscription).channel ≠ "" := by
      rw [hchannel]
      decide
    unfold WebSocketSession.receive Frame.json
    rw [Option.bind_some, parse_toJson hnonempty]
    dsimp only
    rw [if_pos hchannel, acknowledgedKey_message, hpending, if_pos List.mem_cons_self,
      List.erase_cons_head]
  rw [hreceive]
  refine
    { notFailed := ?_
      only := ?_
      handing := fun delivery hdelivery => ?_
      regular := fun _ => ?_
      handed := ?_
      owed := fun _ delivery hdelivery => ?_
      closed := fun hclosed => ?_ }
  · change (observed.failedByMessage || false) = false
    rw [h.notFailed]
    rfl
  · intro data hdata listener hlistener
    have hlistener : listener ∈ observed.calls ++ [] := hlistener
    rw [List.append_nil] at hlistener
    exact h.only data hdata listener hlistener
  · have hdelivery : delivery ∈ observed.session.delivering := hdelivery
    rw [hdone] at hdelivery
    cases hdelivery
  · refine ⟨hregular.entries, hregular.users, fun other listener => ?_, ?_, ?_⟩
    · change (other, listener) ∈ (if observed.session.closed then [] else observed.active) ↔ _
      rw [hopen]
      exact hregular.active other listener
    · change ∀ listener ∈ (if observed.session.closed then [] else observed.staying),
        listener ∈ if observed.session.closed then [] else observed.active
      rw [hopen]
      exact hregular.staying
    · change _ = (observed.sent.tail ++ []).map _
      rw [hlater, List.append_nil]
      rfl
  · intro _ _ data hdata listener hlistener hbelongs
    have hlistener : listener ∈ if observed.session.closed then [] else observed.staying :=
      hlistener
    rw [hopen] at hlistener
    change (observed.calls ++ []).count listener = 1
    rw [List.append_nil]
    exact h.handed hopen hdone data hdata listener hlistener hbelongs
  · have hdelivery : delivery ∈ observed.session.delivering := hdelivery
    rw [hdone] at hdelivery
    cases hdelivery
  · have hclosed : observed.session.closed = true := hclosed
    rw [hopen] at hclosed
    cases hclosed

theorem Sound.receivedPong (h : observed.Sound) (hlistening : observed.session.listening = true) :
    (observed.conclude (observed.session.receive Frame.pong.json)).Sound := by
  unfold WebSocketSession.listening at hlistening
  rw [Bool.and_eq_true, Bool.not_eq_true', Option.isNone_iff_eq_none] at hlistening
  obtain ⟨hopen, hdone⟩ := hlistening
  have hregular := h.regular hopen
  have hreceive : observed.session.receive Frame.pong.json =
      observed.session.nextEntry ⟨"pong", none⟩ true
        (observed.session.listeners.rows.map listenerKey) := by
    have hparse : parsePublicWebSocketMessage
        (PublicWebSocketEnvelope.toJson ⟨"pong", none⟩) = some ⟨"pong", none⟩ :=
      parse_toJson (by decide)
    unfold WebSocketSession.receive Frame.json
    rw [Option.bind_some, hparse]
    rfl
  rw [hreceive]
  rcases nextEntry_cases ⟨"pong", none⟩ true
    (observed.session.listeners.rows.map listenerKey)
    (fun key entry hfound => (hregular.entries key entry hfound).1) with
    ⟨-, hresult⟩ | ⟨-, -, -, entry, -, -, -, -, -, hmatches, -, -⟩
  · have hsame : { observed.session with delivering := none } = observed.session := by
      rw [← hdone]
    rw [hresult, WebSocketSession.nextEntry, if_pos rfl, hsame,
      conclude_unchanged hopen rfl rfl rfl]
    exact h
  · exact absurd (channel_of_matches hmatches).symm (expectedChannel_ne entry.subscription).2.1

theorem Sound.ofOpen (h : observed.Sound) (hopen : observed.session.closed = false)
    (hsession : session.closed = false)
    (hnotFailed : noted.failedByMessage = observed.failedByMessage)
    (hdata : noted.data = observed.data) (hcalls : noted.calls = observed.calls)
    (hstaying : ∀ listener ∈ noted.staying, listener ∈ observed.staying)
    (hregular : (noted.conclude (session, output)).Regular) (change : Delivery → Delivery)
    (hdelivering : session.delivering = observed.session.delivering.map change)
    (hchange : ∀ delivery, (change delivery).message = delivery.message ∧
      (change delivery).subscription = delivery.subscription)
    (howed : ∀ delivery ∈ observed.session.delivering, ∀ origin,
      observed.data = some (origin, delivery.message) → observed.Handing origin delivery →
        (noted.conclude (session, output)).Handing origin (change delivery))
    (hcalled : output.called = none) (hfailed : output.failedByMessage = false) :
    (noted.conclude (session, output)).Sound := by
  refine
    { notFailed := ?_
      only := ?_
      handing := ?_
      regular := fun _ => hregular
      handed := ?_
      owed := ?_
      closed := ?_ }
  · change (noted.failedByMessage || output.failedByMessage) = false
    rw [hnotFailed, h.notFailed, hfailed]
    rfl
  · intro data hmem listener hlistener
    have hmem : data ∈ noted.data := hmem
    have hlistener : listener ∈ noted.calls ++ output.called.toList := hlistener
    rw [hcalls, hcalled, Option.toList_none, List.append_nil] at hlistener
    rw [hdata] at hmem
    exact h.only data hmem listener hlistener
  · intro delivery hdelivery
    have hdelivery : session.delivering = some delivery := hdelivery
    rw [hdelivering, Option.map_eq_some_iff] at hdelivery
    obtain ⟨old, hold, rfl⟩ := hdelivery
    obtain ⟨origin, horigin, hbelongs⟩ := h.handing old hold
    rw [(hchange old).1, (hchange old).2]
    exact ⟨origin, hdata.trans horigin, hbelongs⟩
  · intro _ hdone data hmem listener hlistener hbelongs
    have hdone : session.delivering = none := hdone
    rw [hdelivering, Option.map_eq_none_iff] at hdone
    have hmem : data ∈ noted.data := hmem
    rw [hdata] at hmem
    have hlistener : listener ∈ if session.closed then [] else noted.staying := hlistener
    rw [hsession] at hlistener
    change (noted.calls ++ output.called.toList).count listener = 1
    rw [hcalls, hcalled, Option.toList_none, List.append_nil]
    exact h.handed hopen hdone data hmem listener (hstaying listener hlistener) hbelongs
  · intro _ delivery hdelivery data hmem
    have hdelivery : session.delivering = some delivery := hdelivery
    rw [hdelivering, Option.map_eq_some_iff] at hdelivery
    obtain ⟨old, hold, rfl⟩ := hdelivery
    obtain ⟨origin, horigin, -⟩ := h.handing old hold
    have hmem : noted.data = some data := hmem
    rw [hdata, horigin] at hmem
    cases hmem
    exact howed old hold origin horigin (h.owed hopen old hold _ horigin)
  · intro hclosed
    have hclosed : session.closed = true := hclosed
    rw [hsession] at hclosed
    cases hclosed

end

end ObservedSession

end HyperTrader
