import HyperTrader.Transport.Subscriptions

/-!
# Handing a message out

While a message is handed out, each listener it is for that stays subscribed has been
called, or is still to be: among the callbacks of the current entry, or in an entry still
to be visited. A callback that subscribes or unsubscribes changes these lists as it
changes the map, so nobody else is called twice or missed.
-/

namespace HyperTrader

open Library

/-! ### The loops -/

theorem nextEntry_cases {session : WebSocketSession} (message : PublicWebSocketEnvelope)
    (matched : Bool) (rest : List String)
    (hentries : ∀ key entry, session.listeners.find? key = some entry → entry.callbacks ≠ []) :
    ((∀ key ∈ rest, ∀ entry, session.listeners.find? key = some entry →
        matchesSubscription entry.subscription message = false) ∧
      session.nextEntry message matched rest = session.nextEntry message matched []) ∨
    ∃ before key after entry listener callbacks, rest = before ++ key :: after ∧
      (∀ other ∈ before, ∀ entry, session.listeners.find? other = some entry →
        matchesSubscription entry.subscription message = false) ∧
      session.listeners.find? key = some entry ∧
      matchesSubscription entry.subscription message = true ∧
      entry.callbacks = listener :: callbacks ∧
      session.nextEntry message matched rest =
        ({ session with
            delivering := some ⟨message, entry.subscription, true, callbacks, after⟩ },
          .call entry.subscription listener) := by
  induction rest with
  | nil =>
    refine .inl ⟨fun key hkey => ?_, rfl⟩
    cases hkey
  | cons key rest ih =>
    -- Unless the loop stops at this entry, it goes on as from the next.
    have hskip : (∀ entry, session.listeners.find? key = some entry →
          matchesSubscription entry.subscription message = false) →
        session.nextEntry message matched (key :: rest) =
          session.nextEntry message matched rest := by
      intro hnone
      rw [WebSocketSession.nextEntry]
      split
      · rfl
      · rename_i entry hfound
        rw [hnone entry hfound]
        rfl
    have hlater : (∀ entry, session.listeners.find? key = some entry →
          matchesSubscription entry.subscription message = false) →
        ∀ list : List String, (∀ other ∈ list, ∀ entry, session.listeners.find? other = some entry →
            matchesSubscription entry.subscription message = false) →
        ∀ other ∈ key :: list, ∀ entry, session.listeners.find? other = some entry →
          matchesSubscription entry.subscription message = false := by
      intro hnone list hlist other hother entry hfound
      rcases List.mem_cons.mp hother with rfl | hother
      · exact hnone entry hfound
      · exact hlist other hother entry hfound
    by_cases hstop : ∃ entry, session.listeners.find? key = some entry ∧
        matchesSubscription entry.subscription message = true
    · obtain ⟨entry, hfound, hmatches⟩ := hstop
      cases hcallbacks : entry.callbacks with
      | nil => exact absurd hcallbacks (hentries key entry hfound)
      | cons listener callbacks =>
        refine .inr ⟨[], key, rest, entry, listener, callbacks, rfl, ?_, hfound,
          hmatches, hcallbacks, ?_⟩
        · intro other hother
          cases hother
        · rw [WebSocketSession.nextEntry, hfound]
          dsimp only
          rw [if_pos hmatches, hcallbacks]
    · have hnone : ∀ entry, session.listeners.find? key = some entry →
          matchesSubscription entry.subscription message = false := by
        intro entry hfound
        by_contra hmatches
        exact hstop ⟨entry, hfound, by simpa using hmatches⟩
      rw [hskip hnone]
      rcases ih with ⟨hrest, hresult⟩ | ⟨before, other, after, entry, listener,
        callbacks, rfl, hbefore, hother⟩
      · exact .inl ⟨hlater hnone rest hrest, hresult⟩
      · exact .inr ⟨key :: before, other, after, entry, listener, callbacks, rfl,
          hlater hnone before hbefore, hother⟩

def Delivery.owes (delivery : Delivery) (listener : PublicSubscription × ℕ) : ℕ :=
  (if delivery.attached = true ∧ delivery.subscription = listener.1 ∧
      listener.2 ∈ delivery.callbacks then 1 else 0) +
    if subscriptionKey listener.1 ∈ delivery.rest then 1 else 0

namespace ObservedSession

structure Regular (observed : ObservedSession) : Prop where
  entries : ∀ key entry, observed.session.listeners.find? key = some entry →
    entry.callbacks ≠ [] ∧ entry.callbacks.Nodup
  users : ∀ key entry, observed.session.listeners.find? key = some entry →
    ∀ channel user, entry.subscription.exclusive = some (channel, user) →
      observed.session.exclusiveUsers channel = some user
  active : ∀ subscription listener, (subscription, listener) ∈ observed.active ↔
    ∃ entry, observed.session.listeners.find? (subscriptionKey subscription) = some entry ∧
      listener ∈ entry.callbacks
  staying : ∀ listener ∈ observed.staying, listener ∈ observed.active
  pending : observed.session.pendingOperations =
    observed.sent.map fun request => subscriptionKey request.2

structure Handing (observed : ObservedSession) (origin : PublicSubscription)
    (delivery : Delivery) : Prop where
  nodup : delivery.callbacks.Nodup
  restNodup : delivery.rest.Nodup
  attached : delivery.attached = true → ∃ entry,
    observed.session.listeners.find? (subscriptionKey delivery.subscription) = some entry ∧
      (∀ listener ∈ delivery.callbacks, listener ∈ entry.callbacks) ∧
      subscriptionKey delivery.subscription ∉ delivery.rest
  detached : delivery.attached = false → delivery.callbacks = []
  rest : ∀ key ∈ delivery.rest, ∃ entry,
    observed.session.listeners.find? key = some entry ∧
      (matchesSubscription entry.subscription delivery.message = true →
        belongs origin delivery.message entry.subscription = true)
  once : ∀ listener ∈ observed.staying,
    belongs origin delivery.message listener.1 = true →
      observed.calls.count listener + delivery.owes listener = 1

structure Sound (observed : ObservedSession) : Prop where
  notFailed : observed.failedByMessage = false
  only : ∀ data ∈ observed.data, ∀ listener ∈ observed.calls,
    belongs data.1 data.2 listener.1 = true
  handing : ∀ delivery ∈ observed.session.delivering, ∃ origin,
    observed.data = some (origin, delivery.message) ∧
      belongs origin delivery.message delivery.subscription = true
  regular : observed.session.closed = false → observed.Regular
  handed : observed.session.closed = false → observed.session.delivering = none →
    ∀ data ∈ observed.data, ∀ listener ∈ observed.staying,
      belongs data.1 data.2 listener.1 = true → observed.calls.count listener = 1
  owed : observed.session.closed = false → ∀ delivery ∈ observed.session.delivering,
    ∀ data ∈ observed.data, observed.Handing data.1 delivery
  closed : observed.session.closed = true → observed.session.listeners = Keyed.empty ∧
    observed.staying = [] ∧ ∀ delivery ∈ observed.session.delivering, delivery.rest = []

theorem sound_opened (maximum : ℕ) (h : 1 ≤ maximum ∧ maximum ≤ 700) :
    (opened maximum h).Sound where
  notFailed := rfl
  only data hdata := by cases hdata
  handing delivery hdelivery := by cases hdelivery
  regular _ :=
    { entries := fun key entry hfound => by cases hfound
      users := fun key entry hfound => by cases hfound
      active := fun subscription listener => by
        constructor
        · intro hmem
          cases hmem
        · rintro ⟨entry, hfound, -⟩
          cases hfound
      staying := fun listener hlistener => by cases hlistener
      pending := rfl }
  handed _ _ data hdata := by cases hdata
  owed _ delivery hdelivery := by cases hdelivery
  closed hclosed := by cases hclosed

theorem Sound.delivered {observed : ObservedSession} (h : observed.Sound) :
    observed.Delivered where
  notFailed := h.notFailed
  only := h.only
  once hdone data hdata listener hlistener hbelongs := by
    cases hclosed : observed.session.closed with
    | false => exact h.handed hclosed hdone data hdata listener hlistener hbelongs
    | true =>
      rw [(h.closed hclosed).2.1] at hlistener
      cases hlistener

section

variable {observed : ObservedSession} {session : WebSocketSession}

theorem subscription_of_find {subscription : PublicSubscription} {entry : ListenerEntry}
    (h : session.listeners.find? (subscriptionKey subscription) = some entry) :
    entry.subscription = subscription := by
  have hkey : listenerKey entry = subscriptionKey subscription := Keyed.key_of_find? h
  exact subscriptionKey_injective hkey

theorem Regular.conclude (h : observed.Regular) {result : WebSocketSession × WebSocketOutput}
    (hlisteners : result.1.listeners = observed.session.listeners)
    (husers : result.1.exclusiveUsers = observed.session.exclusiveUsers)
    (hpending : result.1.pendingOperations = observed.session.pendingOperations)
    (hopen : result.1.closed = false) (hsent : result.2.sent = none) :
    (observed.conclude result).Regular where
  entries := by
    change ∀ key entry, result.1.listeners.find? key = some entry → _
    rw [hlisteners]
    exact h.entries
  users := by
    change ∀ key entry, result.1.listeners.find? key = some entry → ∀ channel user,
      entry.subscription.exclusive = some (channel, user) →
        result.1.exclusiveUsers channel = some user
    rw [hlisteners, husers]
    exact h.users
  active subscription listener := by
    change (subscription, listener) ∈ (if result.1.closed then [] else observed.active) ↔
      ∃ entry, result.1.listeners.find? _ = some entry ∧ _
    rw [hopen, hlisteners]
    exact h.active subscription listener
  staying := by
    change ∀ listener ∈ (if result.1.closed then [] else observed.staying),
      listener ∈ if result.1.closed then [] else observed.active
    rw [hopen]
    exact h.staying
  pending := by
    change result.1.pendingOperations = (observed.sent ++ result.2.sent.toList).map _
    rw [hpending, hsent, h.pending]
    simp

/-- A session that is closed: nobody is subscribed, and what is left of the callbacks of
the current entry may still be called. -/
theorem Sound.ofClosed {output : WebSocketOutput} (hnotFailed : observed.failedByMessage = false)
    (honly : ∀ data ∈ observed.data, ∀ listener ∈ observed.calls,
      belongs data.1 data.2 listener.1 = true)
    (hhanding : ∀ delivery ∈ session.delivering, delivery.rest = [] ∧ ∃ origin,
      observed.data = some (origin, delivery.message) ∧
        belongs origin delivery.message delivery.subscription = true)
    (hclosed : session.closed = true) (hlisteners : session.listeners = Keyed.empty)
    (hcalled : ∀ listener ∈ output.called, ∀ data ∈ observed.data,
      belongs data.1 data.2 listener.1 = true) (hfailed : output.failedByMessage = false) :
    (observed.conclude (session, output)).Sound where
  notFailed := by
    change (observed.failedByMessage || output.failedByMessage) = false
    rw [hnotFailed, hfailed]
    rfl
  only data hdata listener hlistener := by
    have hlistener : listener ∈ observed.calls ++ output.called.toList := hlistener
    rcases List.mem_append.mp hlistener with hlistener | hlistener
    · exact honly data hdata listener hlistener
    · exact hcalled listener (Option.mem_toList.mp hlistener) data hdata
  handing delivery hdelivery := (hhanding delivery hdelivery).2
  regular hopen := by
    have hopen : session.closed = false := hopen
    rw [hclosed] at hopen
    cases hopen
  handed hopen := by
    have hopen : session.closed = false := hopen
    rw [hclosed] at hopen
    cases hopen
  owed hopen := by
    have hopen : session.closed = false := hopen
    rw [hclosed] at hopen
    cases hopen
  closed _ := by
    refine ⟨hlisteners, ?_, fun delivery hdelivery => (hhanding delivery hdelivery).1⟩
    change (if session.closed then [] else observed.staying) = []
    rw [hclosed]
    rfl

/-- The next listener of a message asked for what the message carries. -/
theorem Sound.nextEntry {data : PublicSubscription × PublicWebSocketEnvelope}
    {delivery : Delivery} {matched : Bool} (hregular : observed.Regular)
    (hopen : observed.session.closed = false) (hnotFailed : observed.failedByMessage = false)
    (hdata : observed.data = some data) (hmessage : delivery.message = data.2)
    (honly : ∀ listener ∈ observed.calls, belongs data.1 data.2 listener.1 = true)
    (h : observed.Handing data.1 delivery) (hempty : delivery.callbacks = [])
    (hmatched : matched = true ∨ ∃ key ∈ delivery.rest, ∃ entry,
      observed.session.listeners.find? key = some entry ∧
        matchesSubscription entry.subscription data.2 = true) :
    (observed.conclude (observed.session.nextEntry data.2 matched delivery.rest)).Sound := by
  have howes : ∀ listener, delivery.owes listener =
      if subscriptionKey listener.1 ∈ delivery.rest then 1 else 0 := by
    intro listener
    unfold Delivery.owes
    rw [hempty]
    simp
  rcases nextEntry_cases data.2 matched delivery.rest
    (fun key entry hfound => (hregular.entries key entry hfound).1) with
    ⟨hnone, hresult⟩ | ⟨before, key, after, entry, listener, callbacks, hrest, hbefore,
      hfound, hmatches, hcallbacks, hresult⟩
  · have hmatched : matched = true := by
      rcases hmatched with hmatched | ⟨key, hkey, entry, hfound, hmatches⟩
      · exact hmatched
      · rw [hnone key hkey entry hfound] at hmatches
        cases hmatches
    rw [hresult, hmatched]
    refine
      { notFailed := ?_
        only := ?_
        handing := fun delivery hdelivery => by cases hdelivery
        regular := fun _ => hregular.conclude rfl rfl rfl hopen rfl
        handed := ?_
        owed := fun _ delivery hdelivery => by cases hdelivery
        closed := ?_ }
    · change (observed.failedByMessage || false) = false
      rw [hnotFailed]
      rfl
    · intro other hother listener hlistener
      have hother : other ∈ observed.data := hother
      rw [hdata] at hother
      cases hother
      have hlistener : listener ∈ observed.calls ++ [] := hlistener
      rw [List.append_nil] at hlistener
      exact honly listener hlistener
    · intro _ _ other hother listener hlistener hbelongs
      have hother : other ∈ observed.data := hother
      rw [hdata] at hother
      cases hother
      have hlistener : listener ∈ if observed.session.closed then [] else observed.staying :=
        hlistener
      rw [hopen] at hlistener
      change (observed.calls ++ []).count listener = 1
      rw [List.append_nil]
      have honce := h.once listener hlistener (hmessage ▸ hbelongs)
      rw [howes, if_neg] at honce
      · exact honce
      · intro hmem
        obtain ⟨entry, hfound, -⟩ := h.rest _ hmem
        have hnot := hnone _ hmem entry hfound
        rw [subscription_of_find hfound, matches_of_belongs hbelongs] at hnot
        cases hnot
    · intro hclosed
      have hclosed : observed.session.closed = true := hclosed
      rw [hopen] at hclosed
      cases hclosed
  · have hkey : key = subscriptionKey entry.subscription :=
      (Keyed.key_of_find? hfound).symm
    have hmem : key ∈ delivery.rest := by
      rw [hrest]
      exact List.mem_append_right _ List.mem_cons_self
    have hown : belongs data.1 data.2 entry.subscription = true := by
      obtain ⟨other, hother, hbelongs⟩ := h.rest key hmem
      rw [hfound] at hother
      cases hother
      rw [hmessage] at hbelongs
      exact hbelongs hmatches
    have hnodup := h.restNodup
    rw [hrest] at hnodup
    obtain ⟨-, hnodupAfter, hdisjoint⟩ := List.nodup_append.mp hnodup
    obtain ⟨hkeyAfter, hafter⟩ := List.nodup_cons.mp hnodupAfter
    have hentryNodup := (hregular.entries key entry hfound).2
    rw [hcallbacks] at hentryNodup
    obtain ⟨hlistenerRest, hcallbacksNodup⟩ := List.nodup_cons.mp hentryNodup
    rw [hresult]
    refine
      { notFailed := ?_
        only := ?_
        handing := ?_
        regular := fun _ => hregular.conclude rfl rfl rfl hopen rfl
        handed := fun _ hdone => by cases hdone
        owed := ?_
        closed := ?_ }
    · change (observed.failedByMessage || false) = false
      rw [hnotFailed]
      rfl
    · intro other hother called hcalled
      have hother : other ∈ observed.data := hother
      rw [hdata] at hother
      cases hother
      have hcalled : called ∈ observed.calls ++ [(entry.subscription, listener)] := hcalled
      rcases List.mem_append.mp hcalled with hcalled | hcalled
      · exact honly called hcalled
      · rw [List.mem_singleton.mp hcalled]
        exact hown
    · intro next hnext
      cases hnext
      exact ⟨data.1, hdata, hown⟩
    · intro _ next hnext other hother
      cases hnext
      have hother : other ∈ observed.data := hother
      rw [hdata] at hother
      cases hother
      refine
        { nodup := hcallbacksNodup
          restNodup := hafter
          attached := fun _ => ⟨entry, ?_, ?_, ?_⟩
          detached := fun hfalse => by cases hfalse
          rest := ?_
          once := ?_ }
      · change observed.session.listeners.find? (subscriptionKey entry.subscription) = _
        rw [← hkey]
        exact hfound
      · intro other hother
        rw [hcallbacks]
        exact List.mem_cons_of_mem _ hother
      · rw [← hkey]
        exact hkeyAfter
      · intro other hother
        have hrestOther := h.rest other (by
          rw [hrest]
          exact List.mem_append_right _ (List.mem_cons_of_mem _ hother))
        rw [hmessage] at hrestOther
        exact hrestOther
      · intro called hcalled hbelongs
        have hcalled : called ∈ if observed.session.closed then [] else observed.staying :=
          hcalled
        rw [hopen] at hcalled
        have honce := h.once called hcalled (hmessage ▸ hbelongs)
        rw [howes, hrest] at honce
        change (observed.calls ++ [(entry.subscription, listener)]).count called +
          Delivery.owes _ called = 1
        rw [List.count_append]
        unfold Delivery.owes
        dsimp only
        -- An entry that was passed over does not match, so the listener is not there.
        have hnotBefore : subscriptionKey called.1 ∉ before := by
          intro hbeforeMem
          obtain ⟨passed, hpassed, -⟩ := h.rest _ (by
            rw [hrest]
            exact List.mem_append_left _ hbeforeMem)
          have hnot := hbefore _ hbeforeMem passed hpassed
          rw [subscription_of_find hpassed, matches_of_belongs hbelongs] at hnot
          cases hnot
        by_cases hsame : entry.subscription = called.1
        · have hkeySame : subscriptionKey called.1 = key := by rw [← hsame, hkey]
          rw [if_pos (by rw [hkeySame]; exact List.mem_append_right _ List.mem_cons_self)]
            at honce
          have hin : called.2 ∈ entry.callbacks := by
            obtain ⟨other, hother, hmem⟩ :=
              (hregular.active called.1 called.2).mp (hregular.staying called hcalled)
            rw [hkeySame, hfound] at hother
            cases hother
            exact hmem
          rw [hcallbacks] at hin
          have hafterNot : subscriptionKey called.1 ∉ after := by
            rw [hkeySame]
            exact hkeyAfter
          rw [if_neg hafterNot]
          rcases List.mem_cons.mp hin with hfirst | hlater
          · have hpair : called = (entry.subscription, listener) :=
              Prod.ext hsame.symm hfirst
            rw [if_neg (by rintro ⟨-, -, hmem⟩; rw [hfirst] at hmem; exact hlistenerRest hmem),
              hpair, List.count_singleton_self, ← hpair]
            omega
          · have hne : called ≠ (entry.subscription, listener) := by
              rintro rfl
              exact hlistenerRest hlater
            have hsingle : [(entry.subscription, listener)].count called = 0 :=
              List.count_eq_zero.mpr (by simpa using hne)
            rw [if_pos ⟨rfl, hsame, hlater⟩, hsingle]
            omega
        · have hne : called ≠ (entry.subscription, listener) := by
            rintro rfl
            exact hsame rfl
          have hkeyNe : subscriptionKey called.1 ≠ key := by
            rw [hkey]
            intro hkeySame
            exact hsame (subscriptionKey_injective hkeySame).symm
          have hiff : subscriptionKey called.1 ∈ before ++ key :: after ↔
              subscriptionKey called.1 ∈ after := by
            rw [List.mem_append, List.mem_cons]
            constructor
            · rintro (hmem | hmem | hmem)
              · exact absurd hmem hnotBefore
              · exact absurd hmem hkeyNe
              · exact hmem
            · intro hmem
              exact .inr (.inr hmem)
          have hsingle : [(entry.subscription, listener)].count called = 0 :=
            List.count_eq_zero.mpr (by simpa using hne)
          rw [if_neg (fun h => hsame h.2.1), hsingle]
          simp only [hiff] at honce
          omega
    · intro hclosed
      have hclosed : observed.session.closed = true := hclosed
      rw [hopen] at hclosed
      cases hclosed

end

end ObservedSession

end HyperTrader
