import HyperTrader.Transport.Multiplexing

/-!
# Calls of the listeners, and whole runs

Subscribing and unsubscribing keep what holds of a session, also from within a callback:
they change the lists of the message that is handed out as they change the map. So along
every run in which each data message finds somebody it is for, no message fails the
session and nobody who stays misses one.
-/

namespace HyperTrader

open Library

/-- The session whose entry of a key has other callbacks, as has what is handed out. -/
def WebSocketSession.changeCallbacks (session : WebSocketSession) (key : String)
    (change : List ℕ → List ℕ) : WebSocketSession :=
  { session with
    listeners := session.listeners.update (fun other => listenerKey other == key)
      (fun other => { other with callbacks := change other.callbacks }) fun _ => rfl
    delivering := session.delivering.map fun delivery =>
      if delivery.isOver key then { delivery with callbacks := change delivery.callbacks }
      else delivery }

namespace ObservedSession

section

variable {observed : ObservedSession} {delivery : Delivery} {subscription : PublicSubscription}
  {entry : ListenerEntry} {listener : ℕ}

theorem Handing.of {noted : ObservedSession} {session : WebSocketSession}
    {output : WebSocketOutput} {origin : PublicSubscription} {next : Delivery}
    (h : observed.Handing origin delivery) (hsession : session.closed = false)
    (hcalls : noted.calls = observed.calls)
    (hstaying : ∀ listener ∈ noted.staying, listener ∈ observed.staying)
    (hcalled : output.called = none) (hmessage : next.message = delivery.message)
    (hnodup : next.callbacks.Nodup) (hrestNodup : next.rest.Nodup)
    (hattached : next.attached = true → ∃ entry,
      session.listeners.find? (subscriptionKey next.subscription) = some entry ∧
        (∀ listener ∈ next.callbacks, listener ∈ entry.callbacks) ∧
        subscriptionKey next.subscription ∉ next.rest)
    (hdetached : next.attached = false → next.callbacks = [])
    (hrest : ∀ key ∈ next.rest, ∃ entry, session.listeners.find? key = some entry ∧
      (matchesSubscription entry.subscription delivery.message = true →
        belongs origin delivery.message entry.subscription = true))
    (howes : ∀ listener ∈ noted.staying, next.owes listener = delivery.owes listener) :
    (noted.conclude (session, output)).Handing origin next where
  nodup := hnodup
  restNodup := hrestNodup
  attached := hattached
  detached := hdetached
  rest := by
    rw [hmessage]
    exact hrest
  once listener hlistener hbelongs := by
    have hlistener : listener ∈ if session.closed then [] else noted.staying := hlistener
    rw [hsession] at hlistener
    rw [hmessage] at hbelongs
    change (noted.calls ++ output.called.toList).count listener + next.owes listener = 1
    rw [hcalls, hcalled, Option.toList_none, List.append_nil, howes listener hlistener]
    exact h.once listener (hstaying listener hlistener) hbelongs

theorem isOver_iff :
    delivery.isOver (subscriptionKey subscription) = true ↔
      delivery.attached = true ∧ delivery.subscription = subscription := by
  unfold Delivery.isOver
  rw [Bool.and_eq_true, beq_iff_eq, subscriptionKey_injective.eq_iff]

/-! ### A listener more, or one of several less -/

structure CallbackChange (change : List ℕ → List ℕ) (callbacks : List ℕ) (listener : ℕ) :
    Prop where
  nodup : ∀ list, (∀ called ∈ list, called ∈ callbacks) → list.Nodup → (change list).Nodup
  mono : ∀ list, (∀ called ∈ list, called ∈ callbacks) →
    ∀ called ∈ change list, called ∈ change callbacks
  others : ∀ list called, called ≠ listener → (called ∈ change list ↔ called ∈ list)

theorem Sound.changeCallbacks (h : observed.Sound) (hopen : observed.session.closed = false)
    (hfound : observed.session.listeners.find? (subscriptionKey subscription) = some entry)
    {change : List ℕ → List ℕ} (hchange : CallbackChange change entry.callbacks listener)
    (hne : change entry.callbacks ≠ []) {active staying : List (PublicSubscription × ℕ)}
    (hactive : ∀ called, called ∈ active ↔ if called.1 = subscription then
      called.2 ∈ change entry.callbacks else called ∈ observed.active)
    (hstaying : ∀ called ∈ staying, called ∈ observed.staying ∧ called ≠ (subscription, listener)) :
    (({ observed with active := active, staying := staying } : ObservedSession).conclude
      (observed.session.changeCallbacks (subscriptionKey subscription) change, .quiet)).Sound := by
  have hregular := h.regular hopen
  have hsubscription : entry.subscription = subscription := subscription_of_find hfound
  have hlookup : ∀ key, (observed.session.changeCallbacks (subscriptionKey subscription)
      change).listeners.find? key = if key = subscriptionKey subscription then
        some { entry with callbacks := change entry.callbacks }
      else observed.session.listeners.find? key := by
    intro key
    unfold WebSocketSession.changeCallbacks
    dsimp only
    rw [Keyed.find?_update_key]
    split
    · rename_i hsame
      rw [hsame, hfound]
      rfl
    · rfl
  -- Whoever stays is called as before.
  have hkept : ∀ called ∈ staying, called.1 = subscription → called.2 ≠ listener :=
    fun called hcalled hown hequal => (hstaying called hcalled).2 (Prod.ext hown hequal)
  refine h.ofOpen hopen hopen rfl rfl rfl (fun called hmem => (hstaying called hmem).1) ?_
    (fun delivery => if delivery.isOver (subscriptionKey subscription) then
      { delivery with callbacks := change delivery.callbacks } else delivery) rfl
    (fun delivery => by split <;> exact ⟨rfl, rfl⟩) ?_ rfl rfl
  · refine ⟨fun key other hother => ?_, fun key other hother => ?_, fun other called => ?_, ?_, ?_⟩
    · have hother := (hlookup key).symm.trans hother
      split at hother
      · cases hother
        have hentry := (hregular.entries _ entry hfound).2
        exact ⟨hne, hchange.nodup _ (fun _ hmem => hmem) hentry⟩
      · exact hregular.entries key other hother
    · have hother := (hlookup key).symm.trans hother
      split at hother
      · cases hother
        exact hregular.users _ entry hfound
      · exact hregular.users key other hother
    · change (other, called) ∈ (if observed.session.closed then [] else active) ↔ ∃ found,
        (observed.session.changeCallbacks _ change).listeners.find? _ = some found ∧ _
      rw [hopen, hlookup, if_neg Bool.false_ne_true, hactive]
      by_cases hsame : other = subscription
      · rw [if_pos hsame, hsame, if_pos rfl]
        simp
      · have hkeys : subscriptionKey other ≠ subscriptionKey subscription :=
          fun hkeys => hsame (subscriptionKey_injective hkeys)
        rw [if_neg hsame, if_neg hkeys, hregular.active other called]
    · change ∀ called ∈ (if observed.session.closed then [] else staying),
        called ∈ if observed.session.closed then [] else active
      rw [hopen]
      intro called hcalled
      have hold := hregular.staying called (hstaying called hcalled).1
      change called ∈ active
      rw [hactive]
      split
      · rename_i hown
        obtain ⟨other, hother, hcallback⟩ := (hregular.active called.1 called.2).mp hold
        rw [hown, hfound] at hother
        cases hother
        exact (hchange.others _ _ (hkept called hcalled hown)).mpr hcallback
      · exact hold
    · change observed.session.pendingOperations = (observed.sent ++ []).map _
      rw [List.append_nil]
      exact hregular.pending
  · intro delivery hdelivery origin horigin hhanding
    by_cases hover : delivery.isOver (subscriptionKey subscription) = true
    · rw [if_pos hover]
      obtain ⟨hattached, hsame⟩ := isOver_iff.mp hover
      obtain ⟨other, hother, hcallbacks, hrest⟩ := hhanding.attached hattached
      rw [hsame, hfound] at hother
      cases hother
      refine hhanding.of hopen rfl (fun called hmem => (hstaying called hmem).1) rfl rfl
        (hchange.nodup _ hcallbacks hhanding.nodup) hhanding.restNodup
        (fun _ => ⟨_, (hlookup _).trans (if_pos (by rw [hsame])), ?_, hrest⟩)
        (fun hfalse => ?_) (fun key hmem => ?_) fun called hcalled => ?_
      · exact hchange.mono _ hcallbacks
      · exact absurd (hattached.symm.trans hfalse) Bool.noConfusion
      · obtain ⟨found, hlater, hbelongs⟩ := hhanding.rest key hmem
        have hother : key ≠ subscriptionKey subscription := by
          rintro rfl
          rw [hsame] at hrest
          exact hrest hmem
        exact ⟨found, (hlookup key).trans ((if_neg hother).trans hlater), hbelongs⟩
      · unfold Delivery.owes
        have hiff : (delivery.subscription = called.1 ∧ called.2 ∈ change delivery.callbacks) ↔
            (delivery.subscription = called.1 ∧ called.2 ∈ delivery.callbacks) :=
          and_congr_right fun hown =>
            hchange.others _ _ (hkept called hcalled (hown.symm.trans hsame))
        simp only [hiff]
    · rw [if_neg hover]
      refine hhanding.of hopen rfl (fun called hmem => (hstaying called hmem).1) rfl rfl
        hhanding.nodup hhanding.restNodup (fun hattached => ?_) hhanding.detached
        (fun key hmem => ?_) fun called hcalled => rfl
      · obtain ⟨other, hother, hcallbacks, hrest⟩ := hhanding.attached hattached
        have hkeys : subscriptionKey delivery.subscription ≠ subscriptionKey subscription :=
          fun hkeys => hover (isOver_iff.mpr ⟨hattached, subscriptionKey_injective hkeys⟩)
        exact ⟨other, (hlookup _).trans ((if_neg hkeys).trans hother), hcallbacks, hrest⟩
      · obtain ⟨found, hlater, hbelongs⟩ := hhanding.rest key hmem
        by_cases hsame : key = subscriptionKey subscription
        · rw [hsame, hfound] at hlater
          cases hlater
          exact ⟨_, (hlookup key).trans (if_pos hsame), hbelongs⟩
        · exact ⟨found, (hlookup key).trans ((if_neg hsame).trans hlater), hbelongs⟩

theorem Sound.addCallback (h : observed.Sound) (hopen : observed.session.closed = false)
    (hfound : observed.session.listeners.find? (subscriptionKey subscription) = some entry)
    (hnew : listener ∉ entry.callbacks) :
    (({ observed with active := observed.active ++ [(subscription, listener)] } :
      ObservedSession).conclude (observed.session.addCallback entry listener, .quiet)).Sound := by
  have hregular := h.regular hopen
  have hsubscription : entry.subscription = subscription := subscription_of_find hfound
  have hresult : observed.session.addCallback entry listener =
      observed.session.changeCallbacks (subscriptionKey subscription) (· ++ [listener]) := by
    unfold WebSocketSession.addCallback
    rw [if_neg hnew, ← hsubscription]
    rfl
  have hchange : CallbackChange (· ++ [listener]) entry.callbacks listener := by
    refine ⟨fun list hlist hnodup => ?_, fun list hlist called hcalled => ?_,
      fun list called hne => by simp [hne]⟩
    · refine List.nodup_append.mpr ⟨hnodup, List.nodup_singleton listener, ?_⟩
      rintro a ha _ hb rfl
      rw [List.mem_singleton] at hb
      exact hnew (hb ▸ hlist a ha)
    · rcases List.mem_append.mp hcalled with hcalled | hcalled
      · exact List.mem_append_left _ (hlist called hcalled)
      · exact List.mem_append_right _ hcalled
  rw [hresult]
  refine h.changeCallbacks hopen hfound hchange (by simp) (fun called => ?_) fun called hmem =>
    ⟨hmem, ?_⟩
  · obtain ⟨other, called⟩ := called
    rw [List.mem_append, List.mem_singleton, Prod.mk.injEq]
    dsimp only
    split
    · rename_i hown
      rw [hown, hregular.active, hfound]
      simp
    · rename_i hother
      simp [hother]
  · rintro rfl
    obtain ⟨other, hother, hcallback⟩ :=
      (hregular.active subscription listener).mp (hregular.staying _ hmem)
    rw [hfound] at hother
    cases hother
    exact hnew hcallback

theorem mem_filter_ne {listeners : List (PublicSubscription × ℕ)}
    {listener called : PublicSubscription × ℕ}
    (h : called ∈ listeners.filter fun other => other ≠ listener) :
    called ∈ listeners ∧ called ≠ listener := by
  rw [List.mem_filter] at h
  exact ⟨h.1, by simpa using h.2⟩

theorem Sound.deleteCallback (h : observed.Sound) (hopen : observed.session.closed = false)
    (hfound : observed.session.listeners.find? (subscriptionKey subscription) = some entry)
    (hothers : (entry.callbacks.filter fun other => other ≠ listener) ≠ []) :
    (({ observed with
        active := observed.active.filter fun other => other ≠ (subscription, listener)
        staying := observed.staying.filter fun other =>
          other ≠ (subscription, listener) } : ObservedSession).conclude
      (observed.session.deleteCallback (subscriptionKey subscription) listener, .quiet)).Sound := by
  have hchange : CallbackChange (List.filter fun other => other ≠ listener) entry.callbacks
      listener := by
    refine ⟨fun list _ hnodup => hnodup.filter _, fun list hlist called hcalled => ?_,
      fun list called hne => by simp [hne]⟩
    obtain ⟨hmem, hne⟩ := List.mem_filter.mp hcalled
    exact List.mem_filter.mpr ⟨hlist called hmem, hne⟩
  refine h.changeCallbacks hopen hfound hchange hothers (fun called => ?_)
    fun called hmem => mem_filter_ne hmem
  obtain ⟨other, called⟩ := called
  rw [List.mem_filter]
  dsimp only
  split
  · rename_i hown
    rw [hown, (h.regular hopen).active, hfound]
    simp
  · rename_i hother
    simp [hother]

theorem Sound.enter (h : observed.Sound) (hopen : observed.session.closed = false)
    (hnone : observed.session.listeners.find? (subscriptionKey subscription) = none)
    (hfree : observed.session.isTaken subscription = false)
    (howner : ∀ delivery ∈ observed.session.delivering, ∀ data ∈ observed.data,
      matchesSubscription subscription data.2 = true → belongs data.1 data.2 subscription = true) :
    (({ observed with active := observed.active ++ [(subscription, listener)] } :
      ObservedSession).conclude (observed.session.enter subscription listener,
        .request .subscribe subscription)).Sound := by
  have hregular := h.regular hopen
  have hlookup : ∀ key, (observed.session.enter subscription listener).listeners.find? key =
      if key = subscriptionKey subscription then some ⟨subscription, [listener]⟩
      else observed.session.listeners.find? key := by
    intro key
    change (observed.session.listeners.put ⟨subscription, [listener]⟩).find? key = _
    rw [Keyed.find?_put]
    change (if subscriptionKey subscription = key then _ else _) = _
    by_cases hsame : key = subscriptionKey subscription
    · rw [if_pos hsame, if_pos hsame.symm]
    · rw [if_neg hsame, if_neg (Ne.symm hsame)]
  have hother : ∀ {key entry}, observed.session.listeners.find? key = some entry →
      key ≠ subscriptionKey subscription := by
    rintro key entry hfound rfl
    rw [hnone] at hfound
    cases hfound
  have hkept : ∀ {key entry}, observed.session.listeners.find? key = some entry →
      (observed.session.enter subscription listener).listeners.find? key = some entry := by
    intro key entry hfound
    rw [hlookup, if_neg (hother hfound), hfound]
  refine h.ofOpen hopen hopen rfl rfl rfl (fun _ hmem => hmem) ?_
    (fun delivery => delivery.addEntry (subscriptionKey subscription)) rfl
    (fun delivery => ⟨rfl, rfl⟩) ?_ rfl rfl
  · refine ⟨fun key other hfound => ?_, fun key other hfound channel user huser => ?_,
      fun other called => ?_, ?_, ?_⟩
    · have hfound : (observed.session.enter subscription listener).listeners.find? key =
        some other := hfound
      rw [hlookup] at hfound
      split at hfound
      · cases hfound
        exact ⟨List.cons_ne_nil _ _, List.nodup_singleton listener⟩
      · exact hregular.entries key other hfound
    · have hfound : (observed.session.enter subscription listener).listeners.find? key =
        some other := hfound
      rw [hlookup] at hfound
      change (observed.session.enter subscription listener).exclusiveUsers channel = some user
      unfold WebSocketSession.enter
      dsimp only
      split at hfound
      · cases hfound
        rw [huser]
        exact Function.update_self ..
      · have hold := hregular.users key other hfound channel user huser
        cases hexclusive : subscription.exclusive with
        | none => exact hold
        | some pair =>
          obtain ⟨taken, owner⟩ := pair
          dsimp only
          by_cases hsame : channel = taken
          · -- The channel is this subscription's: it was free, or of the same user.
            rw [hsame] at hold ⊢
            unfold WebSocketSession.isTaken at hfree
            rw [hexclusive] at hfree
            dsimp only at hfree
            rw [hold] at hfree
            have hequal : user = owner := by simpa using hfree
            rw [Function.update_self, hequal]
          · rw [Function.update_of_ne hsame, hold]
    · change (other, called) ∈ (if observed.session.closed then []
        else observed.active ++ [(subscription, listener)]) ↔ ∃ found,
          (observed.session.enter subscription listener).listeners.find? _ = some found ∧ _
      rw [hopen, hlookup]
      change (other, called) ∈ observed.active ++ [(subscription, listener)] ↔ _
      rw [List.mem_append, List.mem_singleton, hregular.active other called]
      by_cases hsame : other = subscription
      · rw [hsame, if_pos rfl, hnone]
        simp
      · have hne : subscriptionKey other ≠ subscriptionKey subscription :=
          fun hkeys => hsame (subscriptionKey_injective hkeys)
        rw [if_neg hne]
        simp [hsame]
    · change ∀ called ∈ (if observed.session.closed then [] else observed.staying),
        called ∈ if observed.session.closed then []
          else observed.active ++ [(subscription, listener)]
      rw [hopen]
      intro called hcalled
      exact List.mem_append_left _ (hregular.staying called hcalled)
    · change observed.session.pendingOperations ++ [subscriptionKey subscription] =
        (observed.sent ++ [(WireOperation.subscribe, subscription)]).map _
      rw [List.map_append, hregular.pending]
      rfl
  · intro delivery hdelivery origin horigin hhanding
    have hnotRest : subscriptionKey subscription ∉ delivery.rest := by
      intro hmem
      obtain ⟨found, hfound, -⟩ := hhanding.rest _ hmem
      exact hother hfound rfl
    refine hhanding.of hopen rfl (fun _ hmem => hmem) rfl rfl hhanding.nodup ?_
      (fun hattached => ?_) hhanding.detached (fun key hmem => ?_) fun called hcalled => ?_
    · refine List.nodup_append.mpr ⟨hhanding.restNodup, List.nodup_singleton _, ?_⟩
      intro a ha b hb hab
      rw [List.mem_singleton.mp hb] at hab
      exact hnotRest (hab ▸ ha)
    · obtain ⟨found, hfound, hcallbacks, hrest⟩ := hhanding.attached hattached
      refine ⟨found, hkept hfound, hcallbacks, fun hmem => ?_⟩
      rcases List.mem_append.mp hmem with hmem | hmem
      · exact hrest hmem
      · exact hother hfound (List.mem_singleton.mp hmem)
    · rcases List.mem_append.mp hmem with hmem | hmem
      · obtain ⟨found, hfound, hbelongs⟩ := hhanding.rest key hmem
        exact ⟨found, hkept hfound, hbelongs⟩
      · rw [List.mem_singleton.mp hmem]
        exact ⟨_, (hlookup _).trans (if_pos rfl), howner delivery hdelivery _ horigin⟩
    · obtain ⟨found, hfound, -⟩ :=
        (hregular.active called.1 called.2).mp (hregular.staying called hcalled)
      have hiff : subscriptionKey called.1 ∈ delivery.rest ++ [subscriptionKey subscription] ↔
          subscriptionKey called.1 ∈ delivery.rest := by
        rw [List.mem_append, List.mem_singleton]
        constructor
        · rintro (hmem | hmem)
          · exact hmem
          · exact absurd hmem (hother hfound)
        · exact .inl
      unfold Delivery.owes Delivery.addEntry
      simp only [hiff]

/-! ### The last listener -/

theorem Sound.leave (h : observed.Sound) (hopen : observed.session.closed = false)
    (hfound : observed.session.listeners.find? (subscriptionKey subscription) = some entry)
    (hlast : (entry.callbacks.filter fun other => other ≠ listener) = []) :
    (({ observed with
        active := observed.active.filter fun other => other ≠ (subscription, listener)
        staying := observed.staying.filter fun other =>
          other ≠ (subscription, listener) } : ObservedSession).conclude
      ({ observed.session.leave subscription listener with
          pendingOperations := (observed.session.leave subscription
            listener).pendingOperations ++ [subscriptionKey subscription] },
        .request .unsubscribe subscription)).Sound := by
  have hregular := h.regular hopen
  have hsubscription : entry.subscription = subscription := subscription_of_find hfound
  have honly : ∀ called ∈ entry.callbacks, called = listener := by
    intro called hcalled
    by_contra hne
    have hmem : called ∈ entry.callbacks.filter fun other => other ≠ listener :=
      List.mem_filter.mpr ⟨hcalled, by simpa using hne⟩
    rw [hlast] at hmem
    cases hmem
  have hlookup : ∀ key, (observed.session.leave subscription listener).listeners.find? key =
      if key = subscriptionKey subscription then none
      else observed.session.listeners.find? key := by
    intro key
    change (observed.session.listeners.delete _).find? key = _
    rw [Keyed.find?_delete_key]
  -- Whoever stays is of another entry.
  have hstays : ∀ called ∈ observed.staying.filter fun other =>
      other ≠ (subscription, listener), called.1 ≠ subscription := by
    rintro ⟨other, called⟩ hcalled rfl
    obtain ⟨hmem, hne⟩ := mem_filter_ne hcalled
    obtain ⟨found, hother, hcallback⟩ :=
      (hregular.active other called).mp (hregular.staying _ hmem)
    rw [hfound] at hother
    cases hother
    exact hne (Prod.ext rfl (honly called hcallback))
  refine h.ofOpen hopen hopen rfl rfl rfl (fun _ hmem => (mem_filter_ne hmem).1) ?_
    (fun delivery => (delivery.deleteCallback (subscriptionKey subscription)
      listener).deleteEntry (subscriptionKey subscription)) rfl (fun delivery => ?_) ?_ rfl rfl
  · refine ⟨fun key other hother => ?_, fun key other hother channel user huser => ?_,
      fun other called => ?_, ?_, ?_⟩
    · have hother : (observed.session.leave subscription listener).listeners.find? key =
        some other := hother
      rw [hlookup] at hother
      split at hother
      · cases hother
      · exact hregular.entries key other hother
    · have hother : (observed.session.leave subscription listener).listeners.find? key =
        some other := hother
      rw [hlookup] at hother
      split at hother
      · cases hother
      · rename_i hne
        have hold := hregular.users key other hother channel user huser
        change (observed.session.leave subscription listener).exclusiveUsers channel = some user
        unfold WebSocketSession.leave
        dsimp only
        cases hexclusive : subscription.exclusive with
        | none => exact hold
        | some pair =>
          obtain ⟨taken, owner⟩ := pair
          dsimp only
          by_cases hsame : channel = taken
          · -- Two entries of an exclusive channel have one user, so they are one.
            have hown := hregular.users _ entry hfound taken owner
              (hsubscription ▸ hexclusive)
            rw [hsame] at hold huser
            rw [hold] at hown
            cases hown
            have hequal := eq_of_exclusive hexclusive huser
            apply absurd _ hne
            rw [← hequal]
            exact (Keyed.key_of_find? hother).symm
          · rw [Function.update_of_ne hsame, hold]
    · change (other, called) ∈ (if observed.session.closed then [] else
        observed.active.filter fun other => other ≠ (subscription, listener)) ↔ ∃ found,
          (observed.session.leave subscription listener).listeners.find? _ = some found ∧ _
      rw [hopen, hlookup]
      change (other, called) ∈ observed.active.filter _ ↔ _
      rw [List.mem_filter, hregular.active other called]
      by_cases hsame : other = subscription
      · rw [hsame, if_pos rfl, hfound]
        constructor
        · rintro ⟨⟨found, hother, hcallback⟩, hne⟩
          cases hother
          rw [honly called hcallback] at hne
          simp at hne
        · rintro ⟨found, hother, -⟩
          cases hother
      · have hne : subscriptionKey other ≠ subscriptionKey subscription :=
          fun hkeys => hsame (subscriptionKey_injective hkeys)
        rw [if_neg hne]
        simp [hsame]
    · change ∀ called ∈ (if observed.session.closed then [] else
        observed.staying.filter fun other => other ≠ (subscription, listener)),
          called ∈ if observed.session.closed then [] else
            observed.active.filter fun other => other ≠ (subscription, listener)
      rw [hopen]
      intro called hcalled
      obtain ⟨hmem, hne⟩ := mem_filter_ne hcalled
      exact List.mem_filter.mpr ⟨hregular.staying called hmem, by simpa using hne⟩
    · change observed.session.pendingOperations ++ [subscriptionKey subscription] =
        (observed.sent ++ [(WireOperation.unsubscribe, subscription)]).map _
      rw [List.map_append, hregular.pending]
      rfl
  · unfold Delivery.deleteEntry Delivery.deleteCallback
    split <;> exact ⟨rfl, rfl⟩
  · intro delivery hdelivery origin horigin hhanding
    have hrestNodup : (delivery.rest.filter fun other =>
        other ≠ subscriptionKey subscription).Nodup := hhanding.restNodup.filter _
    have hrest : ∀ key ∈ delivery.rest.filter fun other =>
        other ≠ subscriptionKey subscription, ∃ found,
          (observed.session.leave subscription listener).listeners.find? key = some found ∧
            (matchesSubscription found.subscription delivery.message = true →
              belongs origin delivery.message found.subscription = true) := by
      intro key hkey
      obtain ⟨hmem, hne⟩ := List.mem_filter.mp hkey
      have hne : key ≠ subscriptionKey subscription := by simpa using hne
      obtain ⟨found, hlater, hbelongs⟩ := hhanding.rest key hmem
      refine ⟨found, ?_, hbelongs⟩
      rw [hlookup, if_neg hne]
      exact hlater
    have hmemRest : ∀ called ∈ observed.staying.filter fun other =>
        other ≠ (subscription, listener), (subscriptionKey called.1 ∈
          delivery.rest.filter fun other => other ≠ subscriptionKey subscription) ↔
            subscriptionKey called.1 ∈ delivery.rest := by
      intro called hcalled
      have hne : subscriptionKey called.1 ≠ subscriptionKey subscription :=
        fun hkeys => hstays called hcalled (subscriptionKey_injective hkeys)
      simp [List.mem_filter, hne]
    by_cases hover : delivery.isOver (subscriptionKey subscription) = true
    · obtain ⟨hattached, hsame⟩ := isOver_iff.mp hover
      obtain ⟨other, hother, hcallbacks, -⟩ := hhanding.attached hattached
      rw [hsame, hfound] at hother
      cases hother
      have hnone : (delivery.callbacks.filter fun other => other ≠ listener) = [] := by
        rw [List.filter_eq_nil_iff]
        intro called hcalled
        simp [honly called (hcallbacks called hcalled)]
      have hresult : (delivery.deleteCallback (subscriptionKey subscription)
          listener).deleteEntry (subscriptionKey subscription) =
            ⟨delivery.message, delivery.subscription, false, [],
              delivery.rest.filter fun other => other ≠ subscriptionKey subscription⟩ := by
        unfold Delivery.deleteEntry Delivery.deleteCallback
        rw [if_pos hover, hnone]
        have hstill : Delivery.isOver { delivery with callbacks := [] }
            (subscriptionKey subscription) = true := hover
        rw [hstill]
        simp
      rw [hresult]
      refine hhanding.of hopen rfl (fun _ hmem => (mem_filter_ne hmem).1) rfl rfl
        List.nodup_nil hrestNodup (fun hfalse => by cases hfalse) (fun _ => rfl) hrest
        fun called hcalled => ?_
      unfold Delivery.owes
      dsimp only
      have hne : ¬ (delivery.attached = true ∧ delivery.subscription = called.1 ∧
          called.2 ∈ delivery.callbacks) := by
        rintro ⟨-, hown, -⟩
        exact hstays called hcalled (hown.symm.trans hsame)
      rw [if_neg hne]
      simp only [hmemRest called hcalled]
      simp
    · have hresult : (delivery.deleteCallback (subscriptionKey subscription)
          listener).deleteEntry (subscriptionKey subscription) =
            { delivery with rest :=
                delivery.rest.filter fun other => other ≠ subscriptionKey subscription } := by
        have hbool : delivery.isOver (subscriptionKey subscription) = false := by
          simpa using hover
        unfold Delivery.deleteEntry Delivery.deleteCallback
        rw [if_neg hover, hbool]
        simp
      rw [hresult]
      refine hhanding.of hopen rfl (fun _ hmem => (mem_filter_ne hmem).1) rfl rfl
        hhanding.nodup hrestNodup (fun hattached => ?_) hhanding.detached hrest
        fun called hcalled => ?_
      · obtain ⟨other, hother, hcallbacks, hnotRest⟩ := hhanding.attached hattached
        have hne : subscriptionKey delivery.subscription ≠ subscriptionKey subscription := by
          intro hkeys
          exact hover (isOver_iff.mpr ⟨hattached, subscriptionKey_injective hkeys⟩)
        refine ⟨other, ?_, hcallbacks, fun hmem => ?_⟩
        · change (observed.session.leave subscription listener).listeners.find? _ = _
          rw [hlookup, if_neg hne]
          exact hother
        · exact hnotRest (List.mem_filter.mp hmem).1
      · unfold Delivery.owes
        simp only [hmemRest called hcalled]

/-! ### Steps and runs -/

theorem note_subscribe_rest (throws : Bool) (subscription : PublicSubscription)
    (listener : ℕ) (attempt : OperationAttempt) :
    (observed.note throws (.subscribe subscription listener attempt)).failedByMessage =
        observed.failedByMessage ∧
      (observed.note throws (.subscribe subscription listener attempt)).data = observed.data ∧
      (observed.note throws (.subscribe subscription listener attempt)).calls = observed.calls := by
  unfold note
  dsimp only
  split <;> exact ⟨rfl, rfl, rfl⟩

theorem Sound.subscribe (h : observed.Sound) (subscription : PublicSubscription)
    (listener : ℕ) (attempt : OperationAttempt)
    (htaker : observed.hasTaker (.subscribe subscription listener attempt) = true) :
    (observed.step (.subscribe subscription listener attempt)).Sound := by
  unfold step
  change (ObservedSession.conclude _
    (observed.session.subscribe subscription listener attempt)).Sound
  have hstep : observed.session.step (.subscribe subscription listener attempt) =
    observed.session.subscribe subscription listener attempt := rfl
  rw [hstep]
  rcases Bool.eq_false_or_eq_true observed.session.closed with hclosed | hopen
  · have hresult : observed.session.subscribe subscription listener attempt =
        (observed.session, .threw) := by
      unfold WebSocketSession.subscribe
      rw [if_pos hclosed]
    obtain ⟨hnotFailed, hdata, hcalls⟩ := note_subscribe_rest
      (observed.session.subscribe subscription listener attempt).2.throws subscription
      listener attempt
    rw [hresult] at hnotFailed hdata hcalls ⊢
    exact h.stays hclosed (hnotFailed.trans h.notFailed) hdata hcalls rfl rfl
  · have hthrew : (ObservedSession.conclude
        (observed.note true (.subscribe subscription listener attempt))
        (observed.session, .threw)).Sound := by
      have hnote : observed.note true (.subscribe subscription listener attempt) =
          observed := by
        unfold note
        dsimp only
        rw [if_pos (.inl rfl)]
      rw [hnote, conclude_unchanged hopen rfl rfl rfl]
      exact h
    have hregular := h.regular hopen
    unfold WebSocketSession.subscribe
    rw [hopen, if_neg (by decide)]
    split
    · exact hthrew
    · rename_i hvalid
      split
      · rename_i entry hfound
        by_cases hold : listener ∈ entry.callbacks
        · have hactive : (subscription, listener) ∈ observed.active :=
            (hregular.active subscription listener).mpr ⟨entry, hfound, hold⟩
          have hnote : observed.note false (.subscribe subscription listener attempt) =
              observed := by
            unfold note
            dsimp only
            rw [if_pos (.inr hactive)]
          have hsame : observed.session.addCallback entry listener = observed.session := by
            unfold WebSocketSession.addCallback
            rw [if_pos hold]
          change (ObservedSession.conclude (observed.note false _) _).Sound
          rw [hnote, hsame, conclude_unchanged hopen rfl rfl rfl]
          exact h
        · have hinactive : (subscription, listener) ∉ observed.active := by
            intro hmem
            obtain ⟨other, hother, hcallback⟩ :=
              (hregular.active subscription listener).mp hmem
            rw [hfound] at hother
            cases hother
            exact hold hcallback
          have hnote : observed.note false (.subscribe subscription listener attempt) =
              { observed with active := observed.active ++ [(subscription, listener)] } := by
            unfold note
            dsimp only
            rw [if_neg (by simpa using hinactive)]
          change (ObservedSession.conclude (observed.note false _) _).Sound
          rw [hnote]
          exact h.addCallback hopen hfound hold
      · rename_i hnone
        split
        · exact hthrew
        · rename_i hroom
          split
          · exact hthrew
          · rename_i htaken
            have hfree : observed.session.isTaken subscription = false := by
              simpa using htaken
            cases attempt with
            | sent =>
              have hinactive : (subscription, listener) ∉ observed.active := by
                intro hmem
                obtain ⟨other, hother, -⟩ :=
                  (hregular.active subscription listener).mp hmem
                rw [hnone] at hother
                cases hother
              have hnote : observed.note false (.subscribe subscription listener .sent) =
                  { observed with
                    active := observed.active ++ [(subscription, listener)] } := by
                unfold note
                dsimp only
                rw [if_neg (by simpa using hinactive)]
              change (ObservedSession.conclude (observed.note false _) _).Sound
              rw [hnote]
              refine h.enter hopen hnone hfree fun delivery hdelivery data hdata hmatches => ?_
              have henters : entersNew observed.session subscription .sent = true := by
                unfold entersNew
                simp [hopen, hvalid, hnone, hfree, Nat.not_le.mp hroom]
              unfold hasTaker at htaker
              dsimp only at htaker
              rw [henters, Option.mem_def.mp hdelivery, Option.mem_def.mp hdata] at htaker
              simpa [hmatches] using htaker
            | reserveThrows =>
              obtain ⟨hnotFailed, hdata, hcalls⟩ := observed.note_subscribe_rest true
                subscription listener .reserveThrows
              exact h.closeInternal (hnotFailed.trans h.notFailed) hdata hcalls hopen
                (fun delivery hdelivery => ⟨delivery, hdelivery, rfl, rfl⟩) rfl rfl
            | sendThrows =>
              obtain ⟨hnotFailed, hdata, hcalls⟩ := observed.note_subscribe_rest true
                subscription listener .sendThrows
              exact h.closeInternal (hnotFailed.trans h.notFailed) hdata hcalls hopen
                (fun delivery hdelivery => ⟨delivery, hdelivery, rfl, rfl⟩) rfl rfl

theorem Sound.unsubscribe (h : observed.Sound) (subscription : PublicSubscription)
    (listener : ℕ) (attempt : OperationAttempt) :
    (observed.step (.unsubscribe subscription listener attempt)).Sound := by
  change (ObservedSession.conclude { observed with
      active := observed.active.filter fun other => other ≠ (subscription, listener)
      staying := observed.staying.filter fun other => other ≠ (subscription, listener) }
    (observed.session.unsubscribe subscription listener attempt)).Sound
  unfold WebSocketSession.unsubscribe
  rcases Bool.eq_false_or_eq_true observed.session.closed with hclosed | hopen
  · rw [(h.closed hclosed).1]
    change (ObservedSession.conclude _ (observed.session, .quiet)).Sound
    refine h.stays hclosed ?_ ?_ ?_ ?_ ?_
    · exact h.notFailed
    all_goals rfl
  · have hregular := h.regular hopen
    split
    · rename_i hnone
      have hnotActive : (subscription, listener) ∉ observed.active := by
        intro hmem
        obtain ⟨entry, hfound, -⟩ := (hregular.active subscription listener).mp hmem
        rw [hnone] at hfound
        cases hfound
      have hactive : (observed.active.filter fun other => other ≠ (subscription, listener)) =
          observed.active := by
        apply List.filter_eq_self.mpr
        intro other hother
        have hne : other ≠ (subscription, listener) := by
          rintro rfl
          exact hnotActive hother
        simpa using hne
      have hstaying : (observed.staying.filter fun other =>
          other ≠ (subscription, listener)) = observed.staying := by
        apply List.filter_eq_self.mpr
        intro other hother
        have hne : other ≠ (subscription, listener) := by
          rintro rfl
          exact hnotActive (hregular.staying _ hother)
        simpa using hne
      rw [hactive, hstaying]
      have hsame : observed.conclude (observed.session, .quiet) = observed :=
        conclude_unchanged hopen rfl rfl rfl
      change (observed.conclude (observed.session, .quiet)).Sound
      rw [hsame]
      exact h
    · rename_i entry hfound
      split
      · rename_i hlast
        dsimp only
        have hleft : ∀ delivery ∈ (observed.session.leave subscription listener).delivering,
            ∃ old ∈ observed.session.delivering, delivery.message = old.message ∧
              delivery.subscription = old.subscription := by
          intro delivery hdelivery
          obtain ⟨old, hold, rfl⟩ := Option.map_eq_some_iff.mp hdelivery
          refine ⟨old, hold, ?_⟩
          unfold Delivery.deleteEntry Delivery.deleteCallback
          split <;> exact ⟨rfl, rfl⟩
        have hleftOpen : (observed.session.leave subscription listener).closed = false :=
          hopen
        have hfails : (ObservedSession.conclude { observed with
            active := observed.active.filter fun other => other ≠ (subscription, listener)
            staying := observed.staying.filter fun other =>
              other ≠ (subscription, listener) }
            ((observed.session.leave subscription listener).closeInternal, .quiet)).Sound := by
          refine h.closeInternal ?_ ?_ ?_ hleftOpen hleft ?_ ?_
          · exact h.notFailed
          all_goals rfl
        cases attempt with
        | sent => exact h.leave hopen hfound hlast
        | reserveThrows => exact hfails
        | sendThrows => exact hfails
      · rename_i hothers
        exact h.deleteCallback hopen hfound hothers

/-- A callback that still ran after the close has thrown. -/
theorem Sound.abandoned (h : observed.Sound) (hclosed : observed.session.closed = true) :
    (observed.conclude
      ({ observed.session with delivering := none }.closeInternal, .quiet)).Sound := by
  have hsame : { observed.session with delivering := none }.closeInternal =
      { observed.session with delivering := none } := by
    unfold WebSocketSession.closeInternal
    exact if_pos hclosed
  rw [hsame]
  exact Sound.ofClosed h.notFailed h.only (fun _ hnone => by cases hnone) hclosed
    (h.closed hclosed).1 (fun _ hnone => by cases hnone) rfl

/-- A step that neither mixes users nor fails a late message keeps the session sound. -/
theorem Sound.step (h : observed.Sound) {event : WebSocketEvent}
    (hserver : observed.serverSends event = true) (htaker : observed.hasTaker event = true) :
    (observed.step event).Sound := by
  -- A session that does nothing.
  have hstays : ∀ output : WebSocketOutput, output.sent = none → output.called = none →
      output.failedByMessage = false →
        (observed.conclude (observed.session, output)).Sound := by
    intro output hsent hcalled hfailed
    rcases Bool.eq_false_or_eq_true observed.session.closed with hclosed | hopen
    · exact h.stays hclosed h.notFailed rfl rfl hcalled hfailed
    · rw [conclude_unchanged hopen hsent hcalled hfailed]
      exact h
  have hcloses : (observed.conclude (observed.session.closeInternal, .quiet)).Sound := by
    rcases Bool.eq_false_or_eq_true observed.session.closed with hclosed | hopen
    · have hsame : observed.session.closeInternal = observed.session := by
        unfold WebSocketSession.closeInternal
        rw [if_pos hclosed]
      rw [hsame]
      exact hstays .quiet rfl rfl rfl
    · exact h.closeInternal h.notFailed rfl rfl hopen
        (fun delivery hdelivery => ⟨delivery, hdelivery, rfl, rfl⟩) rfl rfl
  cases event with
  | subscribe subscription listener attempt =>
    exact h.subscribe subscription listener attempt htaker
  | unsubscribe subscription listener attempt =>
    exact h.unsubscribe subscription listener attempt
  | received frame =>
    change ((if observed.session.listening then observed.hear frame else
      observed).conclude (if observed.session.listening then
        observed.session.receive frame.json else (observed.session, .quiet))).Sound
    by_cases hlistening : observed.session.listening = true
    · rw [if_pos hlistening, if_pos hlistening]
      have hopen : observed.session.closed = false := by
        unfold WebSocketSession.listening at hlistening
        rw [Bool.and_eq_true, Bool.not_eq_true'] at hlistening
        exact hlistening.1
      cases frame with
      | acknowledgement operation subscription =>
        have hhead : observed.sent.head? = some (operation, subscription) := by
          simpa [serverSends, hlistening] using hserver
        exact h.receivedAcknowledgement hlistening hhead
      | data origin message =>
        have hmatches : matchesSubscription origin message = true := by
          have hserver : observed.served.contains origin = true ∧
              matchesSubscription origin message = true := by
            simpa [serverSends, hlistening] using hserver
          exact hserver.2
        have hsome : ∃ taker ∈ observed.active,
            belongs origin message taker.1 = true := by
          unfold hasTaker at htaker
          dsimp only at htaker
          rw [hlistening, Bool.not_true, Bool.false_or, List.any_eq_true] at htaker
          exact htaker
        exact h.receivedData hopen hmatches hsome
      | pong => exact h.receivedPong hlistening
      | other parsed =>
        unfold serverSends at hserver
        dsimp only at hserver
        rw [hlistening] at hserver
        cases hserver
    · rw [if_neg hlistening, if_neg hlistening]
      exact hstays .quiet rfl rfl rfl
  | returned throws =>
    change (observed.conclude (observed.session.step (.returned throws))).Sound
    unfold WebSocketSession.step
    dsimp only
    split
    · exact hstays .quiet rfl rfl rfl
    · rename_i delivery hdelivery
      cases throws with
      | false => exact h.returned hdelivery
      | true =>
        -- what is left of a closed session's callbacks may throw
        have hclosed : observed.session.closed = true := by
          simpa [hasTaker, hdelivery] using htaker
        rw [if_pos rfl, if_pos hclosed]
        exact h.abandoned hclosed
  | failed =>
    change (observed.conclude (if observed.session.delivering.isNone then
      observed.session.closeInternal else observed.session, .quiet)).Sound
    split
    · exact hcloses
    · exact hstays .quiet rfl rfl rfl
  | close => exact hcloses

end

end ObservedSession

/-- On a session to which the server sends only acknowledgements in request order and data
of subscriptions whose end it has not acknowledged, no message fails the session and each
listener that stays subscribed is called exactly with the messages for it, along every run
in which each data message is one for somebody who is still subscribed, no listener throws
while the session is open, and none opens a stream of an exclusive channel for another user
while it is handed a message of that channel. -/
theorem undisturbed_deliveries (maximum : ℕ) (h : 1 ≤ maximum ∧ maximum ≤ 700)
    (events : List WebSocketEvent) (hserver : Along ObservedSession.step (fun observed event =>
      observed.serverSends event = true) (.opened maximum h) events)
    (htaker : Along ObservedSession.step (fun observed event =>
      observed.hasTaker event = true) (.opened maximum h) events) :
    (run ObservedSession.step (.opened maximum h) events).Delivered := by
  have hboth := along_and.mpr ⟨hserver, htaker⟩
  have hstep : ∀ (observed : ObservedSession) (event : WebSocketEvent), observed.Sound →
      observed.serverSends event = true ∧ observed.hasTaker event = true →
        (observed.step event).Sound :=
    fun observed event hsound hevent => hsound.step hevent.1 hevent.2
  exact (run_invariant_along hstep (ObservedSession.sound_opened maximum h) hboth).delivered

def bitcoinContext : PublicWebSocketEnvelope where
  channel := "activeAssetCtx"
  data := some (.object [("coin", .string "BTC")])

/-- Two streams of one session; the first is given up after a message each way. -/
def twoStreams : List WebSocketEvent :=
  [.subscribe (.activeAssetCtx "BTC") 0 .sent, .subscribe (.activeAssetCtx "ETH") 1 .sent,
    .received (.acknowledgement .subscribe (.activeAssetCtx "BTC")),
    .received (.acknowledgement .subscribe (.activeAssetCtx "ETH")),
    .received (.data (.activeAssetCtx "BTC") bitcoinContext), .returned false,
    .unsubscribe (.activeAssetCtx "BTC") 0 .sent]

theorem undisturbed_deliveries_twoStreams :
    (run ObservedSession.step (.opened 700 (by decide)) twoStreams).Delivered :=
  undisturbed_deliveries 700 (by decide) twoStreams (by decide) (by decide)

/-- A message that was under way when its stream was given up fails the session, and the
other stream with it. -/
theorem late_message_fails :
    let events := twoStreams ++
      [.received (.data (.activeAssetCtx "BTC") bitcoinContext)]
    Along ObservedSession.step (fun observed event => observed.serverSends event = true)
        (.opened 700 (by decide)) events ∧
      (run ObservedSession.step (.opened 700 (by decide)) twoStreams).active =
        [(.activeAssetCtx "ETH", 1)] ∧
      (run ObservedSession.step (.opened 700 (by decide)) events).failedByMessage = true ∧
      (run ObservedSession.step (.opened 700 (by decide)) events).session.closed = true := by
  decide

end HyperTrader
