import HyperTrader.Transport.Observed

/-!
# Keys, channels and frames

Subscriptions of one key are one subscription, so the session's map has one entry for
each. A frame is read as what it was written from: an acknowledgement names its request's
key, and a message for a subscription is on that subscription's channel, which no
acknowledgement is.
-/

namespace HyperTrader

open Library

namespace PublicSubscription

theorem nodup_fields (subscription : PublicSubscription) :
    ((("type", some (.string subscription.typeName)) :: subscription.parameters).map
      (Prod.fst : String × Option Json → String)).Nodup := by
  cases subscription <;> simp [parameters]

theorem field_toJson (subscription : PublicSubscription) (key : String) :
    subscription.toJson.field key =
      if "type" = key then some (.string subscription.typeName)
      else Json.written subscription.parameters key := by
  unfold toJson
  rw [Json.field_ofFields subscription.nodup_fields, Json.written_cons]

theorem toJson_injective : Function.Injective toJson := by
  intro a b h
  have hfield : ∀ key, a.toJson.field key = b.toJson.field key := by
    intro key
    rw [h]
  have htype := hfield "type"
  rw [field_toJson, field_toJson, if_pos rfl, if_pos rfl, Option.some.injEq,
    Json.string.injEq] at htype
  have hparameter : ∀ key, "type" ≠ key →
      Json.written a.parameters key = Json.written b.parameters key := by
    intro key hkey
    have hsame := hfield key
    rw [field_toJson, field_toJson, if_neg hkey, if_neg hkey] at hsame
    exact hsame
  have hcoin := hparameter "coin" (by decide)
  have huser := hparameter "user" (by decide)
  have hdex := hparameter "dex" (by decide)
  have hinterval := hparameter "interval" (by decide)
  have hmargin := hparameter "isPortfolioMargin" (by decide)
  have haggregate := hparameter "aggregateByTime" (by decide)
  clear hparameter hfield h
  have hstring : Function.Injective (Option.map Json.string) :=
    Option.map_injective fun _ _ => Json.string.inj
  have hbool : Function.Injective (Option.map Json.bool) :=
    Option.map_injective fun _ _ => Json.bool.inj
  cases a <;> cases b <;> first
    | (simp only [typeName, String.reduceEq] at htype; done)
    | simp_all [parameters, Json.written, hstring.eq_iff, hbool.eq_iff]

end PublicSubscription

theorem subscriptionKey_injective : Function.Injective subscriptionKey := by
  intro a b h
  exact PublicSubscription.toJson_injective (Json.stringify_injective h)

variable {message : PublicWebSocketEnvelope} {subscription other origin : PublicSubscription}
  {channel : ExclusiveChannel} {user : String}

theorem parse_toJson (h : message.channel ≠ "") :
    parsePublicWebSocketMessage message.toJson = some message := by
  have hnodup : ([("channel", some (Json.string message.channel)),
      ("data", message.data)].map Prod.fst).Nodup := by
    simp
  have hchannel : message.toJson.text "channel" = some message.channel := by
    rw [Json.text_eq_some, PublicWebSocketEnvelope.toJson, Json.field_ofFields hnodup,
      Json.written_cons, if_pos rfl]
  have hdata : message.toJson.field "data" = message.data := by
    rw [PublicWebSocketEnvelope.toJson, Json.field_ofFields hnodup, Json.written_cons,
      if_neg (by decide), Json.written_cons, if_pos rfl]
  unfold parsePublicWebSocketMessage
  rw [hchannel, hdata]
  split
  · rename_i hnone
    cases hnone
  · rename_i hempty
    exact absurd (Option.some.inj hempty) h
  · rename_i channel _ hsome
    cases hsome
    rfl

theorem acknowledgedKey_message (operation : WireOperation) (subscription : PublicSubscription) :
    acknowledgedKey (acknowledgementMessage operation subscription) =
      subscriptionKey subscription := by
  have hfield : (acknowledgementMessage operation subscription).field "subscription" =
      some subscription.toJson := by
    unfold PublicWebSocketEnvelope.field acknowledgementMessage
    rw [Option.bind_some, Json.field_ofFields (by simp), Json.written_cons,
      if_neg (by decide), Json.written_cons, if_pos rfl]
  obtain ⟨fields, hobject⟩ : ∃ fields, subscription.toJson = .object fields := ⟨_, rfl⟩
  unfold acknowledgedKey subscriptionKey
  rw [hfield, hobject]

theorem expectedChannel_ne (subscription : PublicSubscription) :
    expectedChannel subscription ≠ "" ∧ expectedChannel subscription ≠ "pong" ∧
      expectedChannel subscription ≠ "subscriptionResponse" := by
  cases subscription <;>
    simp only [expectedChannel, PublicSubscription.typeName, ne_eq, String.reduceEq,
      not_false_eq_true, and_self]

theorem channel_of_matches (h : matchesSubscription subscription message = true) :
    message.channel = expectedChannel subscription := by
  unfold matchesSubscription at h
  rw [Bool.and_eq_true, beq_iff_eq] at h
  exact h.1

theorem exclusive_of_channel (h : subscription.exclusive = some (channel, user))
    (hchannel : expectedChannel other = expectedChannel subscription) :
    ∃ owner, other.exclusive = some (channel, owner) := by
  cases subscription <;> cases h <;> cases other <;>
    first
      | exact ⟨_, rfl⟩
      | simp only [expectedChannel, PublicSubscription.typeName, String.reduceEq] at hchannel

theorem eq_of_exclusive (h : subscription.exclusive = some (channel, user))
    (hother : other.exclusive = some (channel, user)) : other = subscription := by
  cases subscription <;> cases h <;> cases other <;> cases hother <;> rfl

theorem belongs_of_matches (hmatches : matchesSubscription subscription message = true)
    (hother : belongs origin message other = true)
    (husers : ∀ channel user owner, subscription.exclusive = some (channel, user) →
      other.exclusive = some (channel, owner) → user = owner) :
    belongs origin message subscription = true := by
  unfold belongs at hother ⊢
  rw [Bool.and_eq_true] at hother ⊢
  refine ⟨hmatches, ?_⟩
  cases hexclusive : subscription.exclusive with
  | none => rfl
  | some pair =>
    obtain ⟨channel, user⟩ := pair
    have hchannel : expectedChannel other = expectedChannel subscription :=
      (channel_of_matches hother.1).symm.trans (channel_of_matches hmatches)
    obtain ⟨owner, howner⟩ := exclusive_of_channel hexclusive hchannel
    obtain rfl := husers channel user owner hexclusive howner
    have hsame := eq_of_exclusive hexclusive howner
    have horigin := hother.2
    rw [howner, Option.isNone_some, Bool.false_or, hsame] at horigin
    rw [Option.isNone_some, Bool.false_or]
    exact horigin

theorem matches_of_belongs (h : belongs origin message subscription = true) :
    matchesSubscription subscription message = true := by
  unfold belongs at h
  exact (Bool.and_eq_true _ _ ▸ h).1

end HyperTrader
