import HyperTrader.Streams.Received

/-!
# What an unsequenced stream ends at

Without a sequence a message is a duplicate if its content is among those that its key
remembers since its baseline; whether the last one was applied depends on the earlier ones.
-/

namespace HyperTrader

open Library

variable {δ : Type*}

namespace SubscriptionRunState

/-- What a ready state remembers after it was given one more content. -/
def remember (seenIds : List String) (stableId : String) : List String :=
  if stableId ∈ seenIds then seenIds else rememberId seenIds stableId

/-- What a state remembers of the contents it was given since its baseline. -/
def remembered (contents : List String) : List String := contents.foldl remember []

/-- The last content is one that is remembered, and not the one remembered last. -/
def Returns (contents : List String) : Prop :=
  ∃ last ∈ contents.getLast?, last ∈ remembered contents.dropLast ∧
    (remembered contents.dropLast).getLast? ≠ some last

instance (contents : List String) : Decidable (Returns contents) := by
  unfold Returns
  infer_instance

theorem remembered_append_singleton (contents : List String) (stableId : String) :
    remembered (contents ++ [stableId]) = remember (remembered contents) stableId := by
  simp [remembered]

variable {stableId : String}

theorem getLast?_rememberId {seenIds : List String}
    (h : stableId ∉ seenIds) : (rememberId seenIds stableId).getLast? = some stableId := by
  unfold rememberId
  dsimp only
  rw [if_neg h]
  split
  · simp
  · cases seenIds with
    | nil => rename_i hlength; simp at hlength
    | cons first rest => simp

theorem getLast?_remember_ne_none (seenIds : List String) (stableId : String) :
    (remember seenIds stableId).getLast? ≠ none := by
  unfold remember
  split
  · rename_i hseen
    rw [Ne, List.getLast?_eq_none_iff]
    exact List.ne_nil_of_mem hseen
  · rename_i hseen
    rw [getLast?_rememberId hseen]
    exact Option.some_ne_none stableId

theorem returns_append_singleton {contents : List String} :
    Returns (contents ++ [stableId]) ↔ stableId ∈ remembered contents ∧
      (remembered contents).getLast? ≠ some stableId := by
  simp [Returns]

end SubscriptionRunState

open SubscriptionRunState

namespace HeardStream

def contents (heard : HeardStream δ) : List String :=
  heard.received.map ManagedStreamMessage.stableId

/-- While its run is live, the last message of the key that was applied has the content of
the last one that was received. -/
def EndsAtLast (key : String) (heard : HeardStream δ) : Prop :=
  heard.Live key → ∀ last ∈ heard.received.getLast?,
    ∃ applied ∈ (heard.manager.consumer.deltas key).getLast?,
      applied.stableId = last.stableId

end HeardStream

namespace StreamManager

variable {message : ManagedStreamMessage δ}

theorem position_of_plain {state : SubscriptionRunState δ} (hplain : message.sequence = none) :
    state.position message = if message.stableId ∈ state.seenIds then .ignored else .applied := by
  unfold position
  rw [hplain]

/-- The key remembers what the contents leave, and was given the newest of them last. -/
def Newest : KeyRule δ := fun deltas received _ seenIds =>
  seenIds = remembered (received.map ManagedStreamMessage.stableId) ∧
    ∀ newest ∈ seenIds.getLast?, ∃ applied ∈ deltas.getLast?, applied.stableId = newest

theorem kept_newest {own : ManagedStreamMessage δ → Prop}
    (hplain : ∀ message, own message → message.sequence = none) : Kept own Newest where
  cleared deltas sequence := ⟨rfl, fun newest hnewest => by cases hnewest⟩
  ignored {deltas received message state} hown h hposition := by
    rw [position_of_plain (hplain message hown)] at hposition
    have hseen : message.stableId ∈ state.seenIds := by
      by_contra hnot
      rw [if_neg hnot] at hposition
      cases hposition
    refine ⟨?_, h.2⟩
    rw [List.map_append, List.map_singleton, remembered_append_singleton, ← h.1]
    exact (if_pos hseen).symm
  applied {deltas received message state} hown h hposition := by
    rw [position_of_plain (hplain message hown)] at hposition
    have hseen : message.stableId ∉ state.seenIds := by
      intro hseen
      rw [if_pos hseen] at hposition
      cases hposition
    constructor
    · rw [List.map_append, List.map_singleton, remembered_append_singleton, ← h.1]
      exact (if_neg hseen).symm
    · intro newest hnewest
      have hlast := getLast?_rememberId hseen
      have hsame : newest = message.stableId := Option.some.inj (hnewest.symm.trans hlast)
      exact ⟨message, by simp, hsame.symm⟩

end StreamManager

namespace HeardStream

open StreamManager

variable {own : String → ManagedStreamMessage δ → Prop} {key : String}
  {heard : HeardStream δ}

theorem Followed.exists_applied (h : heard.Followed own Newest key)
    (hlive : heard.Live key) {earlier : List (ManagedStreamMessage δ)}
    {last : ManagedStreamMessage δ} (hreceived : heard.received = earlier ++ [last]) :
    ∃ applied ∈ (heard.manager.consumer.deltas key).getLast?,
      (remember (remembered (earlier.map ManagedStreamMessage.stableId))
        last.stableId).getLast? = some applied.stableId := by
  obtain ⟨i, state, hcurrent, hstate, hready⟩ := hlive
  obtain ⟨hseen, happlied⟩ := (h.ready i state hcurrent hstate hready).holds
  have hcontents : heard.received.map ManagedStreamMessage.stableId =
      earlier.map ManagedStreamMessage.stableId ++ [last.stableId] := by
    simp [hreceived]
  rw [hcontents, remembered_append_singleton] at hseen
  rw [← hseen]
  obtain ⟨newest, hnewest⟩ := Option.ne_none_iff_exists'.mp (hseen ▸
    getLast?_remember_ne_none (remembered (earlier.map ManagedStreamMessage.stableId))
      last.stableId)
  obtain ⟨applied, happlied, hsame⟩ := happlied newest hnewest
  rw [← hsame] at hnewest
  exact ⟨applied, happlied, hnewest⟩

/-- The last message of a ready key was applied, or has a content that was remembered; then
the one that was remembered last was applied last. -/
theorem Followed.endsAtLast_iff (h : heard.Followed own Newest key) :
    heard.EndsAtLast key ↔ (heard.Live key → ¬ Returns heard.contents) := by
  unfold EndsAtLast
  refine imp_congr_right fun hlive => ?_
  rcases List.eq_nil_or_concat heard.received with hnil | ⟨earlier, last, hreceived⟩
  · simp [contents, hnil, Returns]
  · rw [List.concat_eq_append] at hreceived
    obtain ⟨applied, happlied, hnewest⟩ := h.exists_applied hlive hreceived
    have hcontents : heard.contents =
        earlier.map ManagedStreamMessage.stableId ++ [last.stableId] := by
      simp [contents, hreceived]
    have hlast : heard.received.getLast? = some last := by simp [hreceived]
    rw [hcontents, returns_append_singleton, hlast, happlied]
    generalize remembered (earlier.map ManagedStreamMessage.stableId) = known at hnewest ⊢
    unfold remember at hnewest
    by_cases hknown : last.stableId ∈ known
    · rw [if_pos hknown] at hnewest
      simp [hknown, hnewest]
    · rw [if_neg hknown, getLast?_rememberId hknown, Option.some.injEq] at hnewest
      simp [hknown, hnewest.symm]

end HeardStream

end HyperTrader
