import HyperTrader.Streams.Received

/-!
# What a sequenced stream applies

Of the messages that a ready key received since its baseline, none is ahead of where the
key stands, so none is left out: the positions that were applied follow the baseline one by
one. A message with the content of another is the one exception.
-/

namespace HyperTrader

open Library

variable {δ : Type*}

namespace StreamManager

/-- A message that has the content of another one, and not its sequence. -/
def Repeats (received : List (ManagedStreamMessage δ)) (message : ManagedStreamMessage δ) : Prop :=
  ∃ other ∈ received, other.stableId = message.stableId ∧ other.sequence ≠ message.sequence

/-- What was received is not ahead of where the key stands, unless it repeats a content; and
every content the key remembers was received. -/
def CaughtUp : KeyRule δ := fun _ received lastSequence seenIds =>
  (∀ message ∈ received, ∀ sequence, message.sequence = some sequence →
    (∃ last, lastSequence = some last ∧ sequence ≤ last) ∨ Repeats received message) ∧
  ∀ stableId ∈ seenIds, ∃ message ∈ received, message.stableId = stableId

variable {received : List (ManagedStreamMessage δ)} {message : ManagedStreamMessage δ}
  {state : SubscriptionRunState δ}

theorem Repeats.append (h : Repeats received message) (more : List (ManagedStreamMessage δ)) :
    Repeats (received ++ more) message := by
  obtain ⟨other, hother, hsame⟩ := h
  exact ⟨other, List.mem_append_left more hother, hsame⟩

theorem position_eq_ignored (h : state.position message = .ignored) :
    message.stableId ∈ state.seenIds ∨ ∃ sequence last, message.sequence = some sequence ∧
      state.lastSequence = some last ∧ sequence ≤ last := by
  unfold SubscriptionRunState.position at h
  split at h
  · rename_i hseen
    exact .inl hseen
  · split at h
    · rename_i sequence last hsequence hlast
      split at h
      · rename_i hle
        exact .inr ⟨sequence, last, hsequence, hlast, hle⟩
      · split at h <;> cases h
    · cases h

theorem mem_rememberId {seenIds : List String} {stableId other : String}
    (h : other ∈ SubscriptionRunState.rememberId seenIds stableId) :
    other ∈ seenIds ∨ other = stableId := by
  have hadded : ∀ id ∈ (if stableId ∈ seenIds then seenIds else seenIds ++ [stableId]),
      id ∈ seenIds ∨ id = stableId := by
    intro id hid
    split at hid
    · exact .inl hid
    · rwa [List.mem_append, List.mem_singleton] at hid
  unfold SubscriptionRunState.rememberId at h
  dsimp only at h
  generalize (if stableId ∈ seenIds then seenIds else seenIds ++ [stableId]) = added at h hadded
  split at h
  · exact hadded other h
  · exact hadded other (List.mem_of_mem_tail h)

/-- A message that is applied moves the key on, never back. -/
theorem le_advance (h : state.position message = .applied) {last : ℤ}
    (hlast : state.lastSequence = some last) :
    ∃ later, (state.advance message).lastSequence = some later ∧ last ≤ later := by
  have hfollows := SubscriptionRunState.follows_of_position h
  unfold SubscriptionRunState.advance
  cases hsequence : message.sequence with
  | none => exact ⟨last, hlast, Int.le_refl last⟩
  | some sequence =>
    have hnext := hfollows last sequence hlast hsequence
    exact ⟨sequence, rfl, by omega⟩

theorem kept_caughtUp (own : ManagedStreamMessage δ → Prop) : Kept own CaughtUp where
  cleared _ _ := ⟨fun _ hmem => (by cases hmem), fun _ hmem => (by cases hmem)⟩
  ignored {deltas received message state} _ h hposition := by
    obtain ⟨hcaught, hseen⟩ := h
    refine ⟨?_, fun stableId hmem => ?_⟩
    · intro other hmem sequence hsequence
      rcases List.mem_append.mp hmem with hold | hnew
      · exact (hcaught other hold sequence hsequence).imp id fun h => h.append [message]
      · obtain rfl := List.mem_singleton.mp hnew
        rcases position_eq_ignored hposition with hknown | ⟨found, last, hfound, hlast, hle⟩
        · obtain ⟨first, hfirst, hsame⟩ := hseen _ hknown
          by_cases hequal : first.sequence = other.sequence
          · rcases hcaught first hfirst sequence (hequal.trans hsequence) with
              hbehind | ⟨again, hagain, hcontent, hne⟩
            · exact .inl hbehind
            · exact .inr ⟨again, List.mem_append_left _ hagain, hcontent.trans hsame,
                hequal ▸ hne⟩
          · exact .inr ⟨first, List.mem_append_left _ hfirst, hsame, hequal⟩
        · rw [hsequence, Option.some.injEq] at hfound
          exact .inl ⟨last, hlast, hfound ▸ hle⟩
    · obtain ⟨first, hfirst, hsame⟩ := hseen stableId hmem
      exact ⟨first, List.mem_append_left _ hfirst, hsame⟩
  applied {deltas received message state} _ h hposition := by
    obtain ⟨hcaught, hseen⟩ := h
    refine ⟨?_, fun stableId hmem => ?_⟩
    · intro other hmem sequence hsequence
      rcases List.mem_append.mp hmem with hold | hnew
      · rcases hcaught other hold sequence hsequence with ⟨last, hlast, hle⟩ | hrepeats
        · obtain ⟨later, hlater, hmoved⟩ := le_advance hposition hlast
          exact .inl ⟨later, hlater, Int.le_trans hle hmoved⟩
        · exact .inr (hrepeats.append [message])
      · obtain rfl := List.mem_singleton.mp hnew
        refine .inl ⟨sequence, ?_, Int.le_refl sequence⟩
        unfold SubscriptionRunState.advance
        rw [hsequence]
        rfl
    · rcases mem_rememberId hmem with hold | rfl
      · obtain ⟨first, hfirst, hsame⟩ := hseen stableId hold
        exact ⟨first, List.mem_append_left _ hfirst, hsame⟩
      · exact ⟨message, by simp, rfl⟩

variable {manager : StreamManager δ} {i : ℕ}

/-- What becomes of a message of a key that the current run listens to: while the key waits
for a baseline the message waits too, and one that is next for a ready key is applied at once,
which leaves the key ready. -/
structure Taken (options : StreamManagerOptions) (manager : StreamManager δ) (i : ℕ)
    (message : ManagedStreamMessage δ) (state : SubscriptionRunState δ) : Prop where
  waits : state.baselineReady = false → ∃ waiting,
    (manager.step options (.message i message)).state? i message.key = some waiting ∧
      message ∈ waiting.buffer
  applied : ∀ last, state.baselineReady = true →
    place (manager.consumer.feed message.key) = some (some last) →
    message.sequence = some (last + 1) → message.stableId ∉ state.seenIds →
      (manager.step options (.message i message)).consumer.feed message.key =
        manager.consumer.feed message.key ++ [.step (some (last + 1))] ∧
      ∃ ready, (manager.step options (.message i message)).state? i message.key = some ready ∧
        ready.baselineReady = true

theorem mem_bufferMessage_self (options : StreamManagerOptions)
    (message : ManagedStreamMessage δ) (state : SubscriptionRunState δ) :
    message ∈ (state.bufferMessage options message).buffer := by
  unfold SubscriptionRunState.bufferMessage
  split <;> exact List.mem_append_right _ (List.mem_singleton_self message)

theorem Synced.taken (options : StreamManagerOptions) (h : manager.Synced)
    (hcurrent : manager.isCurrent i = true) (hsnapshot : message.isSnapshot = false)
    (hstate : manager.state? i message.key = some state) :
    Taken options manager i message state := by
  have hstep : manager.step options (.message i message) =
      if state.baselineReady = false then
        manager.modifyRun i (.modifyState message.key (.bufferMessage options message))
      else (manager.processReadyMessage options i message.key state message true).1 := by
    change manager.handleMessage options i message = _
    unfold handleMessage
    rw [if_neg (by simp [hcurrent, hsnapshot]), hstate]
  constructor
  · intro hwaits
    rw [hstep, if_pos hwaits, state?_modifyState, hstate]
    exact ⟨_, rfl, mem_bufferMessage_self options message state⟩
  · intro last hready hplace hsequence hseen
    have hlast : state.lastSequence = some last := by
      rw [h.ready i message.key state (currentRun_of_isCurrent hcurrent) hstate hready] at hplace
      exact Option.some.inj hplace
    have hposition : state.position message = .applied := by
      unfold SubscriptionRunState.position
      simp only [hseen, hsequence, hlast, if_false, ne_eq, not_true_eq_false]
      exact if_neg (by omega)
    rw [hstep, if_neg (by simp [hready])]
    unfold processReadyMessage
    rw [if_neg (by simp [hcurrent]), hposition]
    have hentry : (StreamUpdate.delta message.key message).entry message.key =
        some (.step (some (last + 1))) := by
      simp [StreamUpdate.entry, hsequence]
    refine ⟨feed_apply_of_entry hentry _, state.advance message, ?_, hready⟩
    have hadvanced := state?_modifyState manager i message.key (.advance message)
    rw [hstate] at hadvanced
    exact hadvanced

end StreamManager

namespace HeardStream

theorem manager_run (options : StreamManagerOptions) (key : String) (heard : HeardStream δ)
    (events : List (StreamEvent δ)) :
    (run (HeardStream.step options key) heard events).manager =
      run (StreamManager.step options) heard.manager events := by
  induction events generalizing heard with
  | nil => rfl
  | cons event events ih => exact ih (heard.step options key event)

/-- While the key is live, every message that it received since its last baseline and whose
sequence is past the baseline's was applied, unless another message has its content. -/
def NoneOmitted (key : String) (heard : HeardStream δ) : Prop :=
  heard.Live key → ∀ (earlier deltas : List (Entry ℤ)) (start : ℤ),
    heard.manager.consumer.feed key = earlier ++ .checkpoint (some start) :: deltas →
    (∀ entry ∈ deltas, entry.isStep = true) →
    ∀ message ∈ heard.received, ∀ sequence, message.sequence = some sequence →
      start < sequence → .step (some sequence) ∈ deltas ∨
        StreamManager.Repeats heard.received message

theorem noneOmitted_of_synced {heard : HeardStream δ} {key : String}
    {own : String → ManagedStreamMessage δ → Prop}
    (h : heard.Followed own StreamManager.CaughtUp key) (hsynced : heard.manager.Synced) :
    heard.NoneOmitted key := by
  rintro ⟨i, state, hcurrent, hstate, hready⟩ earlier deltas start hfeed hdeltas message hmem
    sequence hsequence hpast
  have hplace := hsynced.ready i key state hcurrent hstate hready
  have hgapFree := hsynced.gapFree key
  rw [hfeed, ← List.append_nil (earlier ++ _)] at hgapFree
  rw [hfeed, (hgapFree.place_segment hdeltas).1, Option.some.injEq] at hplace
  rcases (h.ready i state hcurrent hstate hready).holds.1 message hmem sequence hsequence with
    ⟨last, hlast, hle⟩ | hrepeats
  · left
    rw [hlast, Option.some.injEq] at hplace
    -- the position past the baseline, counted from zero
    obtain ⟨count, hcount⟩ := Int.eq_ofNat_of_zero_le (show 0 ≤ sequence - start - 1 by omega)
    have hstep := hgapFree.step_mem hdeltas (i := count) (by omega)
    have hposition : start + ((count + 1 : ℕ) : ℤ) = sequence := by omega
    rwa [hposition] at hstep
  · exact .inr hrepeats

end HeardStream

/-- **Streams are applied without a gap.** In every run of the manager, the sequenced
deltas of a key that were applied after a baseline with a sequence, and before any
other baseline of the key, carry the sequences that follow it, in order, none omitted
and none twice. None that was received is left out: while the key is live, every message
past its baseline was applied; the next one is applied when it comes, and what comes while
the key waits for a baseline waits with it. What happens to a generation once it was left (a
message, a loaded baseline, a timer, a failure) never changes what the consumer was given,
however the run goes on. -/
theorem streams_applied_gap_free (options : StreamManagerOptions)
    (before after : List (StreamEvent δ)) :
    let manager := run (StreamManager.step options) StreamManager.create before
    let later := run (StreamManager.step options) manager after
    (∀ (key : String) (earlier deltas rest : List (Entry ℤ)) (sequence : ℤ),
      manager.consumer.feed key = earlier ++ .checkpoint (some sequence) :: deltas ++ rest →
        (∀ entry ∈ deltas, entry.isStep = true) → deltas.filterMap Entry.stepPosition =
          (List.range (deltas.filterMap Entry.stepPosition).length).map
            fun i => sequence + ((i + 1 : ℕ) : ℤ)) ∧
    (∀ key, (run (HeardStream.step options key) .create before).NoneOmitted key) ∧
    (∀ i message state, manager.isCurrent i = true → message.isSnapshot = false →
      manager.state? i message.key = some state →
        StreamManager.Taken options manager i message state) ∧
    ∀ event, manager.Superseded event →
      (later.step options event).consumer = later.consumer := by
  intro manager later
  have hsynced : manager.Synced := StreamManager.synced_of_run options before
  refine ⟨?_, fun key => ?_, fun i message state => hsynced.taken options, ?_⟩
  · intro key earlier deltas rest sequence hfeed hdeltas
    have hgapFree := hsynced.gapFree key
    rw [hfeed] at hgapFree
    exact hgapFree.segment hdeltas
  · have hfollowed : (run (HeardStream.step options key) .create before).Followed
        (fun key message => message.key = key) StreamManager.CaughtUp key :=
      HeardStream.Followed.run options (StreamManager.kept_caughtUp _) (fun _ _ h => h)
        HeardStream.followed_create fun _ _ _ => rfl
    apply HeardStream.noneOmitted_of_synced hfollowed
    rw [HeardStream.manager_run]
    exact hsynced
  · intro event hevent
    apply StreamManager.consumer_step
    exact hevent.aged (StreamManager.aged_run options hsynced after)

namespace Sample

def bookMessage (sequence : ℤ) (stableId : String) : ManagedStreamMessage Unit where
  key := "book"
  sequence := some sequence
  stableId := stableId
  data := ()
  isSnapshot := false

/-- Two messages come before the baseline, of which it covers one, and two after it. -/
def bookEvents : List (StreamEvent Unit) :=
  [.setSubscriptions [⟨"book"⟩], .setEnvironment true true, .connected 0 .opened,
    .message 0 (bookMessage 5 "e"), .message 0 (bookMessage 6 "f"),
    .loaded 0 0 (some ⟨some 5, ()⟩), .message 0 (bookMessage 7 "g"),
    .message 0 (bookMessage 8 "h")]

end Sample

/-- The three messages past the baseline are applied, the one that had waited for it too. -/
theorem streams_applied_gap_free_book :
    let heard := run (HeardStream.step {} "book") .create Sample.bookEvents
    heard.received.map ManagedStreamMessage.sequence = [some 5, some 6, some 7, some 8] ∧
      heard.manager.consumer.feed "book" =
        [.checkpoint (some 5), .step (some 6), .step (some 7), .step (some 8)] ∧
      ∀ message ∈ heard.received, ∀ sequence, message.sequence = some sequence → 5 < sequence →
        .step (some sequence) ∈ [.step (some 6), .step (some 7), (.step (some 8) : Entry ℤ)] := by
  intro heard
  have hfeed : heard.manager.consumer.feed "book" =
      [.checkpoint (some 5), .step (some 6), .step (some 7), .step (some 8)] := by
    decide
  have hready : (heard.manager.state? 0 "book").any (·.baselineReady) = true := by
    decide
  have hapart : ∀ message ∈ heard.received, ∀ other ∈ heard.received,
      other.stableId = message.stableId → other.sequence = message.sequence := by
    decide
  refine ⟨by decide, hfeed, fun message hmem sequence hsequence hpast => ?_⟩
  obtain ⟨state, hstate, hready⟩ := (Option.any_eq_true _ _).mp hready
  rcases (streams_applied_gap_free {} Sample.bookEvents []).2.1 "book"
      ⟨0, state, by decide, hstate, hready⟩ [] _ 5 hfeed (by decide) message hmem
      sequence hsequence hpast with happlied | ⟨other, hother, hcontent, hne⟩
  · exact happlied
  · exact absurd (hapart message hmem other hother hcontent) hne

end HyperTrader
