import HyperTrader.Alerts.Replies
import HyperTrader.Library.Machine
import HyperTrader.Library.Processes

/-!
# What holds of the opens

In a run whose events meet `Careful`, an alert in flight belongs to exactly one
open, an open that was granted its claim has an alert that the history does not
hold, and the context is the one of every alert that has been entered.
-/

namespace HyperTrader

open Library

namespace Alerts

variable {entry : Entry} {i : ℕ} {call : Open}

/-- The condition on an event. An alert is opened only where no commit of it has
ended whose release is to come, and every reply meets `CarefulReply`. -/
def Careful (entry : Entry) : EntryEvent → Prop
  | .called _ alertId => ∀ call ∈ entry.opens, call.alertId = alertId →
      call.stage.isSettling = false
  | .resumed i reply => ∀ call ∈ entry.opens[i]?, CarefulReply entry i call reply
  | _ => True

instance (entry : Entry) (event : EntryEvent) : Decidable (Careful entry event) := by
  cases event <;> unfold Careful <;> exact inferInstance

/-- What holds of the opens in every state: an alert is in flight for exactly one
open that holds it, an open that was granted its claim has an alert that the
history does not hold, and an open that has entered its alert is in its context. -/
structure Orderly (entry : Entry) : Prop where
  marker : ∀ alertId ∈ entry.inFlightAlertIds, ∃ (i : ℕ) (call : Open),
    entry.opens[i]? = some call ∧ call.alertId = alertId ∧ call.stage.holds = true
  held : ∀ (i : ℕ) (call : Open), entry.opens[i]? = some call → call.stage.holds = true →
    call.alertId ∈ entry.inFlightAlertIds
  unique : ∀ (i j : ℕ) (first second : Open), entry.opens[i]? = some first →
    entry.opens[j]? = some second → first.stage.holds = true → second.stage.holds = true →
    first.alertId = second.alertId → i = j
  apart : ∀ (i j : ℕ) (first second : Open), entry.opens[i]? = some first →
    entry.opens[j]? = some second → first.stage.isSettling = true → second.stage.holds = true →
    first.alertId ≠ second.alertId
  claimed : ∀ (i : ℕ) (call : Open), entry.opens[i]? = some call → call.stage.claimed = true →
    call.alertId ∉ entry.handledAlertIds
  entered : ∀ (i : ℕ) (call : Open), entry.opens[i]? = some call →
    ∀ alert ∈ call.stage.entered, sameContext alert entry.supervisor.current = true

theorem orderly_create (initial : TradingContextIdentity) (accounts : List SavedAccount)
    (handledAlertIds : List String) :
    Orderly (Entry.create initial accounts handledAlertIds) where
  marker _ h := absurd h List.not_mem_nil
  held _ _ h := by cases h
  unique _ _ _ _ h := by cases h
  apart _ _ _ _ h := by cases h
  claimed _ _ h := by cases h
  entered _ _ h := by cases h

section Moved

variable {next : Stage} {after : Entry} {j : ℕ}

theorem Moved.lookup (hcall : entry.opens[i]? = some call) (h : Moved entry i call next after)
    {other : Open} (hother : after.opens[j]? = some other) :
    j = i ∧ other = { call with stage := next } ∨ j ≠ i ∧ entry.opens[j]? = some other := by
  rw [h.opens] at hother
  rcases getElem?_modify_cases hother with ⟨old, hold, rfl, rfl⟩ | hkept
  · rw [hcall] at hold
    cases hold
    exact .inl ⟨rfl, rfl⟩
  · exact .inr hkept

theorem Moved.self (hcall : entry.opens[i]? = some call) (h : Moved entry i call next after) :
    after.opens[i]? = some { call with stage := next } := by
  rw [h.opens, List.getElem?_modify_eq, hcall]
  rfl

theorem Moved.other (h : Moved entry i call next after) (hj : j ≠ i) :
    after.opens[j]? = entry.opens[j]? := by
  rw [h.opens, List.getElem?_modify_ne _ _ hj.symm]

theorem Moved.marker (horderly : Orderly entry) (hcall : entry.opens[i]? = some call)
    (h : Moved entry i call next after) {alertId : String}
    (hmem : alertId ∈ after.inFlightAlertIds) :
    ∃ (j : ℕ) (other : Open), after.opens[j]? = some other ∧ other.alertId = alertId ∧
      other.stage.holds = true := by
  rcases h.inFlight with ⟨hholds, hsame⟩ | ⟨-, -, hfiltered⟩
  · rw [hsame] at hmem
    obtain ⟨j, other, hother, halert, hother_holds⟩ := horderly.marker alertId hmem
    by_cases hj : j = i
    · subst hj
      rw [hcall] at hother
      cases hother
      exact ⟨j, _, h.self hcall, halert, hholds.trans hother_holds⟩
    · exact ⟨j, other, (h.other hj).trans hother, halert, hother_holds⟩
  · rw [hfiltered, List.mem_filter, decide_eq_true_iff] at hmem
    obtain ⟨j, other, hother, halert, hother_holds⟩ := horderly.marker alertId hmem.1
    have hj : j ≠ i := by
      rintro rfl
      rw [hcall] at hother
      cases hother
      exact hmem.2 halert.symm
    exact ⟨j, other, (h.other hj).trans hother, halert, hother_holds⟩

theorem Moved.held (horderly : Orderly entry) (hcall : entry.opens[i]? = some call)
    (h : Moved entry i call next after) {other : Open}
    (hother : after.opens[j]? = some other) (hholds : other.stage.holds = true) :
    other.alertId ∈ after.inFlightAlertIds := by
  rcases h.lookup hcall hother with ⟨rfl, rfl⟩ | ⟨hj, hold⟩
  · have hmem := horderly.held j call hcall (h.holds hholds)
    rcases h.inFlight with ⟨-, hsame⟩ | ⟨-, hnext, -⟩
    · rw [hsame]
      exact hmem
    · rw [hnext] at hholds
      cases hholds
  · have hmem := horderly.held j other hold hholds
    rcases h.inFlight with ⟨-, hsame⟩ | ⟨hlive, -, hfiltered⟩
    · rw [hsame]
      exact hmem
    · rw [hfiltered, List.mem_filter, decide_eq_true_iff]
      refine ⟨hmem, fun halert => ?_⟩
      rcases Stage.holds_or_isSettling_of_live hlive with hcall_holds | hsettling
      · exact hj (horderly.unique j i other call hold hcall hholds hcall_holds halert)
      · exact horderly.apart i j call other hcall hold hsettling hholds halert.symm

theorem Moved.not_handled (horderly : Orderly entry) (hcall : entry.opens[i]? = some call)
    (h : Moved entry i call next after) {other : Open}
    (hother : after.opens[j]? = some other) (hclaimed : other.stage.claimed = true) :
    other.alertId ∉ after.handledAlertIds := by
  rcases h.lookup hcall hother with ⟨rfl, rfl⟩ | ⟨hj, hold⟩
  · have hnew : call.alertId ∉ entry.handledAlertIds :=
      (h.claimed hclaimed).elim (horderly.claimed j call hcall) id
    rcases h.handled with hsame | ⟨-, hrecorded, -⟩
    · rw [hsame]
      exact hnew
    · rw [Stage.not_recorded_of_claimed hclaimed] at hrecorded
      cases hrecorded
  · have hnew := horderly.claimed j other hold hclaimed
    rcases h.handled with hsame | ⟨hcall_claimed, -, hmem⟩
    · rw [hsame]
      exact hnew
    · intro hafter
      rcases hmem _ hafter with hbefore | halert
      · exact hnew hbefore
      · exact hj (horderly.unique j i other call hold hcall (Stage.holds_of_claimed hclaimed)
          (Stage.holds_of_claimed hcall_claimed) halert)

theorem Moved.sameContext (horderly : Orderly entry) (hcall : entry.opens[i]? = some call)
    (h : Moved entry i call next after) {other : Open}
    (hother : after.opens[j]? = some other) {alert : MobileAlert}
    (halert : alert ∈ other.stage.entered) : sameContext alert after.supervisor.current = true := by
  rcases h.lookup hcall hother with ⟨rfl, rfl⟩ | ⟨hj, hold⟩
  · rcases h.entered alert halert with hbefore | hsame
    · rcases h.context with hsame | ⟨-, operation, switched, switchEpoch, hstage, -⟩
      · rw [hsame]
        exact horderly.entered j call hcall alert hbefore
      · rw [hstage] at hbefore
        cases hbefore
    · exact hsame
  · rcases h.context with hsame | ⟨-, operation, switched, switchEpoch, -, hcurrent, hothers⟩
    · rw [hsame]
      exact horderly.entered j other hold alert halert
    · rw [hcurrent]
      have hmem : other ∈ entry.opens.eraseIdx i :=
        List.mem_eraseIdx_iff_getElem?.mpr ⟨j, hj, hold⟩
      exact sameContext_normalize (hothers other hmem alert halert)

theorem Moved.orderly (horderly : Orderly entry) (hcall : entry.opens[i]? = some call)
    (h : Moved entry i call next after) : Orderly after where
  marker _ hmem := h.marker horderly hcall hmem
  held _ _ hother hholds := h.held horderly hcall hother hholds
  unique j k first second hfirst hsecond hone htwo heq := by
    rcases h.lookup hcall hfirst with ⟨rfl, rfl⟩ | ⟨hj, hold⟩ <;>
      rcases h.lookup hcall hsecond with ⟨rfl, rfl⟩ | ⟨hk, hold'⟩
    · rfl
    · exact horderly.unique _ _ _ _ hcall hold' (h.holds hone) htwo heq
    · exact horderly.unique _ _ _ _ hold hcall hone (h.holds htwo) heq
    · exact horderly.unique _ _ _ _ hold hold' hone htwo heq
  apart j k first second hfirst hsecond hone htwo := by
    rcases h.lookup hcall hfirst with ⟨rfl, rfl⟩ | ⟨hj, hold⟩ <;>
      rcases h.lookup hcall hsecond with ⟨rfl, rfl⟩ | ⟨hk, hold'⟩
    · rw [Stage.not_holds_of_isSettling hone] at htwo
      cases htwo
    · intro heq
      exact hk (horderly.unique _ _ _ _ hcall hold'
        (Stage.holds_of_claimed (h.settling hone)) htwo heq).symm
    · exact horderly.apart _ _ _ call hold hcall hone (h.holds htwo)
    · exact horderly.apart _ _ _ _ hold hold' hone htwo
  claimed _ _ hother hclaimed := h.not_handled horderly hcall hother hclaimed
  entered _ _ hother _ halert := h.sameContext horderly hcall hother halert

end Moved

/-- An event that no open waited for: each open is as it was, or has just been
called. -/
structure Stood (entry after : Entry) : Prop where
  opens : ∀ (j : ℕ) (other : Open), after.opens[j]? = some other →
    (∃ old, entry.opens[j]? = some old ∧ other.alertId = old.alertId ∧ other.stage = old.stage) ∨
      entry.opens[j]? = none ∧ (other.stage = .claiming ∨ other.stage = .returned .duplicate ∨
        other.stage = .returned .targetUnavailable)
  keeps : ∀ (j : ℕ) (old : Open), entry.opens[j]? = some old →
    ∃ other, after.opens[j]? = some other ∧ other.alertId = old.alertId ∧
      other.stage = old.stage
  handled : after.handledAlertIds = entry.handledAlertIds
  current : after.supervisor.current = entry.supervisor.current

theorem Stood.of_opens {after : Entry} (hopens : after.opens = entry.opens)
    (hhandled : after.handledAlertIds = entry.handledAlertIds)
    (hcurrent : after.supervisor.current = entry.supervisor.current) : Stood entry after where
  opens _ other hother := .inl ⟨other, hopens ▸ hother, rfl, rfl⟩
  keeps _ old hold := ⟨old, hopens.symm ▸ hold, rfl, rfl⟩
  handled := hhandled
  current := hcurrent

variable {started : Open} {j : ℕ} {reply : Reply}

theorem Stood.of_call {after : Entry} (hopens : after.opens = entry.opens ++ [started])
    (hstage : started.stage = .claiming ∨ started.stage = .returned .duplicate ∨
      started.stage = .returned .targetUnavailable)
    (hhandled : after.handledAlertIds = entry.handledAlertIds)
    (hcurrent : after.supervisor.current = entry.supervisor.current) : Stood entry after where
  opens j other hother := by
    rw [hopens] at hother
    rcases getElem?_append_cases hother with hold | ⟨rfl, rfl⟩
    · exact .inl ⟨other, hold, rfl, rfl⟩
    · exact .inr ⟨List.getElem?_eq_none le_rfl, hstage⟩
  keeps j old hold := by
    rw [hopens]
    exact ⟨old, getElem?_append_of_some hold _, rfl, rfl⟩
  handled := hhandled
  current := hcurrent

theorem call_stood (coordinator : ℕ) (alertId : String) :
    Stood entry (entry.call coordinator alertId) := by
  unfold Entry.call
  split
  · exact .of_call rfl (.inr (.inr rfl)) rfl rfl
  · split
    · exact .of_call rfl (.inr (.inl rfl)) rfl rfl
    · exact .of_call rfl (.inl rfl) rfl rfl

theorem aborted_stood (i : ℕ) : Stood entry (entry.step (.aborted i)) where
  opens j other hother := by
    rcases getElem?_modify_cases hother with ⟨old, hold, rfl, rfl⟩ | ⟨-, hold⟩
    · exact .inl ⟨old, hold, rfl, rfl⟩
    · exact .inl ⟨other, hold, rfl, rfl⟩
  keeps j old hold := by
    change ∃ other, (entry.opens.modify i _)[j]? = some other ∧ _
    rw [List.getElem?_modify, hold]
    split
    · exact ⟨_, rfl, rfl, rfl⟩
    · exact ⟨_, rfl, rfl, rfl⟩
  handled := rfl
  current := rfl

theorem Stood.old {after : Entry} (h : Stood entry after) {other : Open}
    (hother : after.opens[j]? = some other)
    (hstage : other.stage ≠ .claiming ∧ other.stage ≠ .returned .duplicate ∧
      other.stage ≠ .returned .targetUnavailable) :
    ∃ old, entry.opens[j]? = some old ∧ other.alertId = old.alertId ∧ other.stage = old.stage := by
  rcases h.opens j other hother with hold | ⟨-, hfresh⟩
  · exact hold
  · rcases hfresh with hfresh | hfresh | hfresh
    · exact absurd hfresh hstage.1
    · exact absurd hfresh hstage.2.1
    · exact absurd hfresh hstage.2.2

theorem Stood.not_handled {after : Entry} (horderly : Orderly entry) (h : Stood entry after)
    {other : Open} (hother : after.opens[j]? = some other)
    (hclaimed : other.stage.claimed = true) : other.alertId ∉ after.handledAlertIds := by
  obtain ⟨old, hold, halert, hstage⟩ := h.old hother
    (by refine ⟨?_, ?_, ?_⟩ <;> intro heq <;> rw [heq] at hclaimed <;> cases hclaimed)
  rw [h.handled, halert]
  exact horderly.claimed j old hold (hstage ▸ hclaimed)

theorem Stood.sameContext {after : Entry} (horderly : Orderly entry) (h : Stood entry after)
    {other : Open} (hother : after.opens[j]? = some other) {alert : MobileAlert}
    (halert : alert ∈ other.stage.entered) : sameContext alert after.supervisor.current = true := by
  obtain ⟨old, hold, -, hstage⟩ := h.old hother
    (by refine ⟨?_, ?_, ?_⟩ <;> intro heq <;> rw [heq] at halert <;> cases halert)
  rw [h.current]
  exact horderly.entered j old hold alert (hstage ▸ halert)

theorem Stood.orderly {after : Entry} (horderly : Orderly entry) (h : Stood entry after)
    (hinFlight : after.inFlightAlertIds = entry.inFlightAlertIds)
    (hfresh : ∀ (j : ℕ) (other : Open), after.opens[j]? = some other →
      other.stage.holds = true → ∃ old, entry.opens[j]? = some old ∧
        other.alertId = old.alertId ∧ other.stage = old.stage) : Orderly after where
  marker alertId hmem := by
    rw [hinFlight] at hmem
    obtain ⟨j, old, hold, halert, hholds⟩ := horderly.marker alertId hmem
    obtain ⟨other, hother, hsame, hstage⟩ := h.keeps j old hold
    exact ⟨j, other, hother, hsame.trans halert, hstage ▸ hholds⟩
  held j other hother hholds := by
    obtain ⟨old, hold, halert, hstage⟩ := hfresh j other hother hholds
    rw [hinFlight, halert]
    exact horderly.held j old hold (hstage ▸ hholds)
  unique j k first second hfirst hsecond hone htwo heq := by
    obtain ⟨old, hold, halert, hstage⟩ := hfresh j first hfirst hone
    obtain ⟨old', hold', halert', hstage'⟩ := hfresh k second hsecond htwo
    exact horderly.unique j k old old' hold hold' (hstage ▸ hone) (hstage' ▸ htwo)
      (halert.symm.trans (heq.trans halert'))
  apart j k first second hfirst hsecond hone htwo heq := by
    obtain ⟨old, hold, halert, hstage⟩ := h.old hfirst
      (by refine ⟨?_, ?_, ?_⟩ <;> intro heq <;> rw [heq] at hone <;> cases hone)
    obtain ⟨old', hold', halert', hstage'⟩ := hfresh k second hsecond htwo
    exact horderly.apart j k old old' hold hold' (hstage ▸ hone) (hstage' ▸ htwo)
      (halert.symm.trans (heq.trans halert'))
  claimed _ _ hother hclaimed := h.not_handled horderly hother hclaimed
  entered _ _ hother _ halert := h.sameContext horderly hother halert

theorem Stood.orderly_claiming {after : Entry} (horderly : Orderly entry)
    (h : Stood entry after) (hopens : after.opens = entry.opens ++ [started])
    (hinFlight : after.inFlightAlertIds = started.alertId :: entry.inFlightAlertIds)
    (hstage : started.stage = .claiming) (hfree : started.alertId ∉ entry.inFlightAlertIds)
    (hsettled : ∀ call ∈ entry.opens, call.alertId = started.alertId →
      call.stage.isSettling = false) : Orderly after where
  marker alertId hmem := by
    rw [hinFlight] at hmem
    rcases List.mem_cons.mp hmem with rfl | hmem
    · refine ⟨entry.opens.length, started, ?_, rfl, by rw [hstage]; rfl⟩
      rw [hopens]
      exact List.getElem?_concat_length
    · obtain ⟨j, old, hold, halert, hholds⟩ := horderly.marker alertId hmem
      refine ⟨j, old, ?_, halert, hholds⟩
      rw [hopens]
      exact getElem?_append_of_some hold _
  held j other hother hholds := by
    rw [hopens] at hother
    rw [hinFlight]
    rcases getElem?_append_cases hother with hold | ⟨-, rfl⟩
    · exact List.mem_cons_of_mem _ (horderly.held j other hold hholds)
    · exact List.mem_cons_self
  unique j k first second hfirst hsecond hone htwo heq := by
    rw [hopens] at hfirst hsecond
    rcases getElem?_append_cases hfirst with hold | ⟨rfl, rfl⟩ <;>
      rcases getElem?_append_cases hsecond with hold' | ⟨rfl, rfl⟩
    · exact horderly.unique j k first second hold hold' hone htwo heq
    · exact absurd (heq ▸ horderly.held j first hold hone) hfree
    · exact absurd (heq.symm ▸ horderly.held k second hold' htwo) hfree
    · rfl
  apart j k first second hfirst hsecond hone htwo heq := by
    rw [hopens] at hfirst hsecond
    rcases getElem?_append_cases hfirst with hold | ⟨rfl, rfl⟩
    · rcases getElem?_append_cases hsecond with hold' | ⟨rfl, rfl⟩
      · exact horderly.apart j k first second hold hold' hone htwo heq
      · rw [hsettled first (List.mem_of_getElem? hold) heq] at hone
        cases hone
    · rw [hstage] at hone
      cases hone
  claimed _ _ hother hclaimed := h.not_handled horderly hother hclaimed
  entered _ _ hother _ halert := h.sameContext horderly hother halert

theorem call_orderly (horderly : Orderly entry) {coordinator : ℕ} {alertId : String}
    (hsettled : ∀ call ∈ entry.opens, call.alertId = alertId → call.stage.isSettling = false) :
    Orderly (entry.call coordinator alertId) := by
  have hstood : Stood entry (entry.call coordinator alertId) := call_stood coordinator alertId
  have hreturned : ∀ (result : EntryResult) (j : ℕ) (other : Open),
      (entry.opens ++ [⟨coordinator, alertId, false, .returned result⟩])[j]? = some other →
      other.stage.holds = true → ∃ old, entry.opens[j]? = some old ∧
        other.alertId = old.alertId ∧ other.stage = old.stage := by
    intro result j other hother hholds
    rcases getElem?_append_cases hother with hold | ⟨-, rfl⟩
    · exact ⟨other, hold, rfl, rfl⟩
    · cases hholds
  revert hstood
  unfold Entry.call
  split
  · exact fun hstood => hstood.orderly horderly rfl (hreturned _)
  · split
    · exact fun hstood => hstood.orderly horderly rfl (hreturned _)
    · rename_i hfree
      exact fun hstood => hstood.orderly_claiming horderly rfl rfl rfl hfree hsettled

theorem step_resumed (hcall : entry.opens[i]? = some call) :
    entry.step (.resumed i reply) = entry.resume i call reply := by
  simp only [Entry.step, hcall]

theorem step_resumed_of_none (hcall : entry.opens[i]? = none) :
    entry.step (.resumed i reply) = entry := by
  simp only [Entry.step, hcall]

theorem step_cases {event : EntryEvent} (hcareful : Careful entry event) :
    Stood entry (entry.step event) ∨
      ∃ i reply call next, event = .resumed i reply ∧ entry.opens[i]? = some call ∧
        Moved entry i call next (entry.step event) := by
  cases event with
  | called coordinator alertId => exact .inl (call_stood coordinator alertId)
  | aborted i => exact .inl (aborted_stood i)
  | rendered coordinator => exact .inl (.of_opens rfl rfl rfl)
  | accountsChanged accounts => exact .inl (.of_opens rfl rfl rfl)
  | resumed i reply =>
    cases hcall : entry.opens[i]? with
    | none =>
      rw [step_resumed_of_none hcall]
      exact .inl (.of_opens rfl rfl rfl)
    | some call =>
      rw [step_resumed hcall]
      rcases resume_moved (hcareful call hcall) with hsame | ⟨next, hmoved⟩
      · rw [hsame]
        exact .inl (.of_opens rfl rfl rfl)
      · exact .inr ⟨i, reply, call, next, rfl, hcall, hmoved⟩

theorem step_orderly (event : EntryEvent) (horderly : Orderly entry)
    (hcareful : Careful entry event) : Orderly (entry.step event) := by
  cases event with
  | called coordinator alertId => exact call_orderly horderly hcareful
  | aborted i =>
    refine (aborted_stood i).orderly horderly rfl fun j other hother _ => ?_
    rcases getElem?_modify_cases hother with ⟨old, hold, rfl, rfl⟩ | ⟨-, hold⟩
    · exact ⟨old, hold, rfl, rfl⟩
    · exact ⟨other, hold, rfl, rfl⟩
  | rendered coordinator =>
    have hstood : Stood entry (entry.step (.rendered coordinator)) := .of_opens rfl rfl rfl
    exact hstood.orderly horderly rfl fun j other hother _ => ⟨other, hother, rfl, rfl⟩
  | accountsChanged accounts =>
    have hstood : Stood entry (entry.step (.accountsChanged accounts)) := .of_opens rfl rfl rfl
    exact hstood.orderly horderly rfl fun j other hother _ => ⟨other, hother, rfl, rfl⟩
  | resumed i reply =>
    cases hcall : entry.opens[i]? with
    | none =>
      rw [step_resumed_of_none hcall]
      exact horderly
    | some call =>
      rw [step_resumed hcall]
      rcases resume_moved (hcareful call hcall) with hsame | ⟨next, hmoved⟩
      · rw [hsame]
        exact horderly
      · exact hmoved.orderly horderly hcall

end Alerts

end HyperTrader
