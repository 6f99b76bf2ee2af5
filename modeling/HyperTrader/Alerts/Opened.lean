import HyperTrader.Alerts.Orderly

/-!
# An opened alert is in its own context

In a run whose events meet `Careful`, every open that returns its alert as ready
does so in the context of the alert, an open that ends without entering leaves
the context, an alert is recorded at most once while the history holds it, and an
alert whose opens all ended otherwise can be claimed.
-/

namespace HyperTrader

open Library

namespace Alerts

variable {entry after later : Entry} {i : ℕ} {call : Open} {alertId : String}

/-- Opens only go on: none is lost, and one that has turned or been recorded stays
so. -/
def Forward (entry after : Entry) : Prop :=
  ∀ (j : ℕ) (old : Open), entry.opens[j]? = some old →
    ∃ other, after.opens[j]? = some other ∧ other.alertId = old.alertId ∧
      (old.stage.turned = true → other.stage.turned = true) ∧
      (old.stage.recorded = true → other.stage.recorded = true)

theorem Forward.refl (entry : Entry) : Forward entry entry :=
  fun _ old hold => ⟨old, hold, rfl, id, id⟩

theorem Forward.trans (h : Forward entry after) (h' : Forward after later) :
    Forward entry later := by
  intro j old hold
  obtain ⟨other, hother, halert, hturned, hrecorded⟩ := h j old hold
  obtain ⟨last, hlast, halert', hturned', hrecorded'⟩ := h' j other hother
  exact ⟨last, hlast, halert'.trans halert, hturned' ∘ hturned, hrecorded' ∘ hrecorded⟩

def NewlyRecorded (entry after : Entry) (alertId : String) (j : ℕ) : Prop :=
  (∃ call, after.opens[j]? = some call ∧ call.alertId = alertId ∧ call.stage.recorded = true) ∧
  ∀ old, entry.opens[j]? = some old → old.stage.recorded = false

def Returns (entry after : Entry) (j : ℕ) (result : EntryResult) : Prop :=
  (∃ call, after.opens[j]? = some call ∧ call.stage = .returned result) ∧
  ∀ old, entry.opens[j]? = some old → old.stage ≠ .returned result

variable {j : ℕ} {event : EntryEvent} {events : List EntryEvent}

theorem NewlyRecorded.split (hforward : Forward after later)
    (h : NewlyRecorded entry later alertId j) :
    NewlyRecorded entry after alertId j ∨ NewlyRecorded after later alertId j := by
  obtain ⟨⟨last, hlast, halert, hrecorded⟩, hold⟩ := h
  by_cases hbetween : ∃ other, after.opens[j]? = some other ∧ other.stage.recorded = true
  · obtain ⟨other, hother, hother_recorded⟩ := hbetween
    obtain ⟨last', hlast', halert', -⟩ := hforward j other hother
    rw [hlast] at hlast'
    cases hlast'
    exact .inl ⟨⟨other, hother, halert'.symm.trans halert, hother_recorded⟩, hold⟩
  · refine .inr ⟨⟨last, hlast, halert, hrecorded⟩, fun other hother => ?_⟩
    exact Bool.eq_false_iff.mpr fun hother_recorded => hbetween ⟨other, hother, hother_recorded⟩

theorem step_forward (hcareful : Careful entry event) : Forward entry (entry.step event) := by
  intro j old hold
  rcases step_cases hcareful with hstood | ⟨i, reply, call, next, -, hcall, hmoved⟩
  · obtain ⟨other, hother, halert, hstage⟩ := hstood.keeps j old hold
    exact ⟨other, hother, halert, hstage.symm ▸ id, hstage.symm ▸ id⟩
  · by_cases hj : j = i
    · subst hj
      rw [hcall] at hold
      cases hold
      exact ⟨_, hmoved.self hcall, rfl, hmoved.turned, hmoved.keepsRecorded⟩
    · exact ⟨old, (hmoved.other hj).trans hold, rfl, id, id⟩

theorem step_newlyRecorded (hcareful : Careful entry event)
    (h : NewlyRecorded entry (entry.step event) alertId j) :
    ∃ reply call, event = .resumed j reply ∧ entry.opens[j]? = some call ∧
      call.alertId = alertId ∧ call.stage.claimed = true := by
  obtain ⟨⟨other, hother, halert, hrecorded⟩, hnew⟩ := h
  rcases step_cases hcareful with hstood | ⟨i, reply, call, next, hevent, hcall, hmoved⟩
  · obtain ⟨old, hold, -, hstage⟩ := hstood.old hother
      (by refine ⟨?_, ?_, ?_⟩ <;> intro heq <;> rw [heq] at hrecorded <;> cases hrecorded)
    rw [hstage, hnew old hold] at hrecorded
    cases hrecorded
  · rcases hmoved.lookup hcall hother with ⟨rfl, rfl⟩ | ⟨hj, hold⟩
    · rcases hmoved.recorded hrecorded with hbefore | hclaimed
      · rw [hnew call hcall] at hbefore
        cases hbefore
      · exact ⟨reply, call, hevent, hcall, halert, hclaimed⟩
    · rw [hnew other hold] at hrecorded
      cases hrecorded

theorem step_handled (hcareful : Careful entry event)
    (h : alertId ∈ (entry.step event).handledAlertIds) :
    alertId ∈ entry.handledAlertIds ∨ ∃ (j : ℕ) (call : Open),
      (entry.step event).opens[j]? = some call ∧ call.alertId = alertId ∧
        call.stage.recorded = true := by
  rcases step_cases hcareful with hstood | ⟨i, reply, call, next, -, hcall, hmoved⟩
  · exact .inl (hstood.handled ▸ h)
  · rcases hmoved.handled with hsame | ⟨-, hrecorded, hmem⟩
    · exact .inl (hsame ▸ h)
    · refine (hmem alertId h).imp_right fun halert => ?_
      exact ⟨i, _, hmoved.self hcall, halert.symm, hrecorded⟩

theorem step_turned (hcareful : Careful entry event)
    (h : (entry.step event).supervisor.current ≠ entry.supervisor.current) :
    ∃ j reply call, event = .resumed j reply ∧
      (entry.step event).opens[j]? = some call ∧ call.stage.turned = true := by
  rcases step_cases hcareful with hstood | ⟨i, reply, call, next, hevent, hcall, hmoved⟩
  · exact absurd hstood.current h
  · rcases hmoved.context with hsame | ⟨hturned, -⟩
    · exact absurd hsame h
    · exact ⟨i, reply, _, hevent, hmoved.self hcall, hturned⟩

theorem step_returns (horderly : Orderly entry)
    (hcareful : Careful entry event) {alert : MobileAlert}
    (h : Returns entry (entry.step event) j (.ready alert)) :
    sameContext alert (entry.step event).supervisor.current = true := by
  obtain ⟨⟨other, hother, hstage⟩, hnew⟩ := h
  rcases step_cases hcareful with hstood | ⟨i, reply, call, next, -, hcall, hmoved⟩
  · obtain ⟨old, hold, -, hsame⟩ := hstood.old hother
      (by refine ⟨?_, ?_, ?_⟩ <;> intro heq <;> rw [heq] at hstage <;> cases hstage)
    exact absurd (hsame.symm.trans hstage) (hnew old hold)
  · rcases hmoved.lookup hcall hother with ⟨rfl, rfl⟩ | ⟨-, hold⟩
    · obtain ⟨hreturning, hcurrent⟩ := hmoved.returned alert hstage
      rw [hcurrent]
      exact horderly.entered j call hcall alert (by rw [hreturning]; rfl)
    · exact absurd hstage (hnew other hold)

theorem run_orderly (horderly : Orderly entry)
    (h : Along Entry.step Careful entry events) : Orderly (run Entry.step entry events) :=
  run_invariant_along (fun _ event => step_orderly event) horderly h

theorem run_forward (h : Along Entry.step Careful entry events) :
    Forward entry (run Entry.step entry events) := by
  induction events generalizing entry with
  | nil => exact .refl entry
  | cons event events ih => exact (step_forward h.1).trans (ih h.2)

def Holding (alertId : String) : Entry → List EntryEvent → Prop :=
  Along Entry.step fun entry event => alertId ∈ (entry.step event).handledAlertIds

theorem not_newlyRecorded_run (horderly : Orderly entry)
    (h : Along Entry.step Careful entry events) (hheld : alertId ∈ entry.handledAlertIds)
    (hholding : Holding alertId entry events) (j : ℕ) :
    ¬ NewlyRecorded entry (run Entry.step entry events) alertId j := by
  induction events generalizing entry with
  | nil =>
    rintro ⟨⟨call, hcall, -, hrecorded⟩, hnew⟩
    rw [hnew call hcall] at hrecorded
    cases hrecorded
  | cons event events ih =>
    intro hrecorded
    rcases hrecorded.split (run_forward h.2) with hnow | hlater
    · obtain ⟨reply, call, -, hcall, rfl, hclaimed⟩ := step_newlyRecorded h.1 hnow
      exact horderly.claimed j call hcall hclaimed hheld
    · exact ih (step_orderly event horderly h.1) h.2 hholding.1 hholding.2 hlater

theorem newlyRecorded_unique (horderly : Orderly entry)
    (h : Along Entry.step Careful entry events) (hholding : Holding alertId entry events)
    {k : ℕ} (hj : NewlyRecorded entry (run Entry.step entry events) alertId j)
    (hk : NewlyRecorded entry (run Entry.step entry events) alertId k) : j = k := by
  cases events with
  | nil =>
    obtain ⟨⟨call, hcall, -, hrecorded⟩, hnew⟩ := hj
    rw [run_nil] at hcall
    rw [hnew call hcall] at hrecorded
    cases hrecorded
  | cons event events =>
    have hlater := not_newlyRecorded_run (step_orderly event horderly h.1) h.2 hholding.1
      hholding.2
    rcases hj.split (run_forward h.2) with hnow | hnow
    · rcases hk.split (run_forward h.2) with hnow' | hnow'
      · obtain ⟨reply, call, hevent, -⟩ := step_newlyRecorded h.1 hnow
        obtain ⟨reply', call', hevent', -⟩ := step_newlyRecorded h.1 hnow'
        rw [hevent] at hevent'
        cases hevent'
        rfl
      · exact absurd hnow' (hlater k)
    · exact absurd hnow (hlater j)

theorem run_handled (h : Along Entry.step Careful entry events)
    (hmem : alertId ∈ (run Entry.step entry events).handledAlertIds) :
    alertId ∈ entry.handledAlertIds ∨
      ∃ (j : ℕ) (call : Open), (run Entry.step entry events).opens[j]? = some call ∧
        call.alertId = alertId ∧ call.stage.recorded = true := by
  induction events generalizing entry with
  | nil => exact .inl hmem
  | cons event events ih =>
    rcases ih h.2 hmem with hbefore | hready
    · rcases step_handled h.1 hbefore with hfirst | ⟨j, call, hcall, halert, hrecorded⟩
      · exact .inl hfirst
      · obtain ⟨other, hother, halert', -, hkept⟩ := run_forward h.2 j call hcall
        exact .inr ⟨j, other, hother, halert'.trans halert, hkept hrecorded⟩
    · exact .inr hready

def Claimable (entry : Entry) (alertId : String) : Prop :=
  ∀ coordinator, ∃ call,
    (run Entry.step entry [.called coordinator alertId,
      .resumed entry.opens.length (.hydrated true),
      .resumed entry.opens.length .checked]).opens[entry.opens.length]? = some call ∧
    call.stage = .starting

structure Opened (start : Entry) (events : List EntryEvent) : Prop where
  /-- An alert is returned as ready in its own context. -/
  ready : ∀ before event rest, events = before ++ event :: rest → ∀ j alert,
    Returns (run Entry.step start before) (run Entry.step start (before ++ [event])) j
        (.ready alert) →
      sameContext alert (run Entry.step start (before ++ [event])).supervisor.current = true
  /-- No step of an open that ends without entering its alert changes the context. -/
  quiet : ∀ before j reply rest, events = before ++ .resumed j reply :: rest →
    (∃ call, (run Entry.step start events).opens[j]? = some call ∧ call.stage.quiet = true) →
      (run Entry.step start (before ++ [.resumed j reply])).supervisor.current =
        (run Entry.step start before).supervisor.current
  /-- While the history holds an alert, one open at most becomes ready with it. -/
  once : ∀ before rest, events = before ++ rest → ∀ alertId,
    Holding alertId (run Entry.step start before) rest →
      ∀ j k, NewlyRecorded (run Entry.step start before) (run Entry.step start events) alertId j →
        NewlyRecorded (run Entry.step start before) (run Entry.step start events) alertId k →
          j = k
  /-- An alert whose opens have all ended otherwise can be claimed. -/
  claimable : ∀ alertId, alertIdPattern.test alertId = true →
    alertId ∉ start.handledAlertIds →
    (∀ call ∈ (run Entry.step start events).opens, call.alertId = alertId →
      ∃ result, call.stage = .returned result ∧ ∀ alert, result ≠ .ready alert) →
    Claimable (run Entry.step start events) alertId

theorem claimable_of_free (hpattern : alertIdPattern.test alertId = true)
    (hfree : alertId ∉ entry.inFlightAlertIds) (hnew : alertId ∉ entry.handledAlertIds) :
    Claimable entry alertId := by
  intro coordinator
  have hcalled : entry.step (.called coordinator alertId) =
      { entry with
        inFlightAlertIds := alertId :: entry.inFlightAlertIds
        opens := entry.opens ++ [⟨coordinator, alertId, false, .claiming⟩] } := by
    change entry.call coordinator alertId = _
    unfold Entry.call
    rw [hpattern, if_neg (by decide), if_neg hfree]
  rw [run_cons, hcalled]
  generalize hclaiming : ({ entry with
    inFlightAlertIds := alertId :: entry.inFlightAlertIds
    opens := entry.opens ++ [⟨coordinator, alertId, false, .claiming⟩] } : Entry) = claiming
  have hcall : claiming.opens[entry.opens.length]? =
      some ⟨coordinator, alertId, false, .claiming⟩ := by
    rw [← hclaiming]
    exact List.getElem?_concat_length
  have hkept : alertId ∉ claiming.handledAlertIds := by
    rw [← hclaiming]
    exact hnew
  rw [run_cons, step_resumed hcall]
  have hhydrated : claiming.resume entry.opens.length ⟨coordinator, alertId, false, .claiming⟩
      (.hydrated true) = (claiming.hydrate true).setStage entry.opens.length .checking := by
    change claiming.afterClaimHydrated _ _ _ = _
    unfold Entry.afterClaimHydrated
    exact if_pos (Bool.or_true _)
  rw [hhydrated, run_cons, run_nil]
  have hchecking : ((claiming.hydrate true).setStage entry.opens.length .checking).opens[
      entry.opens.length]? = some ⟨coordinator, alertId, false, .checking⟩ := by
    change (claiming.opens.modify _ _)[_]? = _
    rw [List.getElem?_modify_eq, hcall]
    rfl
  rw [step_resumed hchecking]
  change ∃ call, (Entry.afterCheck _ _ _).opens[_]? = some call ∧ _
  unfold Entry.afterCheck
  rw [if_neg (show alertId ∉ ((claiming.hydrate true).setStage entry.opens.length
    .checking).handledAlertIds from hkept)]
  change ∃ call, (List.modify _ _ _)[_]? = some call ∧ _
  rw [List.getElem?_modify_eq, hchecking]
  exact ⟨_, rfl, rfl⟩

def priceAlert (network : HyperliquidNetwork) : MobileAlert :=
  ⟨true, network, some .price, none⟩

def firstAlertId : String := "00000000000000000000000000000001"

def secondAlertId : String := "00000000000000000000000000000002"

def watching (network : HyperliquidNetwork) : TradingContextIdentity :=
  ⟨network, none, none, none⟩

def untilFetched (i coordinator : ℕ) (alertId : String) (alert : MobileAlert) : List EntryEvent :=
  [.called coordinator alertId, .resumed i (.hydrated true), .resumed i .checked,
    .resumed i .started, .resumed i (.fetched (some alert))]

def switched (i : ℕ) : List EntryEvent :=
  [.resumed i (.confirmed true), .resumed i (.switched true none), .resumed i (.selected true)]

def untilReady (i : ℕ) : List EntryEvent :=
  [.resumed i (.refreshed true), .resumed i (.hydrated true), .resumed i (.marked true),
    .resumed i .settled, .resumed i .returned]

/-- An alert is opened with a switch; then the screen, not rendered since, fails to fetch another
alert, and the first is opened again. -/
def openedTwice : List EntryEvent :=
  untilFetched 0 0 firstAlertId (priceAlert .mainnet) ++ switched 0 ++ untilReady 0 ++
    [.called 0 secondAlertId, .resumed 1 (.hydrated true), .resumed 1 .checked,
      .resumed 1 .started, .resumed 1 (.fetched none), .resumed 1 .returned,
      .called 1 firstAlertId, .resumed 2 (.hydrated true), .resumed 2 .checked]

/-- While the first alert is refreshed, the second one switches the network. -/
def overtaken : List EntryEvent :=
  untilFetched 0 0 firstAlertId (priceAlert .testnet) ++
    untilFetched 1 1 secondAlertId (priceAlert .mainnet) ++ switched 1 ++ untilReady 0

end Alerts

end HyperTrader
