import HyperTrader.Alerts.Moves

/-!
# Every reply moves its open

Each continuation of an open is one of the moves, and the context that a switch
leaves is the one of its alert.
-/

namespace HyperTrader

open Library

namespace Alerts

variable {entry : Entry} {i : ℕ} {call : Open}

theorem normalizeSupervisorAddress_of_test {address : String}
    (h : addressPattern.test address = true) :
    normalizeSupervisorAddress (some address) = some address := by
  have hdigit : ∀ byte, isLowerHexDigit byte = true → isHexDigit byte = true := by
    intro byte hbyte
    rw [isHexDigit, Bool.or_eq_true]
    exact .inl hbyte
  obtain ⟨body, hbody, -, -, hall⟩ := TextPattern.test_iff.mp h
  obtain ⟨digits, hdigits, -, hhex⟩ := TextPattern.toList_of_test hdigit h
  have hcapital : (textBytes address).any (inRange 'A' 'Z') = false := by
    rw [hbody, List.any_append, Bool.or_eq_false_iff]
    refine ⟨by decide, List.any_eq_false.mpr fun byte hbyte => ?_⟩
    have hlower := hall byte hbyte
    have hsmall := lt_of_isHexDigit (hdigit byte hlower)
    revert hlower
    refine byte_induction hsmall ?_
    decide
  have htrimmed : ∀ c ∈ address.toList, isTrimmed c = false := by
    intro c hc
    rw [hdigits] at hc
    rcases List.mem_cons.mp hc with rfl | hc
    · decide
    · rcases List.mem_cons.mp hc with rfl | hc
      · decide
      · obtain ⟨hsmall, hdigit⟩ := hhex c hc
        revert hdigit
        refine ascii_induction hsmall ?_
        decide
  have htrim : trim address = address := by
    have hkeep : ∀ chars : List Char, (∀ c ∈ chars, isTrimmed c = false) →
        chars.dropWhile isTrimmed = chars := by
      intro chars hchars
      cases chars with
      | nil => rfl
      | cons c rest =>
        exact List.dropWhile_cons_of_neg (by simp [hchars c List.mem_cons_self])
    rw [trim, hkeep _ htrimmed, hkeep _ (fun c hc => htrimmed c (List.mem_reverse.mp hc)),
      List.reverse_reverse, String.ofList_toList]
  have hne : address ≠ "" := by
    rintro rfl
    cases hdigits
  have hlower : asciiLower (trim address) = address := by
    rw [htrim, asciiLower, hcapital]
    rfl
  unfold normalizeSupervisorAddress
  rw [Option.map_some, hlower]
  exact if_neg hne

variable {alert : MobileAlert} {operation switchEpoch : ℕ} {failing : Option SwitchCallback}
  {succeeds : Bool}

theorem sameContext_normalize {current : TradingContextIdentity}
    (h : sameContext alert current = true) :
    sameContext alert (normalizeTradingContext current) = true := by
  unfold sameContext at h ⊢
  change (if current.network ≠ alert.network then _ else _) = true
  split
  · rename_i hnetwork
    rw [if_pos hnetwork] at h
    cases h
  · rename_i hnetwork
    rw [if_neg hnetwork] at h
    cases haccount : alert.account with
    | none => rfl
    | some account =>
      rw [haccount] at h
      simp only [Bool.and_eq_true, beq_iff_eq] at h ⊢
      change normalizeSupervisorAddress current.masterAccount = _ ∧
        normalizeSupervisorAddress current.targetAccount = _
      rw [h.1, h.2]
      exact ⟨normalizeSupervisorAddress_of_test account.masterPattern,
        normalizeSupervisorAddress_of_test account.targetPattern⟩

theorem sameContext_context (alert : MobileAlert) : sameContext alert alert.context = true := by
  unfold sameContext MobileAlert.context
  cases alert.account with
  | none => simp
  | some account => simp

theorem finish_moved {stage : Stage} {result : EntryResult} (hstage : call.stage = stage)
    (hlive : stage.live = true) (hrecorded : stage.recorded = false)
    (hready : ∀ alert, result ≠ .ready alert)
    (hturned : stage.turned = true → (Stage.returning result).turned = true) :
    ∃ next, Moved entry i call next (entry.finish i call result) :=
  ⟨_, .ends hstage hlive hrecorded hready hturned rfl rfl rfl (.inl rfl)⟩

theorem afterFetch_moved {answer : Option MobileAlert} (hstage : call.stage = .fetching operation)
    (hseen : ∀ alert ∈ answer, entry.compares call operation alert = true →
      sameContext alert (entry.seen call.coordinator) = true →
        sameContext alert entry.supervisor.current = true) :
    ∃ next, Moved entry i call next (entry.afterFetch i call operation answer) := by
  have hends : ∀ result, (∀ alert, result ≠ .ready alert) →
      ∃ next, Moved entry i call next (entry.finish i call result) :=
    fun result hready => finish_moved hstage rfl rfl hready fun h => by cases h
  unfold Entry.afterFetch
  split
  · exact hends _ fun _ h => by cases h
  · rename_i alert
    split
    · exact hends _ fun _ h => by cases h
    · rename_i hgoes
      split
      · exact hends _ fun _ h => by cases h
      · rename_i htarget
        split
        · rename_i hsame
          refine ⟨_, .goesOn hstage (fun _ h => by cases h) rfl rfl rfl rfl rfl (fun _ => .inl rfl)
            rfl rfl (fun h => by cases h) fun other hother => ?_⟩
          cases hother
          have hcompares : entry.compares call operation alert = true := by
            simp only [not_or, Bool.not_eq_false, ← Option.isSome_iff_ne_none] at htarget
            simp [Entry.compares, hgoes, htarget]
          exact .inr (hseen alert rfl hcompares hsame)
        · exact ⟨_, .goesOn hstage (fun _ h => by cases h) rfl rfl rfl rfl rfl (fun _ => .inl rfl)
            rfl rfl (fun h => by cases h) fun _ h => by cases h⟩

theorem afterConfirm_moved {accepted : Bool} (hstage : call.stage = .confirming operation alert) :
    ∃ next, Moved entry i call next (entry.afterConfirm i call operation alert accepted) := by
  unfold Entry.afterConfirm
  split
  · exact finish_moved hstage rfl rfl (fun _ h => by cases h) fun h => by cases h
  · split
    · exact finish_moved hstage rfl rfl (fun _ h => by cases h) fun h => by cases h
    · exact ⟨_, .goesOn hstage (fun _ h => by cases h) rfl rfl rfl rfl rfl (fun _ => .inl rfl)
        rfl rfl (fun h => by cases h) fun _ h => by cases h⟩

theorem current_commit (supervisor : ContextSupervisor) (switch : PendingSwitch)
    (failing : Option SwitchCallback) :
    (supervisor.commit switch failing).current = supervisor.current ∨
      switch.switchEpoch = supervisor.epoch ∧
        (failing = none ∨ failing = some .onCommit) ∧
        (supervisor.commit switch failing).current = switch.normalized := by
  unfold ContextSupervisor.commit
  split
  · exact .inl rfl
  · rename_i hlatest
    rw [not_not] at hlatest
    cases failing with
    | none => exact .inr ⟨hlatest, .inl rfl, rfl⟩
    | some callback =>
      cases callback with
      | onCommit => exact .inr ⟨hlatest, .inr rfl, rfl⟩
      | lockSignerSession | invalidateDrafts | removeIncompatiblePrivateQueries => exact .inl rfl

theorem turnsOnly_commit (hstage : call.stage = .switching operation alert switchEpoch)
    (hcareful : SwitchCommits entry alert switchEpoch true failing → OthersIn entry i alert)
    {next : Stage} (hturned : next.turned = true) :
    TurnsOnly entry i call next (entry.supervisor.commit
      ⟨switchEpoch, normalizeTradingContext alert.context⟩ failing).current := by
  rcases current_commit entry.supervisor
    ⟨switchEpoch, normalizeTradingContext alert.context⟩ failing
    with hsame | ⟨hlatest, hfailing, hswitched⟩
  · exact .inl hsame
  · by_cases hchanges : normalizeTradingContext alert.context = entry.supervisor.current
    · exact .inl (hswitched.trans hchanges)
    · exact .inr ⟨hturned, operation, alert, switchEpoch, hstage, hswitched,
        hcareful ⟨rfl, hlatest, hfailing, hchanges⟩⟩

theorem afterSwitch_moved {cancelled : Bool}
    (hstage : call.stage = .switching operation alert switchEpoch)
    (hcareful : SwitchCommits entry alert switchEpoch cancelled failing →
      OthersIn entry i alert ∧ (failing = none → alert.account = none ∨
        entry.accounts.any (isAccountOf alert) = true)) :
    ∃ next, Moved entry i call next
      (entry.afterSwitch i call operation alert switchEpoch cancelled failing) := by
  cases cancelled with
  | false => exact finish_moved hstage rfl rfl (fun _ h => by cases h) fun h => by cases h
  | true =>
    have hturns : ∀ next : Stage, next.turned = true →
        TurnsOnly entry i call next (entry.supervisor.commit
          ⟨switchEpoch, normalizeTradingContext alert.context⟩ failing).current :=
      fun next => turnsOnly_commit hstage fun h => (hcareful h).1
    unfold Entry.afterSwitch
    dsimp only
    rw [if_neg (by decide)]
    by_cases hlatest : switchEpoch ≠ entry.supervisor.epoch
    · rw [if_pos hlatest]
      refine ⟨_, .ends hstage rfl rfl (fun _ h => by cases h) (fun h => by cases h) rfl rfl rfl
        (.inl ?_)⟩
      simp only [ContextSupervisor.commit, if_pos hlatest]
    · rw [if_neg hlatest]
      cases failing with
      | some callback =>
        exact ⟨_, .ends hstage rfl rfl (fun _ h => by cases h) (fun h => by cases h) rfl rfl rfl
          (hturns _ rfl)⟩
      | none =>
        rw [not_not] at hlatest
        have hcurrent : (entry.supervisor.commit
            ⟨switchEpoch, normalizeTradingContext alert.context⟩ none).current =
              normalizeTradingContext alert.context := by
          simp only [ContextSupervisor.commit, hlatest, ne_eq, not_true_eq_false, if_false]
        rw [if_neg (by decide)]
        by_cases hsaved : alert.account = none ∨ entry.accounts.any (isAccountOf alert) = true
        · rw [if_pos hsaved]
          exact ⟨_, {
            opens := rfl
            inFlight := .inl ⟨by rw [hstage]; rfl, rfl⟩
            handled := .inl rfl
            holds := fun _ => by rw [hstage]; rfl
            claimed := fun _ => .inl (by rw [hstage]; rfl)
            settling := fun h => by cases h
            recorded := fun h => by cases h
            returned := fun _ h => by cases h
            keepsRecorded := fun h => by rw [hstage] at h; cases h
            turned := fun _ => rfl
            entered := fun other hother => by
              cases hother
              exact .inr ((congrArg (sameContext alert) hcurrent).trans
                (sameContext_normalize (sameContext_context alert)))
            context := hturns _ rfl }⟩
        · -- without the account the open fails, which only a switch to the same context may do
          have hsame : normalizeTradingContext alert.context = entry.supervisor.current := by
            by_contra hchanges
            exact hsaved ((hcareful ⟨rfl, hlatest, .inl rfl, hchanges⟩).2 rfl)
          rw [if_neg hsaved]
          exact ⟨_, .ends hstage rfl rfl (fun _ h => by cases h) (fun h => by cases h) rfl rfl
            rfl (.inl (hcurrent.trans hsame))⟩

theorem afterRefresh_moved (hstage : call.stage = .refreshing operation alert) :
    ∃ next, Moved entry i call next (entry.afterRefresh i call operation alert succeeds) := by
  unfold Entry.afterRefresh
  split
  · exact finish_moved hstage rfl rfl (fun _ h => by cases h) fun _ => rfl
  · split
    · exact finish_moved hstage rfl rfl (fun _ h => by cases h) fun _ => rfl
    · exact ⟨_, .goesOn hstage (fun _ h => by cases h) rfl rfl rfl rfl rfl (fun _ => .inl rfl)
        rfl rfl (fun _ => rfl) fun _ h => .inl h⟩

theorem afterMark_moved (hstage : call.stage = .marking alert) :
    ∃ next, Moved entry i call next (entry.afterMark i call alert succeeds) := by
  unfold Entry.afterMark
  split
  · exact ⟨_, .commits hstage rfl rfl rfl rfl rfl rfl (.inl rfl) rfl⟩
  · split
    · have hmem : ∀ alertId ∈ (entry.handledAlertIds ++ [call.alertId]).drop
          ((entry.handledAlertIds ++ [call.alertId]).length - maxHandledAlerts),
          alertId ∈ entry.handledAlertIds ∨ alertId = call.alertId := fun alertId hmem =>
        (List.mem_append.mp (List.mem_of_mem_drop hmem)).imp_right List.mem_singleton.mp
      dsimp only
      generalize (entry.handledAlertIds ++ [call.alertId]).drop
        ((entry.handledAlertIds ++ [call.alertId]).length - maxHandledAlerts) = handled at hmem ⊢
      exact ⟨_, .commits hstage rfl rfl rfl rfl rfl rfl (.inr ⟨rfl, hmem⟩) rfl⟩
    · exact ⟨_, .commits hstage rfl rfl rfl rfl rfl rfl (.inl rfl) rfl⟩

theorem afterCommit_moved {recorded : Bool} (hstage : call.stage = .settling alert recorded) :
    ∃ next, Moved entry i call next (entry.afterCommit i call alert recorded) := by
  cases recorded with
  | false => exact ⟨_, .ends hstage rfl rfl (fun _ h => by cases h) (fun _ => rfl) rfl rfl rfl
      (.inl rfl)⟩
  | true =>
    exact ⟨_, {
      opens := rfl
      inFlight := .inr ⟨by rw [hstage]; rfl, rfl, rfl⟩
      handled := .inl rfl
      holds := fun h => by cases h
      claimed := fun h => by cases h
      settling := fun h => by cases h
      recorded := fun _ => .inl (by rw [hstage]; rfl)
      returned := fun _ h => by cases h
      keepsRecorded := fun _ => rfl
      turned := fun _ => rfl
      entered := fun other hother => .inl (by rw [hstage]; exact hother)
      context := .inl rfl }⟩

/-- A careful reply moves at most its own call. -/
theorem resume_moved {reply : Reply} (hcareful : CarefulReply entry i call reply) :
    entry.resume i call reply = entry ∨
      ∃ next, Moved entry i call next (entry.resume i call reply) := by
  unfold Entry.resume
  split
  · rename_i succeeds hstage
    right
    unfold Entry.afterClaimHydrated
    dsimp only
    split
    · exact ⟨_, .goesOn hstage (fun _ h => by cases h) rfl rfl rfl rfl rfl (fun h => by cases h)
        rfl rfl (fun h => by cases h) fun _ h => by cases h⟩
    · exact ⟨_, .declined hstage rfl rfl rfl rfl rfl rfl rfl⟩
  · rename_i hstage
    right
    unfold Entry.afterCheck
    split
    · exact ⟨_, .declined hstage rfl rfl rfl rfl rfl rfl rfl⟩
    · rename_i hnew
      exact ⟨_, .goesOn hstage (fun _ h => by cases h) rfl rfl rfl rfl rfl (fun _ => .inr hnew)
        rfl rfl (fun h => by cases h) fun _ h => by cases h⟩
  · rename_i hstage
    exact .inr ⟨_, .goesOn hstage (fun _ h => by cases h) rfl rfl rfl rfl rfl (fun _ => .inl rfl)
      rfl rfl (fun h => by cases h) fun _ h => by cases h⟩
  · rename_i operation answer hstage
    refine .inr (afterFetch_moved hstage fun alert halert => ?_)
    cases halert
    unfold CarefulReply at hcareful
    rw [hstage] at hcareful
    exact hcareful
  · rename_i operation alert accepted hstage
    exact .inr (afterConfirm_moved hstage)
  · rename_i operation alert switchEpoch cancelled failing hstage
    unfold CarefulReply at hcareful
    rw [hstage] at hcareful
    exact .inr (afterSwitch_moved hstage hcareful)
  · rename_i operation alert succeeds hstage
    unfold CarefulReply at hcareful
    rw [hstage] at hcareful
    cases hcareful
    exact .inr ⟨_, .goesOn hstage (fun _ h => by cases h) rfl rfl rfl rfl rfl (fun _ => .inl rfl)
      rfl rfl (fun _ => rfl) fun _ h => .inl h⟩
  · rename_i operation alert succeeds hstage
    exact .inr (afterRefresh_moved hstage)
  · rename_i alert succeeds hstage
    right
    unfold Entry.afterCommitHydrated
    dsimp only
    split
    · exact ⟨_, .goesOn hstage (fun _ h => by cases h) rfl rfl rfl rfl rfl (fun _ => .inl rfl)
        rfl rfl (fun _ => rfl) fun _ h => .inl h⟩
    · exact ⟨_, .commits hstage rfl rfl rfl rfl rfl rfl (.inl rfl) rfl⟩
  · rename_i alert succeeds hstage
    exact .inr (afterMark_moved hstage)
  · rename_i alert recorded hstage
    exact .inr (afterCommit_moved hstage)
  · rename_i result hstage
    refine .inr ⟨_, .goesOn hstage (fun _ h => by cases h; rfl) rfl rfl rfl rfl rfl
      (fun h => by cases h) rfl ?_ ?_ ?_⟩
    · cases result <;> rfl
    · cases result <;> exact id
    · intro other hother
      cases hother
  · exact .inl rfl

end Alerts

end HyperTrader
