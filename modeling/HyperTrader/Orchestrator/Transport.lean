import HyperTrader.Orchestrator.Agreement

/-!
# At most one submission of a record

A permit is obtained only by a mark, and a mark finds its record `prepared` and
without a marker; the marker it leaves is never taken back, so no record gets a
second permit. A submission uses the permit of its confirmation up. The end of the
process loses the permits that are pending, and the markers stay.
-/

namespace HyperTrader

open Library ConfirmState

variable {journalId : String} {p q : PreparedActionRecord → Prop}

theorem Database.Holds.aged {before after : Database} (h : before.Holds journalId p)
    (hrows : RowsAged before after) (hp : ∀ row row', RowAged row row' → p row → q row') :
    after.Holds journalId q := by
  obtain ⟨row, hrow, hid, hholds⟩ := h
  obtain ⟨row', hrow', hkey, haging⟩ := hrows.forward row hrow
  exact ⟨row', hrow', hkey.trans hid, hp row row' haging hholds⟩

theorem Database.Holds.and {database : Database} (hp : database.Holds journalId p)
    (hq : database.Holds journalId q) : database.Holds journalId fun row => p row ∧ q row := by
  obtain ⟨row, hrow, hid, hholds⟩ := hp
  obtain ⟨other, hother, hotherid, hholds'⟩ := hq
  obtain rfl := database.uniqueIds.eq_of_mem hrow hother (hid.trans hotherid.symm)
  exact ⟨row, hrow, hid, hholds, hholds'⟩

namespace ConfirmStage

def pending : ConfirmStage → Option String
  | .permitted prepared _ _ => some prepared.record.journalId
  | _ => none

def inTransport : ConfirmStage → Bool
  | .permitted _ _ _ => true
  | .submitting _ => true
  | _ => false

variable {stage next : ConfirmStage}

theorem permit_of_not_inTransport (h : next.inTransport = false) : stage.permit next = none := by
  cases next with
  | permitted prepared signature permit => cases h
  | _ => cases stage <;> rfl

theorem submission_of_not_inTransport {review : ActionReviewSnapshot}
    (h : next.inTransport = false) : stage.submission review next = none := by
  cases next with
  | submitting prepared => cases h
  | _ => cases stage <;> rfl

theorem pending_of_not_inTransport (h : stage.inTransport = false) : stage.pending = none := by
  cases stage with
  | permitted prepared signature permit => cases h
  | _ => rfl

theorem permit_self (stage : ConfirmStage) : stage.permit stage = none := by
  cases stage <;> rfl

theorem submission_self (review : ActionReviewSnapshot) (stage : ConfirmStage) :
    stage.submission review stage = none := by
  cases stage <;> rfl

def Reconciles (stage : ConfirmStage) : Prop :=
  stage = .finished ∨ ∃ journalId port, stage = .reconciling journalId port

theorem Reconciles.not_inTransport (h : stage.Reconciles) : stage.inTransport = false := by
  rcases h with rfl | ⟨journalId, port, rfl⟩
  · rfl
  · rfl

theorem afterPort_reconciles (journalId : String) (p : Outcome PortStage × ConfirmState) :
    (afterPort journalId p).1.Reconciles := by
  obtain ⟨result, s⟩ := p
  cases result with
  | ok port => exact .inr ⟨journalId, port, rfl⟩
  | error error => exact .inl rfl

theorem afterRecovery_reconciles (attempts : ℕ)
    (p : Outcome Unit × ConfirmState) : (afterRecovery attempts p).1.Reconciles := by
  obtain ⟨result, s⟩ := p
  cases result with
  | error error => exact .inl rfl
  | ok _ =>
    rw [afterRecovery]
    split
    · split
      · exact .inr ⟨_, _, rfl⟩
      · exact .inl rfl
    · exact .inl rfl

theorem after_not_inTransport {α : Type} {next : α → ConfirmStage}
    (p : Outcome α × ConfirmState) (h : ∀ a, (next a).inTransport = false) :
    (after next p).1.inTransport = false := by
  obtain ⟨result, s⟩ := p
  cases result with
  | error error => rfl
  | ok a => exact h a

end ConfirmStage

namespace ConfirmRun

/-- What an answer does to the permits: nothing, or the confirmation obtains one by
marking its record, or it uses the one it has. -/
inductive Transported (run : ConfirmRun) (s : ConfirmState) :
    ConfirmStage × ConfirmState → Prop
  | quiet (p : ConfirmStage × ConfirmState)
      (hpermit : run.stage.permit p.1 = none)
      (hsubmission : run.stage.submission run.review p.1 = none)
      (hpending : p.1.pending = none ∨ p.1.pending = run.stage.pending) :
      Transported run s p
  | obtained (prepared : PreparedSubmission) (signature : Eip712Signature)
      (t : ConfirmState) (hstage : run.stage = .signing prepared)
      (hmarked : Confirming.Marked s prepared.record.journalId t) :
      Transported run s (.permitted prepared signature
        (createTransportWritePermit prepared.record.journalId), t)
  | used (prepared : PreparedSubmission) (signature : Eip712Signature)
      (permit : TransportWritePermit)
      (hstage : run.stage = .permitted prepared signature permit) :
      Transported run s (.submitting prepared, s)

variable {s : ConfirmState} {p : ConfirmStage × ConfirmState}

theorem Transported.of_not_inTransport {run : ConfirmRun} (h : p.1.inTransport = false) :
    Transported run s p :=
  .quiet p (ConfirmStage.permit_of_not_inTransport h)
    (ConfirmStage.submission_of_not_inTransport h)
    (.inl (ConfirmStage.pending_of_not_inTransport h))

theorem Proceeded.transported {viem : Viem} {encode : MessagePack} {run : ConfirmRun}
    (h : run.Proceeded viem encode s p) (hsound : run.Sound s) : run.Transported s p := by
  cases h with
  | ignored =>
    exact .quiet _ (ConfirmStage.permit_self _) (ConfirmStage.submission_self _ _)
      (.inr rfl)
  | refreshed result current hstage =>
    exact .of_not_inTransport (ConfirmStage.after_not_inTransport _ fun _ => rfl)
  | unlocked refreshedInput refreshed answers hstage =>
    exact .of_not_inTransport (ConfirmStage.after_not_inTransport _ fun _ => rfl)
  | signed prepared answers hstage =>
    have hfits := hsound.fits
    rw [hstage] at hfits
    rcases ConfirmStage.after_cases
      (fun r => ConfirmStage.permitted prepared r.1 r.2)
      (Confirming.signed run.review run.generation prepared answers s) with
        ⟨⟨signature, permit⟩, hresult, hafter⟩ | ⟨error, -, hafter⟩
    · obtain ⟨-, hmarked, rfl⟩ :=
        (Confirming.signed_meets run.review prepared answers).returns s _ _
          ⟨⟨hsound.agrees.underway hfits.2 _, hfits.1⟩, rfl⟩
          (Prod.ext hresult rfl)
      rw [hafter]
      exact .obtained prepared signature _ hstage hmarked
    · rw [hafter]
      exact .of_not_inTransport rfl
  | consumed prepared signature permit hstage =>
    rcases ConfirmStage.after_cases (fun _ => ConfirmStage.submitting prepared)
      (permit.consume.1, s) with ⟨_, -, hafter⟩ | ⟨error, -, hafter⟩
    · rw [hafter]
      exact .used prepared signature permit hstage
    · rw [hafter]
      exact .of_not_inTransport rfl
  | answered prepared answers hstage =>
    refine .of_not_inTransport (ConfirmStage.after_not_inTransport _ ?_)
    intro unresolved
    cases unresolved <;> rfl
  | recovered error answers hstage =>
    exact .of_not_inTransport
      (ConfirmStage.afterRecovery_reconciles _ _).not_inTransport
  | ported journalId port method hstage hport =>
    exact .of_not_inTransport
      (ConfirmStage.afterPort_reconciles _ _).not_inTransport
  | published journalId phase hstage =>
    exact .of_not_inTransport (ConfirmStage.after_not_inTransport _ fun _ => rfl)

theorem Sound.pending {run : ConfirmRun} {journalId : String}
    (h : run.Sound s) (hpending : run.stage.pending = some journalId) :
    s.journalId = some journalId := by
  have hfits := h.fits
  cases hstage : run.stage with
  | permitted prepared signature permit =>
    rw [hstage] at hfits hpending
    exact hfits.1.trans hpending
  | _ =>
    rw [hstage] at hpending
    cases hpending

end ConfirmRun

namespace OrchestratorWorld

def submitted (world : OrchestratorWorld) : List String :=
  world.submissions.map Submission.journalId

/-- No permit was handed out twice or used twice, and the permits that were handed
out are those of marked records. -/
structure Transporting (world : OrchestratorWorld) : Prop where
  permits : world.permits.Nodup
  marked : ∀ journalId ∈ world.permits,
    world.database.Holds journalId fun row => row.submissionStartedAt.isSome = true
  submitted : world.submitted.Nodup
  permitted : ∀ journalId ∈ world.submitted, journalId ∈ world.permits
  pending : ∀ (i : ℕ) (run : ConfirmRun) (journalId : String),
    world.runs[i]? = some run → run.stage.pending = some journalId →
      journalId ∈ world.permits ∧ journalId ∉ world.submitted

namespace Transporting

theorem create : Transporting create where
  permits := List.nodup_nil
  marked _ hmem := absurd hmem List.not_mem_nil
  submitted := List.nodup_nil
  permitted _ hmem := absurd hmem List.not_mem_nil
  pending _ _ _ hrun := by cases hrun

variable {world : OrchestratorWorld}

theorem goOn (h : world.Transporting) (hagreeing : world.Agreeing) {i : ℕ}
    {run : ConfirmRun} {p : ConfirmStage × ConfirmState} (hrun : world.runs[i]? = some run)
    (htransported : run.Transported (world.view run) p)
    (hrows : RowsAged world.database p.2.repository.database) :
    (world.goOn i run p.1 p.2).Transporting := by
  have hkept : ∀ journalId ∈ world.permits,
      p.2.repository.database.Holds journalId
        fun row => row.submissionStartedAt.isSome = true := by
    intro journalId hmem
    refine (h.marked journalId hmem).aged hrows fun row row' haging hsome => ?_
    rw [haging.started hsome]
    exact hsome
  cases htransported with
  | quiet _ hpermit hsubmission hpending =>
    have hpermits : (world.goOn i run p.1 p.2).permits = world.permits := by
      simp [OrchestratorWorld.goOn, hpermit]
    have hsubmitted : (world.goOn i run p.1 p.2).submitted = world.submitted := by
      simp [OrchestratorWorld.goOn, OrchestratorWorld.submitted, hsubmission]
    constructor
    · rw [hpermits]
      exact h.permits
    · rw [hpermits]
      exact hkept
    · rw [hsubmitted]
      exact h.submitted
    · rw [hpermits, hsubmitted]
      exact h.permitted
    · rw [hpermits, hsubmitted]
      intro j other journalId hother hown
      rcases getElem?_set_cases hother with ⟨rfl, rfl⟩ | ⟨-, hold⟩
      · rcases hpending with hnone | hsame
        · rw [hnone] at hown
          cases hown
        · exact h.pending j run journalId hrun (hsame.symm.trans hown)
      · exact h.pending j other journalId hold hown
  | obtained prepared signature t hstage hmarked =>
    obtain ⟨hbefore, hafter⟩ := hmarked
    have hnew : prepared.record.journalId ∉ world.permits := by
      intro hmem
      obtain ⟨row, -, -, hsome, -, hnone⟩ :=
        (h.marked _ hmem).and hbefore
      rw [hnone] at hsome
      cases hsome
    have hpermits : (world.goOn i run (.permitted prepared signature
        (createTransportWritePermit prepared.record.journalId)) t).permits =
          world.permits ++ [prepared.record.journalId] := by
      simp [OrchestratorWorld.goOn, hstage, ConfirmStage.permit, createTransportWritePermit]
    have hsubmitted : (world.goOn i run (.permitted prepared signature
        (createTransportWritePermit prepared.record.journalId)) t).submitted =
          world.submitted := by
      simp [OrchestratorWorld.goOn, OrchestratorWorld.submitted, hstage, ConfirmStage.submission]
    constructor
    · rw [hpermits, ← List.concat_eq_append]
      exact h.permits.concat hnew
    · rw [hpermits]
      intro journalId hmem
      rcases List.mem_append.mp hmem with hold | hlast
      · exact hkept journalId hold
      · rw [List.mem_singleton.mp hlast]
        obtain ⟨row, hrow, hid, -, hsome⟩ := hafter
        exact ⟨row, hrow, hid, hsome⟩
    · rw [hsubmitted]
      exact h.submitted
    · rw [hpermits, hsubmitted]
      exact fun journalId hmem => List.mem_append_left _ (h.permitted journalId hmem)
    · rw [hpermits, hsubmitted]
      intro j other journalId hother hown
      rcases getElem?_set_cases hother with ⟨rfl, rfl⟩ | ⟨-, hold⟩
      · cases hown
        refine ⟨List.mem_append_right _ List.mem_cons_self, fun hmem => ?_⟩
        exact hnew (h.permitted _ hmem)
      · obtain ⟨hmem, hunused⟩ := h.pending j other journalId hold hown
        exact ⟨List.mem_append_left _ hmem, hunused⟩
  | used prepared signature permit hstage =>
    have hpending : run.stage.pending = some prepared.record.journalId := by
      rw [hstage]
      rfl
    obtain ⟨hpermit, hunused⟩ := h.pending i run _ hrun hpending
    have hpermits : (world.goOn i run (.submitting prepared)
        (world.view run)).permits = world.permits := by
      simp [OrchestratorWorld.goOn, hstage, ConfirmStage.permit]
    have hsubmitted : (world.goOn i run (.submitting prepared) (world.view run)).submitted =
          world.submitted ++ [prepared.record.journalId] := by
      simp [OrchestratorWorld.goOn, OrchestratorWorld.submitted, hstage,
        ConfirmStage.submission, Submission.journalId]
    constructor
    · rw [hpermits]
      exact h.permits
    · rw [hpermits]
      exact hkept
    · rw [hsubmitted, ← List.concat_eq_append]
      exact h.submitted.concat hunused
    · rw [hpermits, hsubmitted]
      intro journalId hmem
      rcases List.mem_append.mp hmem with hold | hlast
      · exact h.permitted journalId hold
      · rw [List.mem_singleton.mp hlast]
        exact hpermit
    · rw [hpermits, hsubmitted]
      intro j other journalId hother hown
      rcases getElem?_set_cases hother with ⟨rfl, rfl⟩ | ⟨hne, hold⟩
      · cases hown
      · obtain ⟨hmem, hfree⟩ := h.pending j other journalId hold hown
        refine ⟨hmem, fun hsubmit => ?_⟩
        rcases List.mem_append.mp hsubmit with hearlier | hlast
        · exact hfree hearlier
        · -- the two confirmations would have one record
          rw [List.mem_singleton.mp hlast] at hown
          exact hne (hagreeing.records j i other run _ hold hrun
            ((hagreeing.sound j other hold).pending hown)
            ((hagreeing.sound i run hrun).pending hpending))

theorem stepped {viem : Viem} {encode : MessagePack} {next : OrchestratorWorld}
    (h : world.Transporting) (hagreeing : world.Agreeing)
    (hstep : world.Stepped viem encode next) : next.Transporting := by
  have haged := hagreeing.aged hstep
  cases hstep with
  | nothing => exact h
  | confirmed orchestrator repository attempts input review stage _ _ hstage =>
    refine { h with pending := ?_ }
    intro j other journalId hother hpending
    rcases getElem?_append_cases hother with hold | ⟨-, rfl⟩
    · exact h.pending j other journalId hold hpending
    · rcases hstage with rfl | ⟨error, rfl⟩
      · cases hpending
      · cases hpending
  | answered i run stage s hrun hproceeded =>
    exact h.goOn hagreeing hrun
      (hproceeded.transported (hagreeing.sound i run hrun)) haged
  | reset => exact { h with }
  | called database reservations hkept =>
    refine { h with marked := fun journalId hmem => ?_ }
    refine (h.marked journalId hmem).aged haged fun row row' haging hsome => ?_
    rw [haging.started hsome]
    exact hsome
  | crashed => exact { h with pending := fun _ _ _ hrun => by cases hrun }

theorem run (viem : Viem) (encode : MessagePack) (events : List OrchestratorEvent) :
    (Library.run (step viem encode) OrchestratorWorld.create events).Transporting := by
  have hstep : ∀ (world : OrchestratorWorld) (event : OrchestratorEvent),
      world.Agreeing ∧ world.Transporting →
        (world.step viem encode event).Agreeing ∧
          (world.step viem encode event).Transporting := by
    intro world event h
    have hstepped := stepped_step viem encode world event
    exact ⟨h.1.stepped hstepped, h.2.stepped h.1 hstepped⟩
  exact (run_invariant hstep ⟨.create, create⟩ events).2

end Transporting

/-! ### When permits are obtained -/

variable {viem : Viem} {encode : MessagePack} {world : OrchestratorWorld}

theorem Stepped.permits (hagreeing : world.Agreeing) {next : OrchestratorWorld}
    (hstep : world.Stepped viem encode next) :
    next.permits = world.permits ∨ ∃ journalId,
      next.permits = world.permits ++ [journalId] ∧
        next.submitted = world.submitted ∧
        world.database.Holds journalId (fun row => row.state = .prepared) ∧
        next.database.Holds journalId fun row => row.state = .submissionStarted := by
  cases hstep with
  | answered i run stage s hrun hproceeded =>
    have htransported := hproceeded.transported (hagreeing.sound i run hrun)
    cases htransported with
    | quiet _ hpermit hsubmission hpending =>
      left
      simp [goOn, hpermit]
    | obtained prepared signature _ hstage hmarked =>
      right
      obtain ⟨⟨row, hrow, hid, hstate, -⟩, row', hrow', hid', hstate', -⟩ :=
        hmarked
      refine ⟨prepared.record.journalId, ?_, ?_, ⟨row, hrow, hid, hstate⟩,
        row', hrow', hid', hstate'⟩
      · simp [goOn, hstage, ConfirmStage.permit, createTransportWritePermit]
      · simp [goOn, submitted, hstage, ConfirmStage.submission]
    | used prepared signature permit hstage =>
      left
      simp [goOn, hstage, ConfirmStage.permit]
  | _ => exact .inl rfl

/-- The permits obtained since: none of them is that of a record that had left
`prepared`. -/
def PermitsAfter (before after : OrchestratorWorld) : Prop :=
  ∃ obtained, after.permits = before.permits ++ obtained ∧
    ∀ row ∈ before.database.actionJournal, row.state ≠ .prepared →
      row.journalId ∉ obtained

theorem permitsAfter_run (viem : Viem) (encode : MessagePack)
    (hagreeing : world.Agreeing) (events : List OrchestratorEvent) :
    PermitsAfter world (Library.run (step viem encode) world events) := by
  induction events generalizing world with
  | nil => exact ⟨[], by simp, fun _ _ _ => List.not_mem_nil⟩
  | cons event events ih =>
    have hstep := stepped_step viem encode world event
    obtain ⟨obtained, hpermits, hleft⟩ := ih (hagreeing.stepped hstep)
    have hlater : ∀ row ∈ world.database.actionJournal, row.state ≠ .prepared →
        row.journalId ∉ obtained := by
      intro row hrow hstate
      obtain ⟨row', hrow', hkey, haging⟩ :=
        (hagreeing.aged hstep).forward row hrow
      have hid : row'.journalId = row.journalId := hkey
      rw [← hid]
      exact hleft row' hrow' fun hprepared => hstate (haging.prepared hprepared)
    rw [run_cons]
    rcases hstep.permits hagreeing with hsame | ⟨journalId, hnew, -, hbefore, -⟩
    · exact ⟨obtained, by rw [hpermits, hsame], hlater⟩
    · refine ⟨journalId :: obtained, by simp [hpermits, hnew], ?_⟩
      intro row hrow hstate hmem
      rcases List.mem_cons.mp hmem with rfl | hmem
      · obtain ⟨other, hother, hid, hprepared⟩ := hbefore
        obtain rfl := world.database.uniqueIds.eq_of_mem hrow hother hid.symm
        exact hstate hprepared
      · exact hlater row hrow hstate hmem

theorem started_of_permit (events : List OrchestratorEvent) :
    ∀ journalId ∈ (Library.run (step viem encode) create events).permits,
      ∃ before after, events = before ++ after ∧
        (Library.run (step viem encode) create before).database.Holds journalId
          (fun row => row.state = .submissionStarted) ∧
        journalId ∉ (Library.run (step viem encode) create before).submitted := by
  induction events using List.reverseRecOn with
  | nil => exact fun _ hmem => absurd hmem List.not_mem_nil
  | append_singleton events event ih =>
    intro journalId hmem
    have hagreeing := Agreeing.run viem encode events
    have hearlier := Transporting.run viem encode events
    rw [run_append, run_cons, run_nil] at hmem
    have hold : journalId ∈
        (Library.run (step viem encode) create events).permits →
        ∃ before after, events ++ [event] = before ++ after ∧
          (Library.run (step viem encode) create before).database.Holds journalId
            (fun row => row.state = .submissionStarted) ∧
          journalId ∉
            (Library.run (step viem encode) create before).submitted := by
      intro hpermit
      obtain ⟨before, after, hevents, hstarted, hunused⟩ := ih journalId hpermit
      exact ⟨before, after ++ [event], by simp [hevents], hstarted, hunused⟩
    rcases (stepped_step viem encode _ event).permits hagreeing with
      hsame | ⟨obtained, hnew, hsubmitted, hbefore, hstarted⟩
    · rw [hsame] at hmem
      exact hold hmem
    · rw [hnew] at hmem
      rcases List.mem_append.mp hmem with hpermit | hlast
      · exact hold hpermit
      · rw [List.mem_singleton.mp hlast]
        refine ⟨events ++ [event], [], by simp, ?_, ?_⟩
        · rw [run_append]
          exact hstarted
        · rw [run_append, run_cons, run_nil, hsubmitted]
          intro hused
          -- its marker would have been there before the mark
          obtain ⟨row, hrow, -, hsome, hprepared⟩ :=
            (hearlier.marked _ (hearlier.permitted _ hused)).and hbefore
          have hnone := (hagreeing.markers row hrow).mpr (.inl hprepared)
          rw [hnone] at hsome
          cases hsome

/-- In every run no record is submitted twice; a submission comes after a state of
the journal in which its record was `submission_started` and not yet submitted;
and no record that has left `prepared` obtains a permit. -/
theorem submitted_at_most_once (viem : Viem) (encode : MessagePack)
    (events : List OrchestratorEvent) :
    let world := Library.run (step viem encode) create events
    world.submitted.Nodup ∧
    (∀ journalId ∈ world.submitted, ∃ before after, events = before ++ after ∧
      (∃ row ∈ (Library.run (step viem encode) create before).database.actionJournal,
        row.journalId = journalId ∧ row.state = .submissionStarted) ∧
      journalId ∉ (Library.run (step viem encode) create before).submitted) ∧
    ∀ earlier later, events = earlier ++ later →
      PermitsAfter (Library.run (step viem encode) create earlier) world := by
  intro world
  have htransporting := Transporting.run viem encode events
  refine ⟨htransporting.submitted, ?_, ?_⟩
  · intro journalId hmem
    exact started_of_permit events journalId (htransporting.permitted _ hmem)
  · rintro earlier later rfl
    have hlater := permitsAfter_run viem encode (Agreeing.run viem encode earlier)
      later
    rwa [← run_append] at hlater

end OrchestratorWorld

end HyperTrader
