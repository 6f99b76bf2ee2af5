import HyperTrader.Nonce.Calls

/-!
# Nonces and journal rows

Along any run of repository calls the nonces given out for one signer strictly
increase, and they are exactly the nonces of the journal's rows. The invariant
is that the high-water mark of a signer's scope is at least every nonce in the
journal (`SignersCover`); a reservation draws its nonce above the mark, and no
call lowers it.
-/

namespace HyperTrader

open Library

def committedReservations (viem : Viem) :
    Repository → List RepositoryCall → List PreparedActionRecord
  | _, [] => []
  | repository, call :: calls =>
    (committedReservation viem repository call).toList ++
      committedReservations viem (perform viem repository call) calls

variable {viem : Viem} {repository : Repository} {record row : PreparedActionRecord}
  {expiry : Option ℤ} {made : Option PreparedActionRecord} {before after : Database}
  {binding : SignerBinding} {input : AtomicActionReservationInput} {allocation : NonceAllocation}
  {scope : SignerScopeRow} {calls : List RepositoryCall}

theorem committedReservation_spec {call : RepositoryCall}
    (h : committedReservation viem repository call = some record) :
    ∃ binding input allocation scope, Reserved binding input repository.database
      (perform viem repository call).database record allocation scope := by
  cases call with
  | reservePreparedAction authority fault input =>
    cases hrun : reservePreparedAction viem authority fault input repository with
    | mk result after =>
      simp only [committedReservation, hrun] at h
      cases result with
      | error failure => simp [Except.toOption] at h
      | ok made =>
        simp only [Except.toOption, Option.some.injEq] at h
        subst h
        obtain ⟨binding, allocation, scope, -, hreserved⟩ :=
          reservePreparedAction_ok hrun
        refine ⟨binding, input, allocation, scope, ?_⟩
        simpa only [perform, hrun] using hreserved
  | _ => simp [committedReservation] at h

def SignersCover (database : Database) : Prop :=
  ∀ row ∈ database.actionJournal, ∃ scope ∈ database.signerScopes,
    scope.key = row.signer ∧ ∃ last ∈ scope.lastIssuedNonce, row.nonce ≤ last

theorem JournalStep.captured (h : JournalStep expiry made before after) :
    Table.Follows PreparedActionRecord.key
      (fun row row' => row'.toPreparedActionInput = row.toPreparedActionInput)
      (fun row => made = some row ∧ ∃ binding input allocation scope,
        Reserved binding input before after row allocation scope)
      before.actionJournal after.actionJournal := by
  cases h with
  | kept journal =>
    rw [journal]
    refine Table.Follows.refl ?_ _
    exact fun _ => rfl
  | changed change _ rewrite =>
    exact rewrite.rewrites.follows (fun _ => rfl) before.uniqueIds
      after.uniqueIds change.captured
  | leaseWritten change _ _ _ rewrite =>
    exact rewrite.rewrites.follows (fun _ => rfl) before.uniqueIds
      after.uniqueIds change.captured
  | recovered follows =>
    refine follows.mono ?_ (fun _ _ h => h.elim)
    intro row _ row' hrecovered
    rcases hrecovered.change with rfl | ⟨hchange, -⟩
    · rfl
    · exact hchange.captured
  | @reserved binding input record allocation scope hmade reservation =>
    rw [reservation.journal]
    refine Table.follows_append ?_ _ ?_
    · exact fun _ => rfl
    · exact ⟨hmade, binding, input, allocation, scope, reservation⟩

theorem Reserved.signer (h : Reserved binding input before after record allocation scope) :
    scope.key = record.signer := by
  rw [h.row, h.key]
  rfl

theorem Reserved.increasing (hcover : SignersCover before)
    (h : Reserved binding input before after record allocation scope)
    (hrow : row ∈ before.actionJournal)
    (hsigner : row.signer = record.signer) : row.nonce < record.nonce := by
  obtain ⟨covering, hmem, hkey, last, hlast, hle⟩ := hcover row hrow
  obtain rfl := before.uniqueScopes.eq_of_mem hmem h.scopes.mem
    ((hkey.trans hsigner).trans h.signer.symm)
  have hlt := (allocateNonce_spec h.allocated).increasing last hlast
  have hnonce : record.nonce = allocation.nonce := by rw [h.row]; rfl
  omega

theorem SignersCover.reserved {binding : SignerBinding}
    {input : AtomicActionReservationInput} {before after : Database}
    {record : PreparedActionRecord} {allocation : NonceAllocation}
    {scope : SignerScopeRow} (hcover : SignersCover before)
    (h : Reserved binding input before after record allocation scope) : SignersCover after := by
  have hnonce : record.nonce = allocation.nonce := by rw [h.row]; rfl
  intro row hrow
  rw [h.journal, List.mem_append, List.mem_singleton] at hrow
  by_cases hsigner : row.signer = record.signer
  · refine ⟨scope.issued allocation, h.scopes.mem_after,
      h.signer.trans hsigner.symm, allocation.nonce, rfl, ?_⟩
    rcases hrow with hold | rfl
    · have hlt := h.increasing hcover hold hsigner
      omega
    · omega
  · rcases hrow with hold | rfl
    · obtain ⟨covering, hmem, hkey, hlast⟩ := hcover row hold
      refine ⟨covering, (h.scopes.others covering ?_).mpr hmem, hkey, hlast⟩
      intro heq
      exact hsigner ((hkey.symm.trans heq).trans h.signer)
    · exact absurd rfl hsigner

theorem JournalStep.scopesKept_or_reserved (h : JournalStep expiry made before after) :
    ScopesKept before after ∨ ∃ binding input record allocation scope,
      Reserved binding input before after record allocation scope := by
  cases h with
  | kept _ scopes => exact .inl scopes
  | changed _ _ rewrite => exact .inl (ScopesKept.of_eq rewrite.scopes)
  | leaseWritten _ _ _ _ rewrite => exact .inl (ScopesKept.of_eq rewrite.scopes)
  | recovered _ scopes => exact .inl (ScopesKept.of_eq scopes)
  | reserved _ reservation => exact .inr ⟨_, _, _, _, _, reservation⟩

theorem SignersCover.step
    (hcover : SignersCover before) (h : JournalStep expiry made before after) :
    SignersCover after := by
  rcases h.scopesKept_or_reserved with
    hkept | ⟨_, _, _, _, _, hreserved⟩
  · intro row hrow
    rcases h.captured.backward row hrow with
      ⟨old, hold, -, hinput⟩ | ⟨-, _, _, _, _, hreserved⟩
    · obtain ⟨scope, hmem, hkey, last, hlast, hle⟩ := hcover old hold
      obtain ⟨scope', hmem', hkey', hnonce⟩ := hkept.forward scope hmem
      rw [hinput]
      refine ⟨scope', hmem', hkey'.trans hkey, last, ?_, hle⟩
      rw [hnonce]
      exact hlast
    · exact hcover.reserved hreserved row hrow
  · exact hcover.reserved hreserved

theorem SignersCover.perform (viem : Viem)
    (hcover : SignersCover repository.database) (call : RepositoryCall) :
    SignersCover (perform viem repository call).database := by
  rcases perform_step viem repository call with hsame | hstep
  · rw [hsame]
    exact hcover
  · exact hcover.step hstep

theorem signersCover_initial : SignersCover Repository.initial.database := by
  intro row hrow
  simp [Repository.initial, Database.empty] at hrow

def CapturedKept (before after : Database) : Prop :=
  ∀ row ∈ before.actionJournal, ∃ row' ∈ after.actionJournal,
    row'.toPreparedActionInput = row.toPreparedActionInput

theorem CapturedKept.refl (database : Database) : CapturedKept database database :=
  fun row hrow => ⟨row, hrow, rfl⟩

theorem CapturedKept.trans {first second third : Database}
    (h : CapturedKept first second) (h' : CapturedKept second third) :
    CapturedKept first third := by
  intro row hrow
  obtain ⟨mid, hmid, hinput⟩ := h row hrow
  obtain ⟨last, hlast, hinput'⟩ := h' mid hmid
  exact ⟨last, hlast, hinput'.trans hinput⟩

theorem CapturedKept.rewrite
    {row' : PreparedActionRecord} (h : JournalRewrite before after row row')
    (hinput : row'.toPreparedActionInput = row.toPreparedActionInput) :
    CapturedKept before after := by
  intro other hother
  by_cases hid : other.journalId = row.journalId
  · obtain rfl := before.uniqueIds.eq_of_mem hother h.rewrites.mem hid
    exact ⟨row', h.rewrites.mem_after, hinput⟩
  · exact ⟨other, (h.rewrites.others other hid).mpr hother, rfl⟩

theorem perform_captured (viem : Viem) (repository : Repository) (call : RepositoryCall) :
    CapturedKept repository.database (HyperTrader.perform viem repository call).database := by
  rcases perform_step viem repository call with hsame | hstep
  · rw [hsame]
    exact .refl _
  · intro row hrow
    obtain ⟨mid, hmid, -, hinput⟩ := hstep.captured.forward row hrow
    exact ⟨mid, hmid, hinput⟩

theorem captured_of_run (viem : Viem) (repository : Repository) (calls : List RepositoryCall) :
    CapturedKept repository.database
      (run (HyperTrader.perform viem) repository calls).database := by
  induction calls generalizing repository with
  | nil => exact .refl _
  | cons call calls ih =>
    exact (perform_captured viem repository call).trans (ih _)

theorem committedReservations_above (hcover : SignersCover repository.database) :
    ∀ record ∈ committedReservations viem repository calls,
      ∀ row ∈ repository.database.actionJournal,
        row.signer = record.signer → row.nonce < record.nonce := by
  induction calls generalizing repository with
  | nil => simp [committedReservations]
  | cons call calls ih =>
    intro record hrecord row hrow hsigner
    rw [committedReservations, List.mem_append] at hrecord
    rcases hrecord with hfirst | hlater
    · rw [Option.mem_toList] at hfirst
      obtain ⟨binding, input, allocation, scope, hreserved⟩ :=
        committedReservation_spec hfirst
      exact hreserved.increasing hcover hrow hsigner
    · obtain ⟨mid, hmid, hinput⟩ :=
        perform_captured viem repository call row hrow
      have hlt := ih (hcover.perform viem call) record hlater mid hmid
      rw [hinput] at hlt
      exact hlt hsigner

theorem committedReservations_pairwise (hcover : SignersCover repository.database) :
    (committedReservations viem repository calls).Pairwise fun earlier later =>
      earlier.signer = later.signer → earlier.nonce < later.nonce := by
  induction calls generalizing repository with
  | nil => exact List.Pairwise.nil
  | cons call calls ih =>
    rw [committedReservations]
    have htail := ih (hcover.perform viem call)
    cases hfirst : committedReservation viem repository call with
    | none => exact htail
    | some record =>
      obtain ⟨binding, input, allocation, scope, hreserved⟩ :=
        committedReservation_spec hfirst
      refine List.pairwise_cons.mpr ⟨fun later hlater hsigner => ?_, htail⟩
      have hrow : record ∈
          (HyperTrader.perform viem repository call).database.actionJournal := by
        rw [hreserved.journal]
        simp
      exact committedReservations_above (hcover.perform viem call) later hlater
        record hrow hsigner

theorem committedReservations_journaled :
    ∀ record ∈ committedReservations viem repository calls,
      ∃ row ∈ (run (HyperTrader.perform viem) repository calls).database.actionJournal,
        row.toPreparedActionInput = record.toPreparedActionInput := by
  induction calls generalizing repository with
  | nil => simp [committedReservations]
  | cons call calls ih =>
    intro record hrecord
    rw [committedReservations, List.mem_append] at hrecord
    rcases hrecord with hfirst | hlater
    · rw [Option.mem_toList] at hfirst
      obtain ⟨binding, input, allocation, scope, hreserved⟩ :=
        committedReservation_spec hfirst
      refine captured_of_run viem _ calls record ?_
      rw [hreserved.journal]
      simp
    · exact ih record hlater

theorem journaled_of_run :
    ∀ row ∈ (run (HyperTrader.perform viem) repository calls).database.actionJournal,
      (∃ old ∈ repository.database.actionJournal,
        old.toPreparedActionInput = row.toPreparedActionInput) ∨
      ∃ record ∈ committedReservations viem repository calls,
        record.toPreparedActionInput = row.toPreparedActionInput := by
  induction calls generalizing repository with
  | nil => exact fun row hrow => .inl ⟨row, hrow, rfl⟩
  | cons call calls ih =>
    intro row hrow
    rcases ih row hrow with ⟨mid, hmid, hinput⟩ | ⟨record, hrecord, hinput⟩
    · rcases perform_step viem repository call with hsame | hstep
      · rw [hsame] at hmid
        exact .inl ⟨mid, hmid, hinput⟩
      · rcases hstep.captured.backward mid hmid with
          ⟨old, hold, -, hinput'⟩ | ⟨hmade, -⟩
        · exact .inl ⟨old, hold, hinput'.symm.trans hinput⟩
        · right
          refine ⟨mid, ?_, hinput⟩
          rw [committedReservations, List.mem_append, Option.mem_toList]
          exact .inl hmade
    · right
      refine ⟨record, ?_, hinput⟩
      rw [committedReservations, List.mem_append]
      exact .inr hrecord

theorem Database.eq_of_signer_nonce {database : Database}
    {a b : PreparedActionRecord} (ha : a ∈ database.actionJournal)
    (hb : b ∈ database.actionJournal) (hsigner : a.signer = b.signer)
    (hnonce : a.nonce = b.nonce) : a = b := by
  have hunique : Table.UniqueKeys
      (fun row : PreparedActionRecord => (row.signer, row.nonce))
      database.actionJournal :=
    database.consistent.recordKeys.imp fun h heq => h (by
      simp only [Prod.mk.injEq] at heq
      exact .inr (.inr (.inl ⟨heq.1.1, heq.1.2, heq.2⟩)))
  exact hunique.eq_of_mem ha hb (by simp only [hsigner, hnonce])

theorem Reserved.window (h : Reserved binding input before after record allocation scope) :
    record.nonce < record.expiresAfterMs ∧
      record.expiresAfterMs ≤ record.nonce + actionExpiryMs ∧
      fromRow record = .ok record := by
  obtain ⟨hlt, hle⟩ := (allocateNonce_spec h.allocated).window
  have hnonce : record.nonce = allocation.nonce := by rw [h.row]; rfl
  have hexpiry : record.expiresAfterMs = allocation.expiresAfterMs := by
    rw [h.row]; rfl
  exact ⟨by omega, by omega, fromRow_eq_ok.mpr ⟨rfl, h.stored⟩⟩

theorem committedReservations_reserved :
    ∀ record ∈ committedReservations viem repository calls,
      ∃ binding input before after allocation scope,
        Reserved binding input before after record allocation scope := by
  induction calls generalizing repository with
  | nil => simp [committedReservations]
  | cons call calls ih =>
    intro record hrecord
    rw [committedReservations, List.mem_append] at hrecord
    rcases hrecord with hfirst | hlater
    · rw [Option.mem_toList] at hfirst
      obtain ⟨binding, input, allocation, scope, hreserved⟩ :=
        committedReservation_spec hfirst
      exact ⟨binding, input, _, _, allocation, scope, hreserved⟩
    · exact ih record hlater

/-- **Nonces are unique and match the journal.** Along every run of repository
calls from a new installation, the nonces given out for a signer strictly
increase; each belongs to exactly one journal row, whose captured columns are
those of the reservation, and every row is the row of a reservation; each lies
in its window and its record reads back; and a reservation that fails leaves
the repository exactly as it was. -/
theorem nonces_increase_and_match_journal (viem : Viem) (calls : List RepositoryCall) :
    ((committedReservations viem .initial calls).Pairwise fun earlier later =>
      earlier.network = later.network → earlier.agentAddress = later.agentAddress →
      earlier.nonce < later.nonce) ∧
    (∀ record ∈ committedReservations viem .initial calls,
      ∃! row, row ∈ (run (perform viem) .initial calls).database.actionJournal ∧
        row.network = record.network ∧ row.agentAddress = record.agentAddress ∧
        row.nonce = record.nonce) ∧
    (∀ record ∈ committedReservations viem .initial calls,
      ∃ row ∈ (run (perform viem) .initial calls).database.actionJournal,
        row.toPreparedActionInput = record.toPreparedActionInput) ∧
    (∀ row ∈ (run (perform viem) .initial calls).database.actionJournal,
      ∃ record ∈ committedReservations viem .initial calls,
        record.toPreparedActionInput = row.toPreparedActionInput) ∧
    (∀ record ∈ committedReservations viem .initial calls, record.nonce < record.expiresAfterMs ∧
        record.expiresAfterMs ≤ record.nonce + 15000 ∧
        fromRow record = .ok record ∧ assertStoredRecord record = .ok ()) ∧
    (∀ authority fault input failure after, reservePreparedAction viem authority fault input
          (run (perform viem) .initial calls) = (.error failure, after) →
        after = run (perform viem) .initial calls) := by
  refine ⟨?_, ?_, ?_, ?_, ?_, ?_⟩
  · refine (committedReservations_pairwise signersCover_initial).imp ?_
    intro earlier later h hnetwork hagent
    exact h (Prod.ext hnetwork hagent)
  · intro record hrecord
    obtain ⟨row, hrow, hinput⟩ := committedReservations_journaled record hrecord
    refine ⟨row, ⟨hrow, by rw [hinput], by rw [hinput], by rw [hinput]⟩, ?_⟩
    rintro other ⟨hother, hnetwork, hagent, hnonce⟩
    refine Database.eq_of_signer_nonce hother hrow ?_ ?_
    · rw [hinput]
      exact Prod.ext hnetwork hagent
    · rw [hinput]
      exact hnonce
  · exact committedReservations_journaled
  · intro row hrow
    rcases journaled_of_run row hrow with ⟨old, hold, -⟩ | hmade
    · simp [Repository.initial, Database.empty] at hold
    · exact hmade
  · intro record hrecord
    obtain ⟨_, _, _, _, _, _, hreserved⟩ :=
      committedReservations_reserved record hrecord
    obtain ⟨hlt, hle, hread⟩ := hreserved.window
    obtain ⟨-, hstored⟩ := fromRow_eq_ok.mp hread
    obtain ⟨text, htext⟩ := hstored.captured.intent
    exact ⟨hlt, hle, hread, (assertStoredRecord_eq_ok htext).mpr hstored⟩
  · intro authority fault input failure after h
    exact reservePreparedAction_error h

end HyperTrader
