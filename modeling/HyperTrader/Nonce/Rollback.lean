import HyperTrader.Journal.WellFormed
import HyperTrader.Nonce.Correspondence
import HyperTrader.Nonce.Scopes

/-!
# How far the accepted clock moves back

The clock gate compares a reservation's wall clock with the one the signer's
scope stores, and a reservation stores its own reading, not the largest so far.
So each reservation lies within a second of the signer's one before it, while a
series of them may go further back. It cannot go back far: a nonce is above the
signer's earlier nonces, each at least its own wall clock, and below its own
expiry fifteen seconds after the wall clock.
-/

namespace HyperTrader

open Library

def latestOf (signer : HyperliquidNetwork × String)
    (records : List PreparedActionRecord) : Option PreparedActionRecord :=
  (records.filter fun record => record.signer = signer).getLast?

theorem latestOf_append_singleton (signer : HyperliquidNetwork × String)
    (records : List PreparedActionRecord) (record : PreparedActionRecord) :
    latestOf signer (records ++ [record]) =
      if record.signer = signer then some record else latestOf signer records := by
  unfold latestOf
  by_cases h : record.signer = signer
  · simp [List.filter_append, h]
  · simp [List.filter_append, h]

variable {records : List PreparedActionRecord} {allocation : NonceAllocation} {viem : Viem}
  {before after : Database} {binding : SignerBinding} {input : AtomicActionReservationInput}
  {record : PreparedActionRecord} {scope : SignerScopeRow} {repository : Repository}
  {calls : List RepositoryCall}

theorem latestOf_eq_none {signer : HyperliquidNetwork × String} :
    latestOf signer records = none ↔
      ∀ record ∈ records, record.signer ≠ signer := by
  simp [latestOf]

theorem allocateNonce_rollback {input : ClockGateInput} {lastIssuedNonce : Option ℤ}
    (h : allocateNonce input lastIssuedNonce = .ok allocation) :
    ∀ last ∈ input.lastObservedWallMs,
      last - input.wallTimeMs ≤ maxClockRollbackMs := by
  intro last hlast
  obtain hlast : input.lastObservedWallMs = some last := hlast
  unfold allocateNonce at h
  simp only [except_bind_eq_ok] at h
  obtain ⟨_, hgate, -⟩ := h
  unfold assertClockGate at hgate
  simp only [hlast, except_bind_eq_ok, safeMilliseconds_eq_ok, require_eq_ok]
    at hgate
  obtain ⟨_, ⟨-, rfl⟩, _, -, _, -, _, -, _, -, _, -, _, ⟨-, rfl⟩, hrollback⟩ := hgate
  exact hrollback

/-- The clock columns of each scope are those of its signer's last reservation,
and every reservation has its scope. -/
structure ScopesOfReservations (records : List PreparedActionRecord)
    (database : Database) : Prop where
  columns : ∀ scope ∈ database.signerScopes,
    scope.lastIssuedNonce = (latestOf scope.key records).map (·.nonce) ∧
      scope.lastObservedWallMs =
        (latestOf scope.key records).map (·.preparedAt)
  covered : ∀ record ∈ records, ∃ scope ∈ database.signerScopes,
    scope.key = record.signer

theorem scopesOfReservations_initial : ScopesOfReservations [] Repository.initial.database := by
  constructor
  · intro scope hscope
    simp [Repository.initial, Database.empty] at hscope
  · intro record hrecord
    simp at hrecord

theorem ScopesOfReservations.follow (h : ScopesOfReservations records before)
    (hfollow : ScopesFollow (NewScope viem) before after) :
    ScopesOfReservations records after where
  columns scope hscope := by
    rcases hfollow.backward scope hscope with ⟨old, hold, hkey, hkept⟩ | hnew
    · obtain ⟨hissued, hobserved⟩ := h.columns old hold
      rw [hkept.issued, hkept.observed, hkey]
      exact ⟨hissued, hobserved⟩
    · have hnone : latestOf scope.key records = none := by
        rw [latestOf_eq_none]
        intro record hrecord hsigner
        obtain ⟨old, hold, hkey⟩ := h.covered record hrecord
        obtain ⟨kept, hmem, hkept, hold'⟩ := hfollow.forward old hold
        have hsame : kept = scope := after.uniqueScopes.eq_of_mem hmem hscope
          (hkept.trans (hkey.trans hsigner))
        have hissued := (h.columns old hold).1
        rw [← hold'.issued, hsame, hnew.fresh.unissued] at hissued
        have hlatest : latestOf old.key records = none :=
          Option.map_eq_none_iff.mp hissued.symm
        exact latestOf_eq_none.mp hlatest record hrecord hkey.symm
      rw [hnone, hnew.fresh.unissued, hnew.fresh.unobserved]
      exact ⟨rfl, rfl⟩
  covered record hrecord := by
    obtain ⟨scope, hmem, hkey⟩ := h.covered record hrecord
    obtain ⟨kept, hmem', hkept, -⟩ := hfollow.forward scope hmem
    exact ⟨kept, hmem', hkept.trans hkey⟩

theorem ScopesOfReservations.reserved {records : List PreparedActionRecord}
    {before after : Database} {binding : SignerBinding}
    {input : AtomicActionReservationInput} {record : PreparedActionRecord}
    {allocation : NonceAllocation} {scope : SignerScopeRow}
    (h : ScopesOfReservations records before)
    (hreserved : Reserved binding input before after record allocation scope) :
    ScopesOfReservations (records ++ [record]) after where
  columns other hother := by
    rw [latestOf_append_singleton]
    by_cases hkey : other.key = scope.key
    · have hissued : other = scope.issued allocation :=
        after.uniqueScopes.eq_of_mem hother hreserved.scopes.mem_after hkey
      rw [if_pos (hreserved.signer.symm.trans hkey.symm), hissued, hreserved.row]
      exact ⟨rfl, rfl⟩
    · have hsigner : record.signer ≠ other.key := by
        intro heq
        exact hkey (heq.symm.trans hreserved.signer.symm)
      rw [if_neg hsigner]
      exact h.columns other ((hreserved.scopes.others other hkey).mp hother)
  covered made hmade := by
    have hraised : (scope.issued allocation).key = record.signer :=
      hreserved.signer
    by_cases hsigner : made.signer = record.signer
    · exact ⟨_, hreserved.scopes.mem_after, hraised.trans hsigner.symm⟩
    · rcases List.mem_append.mp hmade with hold | hnew
      · obtain ⟨other, hmem, hkey⟩ := h.covered made hold
        refine ⟨other, (hreserved.scopes.others other ?_).mpr hmem, hkey⟩
        intro heq
        exact hsigner (hkey.symm.trans (heq.trans hreserved.signer))
      · rw [List.mem_singleton.mp hnew] at hsigner
        exact absurd rfl hsigner

theorem Reserved.wall (h : Reserved binding input before after record allocation scope) :
    record.preparedAt = input.clock.wallTimeMs := by
  rw [h.row]
  exact (allocateNonce_spec h.allocated).observed

theorem ScopesOfReservations.rollback (h : ScopesOfReservations records before)
    (hreserved : Reserved binding input before after record allocation scope)
    {last : PreparedActionRecord} (hlast : latestOf record.signer records = some last) :
    last.preparedAt - maxClockRollbackMs ≤ record.preparedAt := by
  obtain ⟨-, hobserved⟩ := h.columns scope hreserved.scopes.mem
  rw [hreserved.signer, hlast] at hobserved
  have hgate := allocateNonce_rollback hreserved.allocated last.preparedAt
    hobserved
  have hwall := hreserved.wall
  dsimp only at hgate
  omega

theorem ScopesOfReservations.perform (viem : Viem)
    (h : ScopesOfReservations records repository.database) (call : RepositoryCall) :
    ScopesOfReservations (records ++ (committedReservation viem repository call).toList)
      (perform viem repository call).database := by
  cases hmade : committedReservation viem repository call with
  | some record =>
    obtain ⟨_, _, _, _, hreserved⟩ := committedReservation_spec hmade
    exact h.reserved hreserved
  | none =>
    rw [Option.toList_none, List.append_nil]
    rcases perform_scopes viem repository call with
      hsame | hfollow | ⟨hcommitted, -⟩
    · rw [hsame]
      exact h
    · exact h.follow hfollow
    · rw [hmade] at hcommitted
      cases hcommitted

/-- A reservation lies within the permitted rollback of its signer's last one:
the induction is on the calls, with the reservations before them. -/
theorem committedReservations_rollback (h : ScopesOfReservations records repository.database) :
    ∀ earlier record later,
      committedReservations viem repository calls = earlier ++ record :: later →
      ∀ last ∈ latestOf record.signer (records ++ earlier),
        last.preparedAt - maxClockRollbackMs ≤ record.preparedAt := by
  induction calls generalizing repository records with
  | nil => simp [committedReservations]
  | cons call calls ih =>
    intro earlier record later hsplit last hlast
    have hnext := h.perform viem call
    rw [committedReservations] at hsplit
    cases hmade : committedReservation viem repository call with
    | none =>
      rw [hmade] at hnext hsplit
      rw [Option.toList_none, List.append_nil] at hnext
      exact ih hnext earlier record later hsplit last hlast
    | some made =>
      rw [hmade] at hnext hsplit
      cases earlier with
      | nil =>
        obtain ⟨rfl, -⟩ := List.cons_eq_cons.mp hsplit
        rw [List.append_nil] at hlast
        obtain ⟨_, _, _, _, hreserved⟩ := committedReservation_spec hmade
        exact h.rollback hreserved hlast
      | cons first earlier =>
        obtain ⟨rfl, hrest⟩ := List.cons_eq_cons.mp hsplit
        refine ih hnext earlier record later hrest last ?_
        rw [List.append_assoc]
        exact hlast

theorem Reserved.clock (h : Reserved binding input before after record allocation scope) :
    record.preparedAt ≤ record.nonce ∧
      record.nonce < record.preparedAt + actionExpiryMs := by
  have hspec := allocateNonce_spec h.allocated
  have hnonce : record.nonce = allocation.nonce := by
    rw [h.row]
    rfl
  rw [hnonce, h.wall, ← hspec.expiry]
  exact ⟨hspec.wall_le, hspec.beforeExpiry⟩

/-- A reservation's wall clock against those of its signer's earlier ones: its
expiry is above its nonce, which is above theirs. -/
theorem committedReservations_reach {earlier later : List PreparedActionRecord}
    (hsplit : committedReservations viem .initial calls = earlier ++ record :: later) :
    ∀ old ∈ earlier, old.signer = record.signer →
      old.preparedAt - 14998 ≤ record.preparedAt := by
  intro old hold hsigner
  have hmem : ∀ made ∈ earlier ++ record :: later,
      made.preparedAt ≤ made.nonce ∧ made.nonce < made.preparedAt + 15000 := by
    rw [← hsplit]
    intro made hmade
    obtain ⟨_, _, _, _, _, _, hreserved⟩ :=
      committedReservations_reserved made hmade
    exact hreserved.clock
  have hpairwise : (committedReservations viem .initial calls).Pairwise
      fun first second =>
        first.signer = second.signer → first.nonce < second.nonce :=
    committedReservations_pairwise signersCover_initial
  rw [hsplit, List.pairwise_append] at hpairwise
  have hlt := hpairwise.2.2 old hold record List.mem_cons_self hsigner
  have hold' := hmem old (by simp [hold])
  have hrecord := hmem record (by simp)
  omega

/-- **How far the accepted clock moves back.** Along every run of repository
calls from a new installation, every accepted reservation's wall clock is at
least the wall clock of the signer's accepted reservation before it less the
permitted rollback of a second, and at least that of every earlier accepted
reservation of the signer less 14998 milliseconds: a series of small rollbacks
goes no further back than that. -/
theorem accepted_clock_rollback (viem : Viem) (calls : List RepositoryCall) :
    (∀ repository authority fault input record after,
      reservePreparedAction viem authority fault input repository = (.ok record, after) →
        record.preparedAt = input.clock.wallTimeMs) ∧
    ∀ earlier record later,
      committedReservations viem .initial calls = earlier ++ record :: later →
        (∀ last ∈ latestOf record.signer earlier, last.preparedAt - 1000 ≤ record.preparedAt) ∧
        ∀ old ∈ earlier, old.signer = record.signer →
          old.preparedAt - 14998 ≤ record.preparedAt := by
  constructor
  · intro repository authority fault input record after h
    obtain ⟨_, _, _, -, hreserved⟩ := reservePreparedAction_ok h
    exact hreserved.wall
  · intro earlier record later hsplit
    refine ⟨?_, committedReservations_reach hsplit⟩
    intro last hlast
    exact committedReservations_rollback scopesOfReservations_initial earlier
      record later hsplit last hlast

def reservationAt (digit : String) (wallTimeMs : ℤ) :
    AtomicActionReservationInput where
  binding := sampleBinding
  capturedContextEpoch := 0
  clock := sampleClock wallTimeMs
  preparedAction :=
    { sampleAction with
      journalId := "jrnl_0000000000000000000000000000000" ++ digit
      correlationId := "act_0000000000000000000000000000000" ++ digit
      equivalenceFingerprint :=
        "0x000000000000000000000000000000000000000000000000000000000000000" ++
          digit }

/-- Three reservations, each nine tenths of a second before the one before. -/
def rollingBackCalls : List RepositoryCall :=
  [.registerActiveSignerScope none ⟨sampleBinding, 1000⟩,
    .reservePreparedAction (fun _ _ => .ok ()) none (reservationAt "1" 10000),
    .reservePreparedAction (fun _ _ => .ok ()) none (reservationAt "2" 9100),
    .reservePreparedAction (fun _ _ => .ok ()) none (reservationAt "3" 8200)]

/-- All three are accepted, so the last one's wall clock is 1800 milliseconds
behind the first one's. -/
theorem accepted_clock_walks_back :
    ¬ ∀ earlier record later,
      committedReservations sampleViem .initial rollingBackCalls =
          earlier ++ record :: later →
        ∀ old ∈ earlier, old.signer = record.signer →
          old.preparedAt - 1000 ≤ record.preparedAt := by
  intro h
  have hthree : (committedReservations sampleViem .initial rollingBackCalls).map
      (fun record => (record.signer, record.preparedAt)) =
        [(sampleBinding.signer, 10000), (sampleBinding.signer, 9100),
          (sampleBinding.signer, 8200)] := by
    decide +kernel
  obtain ⟨first, rest, hfirst, hone, hrest⟩ := List.map_eq_cons_iff.mp hthree
  obtain ⟨second, rest, rfl, htwo, hrest⟩ := List.map_eq_cons_iff.mp hrest
  obtain ⟨third, rest, rfl, hthird, -⟩ := List.map_eq_cons_iff.mp hrest
  rw [Prod.mk.injEq] at hone hthird
  have hle := h [first, second] third rest hfirst first (by simp)
    (hone.1.trans hthird.1.symm)
  rw [hone.2, hthird.2] at hle
  revert hle
  decide

end HyperTrader
