import HyperTrader.Journal.WellFormed
import HyperTrader.Nonce.Correspondence
import HyperTrader.Reconciliation.Evidence
import HyperTrader.Reconciliation.Reconciler

/-!
# Expiry and the server clock

The reconcilers against the exchange. The exchange accepts an order at a server
time not later than its expiry, an answer of `orderStatus` knows every order
accepted before the server time it was produced at, and the `Date` of an answer,
when it has one, is its server time in whole seconds. Requests, answers, headers
and the local clock come in any order, and the other writers of the journal run
in between.

The time the policy compares with the expiry is not the time the answer was
produced at: it is the last `Date` of any answer plus the monotonic time since,
read when the load goes on. An `unknownOid` produced before the expiry may so be
judged with a time past it, while the order is still to be accepted.
`Evaluation.Early` is that case, and no accepted order expires in a run without
it.
-/

namespace HyperTrader

open Library

/-- The exchange: its time, and the orders it has accepted, each with the time
it was accepted at. -/
structure Exchange where
  serverTime : ℤ
  accepted : List (PreparedActionInput × ℤ)

inductive LoadStage where
  /-- `orderStatus` is asked for. -/
  | requested
  /-- The exchange has answered at `producedAt`; the answer is on its way. -/
  | answered (raw : Json) (producedAt : ℤ)
  /-- The market and the position are asked for. -/
  | observing (evidence : ReconciliationEvidence)
  /-- The market and the leverage are asked for. -/
  | adjusting
  /-- The load has ended. -/
  | loaded (evidence : Outcome ReconciliationEvidence)

structure LoadRun where
  owner : String
  record : PreparedActionRecord
  lease : ReconciliationLease
  stage : LoadStage

/-- The journal, the exchange, the clock sample of the process, the claims under
way, and the rows the reconcilers have moved to `expired`. -/
structure ExpiryWorld where
  repository : Repository
  exchange : Exchange
  sample : Option ServerSample
  runs : ℕ → Option LoadRun
  started : ℕ
  expired : List PreparedActionRecord

inductive ExpiryEvent where
  | elapse (milliseconds : ℕ)
  | accept (journalId : String)
  | fetched (producedAt : ℤ) (withDate : Bool) (monotonicNow : ℤ)
  | reconcile (faults : ReconcilerFaults) (owner : String) (now : ℤ)
      (journalId : String) (clientNetwork : HyperliquidNetwork)
  | reconcileNext (faults : ReconcilerFaults) (owner : String) (now : ℤ)
      (clientNetwork : HyperliquidNetwork)
  | answer (run : ℕ) (raw : Json)
  | resumeOrderStatus (run : ℕ) (wallNow monotonicNow : ℤ)
  | resumePosition (run : ℕ) (wallNow monotonicNow : ℤ)
      (catalog : Outcome (List CatalogMarket))
      (positions : Outcome (List (String × String)))
  | resumeLeverage (run : ℕ) (wallNow monotonicNow : ℤ)
      (catalog : Outcome (List CatalogMarket))
      (activeAsset : Outcome (ℤ × MarginMode))
  | loadFails (run : ℕ) (failure : Failure)
  | settle (run : ℕ) (faults : ReconcilerFaults) (now : ℤ)
  | other (call : RepositoryCall)
  | crash

def knowsOrder (raw : Json) : Prop := raw.text "status" = some "order"

instance (raw : Json) : Decidable (knowsOrder raw) :=
  inferInstanceAs (Decidable (_ = _))

def EvidenceLoad.stage : EvidenceLoad → LoadStage
  | .orderStatus => .requested
  | .position evidence => .observing evidence
  | .leverage => .adjusting

def loadStage : Outcome (ReconciliationEvidence ⊕ EvidenceLoad) → LoadStage
  | .ok (.inl evidence) => .loaded (.ok evidence)
  | .ok (.inr load) => load.stage
  | .error failure => .loaded (.error failure)

/-- The rows that are `expired` after and were not before. -/
def newlyExpired (before after : Database) : List PreparedActionRecord :=
  after.actionJournal.filter fun row => row.state == .expired &&
    !before.actionJournal.any fun old =>
      old.journalId == row.journalId && old.state == .expired

namespace ExpiryWorld

def initial (serverTime : ℤ) : ExpiryWorld where
  repository := .initial
  exchange := ⟨serverTime, []⟩
  sample := none
  runs := fun _ => none
  started := 0
  expired := []

def load (world : ExpiryWorld) (repository : Repository) (owner : String)
    (clientNetwork : HyperliquidNetwork) (record : PreparedActionRecord)
    (lease : ReconciliationLease) : ExpiryWorld :=
  { world with
    repository := repository
    runs := Function.update world.runs world.started (some
      { owner := owner
        record := record
        lease := lease
        stage := loadStage ((loadEvidence clientNetwork record).map .inr) })
    started := world.started + 1 }

def proceed (world : ExpiryWorld) (i : ℕ) (run : LoadRun) (stage : LoadStage) : ExpiryWorld :=
  { world with
    runs := Function.update world.runs i (some { run with stage := stage }) }

def step (viem : Viem) (world : ExpiryWorld) : ExpiryEvent → ExpiryWorld
  | .elapse milliseconds =>
    { world with exchange :=
        { world.exchange with
          serverTime := world.exchange.serverTime + milliseconds } }
  | .accept journalId =>
    match world.repository.database.actionJournal.find? fun row =>
        row.journalId == journalId with
    | none => world
    | some row =>
      if world.exchange.serverTime ≤ row.expiresAfterMs then
        { world with exchange :=
            { world.exchange with
              accepted := world.exchange.accepted ++
                [(row.toPreparedActionInput, world.exchange.serverTime)] } }
      else world
  | .fetched producedAt withDate monotonicNow =>
    if producedAt ≤ world.exchange.serverTime then
      match timedFetch (if withDate then some (1000 * (producedAt / 1000))
          else none) monotonicNow world.sample with
      | .ok sample => { world with sample := sample }
      | .error _ => world
    else world
  | .reconcile faults owner now journalId clientNetwork =>
    match HyperTrader.reconcile faults owner now journalId
      world.repository with
    | (.ok (.claimed record lease), repository) =>
      world.load repository owner clientNetwork record lease
    | (_, repository) => { world with repository := repository }
  | .reconcileNext faults owner now clientNetwork =>
    match HyperTrader.reconcileNext faults owner now world.repository with
    | (.ok (some (.claimed record lease)), repository) =>
      world.load repository owner clientNetwork record lease
    | (_, repository) => { world with repository := repository }
  | .answer i raw =>
    match world.runs i with
    | some ⟨owner, record, lease, .requested⟩ =>
      -- the answer knows what was accepted before it was produced
      if ∀ entry ∈ world.exchange.accepted,
          entry.1.journalId = record.journalId →
          entry.2 < world.exchange.serverTime → knowsOrder raw then
        world.proceed i ⟨owner, record, lease, .requested⟩
          (.answered raw world.exchange.serverTime)
      else world
    | _ => world
  | .resumeOrderStatus i wallNow monotonicNow =>
    match world.runs i with
    | some ⟨owner, record, lease, .answered raw producedAt⟩ =>
      world.proceed i ⟨owner, record, lease, .answered raw producedAt⟩
        (loadStage (HyperTrader.resumeOrderStatus
          (readServerClock wallNow monotonicNow world.sample) record (.ok raw)))
    | _ => world
  | .resumePosition i wallNow monotonicNow catalog positions =>
    match world.runs i with
    | some ⟨owner, record, lease, .observing evidence⟩ =>
      world.proceed i ⟨owner, record, lease, .observing evidence⟩
        (.loaded (HyperTrader.resumePosition
          (readServerClock wallNow monotonicNow world.sample) record evidence catalog positions))
    | _ => world
  | .resumeLeverage i wallNow monotonicNow catalog activeAsset =>
    match world.runs i with
    | some ⟨owner, record, lease, .adjusting⟩ =>
      world.proceed i ⟨owner, record, lease, .adjusting⟩
        (.loaded (HyperTrader.resumeLeverage
          (readServerClock wallNow monotonicNow world.sample) record catalog activeAsset))
    | _ => world
  | .loadFails i failure =>
    match world.runs i with
    | none => world
    | some run =>
      match run.stage with
      | .loaded _ => world
      | _ => world.proceed i run (.loaded (.error failure))
  | .settle i faults now =>
    match world.runs i with
    | some ⟨owner, record, lease, .loaded evidence⟩ =>
      let (_, repository) := reconcileClaim viem faults owner now record
        lease evidence world.repository
      { world with
        repository := repository
        runs := Function.update world.runs i none
        expired := world.expired ++
          newlyExpired world.repository.database repository.database }
    | _ => world
  | .other call =>
    { world with repository := perform viem world.repository call }
  | .crash =>
    { world with
      repository := world.repository.restart
      sample := none
      runs := fun _ => none }

end ExpiryWorld

/-- An answer of `orderStatus` that a load is about to judge. -/
structure Evaluation where
  record : PreparedActionRecord
  raw : Json
  producedAt : ℤ
  sample : Option ServerSample
  monotonicNow : ℤ

def Evaluation.unknown (evaluation : Evaluation) : Prop :=
  parseAuthoritativeOrderStatus evaluation.raw
    ⟨evaluation.record.assetId.getD 0, evaluation.record.targetOid,
      evaluation.record.cloid⟩ = .unknown

/-- The order is unknown to an answer produced at or before its expiry, while
the sample and the monotonic time since it was taken are past the expiry. -/
def Evaluation.Early (evaluation : Evaluation) : Prop :=
  evaluation.record.actionType.createsOrder = true ∧ evaluation.unknown ∧
    evaluation.producedAt ≤ evaluation.record.expiresAfterMs ∧
    ∃ taken ∈ evaluation.sample, evaluation.record.expiresAfterMs <
      taken.serverTimeMs +
        (evaluation.monotonicNow - taken.sampledAtMonotonicMs)

instance (evaluation : Evaluation) : Decidable evaluation.unknown :=
  inferInstanceAs (Decidable (_ = _))

instance (evaluation : Evaluation) : Decidable evaluation.Early :=
  inferInstanceAs (Decidable (_ ∧ _))

def ExpiryWorld.evaluation (world : ExpiryWorld) :
    ExpiryEvent → Option Evaluation
  | .resumeOrderStatus i _ monotonicNow =>
    match world.runs i with
    | some ⟨_, record, _, .answered raw producedAt⟩ =>
      some ⟨record, raw, producedAt, world.sample, monotonicNow⟩
    | _ => none
  | _ => none

def ExpiryWorld.Timely (world : ExpiryWorld) (event : ExpiryEvent) : Prop :=
  ∀ evaluation ∈ world.evaluation event, ¬ evaluation.Early

instance (world : ExpiryWorld) (event : ExpiryEvent) : Decidable (world.Timely event) :=
  inferInstanceAs (Decidable (∀ _ ∈ _, _))

/-! ### What is settled stays settled -/

/-- The exchange has not accepted the action, and never will: its time is past
the expiry. -/
def Exchange.Settled (exchange : Exchange) (input : PreparedActionInput) : Prop :=
  input.expiresAfterMs < exchange.serverTime ∧
    ∀ time, (input, time) ∉ exchange.accepted

def Exchange.StageSound (exchange : Exchange) (record : PreparedActionRecord) :
    LoadStage → Prop
  | .requested => record.assetId.isSome = true
  | .answered raw producedAt => record.assetId.isSome = true ∧
      producedAt ≤ exchange.serverTime ∧
      ∀ time, (record.toPreparedActionInput, time) ∈ exchange.accepted →
        time < producedAt → knowsOrder raw
  | .observing evidence => evidence.order = .unknown ∧
      exchange.Settled record.toPreparedActionInput
  | .adjusting => False
  | .loaded (.error _) => True
  | .loaded (.ok evidence) =>
    (∀ identity status, evidence.order = .order identity status →
      sameIdentity record identity = true) ∧
    (evidence.order = .unknown → record.expiresAfterMs < evidence.serverTimeMs →
        exchange.Settled record.toPreparedActionInput)

/-- The exchange later on: time has passed, and what was accepted since was
accepted in its time. -/
structure Exchange.Later (before after : Exchange) : Prop where
  time : before.serverTime ≤ after.serverTime
  accepted : ∀ entry ∈ after.accepted, entry ∈ before.accepted ∨
    before.serverTime ≤ entry.2 ∧ entry.2 ≤ entry.1.expiresAfterMs

variable {before after : Exchange} {row : PreparedActionRecord} {lease : ReconciliationLease}
  {now : ℤ} {s : Repository}

theorem Exchange.Settled.later {input : PreparedActionInput} (h : before.Settled input)
    (hlater : before.Later after) : after.Settled input := by
  refine ⟨lt_of_lt_of_le h.1 hlater.time, ?_⟩
  intro time haccepted
  rcases hlater.accepted _ haccepted with hold | ⟨hsince, hexpiry⟩
  · exact h.2 time hold
  · exact absurd h.1 (not_lt.mpr (hsince.trans hexpiry))

theorem Exchange.StageSound.later {record : PreparedActionRecord} {stage : LoadStage}
    (h : before.StageSound record stage) (hlater : before.Later after) :
    after.StageSound record stage := by
  cases stage with
  | requested => exact h
  | answered raw producedAt =>
    obtain ⟨hasset, htime, hknows⟩ := h
    refine ⟨hasset, htime.trans hlater.time, ?_⟩
    intro time haccepted hbefore
    rcases hlater.accepted _ haccepted with hold | ⟨hsince, -⟩
    · exact hknows time hold hbefore
    · exact absurd hbefore (not_lt.mpr (htime.trans hsince))
  | observing evidence => exact ⟨h.1, h.2.later hlater⟩
  | adjusting => exact h
  | loaded evidence =>
    cases evidence with
    | error failure => exact h
    | ok evidence =>
      refine ⟨h.1, ?_⟩
      intro hunknown hpast
      exact (h.2 hunknown hpast).later hlater

/-! ### The stages of a load -/

section

variable {exchange : Exchange} {record : PreparedActionRecord}

theorem loadEvidence_sound (clientNetwork : HyperliquidNetwork)
    (hcreates : record.actionType.createsOrder = true) :
    exchange.StageSound record (loadStage ((loadEvidence clientNetwork record).map .inr)) := by
  have horder : loadEvidence clientNetwork record = (do
      require (clientNetwork = record.network)
        (.error "The reconciliation client must match the journal network.")
      loadOrderEvidence record) := by
    unfold loadEvidence
    cases htype : record.actionType with
    | cancel => simp [htype, JournalActionType.createsOrder] at hcreates
    | bulkCancel => simp [htype, JournalActionType.createsOrder] at hcreates
    | updateLeverage => simp [htype, JournalActionType.createsOrder] at hcreates
    | _ => rfl
  cases hload : loadEvidence clientNetwork record with
  | error failure => trivial
  | ok load =>
    rw [horder] at hload
    simp only [loadOrderEvidence, except_bind_eq_ok, require_eq_ok, pure,
      Except.pure, Except.ok.injEq] at hload
    obtain ⟨_, -, _, hasset, _, -, rfl⟩ := hload
    exact hasset

variable {clock : Outcome ClockGateInput} {raw : Json} {evidence : ReconciliationEvidence}
  {producedAt wallNow monotonicNow : ℤ} {sample : Option ServerSample}

theorem orderEvidence_ok (h : orderEvidence clock record (.ok raw) = .ok evidence) :
    currentServerTime clock = .ok evidence.serverTimeMs ∧
      evidence.order = parseAuthoritativeOrderStatus raw
        ⟨record.assetId.getD 0, record.targetOid, record.cloid⟩ := by
  simp only [orderEvidence, except_bind_eq_ok, Except.ok.injEq] at h
  obtain ⟨_, rfl, serverTimeMs, htime, h⟩ := h
  split at h
  · cases h
    exact ⟨htime, rfl⟩
  · cases h
    exact ⟨htime, rfl⟩

theorem orderEvidence_sound (hcreates : record.actionType.createsOrder = true)
    (haccepted : ∀ entry ∈ exchange.accepted, entry.2 ≤ entry.1.expiresAfterMs)
    (hstage : exchange.StageSound record (.answered raw producedAt))
    (htimely : ¬ Evaluation.Early ⟨record, raw, producedAt, sample, monotonicNow⟩)
    (h : orderEvidence (readServerClock wallNow monotonicNow sample) record
      (.ok raw) = .ok evidence) : exchange.StageSound record (.loaded (.ok evidence)) := by
  obtain ⟨hasset, hproduced, hknows⟩ := hstage
  obtain ⟨htime, horder⟩ := orderEvidence_ok h
  obtain ⟨taken, htaken, hcurrent⟩ := currentServerTime_eq_ok htime
  constructor
  · intro identity status hidentity
    exact sameIdentity_of_parse hasset (horder.symm.trans hidentity)
  · intro hunknown hpast
    rw [horder] at hunknown
    have hlate : record.expiresAfterMs < producedAt := by
      by_contra hearly
      refine htimely ⟨hcreates, hunknown, not_lt.mp hearly, taken, htaken, ?_⟩
      rw [← hcurrent]
      exact hpast
    refine ⟨lt_of_lt_of_le hlate hproduced, ?_⟩
    -- an accepted order would be known to an answer that late
    intro time hmem
    have hknown := hknows time hmem (lt_of_le_of_lt (haccepted _ hmem) hlate)
    unfold knowsOrder at hknown
    unfold parseAuthoritativeOrderStatus at hunknown
    rw [hknown] at hunknown
    split_ifs at hunknown with h1 h2 h3
    · simp at h2
    · split at hunknown
      · cases hunknown
      · split_ifs at hunknown

theorem resumeOrderStatus_sound (hcreates : record.actionType.createsOrder = true)
    (haccepted : ∀ entry ∈ exchange.accepted, entry.2 ≤ entry.1.expiresAfterMs)
    (hstage : exchange.StageSound record (.answered raw producedAt))
    (htimely : ¬ Evaluation.Early ⟨record, raw, producedAt, sample, monotonicNow⟩) :
    exchange.StageSound record (loadStage (resumeOrderStatus
      (readServerClock wallNow monotonicNow sample) record (.ok raw))) := by
  cases hresume : resumeOrderStatus (readServerClock wallNow monotonicNow sample)
      record (.ok raw) with
  | error failure => trivial
  | ok next =>
    simp only [resumeOrderStatus, except_bind_eq_ok] at hresume
    obtain ⟨evidence, hevidence, hresume⟩ := hresume
    have hsound := orderEvidence_sound hcreates haccepted hstage htimely hevidence
    split at hresume
    · rename_i hclose
      simp only [except_bind_eq_ok, pure, Except.pure, Except.ok.injEq] at hresume
      obtain ⟨_, -, rfl⟩ := hresume
      exact ⟨hclose.2.1, hsound.2 hclose.2.1 hclose.2.2⟩
    · cases hresume
      exact hsound

theorem resumePosition_sound {catalog : Outcome (List CatalogMarket)}
    {positions : Outcome (List (String × String))}
    (hstage : exchange.StageSound record (.observing evidence)) :
    exchange.StageSound record
      (.loaded (resumePosition clock record evidence catalog positions)) := by
  cases hresume : resumePosition clock record evidence catalog positions with
  | error failure => trivial
  | ok observed =>
    simp only [resumePosition, except_bind_eq_ok, pure, Except.pure, Except.ok.injEq] at hresume
    obtain ⟨_, -, _, -, _, -, _, -, rfl⟩ := hresume
    constructor
    · intro identity status hidentity
      exact absurd (hstage.1.symm.trans hidentity) (by simp)
    · exact fun _ _ => hstage.2

theorem settled_of_expired {viem : Viem} {evidence : Outcome ReconciliationEvidence}
    (hcreates : record.actionType.createsOrder = true)
    (hstage : exchange.StageSound record (.loaded evidence))
    (hdecision : claimDecision viem record evidence = .ok (.terminal .expired)) :
    exchange.Settled record.toPreparedActionInput := by
  cases evidence with
  | error failure => simp [claimDecision] at hdecision
  | ok evidence =>
    obtain ⟨hmalformed, haccepted, hrejected, hpast⟩ :=
      decideReconciliation_expired hcreates hdecision
    obtain ⟨hidentity, hunknown⟩ := hstage
    cases horder : evidence.order with
    | malformed => exact absurd horder hmalformed
    | unknown => exact hunknown horder hpast
    | order identity status =>
      -- an observed order counts as accepted or as rejected
      have hsame := hidentity identity status horder
      by_cases hstatus : status = .rejected
      · simp [hasRejection, exactObservedOrder, horder, hsame, hstatus]
          at hrejected
      · simp [hasAcceptance, exactObservedOrder, horder, hsame, hstatus]
          at haccepted

end

/-! ### The rows that expire -/

theorem mem_newlyExpired {before after : Database} :
    row ∈ newlyExpired before after ↔
      row ∈ after.actionJournal ∧ row.state = .expired ∧
        ∀ old ∈ before.actionJournal, old.journalId = row.journalId →
          old.state ≠ .expired := by
  simp [newlyExpired, List.mem_filter]

theorem mem_newlyExpired_of_rewrite {before after : Database} {row' expired : PreparedActionRecord}
    (h : JournalRewrite before after row row') (hexpired : expired ∈ newlyExpired before after) :
    expired = row' ∧ row.state ≠ .expired := by
  obtain ⟨hmem, hstate, hfresh⟩ := mem_newlyExpired.mp hexpired
  by_cases hid : expired.journalId = row.journalId
  · obtain rfl := after.uniqueIds.eq_of_mem hmem h.rewrites.mem_after
      (hid.trans h.rewrites.key_eq.symm)
    exact ⟨rfl, hfresh row h.rewrites.mem hid.symm⟩
  · have hold := (h.rewrites.others expired hid).mp hmem
    exact absurd hstate (hfresh expired hold rfl)

theorem mem_newlyExpired_trans {first second third : Database}
    (h : row ∈ newlyExpired first third) :
    row ∈ newlyExpired second third ∨
      ∃ mid ∈ newlyExpired first second, mid.journalId = row.journalId := by
  obtain ⟨hmem, hstate, hfresh⟩ := mem_newlyExpired.mp h
  by_cases hmid : ∃ mid ∈ second.actionJournal, mid.journalId = row.journalId ∧
      mid.state = .expired
  · obtain ⟨mid, hmid, hid, hexpired⟩ := hmid
    refine .inr ⟨mid, mem_newlyExpired.mpr ⟨hmid, hexpired, ?_⟩, hid⟩
    intro old hold hsame
    exact hfresh old hold (hsame.trans hid)
  · refine .inl (mem_newlyExpired.mpr ⟨hmem, hstate, ?_⟩)
    intro old hold hsame hexpired
    exact hmid ⟨old, hold, hsame, hexpired⟩

theorem not_mem_newlyExpired_self (database : Database)
    (row : PreparedActionRecord) : row ∉ newlyExpired database database := by
  intro h
  obtain ⟨hmem, hstate, hfresh⟩ := mem_newlyExpired.mp h
  exact hfresh row hmem rfl hstate

theorem renewReconciliationLease_expires_nothing {fault : Option Failure}
    {renewed : ReconciliationLease} {s' : Repository}
    (h : renewReconciliationLease fault lease now none s =
      (.ok (some renewed), s')) (row : PreparedActionRecord) :
    row ∉ newlyExpired s.database s'.database := by
  intro hrow
  obtain ⟨held, -, -, -, -, hrewrite⟩ := renewReconciliationLease_some h
  obtain ⟨rfl, hstate⟩ := mem_newlyExpired_of_rewrite hrewrite hrow
  exact hstate (mem_newlyExpired.mp hrow).2.1

theorem reconcileClaim_captured (viem : Viem) (faults : ReconcilerFaults)
    (owner : String) (now : ℤ) (record : PreparedActionRecord)
    (lease : ReconciliationLease) (evidence : Outcome ReconciliationEvidence) (s : Repository) :
    CapturedKept s.database
      (reconcileClaim viem faults owner now record lease evidence s).2.database := by
  cases hrun : reconcileClaim viem faults owner now record lease evidence s with
  | mk result s' =>
    rcases reconcileClaim_spec hrun with
      ⟨rfl, -⟩ | ⟨renewed, mid, hrenew, hrest⟩
    · exact .refl _
    obtain ⟨row, -, -, -, -, hrewrite⟩ := renewReconciliationLease_some hrenew
    have hmid : CapturedKept s.database mid.database := .rewrite hrewrite rfl
    rcases hrest with ⟨rfl, -⟩ | ⟨decision, written, -, -, hwrite⟩
    · exact hmid
    · obtain ⟨changed, -, -, -, hdecided, hrewrite'⟩ := recordDecision_ok hwrite
      exact hmid.trans (.rewrite hrewrite' hdecided.change.captured)

theorem reconcileClaim_expires {viem : Viem} {faults : ReconcilerFaults}
    {owner : String} {record : PreparedActionRecord} {evidence : Outcome ReconciliationEvidence}
    (h : row ∈ newlyExpired s.database (reconcileClaim viem faults owner now record
      lease evidence s).2.database) :
    row.journalId = record.journalId ∧
      claimDecision viem record evidence = .ok (.terminal .expired) := by
  cases hrun : reconcileClaim viem faults owner now record lease evidence s with
  | mk result s' =>
    rw [hrun] at h
    rcases reconcileClaim_spec hrun with
      ⟨rfl, -⟩ | ⟨renewed, mid, hrenew, hrest⟩
    · exact absurd h (not_mem_newlyExpired_self _ _)
    rcases hrest with ⟨rfl, -⟩ | ⟨decision, written, -, hdecision, hwrite⟩
    · exact absurd h (renewReconciliationLease_expires_nothing hrenew _)
    rcases mem_newlyExpired_trans h with hlast | ⟨first, hfirst, -⟩
    · obtain ⟨changed, hid, -, -, hdecided, hrewrite⟩ := recordDecision_ok hwrite
      obtain ⟨rfl, -⟩ := mem_newlyExpired_of_rewrite hrewrite hlast
      have hstate := (mem_newlyExpired.mp hlast).2.1
      refine ⟨hrewrite.rewrites.key_eq.trans hid, ?_⟩
      rw [hdecision]
      cases hdecided with
      | scheduled => cases hstate
      | @settled state _ hallowed =>
        cases state with
        | expired => rfl
        | _ => cases hstate
    · exact absurd hfirst (renewReconciliationLease_expires_nothing hrenew _)

/-! ### The invariant -/

namespace ExpiryWorld

structure Inv (world : ExpiryWorld) : Prop where
  inTime : ∀ entry ∈ world.exchange.accepted, entry.2 ≤ entry.1.expiresAfterMs
  recorded : ∀ i run, world.runs i = some run →
    ∃ row ∈ world.repository.database.actionJournal,
      row.toPreparedActionInput = run.record.toPreparedActionInput
  staged : ∀ i run, world.runs i = some run →
    run.record.actionType.createsOrder = true →
      world.exchange.StageSound run.record run.stage
  expired : ∀ row ∈ world.expired, row.actionType.createsOrder = true →
    world.exchange.Settled row.toPreparedActionInput

variable {viem : Viem} {world : ExpiryWorld}

theorem Inv.initial (serverTime : ℤ) : (ExpiryWorld.initial serverTime).Inv := by
  constructor
  · intro entry hentry
    cases hentry
  · intro i run hrun
    cases hrun
  · intro i run hrun
    cases hrun
  · intro row hrow
    cases hrow

theorem Inv.later (h : world.Inv) {exchange : Exchange} (hlater : world.exchange.Later exchange) :
    Inv { world with exchange := exchange } where
  inTime entry hentry := by
    rcases hlater.accepted entry hentry with hold | ⟨-, hexpiry⟩
    · exact h.inTime entry hold
    · exact hexpiry
  recorded := h.recorded
  staged i run hrun hcreates := (h.staged i run hrun hcreates).later hlater
  expired row hrow hcreates := (h.expired row hrow hcreates).later hlater

variable {repository : Repository}

theorem Inv.captured (h : world.Inv)
    (hkept : CapturedKept world.repository.database repository.database) :
    Inv { world with repository := repository } where
  inTime := h.inTime
  recorded i run hrun := by
    obtain ⟨row, hrow, hinput⟩ := h.recorded i run hrun
    obtain ⟨row', hrow', hinput'⟩ := hkept row hrow
    exact ⟨row', hrow', hinput'.trans hinput⟩
  staged := h.staged
  expired := h.expired

theorem Inv.proceed (h : world.Inv) {i : ℕ} {run : LoadRun}
    (hrun : world.runs i = some run) {stage : LoadStage}
    (hstage : run.record.actionType.createsOrder = true →
      world.exchange.StageSound run.record stage) :
    (world.proceed i run stage).Inv where
  inTime := h.inTime
  recorded j other hother := by
    simp only [ExpiryWorld.proceed, Function.update_apply] at hother
    split at hother
    · cases hother
      exact h.recorded i run hrun
    · exact h.recorded j other hother
  staged j other hother := by
    simp only [ExpiryWorld.proceed, Function.update_apply] at hother
    split at hother
    · cases hother
      exact hstage
    · exact h.staged j other hother
  expired := h.expired

theorem Inv.load (h : world.Inv) {owner : String} {clientNetwork : HyperliquidNetwork} {now : ℤ}
    {record : PreparedActionRecord} {lease : ReconciliationLease}
    (hclaimed : Claimed owner now world.repository.database repository.database record lease) :
    (world.load repository owner clientNetwork record lease).Inv := by
  obtain ⟨row, hinput, -, -, -, hrewrite⟩ := hclaimed.leased
  have hkept := h.captured (CapturedKept.rewrite hrewrite rfl)
  constructor
  · exact h.inTime
  · intro j other hother
    simp only [ExpiryWorld.load, Function.update_apply] at hother ⊢
    split at hother
    · cases hother
      exact ⟨_, hrewrite.rewrites.mem_after, hinput⟩
    · exact hkept.recorded j other hother
  · intro j other hother
    simp only [ExpiryWorld.load, Function.update_apply] at hother ⊢
    split at hother
    · cases hother
      exact loadEvidence_sound clientNetwork
    · exact h.staged j other hother
  · exact h.expired

theorem Inv.settle (h : world.Inv) (i : ℕ) (faults : ReconcilerFaults)
    (now : ℤ) : (step viem world (.settle i faults now)).Inv := by
  simp only [step]
  split
  · rename_i owner record lease evidence hrun
    have hkept := reconcileClaim_captured viem faults owner now record lease
      evidence world.repository
    have hnext := h.captured hkept
    constructor
    · exact h.inTime
    · intro j other hother
      simp only [Function.update_apply] at hother
      split at hother
      · cases hother
      · exact hnext.recorded j other hother
    · intro j other hother
      simp only [Function.update_apply] at hother
      split at hother
      · cases hother
      · exact h.staged j other hother
    · intro row hrow hcreates
      rcases List.mem_append.mp hrow with hold | hnew
      · exact h.expired row hold hcreates
      · obtain ⟨hid, hdecision⟩ := reconcileClaim_expires hnew
        -- the row of the record captured what the claimed record captured
        obtain ⟨row', hrow', hinput⟩ := hnext.recorded i _ hrun
        obtain rfl := Database.uniqueIds _ |>.eq_of_mem hrow'
          (mem_newlyExpired.mp hnew).1
          ((congrArg PreparedActionInput.journalId hinput).trans hid.symm)
        have htype : record.actionType.createsOrder = true := by
          rw [← congrArg PreparedActionInput.actionType hinput]
          exact hcreates
        change world.exchange.Settled row'.toPreparedActionInput
        rw [hinput]
        exact settled_of_expired htype (h.staged i _ hrun htype) hdecision
  · exact h

/-- A step that judges no early evidence expires only what can no longer be accepted. -/
theorem Inv.step (h : world.Inv) (event : ExpiryEvent)
    (htimely : world.Timely event) : (step viem world event).Inv := by
  cases event with
  | elapse milliseconds =>
    refine h.later ⟨?_, fun _ hentry => .inl hentry⟩
    exact Int.le_add_of_nonneg_right (Int.natCast_nonneg milliseconds)
  | accept journalId =>
    simp only [ExpiryWorld.step]
    split
    · exact h
    · split
      · rename_i hexpiry
        refine h.later ⟨le_refl _, ?_⟩
        intro entry hentry
        rcases List.mem_append.mp hentry with hold | hnew
        · exact .inl hold
        · rw [List.mem_singleton.mp hnew]
          exact .inr ⟨le_refl _, hexpiry⟩
      · exact h
  | fetched producedAt withDate monotonicNow =>
    simp only [ExpiryWorld.step]
    split
    · split
      · exact ⟨h.inTime, h.recorded, h.staged, h.expired⟩
      · exact h
    · exact h
  | reconcile faults owner now journalId clientNetwork =>
    cases hrun : HyperTrader.reconcile faults owner now journalId
        world.repository with
    | mk result repository =>
      rcases reconcile_spec hrun with
        ⟨rfl, hnone⟩ | ⟨record, lease, rfl, -, hclaimed⟩
      · simp only [ExpiryWorld.step, hrun]
        exact h
      · simp only [ExpiryWorld.step, hrun]
        exact h.load hclaimed
  | reconcileNext faults owner now clientNetwork =>
    cases hrun : HyperTrader.reconcileNext faults owner now
        world.repository with
    | mk result repository =>
      rcases reconcileNext_spec hrun with
        ⟨rfl, hnone⟩ | ⟨record, lease, rfl, hclaimed⟩
      · simp only [ExpiryWorld.step, hrun]
        exact h
      · simp only [ExpiryWorld.step, hrun]
        exact h.load hclaimed
  | answer i raw =>
    simp only [ExpiryWorld.step]
    split
    · rename_i owner record lease hrun
      split
      · rename_i hknows
        refine h.proceed hrun fun hcreates => ?_
        refine ⟨h.staged i _ hrun hcreates, le_refl _, ?_⟩
        intro time haccepted hbefore
        exact hknows _ haccepted rfl hbefore
      · exact h
    · exact h
  | resumeOrderStatus i wallNow monotonicNow =>
    simp only [ExpiryWorld.step]
    split
    · rename_i owner record lease raw producedAt hrun
      refine h.proceed hrun fun hcreates => ?_
      refine resumeOrderStatus_sound hcreates h.inTime
        (h.staged i _ hrun hcreates) (htimely _ ?_)
      simp [ExpiryWorld.evaluation, hrun]
    · exact h
  | resumePosition i wallNow monotonicNow catalog positions =>
    simp only [ExpiryWorld.step]
    split
    · rename_i owner record lease evidence hrun
      refine h.proceed hrun fun hcreates => ?_
      exact resumePosition_sound (h.staged i _ hrun hcreates)
    · exact h
  | resumeLeverage i wallNow monotonicNow catalog activeAsset =>
    simp only [ExpiryWorld.step]
    split
    · rename_i owner record lease hrun
      refine h.proceed hrun fun hcreates => ?_
      exact (h.staged i _ hrun hcreates).elim
    · exact h
  | loadFails i failure =>
    simp only [ExpiryWorld.step]
    split
    · exact h
    · rename_i run hrun
      split
      · exact h
      · exact h.proceed hrun fun _ => trivial
  | settle i faults now => exact h.settle i faults now
  | other call => exact h.captured (perform_captured viem world.repository call)
  | crash =>
    constructor
    · exact h.inTime
    · intro i run hrun
      cases hrun
    · intro i run hrun
      cases hrun
    · exact h.expired

end ExpiryWorld

/-- **No false expiry**, for the runs that judge no early answer: whatever the
order of requests, answers, headers and clock readings, a row that a reconciler
moved to `expired` is of an action the exchange has not accepted. -/
theorem accepted_orders_never_expire (viem : Viem) (serverTime : ℤ) (events : List ExpiryEvent)
    (htimely : Along (ExpiryWorld.step viem) ExpiryWorld.Timely (.initial serverTime) events) :
    let world := run (ExpiryWorld.step viem) (.initial serverTime) events
    ∀ row ∈ world.expired, row.actionType.createsOrder = true →
      ∀ time, (row.toPreparedActionInput, time) ∉ world.exchange.accepted := by
  intro world row hrow hcreates time
  have hinv : world.Inv := run_invariant_along
    (fun _ event h hevent => h.step event hevent)
    (ExpiryWorld.Inv.initial serverTime) htimely
  exact (hinv.expired row hrow hcreates).2 time

/-! ### An early answer -/

def noFaults : ReconcilerFaults := ⟨none, none, none, none⟩

def sampleOrder : PreparedAction where
  journalId := "jrnl_00000000000000000000000000000002"
  correlationId := "act_00000000000000000000000000000002"
  actionType := .limitOrder
  intentVersion := 1
  normalizedSecretFreeIntent := .object
    [("type", .string "limit_order"), ("assetId", .number 0),
      ("side", .string "buy"), ("size", .string "1"),
      ("limitPrice", .string "100"), ("timeInForce", .string "Gtc"), ("reduceOnly", .bool false),
      ("cloid", .string "0x00000000000000000000000000000002")]
  intentDigest :=
    "0x5847480f29115e8acf60b4f4ac9e67c579e35bcbde4faa6eb37d928f314eb537"
  equivalenceFingerprint :=
    "0x5847480f29115e8acf60b4f4ac9e67c579e35bcbde4faa6eb37d928f314eb537"
  cloid := some "0x00000000000000000000000000000002"
  assetId := some 0
  targetOid := none
  reconciliationKey := "order:0:cloid:0x00000000000000000000000000000002"

/-- The order is reserved, its submission starts, and a reconciler asks for its
evidence fourteen seconds later. -/
def submittedOrder : List ExpiryEvent :=
  [.other (.registerActiveSignerScope none ⟨sampleBinding, 1000⟩),
    .other (.reservePreparedAction (fun _ _ => .ok ()) none
      { sampleReservation with preparedAction := sampleOrder }),
    .other (.markSubmissionStarted none sampleOrder.journalId 1001), .elapse 14000,
    .reconcile noFaults "reconciler" 15000 sampleOrder.journalId .testnet]

/-- The exchange says that it does not know the order a second before the
expiry and accepts the order a moment later; the header of another answer
arrives before the load goes on. -/
def earlyAnswer : List ExpiryEvent :=
  submittedOrder ++
    [.answer 0 (.object [("status", .string "unknownOid")]),
      .elapse 900, .accept sampleOrder.journalId, .elapse 1200,
      .fetched 17050 true 16100, .resumeOrderStatus 0 17100 16150, .settle 0 noFaults 17100]

theorem accepted_order_expires :
    let world := run (ExpiryWorld.step sampleViem) (.initial 1000) earlyAnswer
    ∃ row ∈ world.expired, row.actionType.createsOrder = true ∧
      ∃ entry ∈ world.exchange.accepted,
        entry.1 = row.toPreparedActionInput := by
  decide +kernel

/-- An answer older than the server time it is judged at expires an accepted order. -/
theorem accepted_order_not_kept_from_expiry :
    ¬ ∀ (viem : Viem) (serverTime : ℤ) (events : List ExpiryEvent),
      let world := run (ExpiryWorld.step viem) (.initial serverTime) events
      ∀ row ∈ world.expired, row.actionType.createsOrder = true →
        ∀ time, (row.toPreparedActionInput, time) ∉ world.exchange.accepted := by
  intro h
  obtain ⟨row, hrow, hcreates, ⟨input, time⟩, haccepted, rfl⟩ :=
    accepted_order_expires
  exact h sampleViem 1000 earlyAnswer row hrow hcreates time haccepted

/-- The exchange is asked after the expiry: the answer is judged in time, and
the order, which was never accepted, expires. -/
def timelyAnswer : List ExpiryEvent :=
  submittedOrder ++
    [.elapse 2000, .answer 0 (.object [("status", .string "unknownOid")]),
      .fetched 17000 true 16000, .resumeOrderStatus 0 17010 16010, .settle 0 noFaults 17010]

theorem accepted_orders_never_expire_timelyAnswer :
    let world := run (ExpiryWorld.step sampleViem) (.initial 1000) timelyAnswer
    world.expired ≠ [] ∧
      ∀ row ∈ world.expired, row.actionType.createsOrder = true →
        ∀ time, (row.toPreparedActionInput, time) ∉ world.exchange.accepted :=
  ⟨by decide +kernel, accepted_orders_never_expire sampleViem 1000 timelyAnswer
    (by decide +kernel)⟩

end HyperTrader
