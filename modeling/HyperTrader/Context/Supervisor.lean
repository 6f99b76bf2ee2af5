import HyperTrader.Basic
import HyperTrader.Library.Json
import HyperTrader.Library.Machine

/-!
# The context supervisor

A context switch raises the epoch, waits for the private queries to be
cancelled, and takes effect only if no later switch was requested meanwhile. The
supervisor is a machine whose events are the requests and what happens to each
switch after its one await; the callbacks may take any time and any of them may
fail, and none requests a switch itself. A capture holds the epoch and the keys
of the context; while the epoch stays, only the switch that raised it can still
take effect, so a capture that may still commit has seen one context only.
-/

namespace HyperTrader

open Library

structure SignerIdentity where
  agentAddress : String
  generation : ℤ
  deriving DecidableEq

structure TradingContextIdentity where
  network : HyperliquidNetwork
  masterAccount : Option String
  targetAccount : Option String
  signer : Option SignerIdentity
  deriving DecidableEq

def normalizeSupervisorAddress (address : Option String) : Option String :=
  match address.map fun text => asciiLower (trim text) with
  | none => none
  | some normalized => if normalized = "" then none else some normalized

def normalizeTradingContext (context : TradingContextIdentity) :
    TradingContextIdentity where
  network := context.network
  masterAccount := normalizeSupervisorAddress context.masterAccount
  targetAccount := normalizeSupervisorAddress context.targetAccount
  signer := context.signer.map fun signer =>
    { agentAddress :=
        (normalizeSupervisorAddress (some signer.agentAddress)).getD ""
      generation := signer.generation }

def accountMembers (normalized : TradingContextIdentity) : List Json :=
  [.string normalized.network.text, normalized.masterAccount.elim .null .string,
    normalized.targetAccount.elim .null .string]

def contextIdentityKey (context : TradingContextIdentity) : String :=
  (Json.array (accountMembers (normalizeTradingContext context))).stringify

def signerScopeKey (context : TradingContextIdentity) : Option String :=
  let normalized := normalizeTradingContext context
  normalized.signer.map fun signer =>
    (Json.array (accountMembers normalized ++
      [.string signer.agentAddress, .number signer.generation])).stringify

structure ContextCapture where
  epoch : ℕ
  identityKey : String
  signerScopeKey : Option String

structure PendingSwitch where
  switchEpoch : ℕ
  normalized : TradingContextIdentity

/-- The variables of the supervisor, the switches that wait, and the epochs of
the switches that took effect. -/
structure ContextSupervisor where
  current : TradingContextIdentity
  epoch : ℕ
  pending : List PendingSwitch
  committed : List ℕ

inductive SwitchCallback where
  | lockSignerSession
  | invalidateDrafts
  | removeIncompatiblePrivateQueries
  | onCommit
  deriving DecidableEq

/-- A request, or the end of the await of a switch: its queries were cancelled
or the cancellation failed, and `failing` is the callback that throws, if one
does. -/
inductive SupervisorEvent where
  | switchContext (next : TradingContextIdentity)
  | resume (switchEpoch : ℕ) (cancelled : Bool) (failing : Option SwitchCallback)

namespace ContextSupervisor

/-- `createContextSupervisor` -/
def create (initial : TradingContextIdentity) : ContextSupervisor where
  current := normalizeTradingContext initial
  epoch := 0
  pending := []
  committed := []

def capture (supervisor : ContextSupervisor) : ContextCapture where
  epoch := supervisor.epoch
  identityKey := contextIdentityKey supervisor.current
  signerScopeKey := signerScopeKey supervisor.current

def canCommit (supervisor : ContextSupervisor) (capture : ContextCapture) : Bool :=
  capture.epoch == supervisor.epoch &&
    capture.identityKey == contextIdentityKey supervisor.current &&
    capture.signerScopeKey == signerScopeKey supervisor.current

/-- The rest of `switchContext` after the await of a switch: a later request or
a failed callback before the assignment leaves the context as it is. -/
def commit (supervisor : ContextSupervisor) (switch : PendingSwitch)
    (failing : Option SwitchCallback) : ContextSupervisor :=
  if switch.switchEpoch ≠ supervisor.epoch then supervisor
  else
    match failing with
    | some .lockSignerSession | some .invalidateDrafts
    | some .removeIncompatiblePrivateQueries => supervisor
    | some .onCommit | none =>
      { supervisor with
        current := switch.normalized
        committed := switch.switchEpoch :: supervisor.committed }

def step (supervisor : ContextSupervisor) : SupervisorEvent → ContextSupervisor
  | .switchContext next =>
    { supervisor with
      epoch := supervisor.epoch + 1
      pending := supervisor.pending ++
        [⟨supervisor.epoch + 1, normalizeTradingContext next⟩] }
  | .resume switchEpoch cancelled failing =>
    match supervisor.pending.find? fun switch =>
        switch.switchEpoch == switchEpoch with
    | none => supervisor
    | some switch =>
      let settled := { supervisor with
        pending := supervisor.pending.filter fun other =>
          other.switchEpoch ≠ switchEpoch }
      if cancelled then settled.commit switch failing else settled

/-! ### What one event does -/

/-- The waiting switches have distinct epochs, none past the current one, and a
switch that took effect waits no longer. -/
structure Ordered (supervisor : ContextSupervisor) : Prop where
  distinct : supervisor.pending.Pairwise fun a b => a.switchEpoch ≠ b.switchEpoch
  bounded : ∀ switch ∈ supervisor.pending,
    switch.switchEpoch ≤ supervisor.epoch
  settled : ∀ switch ∈ supervisor.pending,
    switch.switchEpoch ∉ supervisor.committed
  past : ∀ epoch ∈ supervisor.committed, epoch ≤ supervisor.epoch

theorem ordered_create (initial : TradingContextIdentity) :
    (create initial).Ordered where
  distinct := List.Pairwise.nil
  bounded _ h := absurd h List.not_mem_nil
  settled _ h := absurd h List.not_mem_nil
  past _ h := absurd h List.not_mem_nil

/-- What a resumption does: nothing but settle a switch, or let the switch that
raised the epoch take effect. -/
inductive Resumed (before after : ContextSupervisor) : Prop
  | nothing (h : after = before)
  | dropped {switchEpoch : ℕ}
      (h : after = { before with
        pending := before.pending.filter fun other =>
          other.switchEpoch ≠ switchEpoch })
  | committed {switch : PendingSwitch} (mem : switch ∈ before.pending)
      (latest : switch.switchEpoch = before.epoch)
      (h : after = { before with
        current := switch.normalized
        pending := before.pending.filter fun other =>
          other.switchEpoch ≠ switch.switchEpoch
        committed := switch.switchEpoch :: before.committed })

theorem resumed_step (supervisor : ContextSupervisor) (switchEpoch : ℕ)
    (cancelled : Bool) (failing : Option SwitchCallback) :
    Resumed supervisor (supervisor.step (.resume switchEpoch cancelled failing)) := by
  rw [step]
  cases hfind : supervisor.pending.find? fun switch =>
      switch.switchEpoch == switchEpoch with
  | none => exact .nothing rfl
  | some switch =>
    have hmem := List.mem_of_find?_eq_some hfind
    have hepoch : switch.switchEpoch = switchEpoch := by
      simpa using List.find?_some hfind
    subst hepoch
    cases cancelled with
    | false => exact .dropped rfl
    | true =>
      simp only [if_true, commit]
      split
      · exact .dropped rfl
      · rename_i hlatest
        rw [not_not] at hlatest
        split
        · exact .dropped rfl
        · exact .dropped rfl
        · exact .dropped rfl
        · exact .committed hmem hlatest rfl
        · exact .committed hmem hlatest rfl

variable {supervisor : ContextSupervisor}

theorem Ordered.filter (h : supervisor.Ordered) (switchEpoch : ℕ) :
    Ordered { supervisor with
      pending := supervisor.pending.filter fun other =>
        other.switchEpoch ≠ switchEpoch } where
  distinct := h.distinct.filter _
  bounded switch hswitch := h.bounded switch (List.mem_of_mem_filter hswitch)
  settled switch hswitch := h.settled switch (List.mem_of_mem_filter hswitch)
  past := h.past

/-- Pending switches keep distinct epochs, none committed and none beyond the current one. -/
theorem Ordered.step (h : supervisor.Ordered)
    (event : SupervisorEvent) : (supervisor.step event).Ordered := by
  cases event with
  | switchContext next =>
    constructor
    · refine List.pairwise_append.mpr
        ⟨h.distinct, List.pairwise_singleton _ _, ?_⟩
      intro old hold new hnew
      rw [List.mem_singleton.mp hnew]
      have hle := h.bounded old hold
      dsimp only
      omega
    · intro switch hswitch
      rcases List.mem_append.mp hswitch with hold | hnew
      · exact Nat.le_succ_of_le (h.bounded switch hold)
      · rw [List.mem_singleton.mp hnew]
        exact Nat.le_refl _
    · intro switch hswitch
      rcases List.mem_append.mp hswitch with hold | hnew
      · exact h.settled switch hold
      · rw [List.mem_singleton.mp hnew]
        intro hpast
        have hle := h.past _ hpast
        dsimp only at hle
        omega
    · intro epoch hepoch
      exact Nat.le_succ_of_le (h.past epoch hepoch)
  | resume switchEpoch cancelled failing =>
    cases resumed_step supervisor switchEpoch cancelled failing with
    | nothing heq =>
      rw [heq]
      exact h
    | dropped heq =>
      rw [heq]
      exact h.filter _
    | @committed switch hmem hlatest heq =>
      rw [heq]
      have hrest := h.filter switch.switchEpoch
      refine ⟨hrest.distinct, hrest.bounded, ?_, ?_⟩
      · intro other hother
        have hne : other.switchEpoch ≠ switch.switchEpoch := by
          simpa using List.of_mem_filter hother
        exact List.not_mem_cons_of_ne_of_not_mem hne
          (hrest.settled other hother)
      · intro epoch hepoch
        rcases List.mem_cons.mp hepoch with rfl | hold
        · exact h.bounded switch hmem
        · exact h.past epoch hold

theorem ordered_of_run (initial : TradingContextIdentity) (events : List SupervisorEvent) :
    (run step (create initial) events).Ordered :=
  run_invariant (fun _ event h => h.step event) (ordered_create initial) events

/-! ### While the epoch stays -/

/-- The epoch never falls, and while it stays the context stays too, or the
switch that raised it has taken effect and none is left to. -/
structure Since (before after : ContextSupervisor) : Prop where
  epoch : before.epoch ≤ after.epoch
  current : after.epoch = before.epoch →
    (after.current = before.current ∧ ∀ switch ∈ after.pending,
      switch.switchEpoch = before.epoch → switch ∈ before.pending) ∨
    ((∃ switch ∈ before.pending, switch.switchEpoch = before.epoch ∧
        after.current = switch.normalized) ∧
      ∀ switch ∈ after.pending, switch.switchEpoch ≠ before.epoch)

theorem Since.refl (supervisor : ContextSupervisor) : Since supervisor supervisor :=
  ⟨Nat.le_refl _, fun _ => .inl ⟨rfl, fun _ hswitch _ => hswitch⟩⟩

theorem Since.trans {first second third : ContextSupervisor}
    (h : Since first second) (h' : Since second third) : Since first third where
  epoch := Nat.le_trans h.epoch h'.epoch
  current heq := by
    have hle := h.epoch
    have hle' := h'.epoch
    have hsecond : second.epoch = first.epoch := by omega
    have hthird := h'.current (by omega)
    rw [hsecond] at hthird
    rcases h.current hsecond with ⟨hcurrent, hpending⟩ | ⟨heffect, hnone⟩
    · rcases hthird with
        ⟨hcurrent', hpending'⟩ | ⟨⟨switch, hmem, hepoch, hcurrent'⟩, hnone⟩
      · refine .inl ⟨hcurrent'.trans hcurrent, fun switch hswitch hepoch => ?_⟩
        exact hpending switch (hpending' switch hswitch hepoch) hepoch
      · exact .inr ⟨⟨switch, hpending switch hmem hepoch, hepoch, hcurrent'⟩, hnone⟩
    · rcases hthird with
        ⟨hcurrent', hpending'⟩ | ⟨⟨switch, hmem, hepoch, -⟩, -⟩
      · obtain ⟨switch, hmem, hepoch, hcurrent⟩ := heffect
        refine .inr ⟨⟨switch, hmem, hepoch, hcurrent'.trans hcurrent⟩, ?_⟩
        intro other hother hsame
        exact hnone other (hpending' other hother hsame) hsame
      · exact absurd hepoch (hnone switch hmem)

theorem since_step (supervisor : ContextSupervisor) (event : SupervisorEvent) :
    Since supervisor (supervisor.step event) := by
  cases event with
  | switchContext next =>
    refine ⟨Nat.le_succ _, fun heq => ?_⟩
    exact absurd heq (Nat.succ_ne_self _)
  | resume switchEpoch cancelled failing =>
    cases resumed_step supervisor switchEpoch cancelled failing with
    | nothing heq =>
      rw [heq]
      exact Since.refl _
    | dropped heq =>
      rw [heq]
      refine ⟨Nat.le_refl _, fun _ => .inl ⟨rfl, fun switch hswitch _ => ?_⟩⟩
      exact List.mem_of_mem_filter hswitch
    | @committed switch hmem hlatest heq =>
      rw [heq]
      refine ⟨Nat.le_refl _, fun _ => .inr ⟨⟨switch, hmem, hlatest, rfl⟩, ?_⟩⟩
      intro other hother
      rw [← hlatest]
      simpa using List.of_mem_filter hother

theorem since_run (supervisor : ContextSupervisor) (events : List SupervisorEvent) :
    Since supervisor (run step supervisor events) := by
  have hany : ∀ (before : ContextSupervisor) (_ : SupervisorEvent),
      True → True := fun _ _ h => h
  have hstep : ∀ before event, True → Since before (step before event) :=
    fun before event _ => since_step before event
  exact run_relation Since.refl (fun _ _ _ h h' => h.trans h') hany hstep trivial
    events

theorem committed_of_run {switchEpoch : ℕ} (hpast : switchEpoch < supervisor.epoch)
    (hnew : switchEpoch ∉ supervisor.committed) (events : List SupervisorEvent) :
    switchEpoch ∉ (run step supervisor events).committed := by
  have hstep : ∀ (before : ContextSupervisor) (event : SupervisorEvent),
      switchEpoch < before.epoch ∧ switchEpoch ∉ before.committed →
      switchEpoch < (before.step event).epoch ∧
        switchEpoch ∉ (before.step event).committed := by
    rintro before event ⟨hlt, hnone⟩
    refine ⟨Nat.lt_of_lt_of_le hlt (since_step before event).epoch, ?_⟩
    cases event with
    | switchContext next => exact hnone
    | resume epoch cancelled failing =>
      cases resumed_step before epoch cancelled failing with
      | nothing heq => rwa [heq]
      | dropped heq => rwa [heq]
      | @committed switch hmem hlatest heq =>
        rw [heq]
        refine List.not_mem_cons_of_ne_of_not_mem ?_ hnone
        omega
  exact (run_invariant hstep ⟨hpast, hnew⟩ events).2

end ContextSupervisor

/-! ### The keys -/

variable {a b : TradingContextIdentity}

theorem accountMembers_injective (h : accountMembers a = accountMembers b) :
    a.network = b.network ∧ a.masterAccount = b.masterAccount ∧
      a.targetAccount = b.targetAccount := by
  have helim : ∀ first second : Option String,
      first.elim Json.null Json.string = second.elim Json.null Json.string →
        first = second := by
    intro first second heq
    cases first <;> cases second <;> simp_all
  simp only [accountMembers, List.cons.injEq, Json.string.injEq, and_true] at h
  exact ⟨HyperliquidNetwork.text_injective h.1, helim _ _ h.2.1, helim _ _ h.2.2⟩

theorem normalizeTradingContext_eq_of_keys (hidentity : contextIdentityKey a = contextIdentityKey b)
    (hsigner : signerScopeKey a = signerScopeKey b) :
    normalizeTradingContext a = normalizeTradingContext b := by
  have hmembers := Json.stringify_injective hidentity
  rw [Json.array.injEq] at hmembers
  obtain ⟨hnetwork, hmaster, htarget⟩ := accountMembers_injective hmembers
  have hsame : (normalizeTradingContext a).signer =
      (normalizeTradingContext b).signer := by
    unfold signerScopeKey at hsigner
    dsimp only at hsigner
    rw [hmembers] at hsigner
    cases ha : (normalizeTradingContext a).signer with
    | none =>
      rw [ha, Option.map_none, eq_comm, Option.map_eq_none_iff] at hsigner
      exact hsigner.symm
    | some first =>
      cases hb : (normalizeTradingContext b).signer with
      | none =>
        rw [ha, hb] at hsigner
        cases hsigner
      | some second =>
        rw [ha, hb, Option.map_some, Option.map_some, Option.some.injEq] at hsigner
        have htexts := Json.stringify_injective hsigner
        rw [Json.array.injEq, List.append_cancel_left_eq] at htexts
        simp only [List.cons.injEq, Json.string.injEq, Json.number.injEq, and_true] at htexts
        rw [Option.some.injEq]
        cases first
        cases second
        simp_all
  cases ha : normalizeTradingContext a
  cases hb : normalizeTradingContext b
  rw [ha, hb] at hnetwork hmaster htarget hsame
  simp_all

/-- **Context epochs are ABA-free.** Let a capture be taken in any run of the
supervisor. If it may still commit after further events, every context that was
current in between is the captured one, in its network, its accounts and its
signer. A switch that was still waiting when another one was requested never
takes effect, and a switch takes effect only as the latest requested, so of
several overlapping switches at most one does. -/
theorem context_epochs_aba_free (initial : TradingContextIdentity)
    (before after : List SupervisorEvent) :
    let taken := run ContextSupervisor.step (.create initial) before
    ((run ContextSupervisor.step taken after).canCommit taken.capture = true →
      ∀ during, during <+: after → normalizeTradingContext
            (run ContextSupervisor.step taken during).current =
          normalizeTradingContext taken.current) ∧
    (∀ next, ∀ switch ∈ taken.pending, switch.switchEpoch ∉
      (run ContextSupervisor.step (taken.step (.switchContext next)) after).committed) ∧
    ∀ event, ∀ switchEpoch ∈ (taken.step event).committed,
      switchEpoch ∉ taken.committed → switchEpoch = taken.epoch := by
  intro taken
  have hordered : taken.Ordered := ContextSupervisor.ordered_of_run initial before
  refine ⟨?_, ?_, ?_⟩
  · rintro hcommit during ⟨rest, rfl⟩
    rw [run_append] at hcommit
    have hfirst := ContextSupervisor.since_run taken during
    have hlater := ContextSupervisor.since_run
      (run ContextSupervisor.step taken during) rest
    simp only [ContextSupervisor.canCommit, ContextSupervisor.capture,
      Bool.and_eq_true, beq_iff_eq] at hcommit
    obtain ⟨⟨hepoch, hidentity⟩, hsigner⟩ := hcommit
    have hle := hfirst.epoch
    have hle' := hlater.epoch
    rcases hfirst.current (by omega) with ⟨hsame, -⟩ | ⟨-, hnone⟩
    · rw [hsame]
    · rcases hlater.current (by omega) with ⟨hsame, -⟩ | ⟨⟨switch, hmem, hlast, -⟩, -⟩
      · rw [← hsame]
        exact (normalizeTradingContext_eq_of_keys hidentity hsigner).symm
      · exact absurd (hlast.trans (by omega)) (hnone switch hmem)
  · intro next switch hswitch
    apply ContextSupervisor.committed_of_run
    · exact Nat.lt_succ_of_le (hordered.bounded switch hswitch)
    · exact hordered.settled switch hswitch
  · intro event switchEpoch hcommitted hnew
    cases event with
    | switchContext next => exact absurd hcommitted hnew
    | resume epoch cancelled failing =>
      cases ContextSupervisor.resumed_step taken epoch cancelled failing with
      | nothing heq => rw [heq] at hcommitted; exact absurd hcommitted hnew
      | dropped heq => rw [heq] at hcommitted; exact absurd hcommitted hnew
      | committed hmem hlatest heq =>
        rw [heq] at hcommitted
        rcases List.mem_cons.mp hcommitted with rfl | hold
        · exact hlatest
        · exact absurd hold hnew

end HyperTrader
