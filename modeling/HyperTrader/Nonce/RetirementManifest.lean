import HyperTrader.Library.HashChain
import HyperTrader.Nonce.Repository

/-!
# The retirement chain against its manifest

Outside the database a manifest keeps the epoch, the length and the last root of
the retirement chain. The comparison recomputes every link of the stored rows,
so under a hash without collisions the manifest stands for one chain only: the
stored rows match it exactly when they are that chain, they are one ahead of it
exactly when one valid tombstone was appended to it, and every other change
demands quarantine.
-/

namespace HyperTrader

open Library

structure RetirementManifest where
  installationEpoch : String
  sequence : ℤ
  chainRoot : String

inductive RetirementManifestComparison where
  | matched
  | sqliteAhead (sequence : ℤ) (chainRoot : String)
  | quarantine (reason : String)

def RetirementManifest.wellFormed (manifest : RetirementManifest) : Prop :=
  isSafeInteger manifest.sequence ∧ 0 ≤ manifest.sequence ∧
    lowercaseHashPattern.test manifest.chainRoot = true ∧
    16 ≤ utf16Length manifest.installationEpoch ∧
    utf16Length manifest.installationEpoch ≤ 128

instance (manifest : RetirementManifest) : Decidable manifest.wellFormed :=
  inferInstanceAs (Decidable (_ ∧ _))

/-- `SELECT prior_chain_root FROM retired_signer_tombstones
WHERE installation_epoch = ? AND sequence = ?` -/
def Database.priorRootAt (database : Database) (installationEpoch : String)
    (sequence : ℤ) : Option String :=
  (database.retiredSignerTombstones.find? fun row =>
    row.installationEpoch == installationEpoch && row.sequence == sequence).map
      TombstoneRow.priorChainRoot

def Database.compareRetirementManifest (viem : Viem) (database : Database)
    (input : RetirementManifest) : RetirementManifestComparison :=
  if ¬ input.wellFormed then .quarantine "invalid_manifest"
  else
    match database.verifyTombstoneChain viem with
    | .invalid reason => .quarantine reason
    | .valid none =>
      if input.sequence = 0 ∧ input.chainRoot = emptyRetirementChainRoot then
        .matched
      else .quarantine "manifest_ahead_or_sqlite_restored"
    | .valid (some head) =>
      if head.installationEpoch ≠ input.installationEpoch then
        .quarantine "installation_epoch_mismatch"
      else if head.sequence = input.sequence ∧
          head.chainRoot = input.chainRoot then
        .matched
      else if head.sequence = input.sequence + 1 ∧
          database.priorRootAt head.installationEpoch head.sequence =
            some input.chainRoot then
        .sqliteAhead head.sequence head.chainRoot
      else .quarantine "retirement_chain_mismatch"

/-! ### Valid chains -/

def TombstoneRow.Sealed (viem : Viem) (row : TombstoneRow) : Prop :=
  createRetiredSignerTombstone viem row.input = .ok row

def Numbered : ℤ → List TombstoneRow → Prop
  | _, [] => True
  | sequence, row :: rows =>
    row.sequence = sequence ∧ Numbered (sequence + 1) rows

structure ValidChain (viem : Viem) (installationEpoch : String)
    (rows : List TombstoneRow) : Prop where
  epoch : ∀ row ∈ rows, row.installationEpoch = installationEpoch
  numbered : Numbered 1 rows
  linked : Linked TombstoneRow.priorChainRoot TombstoneRow.chainRoot
    emptyRetirementChainRoot rows
  valid : ∀ row ∈ rows, row.Sealed viem

def chainRootOf (rows : List TombstoneRow) : String :=
  chainHead TombstoneRow.chainRoot emptyRetirementChainRoot rows

/-- The chain a manifest commits to: of its epoch, as long as it says and ending
with the root it keeps. -/
structure RetirementManifest.Commits (viem : Viem)
    (manifest : RetirementManifest) (rows : List TombstoneRow) : Prop where
  wellFormed : manifest.wellFormed
  chain : ValidChain viem manifest.installationEpoch rows
  length : (rows.length : ℤ) = manifest.sequence
  root : chainRootOf rows = manifest.chainRoot

def Database.tombstoneChain (database : Database) : List TombstoneRow :=
  database.retiredSignerTombstones.insertionSort sequenceOrder

def RetiredSignerTombstoneInput.accepted (input : RetiredSignerTombstoneInput) : Prop :=
  lowercaseHashPattern.test input.priorChainRoot = true ∧
    lowercaseHashPattern.test input.agentAddressFingerprint = true ∧
    (16 ≤ utf16Length input.installationEpoch ∧ utf16Length input.installationEpoch ≤ 128) ∧
    assertTombstoneNumbers
      [("sequence", input.sequence, 1), ("lastIssuedNonce", input.lastIssuedNonce, 0),
        ("generation", input.generation, 1), ("retiredAt", input.retiredAt, 0)] = .ok ()

variable {viem : Viem} {row : TombstoneRow} {installationEpoch : String} {sequence : ℤ}
  {rows : List TombstoneRow} {database : Database} {manifest : RetirementManifest}

theorem createRetiredSignerTombstone_eq_ok {input : RetiredSignerTombstoneInput} :
    createRetiredSignerTombstone viem input = .ok row ↔
      input.accepted ∧ row.input = input ∧
        row.chainRoot = viem.keccak256 (canonicalTombstone input).stringify := by
  unfold createRetiredSignerTombstone
  simp only [validateHash, except_bind_eq_ok, require_eq_ok, pure, Except.pure, Except.ok.injEq]
  constructor
  · rintro ⟨_, h1, _, h2, _, h3, _, h4, rfl⟩
    exact ⟨⟨h1, h2, h3, h4⟩, rfl, rfl⟩
  · rintro ⟨⟨h1, h2, h3, h4⟩, rfl, hroot⟩
    refine ⟨(), h1, (), h2, (), h3, (), h4, ?_⟩
    rw [← hroot]
    rfl

theorem sealed_iff :
    row.Sealed viem ↔ ∃ recomputed,
      createRetiredSignerTombstone viem row.input = .ok recomputed ∧
        recomputed.chainRoot = row.chainRoot := by
  constructor
  · intro h
    exact ⟨row, h, rfl⟩
  · rintro ⟨recomputed, h, hroot⟩
    obtain ⟨-, hinput, -⟩ := createRetiredSignerTombstone_eq_ok.mp h
    have hrow : recomputed = row := by
      cases recomputed
      cases row
      simp only [TombstoneRow.input, RetiredSignerTombstoneInput.mk.injEq]
        at hinput hroot
      simp [hinput, hroot]
    rw [hrow] at h
    exact h

theorem brokenLink_eq_none {priorChainRoot : String} :
    brokenLink viem installationEpoch sequence priorChainRoot rows = none ↔
      (∀ row ∈ rows, row.installationEpoch = installationEpoch) ∧
        Numbered sequence rows ∧
        Linked TombstoneRow.priorChainRoot TombstoneRow.chainRoot priorChainRoot
          rows ∧
        ∀ row ∈ rows, row.Sealed viem := by
  induction rows generalizing sequence priorChainRoot with
  | nil => simp [brokenLink, Numbered, Linked]
  | cons row rows ih =>
    have hlink : brokenLink viem installationEpoch sequence priorChainRoot
          (row :: rows) = none ↔
        (row.installationEpoch = installationEpoch ∧
          row.sequence = sequence ∧ row.priorChainRoot = priorChainRoot) ∧
        row.Sealed viem ∧
        brokenLink viem installationEpoch (sequence + 1) row.chainRoot rows =
          none := by
      rw [brokenLink, sealed_iff]
      split
      · rename_i hbroken
        simp only [reduceCtorEq, false_iff]
        rintro ⟨⟨h1, h2, h3⟩, -⟩
        rcases hbroken with h | h | h
        · exact h h1
        · exact h h2
        · exact h h3
      · rename_i hwhole
        push Not at hwhole
        cases hmade : createRetiredSignerTombstone viem row.input with
        | error failure => simp
        | ok recomputed =>
          by_cases hroot : recomputed.chainRoot = row.chainRoot
          · simp [hroot, hwhole]
          · simp [hroot]
    rw [hlink, ih]
    simp only [List.forall_mem_cons, Numbered, Linked]
    constructor
    · rintro ⟨⟨h1, h2, h3⟩, h4, h5, h6, h7, h8⟩
      exact ⟨⟨h1, h5⟩, ⟨h2, h6⟩, ⟨h3, h7⟩, h4, h8⟩
    · rintro ⟨⟨h1, h5⟩, ⟨h2, h6⟩, ⟨h3, h7⟩, h4, h8⟩
      exact ⟨⟨h1, h2, h3⟩, h4, h5, h6, h7, h8⟩

theorem verifyTombstoneChain_eq_valid {head : Option TombstoneRow} :
    database.verifyTombstoneChain viem = .valid head ↔
      head = database.tombstoneChain.getLast? ∧
        ∃ installationEpoch,
          ValidChain viem installationEpoch database.tombstoneChain := by
  unfold Database.verifyTombstoneChain
  dsimp only
  split
  · rename_i hrows
    have hnil : database.tombstoneChain = [] := hrows
    rw [hnil]
    constructor
    · intro h
      cases h
      exact ⟨rfl, "", by simp, trivial, trivial, by simp⟩
    · rintro ⟨rfl, -⟩
      rfl
  · rename_i first rest hrows
    have hcons : database.tombstoneChain = first :: rest := hrows
    rw [hrows, hcons]
    have hvalid : brokenLink viem first.installationEpoch 1
          emptyRetirementChainRoot (first :: rest) = none ↔
        ∃ installationEpoch, ValidChain viem installationEpoch (first :: rest) := by
      rw [brokenLink_eq_none]
      constructor
      · rintro ⟨h1, h2, h3, h4⟩
        exact ⟨_, h1, h2, h3, h4⟩
      · rintro ⟨epoch, h1, h2, h3, h4⟩
        have hfirst : first.installationEpoch = epoch := h1 first (by simp)
        rw [hfirst]
        exact ⟨h1, h2, h3, h4⟩
    rw [← hvalid]
    cases brokenLink viem first.installationEpoch 1 emptyRetirementChainRoot
        (first :: rest) with
    | none => simp [eq_comm]
    | some reason => simp

theorem numbered_append_singleton :
    Numbered sequence (rows ++ [row]) ↔
      Numbered sequence rows ∧ row.sequence = sequence + rows.length := by
  induction rows generalizing sequence with
  | nil => simp [Numbered]
  | cons first rows ih =>
    have hcount : sequence + 1 + (rows.length : ℤ) =
        sequence + ((first :: rows).length : ℤ) := by
      rw [List.length_cons]
      omega
    rw [List.cons_append, Numbered, Numbered, ih, and_assoc, hcount]

theorem validChain_append_singleton :
    ValidChain viem installationEpoch (rows ++ [row]) ↔
      ValidChain viem installationEpoch rows ∧
        row.installationEpoch = installationEpoch ∧
        row.sequence = rows.length + 1 ∧
        row.priorChainRoot = chainRootOf rows ∧ row.Sealed viem := by
  constructor
  · rintro ⟨h1, h2, h3, h4⟩
    rw [numbered_append_singleton] at h2
    rw [linked_append_singleton] at h3
    simp only [List.forall_mem_append, List.forall_mem_singleton] at h1 h4
    refine ⟨⟨h1.1, h2.1, h3.1, h4.1⟩, h1.2, ?_, h3.2, h4.2⟩
    rw [h2.2, Int.add_comm]
  · rintro ⟨⟨h1, h2, h3, h4⟩, h5, h6, h7, h8⟩
    constructor
    · rw [List.forall_mem_append, List.forall_mem_singleton]
      exact ⟨h1, h5⟩
    · rw [numbered_append_singleton, h6, Int.add_comm]
      exact ⟨h2, rfl⟩
    · exact linked_append_singleton.mpr ⟨h3, h7⟩
    · rw [List.forall_mem_append, List.forall_mem_singleton]
      exact ⟨h4, h8⟩

theorem Database.mem_tombstoneChain :
    row ∈ database.tombstoneChain ↔ row ∈ database.retiredSignerTombstones :=
  List.mem_insertionSort sequenceOrder

theorem Database.priorRootAt_of_mem (h : row ∈ database.tombstoneChain) :
    database.priorRootAt row.installationEpoch row.sequence = some row.priorChainRoot := by
  have hrow := Database.mem_tombstoneChain.mp h
  have hunique : Table.UniqueKeys
      (fun row : TombstoneRow => (row.installationEpoch, row.sequence))
      database.retiredSignerTombstones :=
    database.consistent.tombstoneKeys.imp fun hclash heq => hclash (by
      rw [Prod.mk.injEq] at heq
      exact .inl heq)
  unfold Database.priorRootAt
  cases hfind : database.retiredSignerTombstones.find? fun other =>
      other.installationEpoch == row.installationEpoch &&
        other.sequence == row.sequence with
  | none =>
    have hnone := List.find?_eq_none.mp hfind row hrow
    simp at hnone
  | some found =>
    have hkey := List.find?_some hfind
    simp only [Bool.and_eq_true, beq_iff_eq] at hkey
    have hsame : found = row :=
      hunique.eq_of_mem (List.mem_of_find?_eq_some hfind) hrow
        (Prod.ext hkey.1 hkey.2)
    rw [hsame]
    rfl

/-! ### The verdict -/

theorem compareRetirementManifest_append_singleton {last : TombstoneRow}
    (hmanifest : manifest.wellFormed) (hrows : database.tombstoneChain = rows ++ [last])
    (hchain : ValidChain viem installationEpoch database.tombstoneChain) :
    database.compareRetirementManifest viem manifest =
      if last.installationEpoch ≠ manifest.installationEpoch then
        .quarantine "installation_epoch_mismatch"
      else if last.sequence = manifest.sequence ∧
          last.chainRoot = manifest.chainRoot then
        .matched
      else if last.sequence = manifest.sequence + 1 ∧
          last.priorChainRoot = manifest.chainRoot then
        .sqliteAhead last.sequence last.chainRoot else .quarantine "retirement_chain_mismatch" := by
  have hverified : database.verifyTombstoneChain viem = .valid (some last) := by
    rw [verifyTombstoneChain_eq_valid]
    refine ⟨?_, installationEpoch, hchain⟩
    rw [hrows]
    simp
  have hlast : last ∈ database.tombstoneChain := by
    rw [hrows]
    simp
  have hprior := Database.priorRootAt_of_mem hlast
  unfold Database.compareRetirementManifest
  rw [if_neg (not_not.mpr hmanifest), hverified]
  simp only [hprior, Option.some.injEq]

theorem compareRetirementManifest_nil (hmanifest : manifest.wellFormed)
    (hrows : database.tombstoneChain = []) :
    database.compareRetirementManifest viem manifest =
      if manifest.sequence = 0 ∧
          manifest.chainRoot = emptyRetirementChainRoot then .matched
      else .quarantine "manifest_ahead_or_sqlite_restored" := by
  have hverified : database.verifyTombstoneChain viem = .valid none := by
    rw [verifyTombstoneChain_eq_valid, hrows]
    exact ⟨rfl, "", by simp, trivial, trivial, by simp⟩
  unfold Database.compareRetirementManifest
  rw [if_neg (not_not.mpr hmanifest), hverified]

theorem compareRetirementManifest_invalid (h : ¬ (manifest.wellFormed ∧ ∃ installationEpoch,
      ValidChain viem installationEpoch database.tombstoneChain)) :
    ∃ reason, database.compareRetirementManifest viem manifest = .quarantine reason := by
  unfold Database.compareRetirementManifest
  by_cases hmanifest : manifest.wellFormed
  · rw [if_neg (not_not.mpr hmanifest)]
    cases hverified : database.verifyTombstoneChain viem with
    | invalid reason => exact ⟨reason, rfl⟩
    | valid head =>
      have hvalid := verifyTombstoneChain_eq_valid.mp hverified
      exact absurd ⟨hmanifest, hvalid.2⟩ h
  · exact ⟨"invalid_manifest", if_pos hmanifest⟩

theorem Database.tombstoneChain_cases (database : Database) :
    database.tombstoneChain = [] ∨
      ∃ rows last, database.tombstoneChain = rows ++ [last] := by
  cases hrows : database.tombstoneChain using List.reverseRecOn with
  | nil => exact .inl rfl
  | append_singleton rows last => exact .inr ⟨rows, last, rfl⟩

theorem compareRetirementManifest_matched :
    database.compareRetirementManifest viem manifest = .matched ↔
      manifest.Commits viem database.tombstoneChain := by
  by_cases hvalid : manifest.wellFormed ∧ ∃ installationEpoch,
      ValidChain viem installationEpoch database.tombstoneChain
  · obtain ⟨hmanifest, epoch, hchain⟩ := hvalid
    rcases database.tombstoneChain_cases with hrows | ⟨rows, last, hrows⟩
    · rw [compareRetirementManifest_nil hmanifest hrows, hrows]
      rw [hrows] at hchain
      constructor
      · intro h
        split at h
        · rename_i hempty
          exact ⟨hmanifest, ⟨by simp, trivial, trivial, by simp⟩, hempty.1.symm, hempty.2.symm⟩
        · cases h
      · intro h
        exact if_pos ⟨h.length.symm, h.root.symm⟩
    · rw [compareRetirementManifest_append_singleton hmanifest hrows hchain, hrows]
      rw [hrows] at hchain
      obtain ⟨-, hepoch, hsequence, -, -⟩ := validChain_append_singleton.mp hchain
      have hroot : chainRootOf (rows ++ [last]) = last.chainRoot :=
        chainHead_append_singleton _ _ _ _
      have hlength : ((rows ++ [last]).length : ℤ) = last.sequence := by
        rw [hsequence, List.length_append, List.length_singleton]
        rfl
      constructor
      · intro h
        split at h
        · cases h
        · rename_i hsame
          rw [not_not] at hsame
          split at h
          · rename_i hcommits
            refine ⟨hmanifest, ?_, hlength.trans hcommits.1, hroot.trans hcommits.2⟩
            rw [← hsame, hepoch]
            exact hchain
          · split at h <;> cases h
      · intro h
        have hsame := h.chain.epoch last (by simp)
        rw [if_neg (not_not.mpr hsame), if_pos]
        exact ⟨hlength.symm.trans h.length, hroot.symm.trans h.root⟩
  · obtain ⟨reason, hreason⟩ := compareRetirementManifest_invalid hvalid
    rw [hreason]
    constructor
    · intro h
      cases h
    · intro h
      exact absurd ⟨h.wellFormed, _, h.chain⟩ hvalid

/-- The stored tombstones are ahead of a manifest exactly when they are a chain
it commits to with one valid tombstone appended. -/
theorem compareRetirementManifest_sqliteAhead {chainRoot : String} :
    database.compareRetirementManifest viem manifest =
        .sqliteAhead sequence chainRoot ↔
      ∃ rows last, database.tombstoneChain = rows ++ [last] ∧
        manifest.Commits viem rows ∧
        ValidChain viem manifest.installationEpoch database.tombstoneChain ∧
        last.sequence = sequence ∧ last.chainRoot = chainRoot := by
  by_cases hvalid : manifest.wellFormed ∧ ∃ installationEpoch,
      ValidChain viem installationEpoch database.tombstoneChain
  · obtain ⟨hmanifest, epoch, hchain⟩ := hvalid
    rcases database.tombstoneChain_cases with hrows | ⟨rows, last, hrows⟩
    · rw [compareRetirementManifest_nil hmanifest hrows, hrows]
      constructor
      · intro h
        split at h <;> cases h
      · rintro ⟨rows, last, hnil, -⟩
        simp at hnil
    · rw [compareRetirementManifest_append_singleton hmanifest hrows hchain, hrows]
      rw [hrows] at hchain
      obtain ⟨hheads, hepoch, hsequence, hprior, -⟩ :=
        validChain_append_singleton.mp hchain
      constructor
      · intro h
        split at h
        · cases h
        · rename_i hsame
          rw [not_not] at hsame
          rw [hepoch] at hsame
          split at h
          · cases h
          · split at h
            · rename_i hahead
              cases h
              refine ⟨rows, last, rfl, ⟨hmanifest, hsame ▸ hheads, ?_, ?_⟩,
                hsame ▸ hchain, rfl, rfl⟩
              · have hcount := hahead.1
                omega
              · rw [← hprior]
                exact hahead.2
            · cases h
      · rintro ⟨init, other, hsplit, hcommits, hwhole, rfl, rfl⟩
        obtain ⟨rfl, rfl⟩ := List.append_singleton_inj.mp hsplit
        have hsame := hwhole.epoch last (by simp)
        have hlength := hcommits.length
        have hnext : last.sequence = manifest.sequence + 1 := by omega
        rw [if_neg (not_not.mpr hsame), if_neg, if_pos]
        · exact ⟨hnext, hprior.trans hcommits.root⟩
        · rintro ⟨hcount, -⟩
          omega
  · obtain ⟨reason, hreason⟩ := compareRetirementManifest_invalid hvalid
    rw [hreason]
    constructor
    · intro h
      cases h
    · rintro ⟨rows, last, -, hcommits, hchain, -⟩
      exact absurd ⟨hcommits.wellFormed, _, hchain⟩ hvalid

/-! ### One chain for one manifest -/

def TombstoneRow.sealText (row : TombstoneRow) : String :=
  (canonicalTombstone row.input).stringify

def CollisionFree (viem : Viem) (rows : List TombstoneRow) : Prop :=
  ∀ a ∈ rows, ∀ b ∈ rows,
    viem.keccak256 a.sealText = viem.keccak256 b.sealText →
      a.sealText = b.sealText

theorem SignerRetirementReason.text_injective : Function.Injective text := by
  intro a b h
  cases a <;> cases b <;> first | rfl | simp [text] at h

theorem canonicalTombstone_injective : Function.Injective canonicalTombstone := by
  intro a b h
  simp only [canonicalTombstone, Json.array.injEq, List.cons.injEq,
    Json.string.injEq, Json.number.injEq, true_and, and_true] at h
  obtain ⟨h1, h2, h3, h4, h5, h6, h7, h8, h9⟩ := h
  have hnetwork := HyperliquidNetwork.text_injective h4
  have hreason := SignerRetirementReason.text_injective h9
  cases a
  cases b
  simp_all

theorem TombstoneRow.Sealed.eq_of_root
    (hcollision : CollisionFree viem rows) {a b : TombstoneRow} (ha : a ∈ rows)
    (hb : b ∈ rows) (hvalid : a.Sealed viem) (hvalid' : b.Sealed viem)
    (hroot : a.chainRoot = b.chainRoot) : a = b := by
  obtain ⟨-, -, ha'⟩ := createRetiredSignerTombstone_eq_ok.mp hvalid
  obtain ⟨-, -, hb'⟩ := createRetiredSignerTombstone_eq_ok.mp hvalid'
  have htext : a.sealText = b.sealText := by
    apply hcollision a ha b hb
    unfold TombstoneRow.sealText
    rw [← ha', ← hb', hroot]
  have hinput : a.input = b.input :=
    canonicalTombstone_injective (Json.stringify_injective htext)
  unfold TombstoneRow.Sealed at hvalid hvalid'
  rw [hinput, hvalid'] at hvalid
  exact (Except.ok.inj hvalid).symm

theorem RetirementManifest.Commits.unique {others : List TombstoneRow}
    (h : manifest.Commits viem rows) (h' : manifest.Commits viem others)
    (hcollision : CollisionFree viem (rows ++ others)) : rows = others := by
  refine h.chain.linked.eq_of_head h'.chain.linked ?_ ?_ ?_
  · intro a ha b hb
    exact TombstoneRow.Sealed.eq_of_root hcollision
      (List.mem_append_left _ ha) (List.mem_append_right _ hb)
      (h.chain.valid a ha) (h'.chain.valid b hb)
  · have hlength := h.length.trans h'.length.symm
    exact_mod_cast hlength
  · exact h.root.trans h'.root.symm

/-- **The retirement chain is tamper evident.** The stored tombstones match a
manifest exactly when they are a chain it commits to. Under a hash that
separates their texts that is one chain: exactly it matches, exactly it with one
valid tombstone appended is reported ahead, and whatever else is stored is
quarantined; so is everything under a manifest that commits to no chain. -/
theorem retirement_chain_tamper_evident (viem : Viem) (database : Database)
    (manifest : RetirementManifest) :
    (database.compareRetirementManifest viem manifest = .matched ↔
      manifest.Commits viem database.tombstoneChain) ∧
    ((∀ chain, ¬ manifest.Commits viem chain) →
      ∃ reason, database.compareRetirementManifest viem manifest = .quarantine reason) ∧
    ∀ chain, manifest.Commits viem chain →
      CollisionFree viem (chain ++ database.tombstoneChain) →
      (database.compareRetirementManifest viem manifest = .matched ↔
        database.tombstoneChain = chain) ∧
      (∀ sequence chainRoot, database.compareRetirementManifest viem manifest =
            .sqliteAhead sequence chainRoot ↔ ∃ extra, database.tombstoneChain = chain ++ [extra] ∧
            ValidChain viem manifest.installationEpoch (chain ++ [extra]) ∧
            extra.sequence = sequence ∧ extra.chainRoot = chainRoot) ∧
      (database.tombstoneChain ≠ chain → (∀ extra, database.tombstoneChain = chain ++ [extra] →
          ¬ ValidChain viem manifest.installationEpoch (chain ++ [extra])) →
        ∃ reason, database.compareRetirementManifest viem manifest = .quarantine reason) := by
  have hverdict : database.compareRetirementManifest viem manifest ≠ .matched →
      (∀ sequence chainRoot, database.compareRetirementManifest viem manifest ≠
        .sqliteAhead sequence chainRoot) →
      ∃ reason, database.compareRetirementManifest viem manifest =
        .quarantine reason := by
    intro hmatched hahead
    cases hcompare : database.compareRetirementManifest viem manifest with
    | matched => exact absurd hcompare hmatched
    | sqliteAhead sequence chainRoot =>
      exact absurd hcompare (hahead sequence chainRoot)
    | quarantine reason => exact ⟨reason, rfl⟩
  refine ⟨compareRetirementManifest_matched, ?_, ?_⟩
  · intro hnone
    apply hverdict
    · intro h
      exact hnone _ (compareRetirementManifest_matched.mp h)
    · intro sequence chainRoot h
      obtain ⟨rows, -, -, hcommits, -⟩ :=
        compareRetirementManifest_sqliteAhead.mp h
      exact hnone rows hcommits
  · intro chain hchain hcollision
    have hmatched : database.compareRetirementManifest viem manifest = .matched ↔
        database.tombstoneChain = chain := by
      rw [compareRetirementManifest_matched]
      constructor
      · intro h
        exact (hchain.unique h hcollision).symm
      · intro h
        rw [h]
        exact hchain
    have hahead : ∀ sequence chainRoot,
        database.compareRetirementManifest viem manifest =
            .sqliteAhead sequence chainRoot ↔
          ∃ extra, database.tombstoneChain = chain ++ [extra] ∧
            ValidChain viem manifest.installationEpoch (chain ++ [extra]) ∧
            extra.sequence = sequence ∧ extra.chainRoot = chainRoot := by
      intro sequence chainRoot
      rw [compareRetirementManifest_sqliteAhead]
      constructor
      · rintro ⟨rows, extra, hrows, hcommits, hwhole, hsequence, hroot⟩
        have hsame : chain = rows := by
          apply hchain.unique hcommits
          intro a ha b hb
          apply hcollision
          · rw [hrows]
            simp only [List.mem_append] at ha ⊢
            exact ha.imp id .inl
          · rw [hrows]
            simp only [List.mem_append] at hb ⊢
            exact hb.imp id .inl
        rw [hsame]
        exact ⟨extra, hrows, hrows ▸ hwhole, hsequence, hroot⟩
      · rintro ⟨extra, hrows, hwhole, hsequence, hroot⟩
        exact ⟨chain, extra, hrows, hchain, hrows.symm ▸ hwhole, hsequence, hroot⟩
    refine ⟨hmatched, hahead, fun hother hextra => ?_⟩
    apply hverdict
    · intro h
      exact hother (hmatched.mp h)
    · intro sequence chainRoot h
      obtain ⟨extra, hrows, hwhole, -⟩ := (hahead sequence chainRoot).mp h
      exact hextra extra hrows hwhole

/-! ### A tombstone ahead of its manifest -/

def firstTombstone : TombstoneRow where
  installationEpoch := "installation-epoch"
  sequence := 1
  priorChainRoot := emptyRetirementChainRoot
  chainRoot :=
    "0xe08b16c0c516ac718281a74dbd7a83fb2d9770cbc4e3350e57734dd76897439c"
  network := .testnet
  agentAddressFingerprint :=
    "0xa35288bc729449e0303282ea8a902329897f5fb0c04db32e1a9af27f39625f9c"
  lastIssuedNonce := 1000
  signerGeneration := 1
  retiredAt := 2000
  reason := .rotated

def secondTombstone : TombstoneRow where
  installationEpoch := "installation-epoch"
  sequence := 2
  priorChainRoot := firstTombstone.chainRoot
  chainRoot :=
    "0xd2abf360339f673add4f0d24aa972df459b80e391364b56f074b4c985b4d4a2c"
  network := .testnet
  agentAddressFingerprint :=
    "0x6454209708477a31b086139ece5a60f3d9914497222672990fece9d2e9457124"
  lastIssuedNonce := 3000
  signerGeneration := 2
  retiredAt := 4000
  reason := .revoked

@[irreducible]
def tombstoneHash (text : String) : String :=
  if text = firstTombstone.sealText then firstTombstone.chainRoot
  else if text = secondTombstone.sealText then secondTombstone.chainRoot
  else emptyRetirementChainRoot

def tombstoneViem : Viem where
  getAddress _ := none
  keccak256 := tombstoneHash
  keccak256Bytes _ := emptyRetirementChainRoot

def tombstoneStore : Database where
  signerScopes := []
  retiredSignerTombstones := [firstTombstone, secondTombstone]
  actionJournal := []
  consistent := by decide

def firstManifest : RetirementManifest where
  installationEpoch := "installation-epoch"
  sequence := 1
  chainRoot := firstTombstone.chainRoot

theorem sealText_ne : secondTombstone.sealText ≠ firstTombstone.sealText := by
  intro h
  have hinput := canonicalTombstone_injective (Json.stringify_injective h)
  have hsequence := congrArg RetiredSignerTombstoneInput.sequence hinput
  revert hsequence
  decide

theorem tombstoneHash_first : tombstoneHash firstTombstone.sealText = firstTombstone.chainRoot := by
  unfold tombstoneHash
  rw [if_pos rfl]

theorem tombstoneHash_second :
    tombstoneHash secondTombstone.sealText = secondTombstone.chainRoot := by
  unfold tombstoneHash
  rw [if_neg sealText_ne, if_pos rfl]

theorem firstTombstone_sealed : firstTombstone.Sealed tombstoneViem := by
  apply createRetiredSignerTombstone_eq_ok.mpr
  exact ⟨⟨by decide, by decide, by decide, rfl⟩, rfl,
    tombstoneHash_first.symm⟩

theorem secondTombstone_sealed : secondTombstone.Sealed tombstoneViem := by
  apply createRetiredSignerTombstone_eq_ok.mpr
  exact ⟨⟨by decide, by decide, by decide, rfl⟩, rfl,
    tombstoneHash_second.symm⟩

theorem tombstones_collisionFree : CollisionFree tombstoneViem
    [firstTombstone, firstTombstone, secondTombstone] := by
  have hroots : firstTombstone.chainRoot ≠ secondTombstone.chainRoot := by
    decide
  intro a ha b hb (h : tombstoneHash a.sealText = tombstoneHash b.sealText)
  simp only [List.mem_cons, List.not_mem_nil, or_false, or_self_left] at ha hb
  rcases ha with rfl | rfl <;> rcases hb with rfl | rfl
  · rfl
  · rw [tombstoneHash_first, tombstoneHash_second] at h
    exact absurd h hroots
  · rw [tombstoneHash_first, tombstoneHash_second] at h
    exact absurd h.symm hroots
  · rfl

theorem firstManifest_commits :
    firstManifest.Commits tombstoneViem [firstTombstone] where
  wellFormed := by decide
  chain := ⟨by decide, ⟨rfl, trivial⟩, ⟨rfl, trivial⟩,
    List.forall_mem_singleton.mpr firstTombstone_sealed⟩
  length := rfl
  root := rfl

/-- The second tombstone is reported, and nothing else. -/
theorem retirement_chain_tamper_evident_firstManifest :
    tombstoneStore.compareRetirementManifest tombstoneViem firstManifest =
      .sqliteAhead 2 secondTombstone.chainRoot := by
  have hrows : tombstoneStore.tombstoneChain =
      [firstTombstone] ++ [secondTombstone] := by
    decide
  have hcollision : CollisionFree tombstoneViem
      ([firstTombstone] ++ tombstoneStore.tombstoneChain) := by
    rw [hrows]
    exact tombstones_collisionFree
  refine (((retirement_chain_tamper_evident tombstoneViem tombstoneStore
    firstManifest).2.2 _ firstManifest_commits hcollision).2.1 _ _).mpr ?_
  refine ⟨secondTombstone, hrows, ?_, rfl, rfl⟩
  exact validChain_append_singleton.mpr
    ⟨firstManifest_commits.chain, rfl, rfl, rfl, secondTombstone_sealed⟩

end HyperTrader
