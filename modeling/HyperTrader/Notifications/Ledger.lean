import HyperTrader.Library.Decimal
import HyperTrader.Library.Joined
import HyperTrader.Notifications.Regular

/-!
# The deletion ledger and its replay

A deletion is written to a ledger outside the database, which numbers and authenticates
it. A restored database replays the deletions after its backup. Whatever the ledger's
adapter returns then, the verification accepts it only if it is the part of the ledger that
was asked for (`replay_accepts_iff`), and it never refuses that part
(`replay_starts`).
-/

namespace HyperTrader

open Library

namespace Notifications

variable {primitives : StorePrimitives} {item other : DeletionTombstoneItem}
  {items ledger : List DeletionTombstoneItem} {expected last watermark head i : ℕ}
  {deletionIds : List DeletionId}

theorem DeletionScopeKind.text_injective : Function.Injective text := by
  intro a b h
  cases a <;> cases b
  all_goals first | rfl | exact absurd h (by decide)

theorem DeletionScopeKind.colon_not_mem_text (kind : DeletionScopeKind) :
    ':' ∉ kind.text.toList := by
  cases kind <;> decide

theorem DeletionId.toList_text (deletionId : DeletionId) :
    deletionId.text.toList = deletionId.kind.text.toList ++
      ':' :: (deletionId.scopeId.toList ++ ':' :: numberDigits deletionId.generation) := by
  simp [text, numberDigits, String.toList_append]

theorem DeletionId.text_injective : Function.Injective text := by
  intro a b h
  have hchars := congrArg String.toList h
  rw [toList_text, toList_text] at hchars
  obtain ⟨hkind, hrest⟩ := append_separator_inj a.kind.colon_not_mem_text
    b.kind.colon_not_mem_text hchars
  -- The generation is read off the end, since the scope's id may contain the separator.
  have hreverse := congrArg List.reverse hrest
  simp only [List.reverse_append, List.reverse_cons, List.append_assoc, List.singleton_append]
    at hreverse
  have hfree : ∀ n : ℕ, ':' ∉ (numberDigits n).reverse := by
    intro n hmem
    have hdigit := isDigit_of_mem_numberDigits (List.mem_reverse.mp hmem)
    exact absurd hdigit (by decide)
  obtain ⟨hgeneration, hscopeId⟩ := append_separator_inj (hfree _) (hfree _) hreverse
  obtain ⟨kind, scopeId, generation⟩ := a
  obtain ⟨kind', scopeId', generation'⟩ := b
  have hvalue := congrArg digitsValue (List.reverse_injective hgeneration)
  simp only [digitsValue_numberDigits] at hvalue
  rw [DeletionId.mk.injEq]
  exact ⟨DeletionScopeKind.text_injective (String.toList_injective hkind),
    String.toList_injective (List.reverse_injective hscopeId), hvalue⟩

theorem eq_of_tombstoneMacText (h : tombstoneMacText item = tombstoneMacText other)
    (hmac : item.mac = other.mac) : item = other := by
  have hfields := Json.stringify_injective h
  simp only [Json.array.injEq, List.cons.injEq, Json.string.injEq, Json.number.injEq,
    Nat.cast_inj, and_true, true_and] at hfields
  obtain ⟨hsequence, hdeletionId, hkind, hscopeMac, hgeneration, hdeletedAt, hkeyVersion⟩ :=
    hfields
  cases item
  cases other
  rw [DeletionTombstoneItem.mk.injEq]
  exact ⟨hsequence, DeletionId.text_injective hdeletionId,
    DeletionScopeKind.text_injective hkind, hscopeMac, hgeneration, hdeletedAt, hkeyVersion, hmac⟩

structure Accepted (primitives : StorePrimitives) (expected : ℕ) (item : DeletionTombstoneItem) :
    Prop where
  fields : assertTombstoneFields item.deletionId item.deletionGeneration item.deletedAt
    item.keyVersion = .ok ()
  safe : isSafeInteger item.sequence
  positive : 1 ≤ item.sequence
  scopeMac : digestPattern.test item.scopeMac = true
  digest : digestPattern.test item.mac = true
  sequence : item.sequence = expected
  mac : item.mac = primitives.mac item.keyVersion (tombstoneMacText item)

theorem verifyItems_cons_eq_ok :
    verifyItems primitives expected deletionIds (item :: items) = .ok last ↔
      Accepted primitives expected item ∧ item.deletionId ∉ deletionIds ∧
        verifyItems primitives (expected + 1) (item.deletionId :: deletionIds) items =
          .ok last := by
  rw [verifyItems]
  simp only [except_bind_eq_ok, require_eq_ok]
  constructor
  · rintro ⟨_, hfields, -, ⟨hsafe, hpositive, hscopeMac, hdigest⟩, -, hsequence, -, hfresh, -,
      hmac, hrest⟩
    exact ⟨⟨hfields, hsafe, hpositive, hscopeMac, hdigest, hsequence, hmac⟩, hfresh, hrest⟩
  · rintro ⟨h, hfresh, hrest⟩
    exact ⟨(), h.fields, (), ⟨h.safe, h.positive, h.scopeMac, h.digest⟩, (), h.sequence, (),
      hfresh, (), h.mac, hrest⟩

theorem verifyItems_eq_ok :
    verifyItems primitives expected deletionIds items = .ok last ↔
      last = expected + items.length ∧
        (∀ i item, items[i]? = some item → Accepted primitives (expected + i) item) ∧
        (∀ item ∈ items, item.deletionId ∉ deletionIds) ∧
        (items.map DeletionTombstoneItem.deletionId).Nodup := by
  induction items generalizing expected deletionIds with
  | nil => simp [verifyItems, eq_comm]
  | cons item items ih =>
    rw [verifyItems_cons_eq_ok, ih, List.map_cons, List.nodup_cons, List.length_cons]
    constructor
    · rintro ⟨haccepted, hfresh, hlast, hrest, hother, hnodup⟩
      refine ⟨by omega, ?_, ?_, ?_, hnodup⟩
      · intro i other hi
        cases i with
        | zero =>
          cases hi
          exact haccepted
        | succ i =>
          have hother := hrest i other hi
          rwa [Nat.add_assoc, Nat.add_comm 1] at hother
      · intro other hmem
        rcases List.mem_cons.mp hmem with rfl | hmem
        · exact hfresh
        · exact fun hin => hother other hmem (List.mem_cons_of_mem _ hin)
      · intro hmem
        obtain ⟨other, hin, hsame⟩ := List.mem_map.mp hmem
        exact hother other hin (hsame ▸ List.mem_cons_self)
    · rintro ⟨hlast, hall, hother, hhead, hnodup⟩
      refine ⟨hall 0 item rfl, hother item List.mem_cons_self, by omega, ?_, ?_, hnodup⟩
      · intro i other hi
        have haccepted := hall (i + 1) other hi
        rwa [← Nat.add_assoc, Nat.add_right_comm] at haccepted
      · intro other hmem hin
        rcases List.mem_cons.mp hin with hsame | hin
        · exact hhead (List.mem_map.mpr ⟨other, hmem, hsame⟩)
        · exact hother other (List.mem_cons_of_mem _ hmem) hin

theorem verifyTombstoneReplay_eq_ok :
    verifyTombstoneReplay primitives watermark head items = .ok () ↔
      isSafeInteger head ∧ watermark ≤ head ∧ items.length = head - watermark ∧
        (∀ i item, items[i]? = some item → Accepted primitives (watermark + 1 + i) item) ∧
        (items.map DeletionTombstoneItem.deletionId).Nodup := by
  unfold verifyTombstoneReplay
  simp only [except_bind_eq_ok, require_eq_ok, verifyItems_eq_ok]
  constructor
  · rintro ⟨-, -, -, hhead, -, hle, -, ⟨rfl, hitems, -, hnodup⟩, hlast⟩
    exact ⟨hhead, hle, by omega, hitems, hnodup⟩
  · rintro ⟨hhead, hle, hlength, hitems, hnodup⟩
    have hwatermark : isSafeInteger watermark := by
      unfold isSafeInteger at hhead ⊢
      omega
    exact ⟨(), hwatermark, (), hhead, (), hle, _, ⟨rfl, hitems, by simp, hnodup⟩, by omega⟩

structure Sealed (primitives : StorePrimitives) (i : ℕ) (item : DeletionTombstoneItem) :
    Prop where
  fields : assertTombstoneFields item.deletionId item.deletionGeneration item.deletedAt
    item.keyVersion = .ok ()
  sequence : item.sequence = i + 1
  scopeMac : ∃ text, item.scopeMac = primitives.mac item.keyVersion text
  mac : item.mac = primitives.mac item.keyVersion (tombstoneMacText item)

structure SealedLedger (primitives : StorePrimitives) (ledger : List DeletionTombstoneItem) :
    Prop where
  items : ∀ i item, ledger[i]? = some item → Sealed primitives i item
  ids : (ledger.map DeletionTombstoneItem.deletionId).Nodup

theorem SealedLedger.appendItem (h : SealedLedger primitives ledger) {deletionId : DeletionId}
    {deletionGeneration : ℕ} {deletedAt : ℤ} {keyVersion : String} (kind : DeletionScopeKind)
    (scopeId : String)
    (hfields : assertTombstoneFields deletionId deletionGeneration deletedAt keyVersion = .ok ()) :
    SealedLedger primitives (appendItem primitives ledger deletionId kind scopeId
      deletionGeneration deletedAt keyVersion).2 := by
  unfold Notifications.appendItem
  split
  · exact h
  · rename_i hnone
    constructor
    · intro i item hitem
      rcases getElem?_append_cases hitem with hold | ⟨rfl, rfl⟩
      · exact h.items i item hold
      · exact ⟨hfields, rfl, ⟨_, rfl⟩, rfl⟩
    · rw [List.map_append, List.map_singleton, List.nodup_append_comm]
      refine List.nodup_cons.mpr ⟨?_, h.ids⟩
      intro hmem
      obtain ⟨item, hitem, hsame⟩ := List.mem_map.mp hmem
      exact List.find?_eq_none.mp hnone item hitem (decide_eq_true hsame)

theorem SealedLedger.readRange (h : SealedLedger primitives ledger) (watermark head : ℕ) :
    NotificationWorld.readRange ledger watermark head = (ledger.take head).drop watermark := by
  induction ledger using List.reverseRecOn with
  | nil => simp [NotificationWorld.readRange]
  | append_singleton ledger item ih =>
    have hprefix : SealedLedger primitives ledger := by
      refine ⟨fun i other hi => h.items i other ?_, ?_⟩
      · rw [List.getElem?_append_left (List.getElem?_eq_some_iff.mp hi).1]
        exact hi
      · exact h.ids.sublist ((List.sublist_append_left _ _).map _)
    have hsequence := (h.items ledger.length item (by simp)).sequence
    unfold NotificationWorld.readRange at ih ⊢
    rw [List.filter_append, ih hprefix, List.take_append, List.drop_append, List.length_take]
    congr 1
    by_cases hhead : ledger.length < head
    · rw [Nat.min_eq_right hhead.le, List.take_of_length_le (by simp; omega)]
      by_cases hwatermark : watermark ≤ ledger.length
      · rw [Nat.sub_eq_zero_of_le hwatermark]
        simp [hsequence]
        omega
      · rw [List.drop_eq_nil_of_le (by simp; omega)]
        simp [hsequence]
        omega
    · rw [Nat.sub_eq_zero_of_le (Nat.le_of_not_lt hhead)]
      simp [hsequence]
      omega

theorem SealedLedger.accepted (h : SealedLedger primitives ledger)
    (hmac : ∀ keyVersion text, digestPattern.test (primitives.mac keyVersion text) = true)
    (hhead : isSafeInteger head) (hle : watermark ≤ head)
    (hlength : ((ledger.take head).drop watermark).length = head - watermark) :
    verifyTombstoneReplay primitives watermark head ((ledger.take head).drop watermark) =
      .ok () := by
  refine verifyTombstoneReplay_eq_ok.mpr ⟨hhead, hle, hlength, ?_, ?_⟩
  · intro i item hi
    have hlt := (List.getElem?_eq_some_iff.mp hi).1
    rw [List.getElem?_drop, List.getElem?_take_of_lt (by omega)] at hi
    obtain ⟨hfields, hsequence, ⟨text, hscopeMac⟩, hcode⟩ := h.items _ item hi
    unfold isSafeInteger at hhead
    refine ⟨hfields, ?_, by omega, hscopeMac ▸ hmac _ _, hcode ▸ hmac _ _, by omega, hcode⟩
    unfold isSafeInteger
    omega
  · exact h.ids.sublist (((List.drop_sublist _ _).trans (List.take_sublist _ _)).map _)

theorem SealedLedger.eq_of_accepted (h : SealedLedger primitives ledger)
    (hunforged : ∀ item ∈ items,
      item.mac = primitives.mac item.keyVersion (tombstoneMacText item) →
        ∃ own ∈ ledger, tombstoneMacText own = tombstoneMacText item ∧
          own.keyVersion = item.keyVersion)
    (haccepted : verifyTombstoneReplay primitives watermark head items = .ok ()) :
    items = (ledger.take head).drop watermark := by
  obtain ⟨-, hle, hlength, hitems, -⟩ := verifyTombstoneReplay_eq_ok.mp haccepted
  have hown : ∀ i item, items[i]? = some item → ledger[watermark + i]? = some item := by
    intro i item hi
    have hitem := hitems i item hi
    obtain ⟨own, hmem, htext, hkeyVersion⟩ :=
      hunforged item (List.mem_iff_getElem?.mpr ⟨i, hi⟩) hitem.mac
    obtain ⟨j, hj⟩ := List.mem_iff_getElem?.mp hmem
    have hsealed := h.items j own hj
    have hsame : own = item := by
      refine eq_of_tombstoneMacText htext ?_
      rw [hsealed.mac, hitem.mac, htext, hkeyVersion]
    subst hsame
    have hplace := hitem.sequence
    rw [hsealed.sequence] at hplace
    rwa [show watermark + i = j by omega]
  refine List.ext_getElem? fun i => ?_
  by_cases hi : i < items.length
  · rw [List.getElem?_drop, List.getElem?_take_of_lt (by omega), List.getElem?_eq_getElem hi]
    exact (hown i _ (List.getElem?_eq_getElem hi)).symm
  · rw [List.getElem?_eq_none (by omega), List.getElem?_eq_none (by simp; omega)]

namespace NotificationWorld

variable {world : NotificationWorld} {inputs : Inputs}

theorem ledger_proceedCommit {kind : DeletionScopeKind} {results : List DrainResponse}
    {operationId : String} {rest : List String} {stage : CommitStage}
    {P : List DeletionTombstoneItem → Prop} (h : P world.ledger)
    (happend : ∀ view, assertTombstoneFields view.deletionId (view.revocationGeneration + 1)
      inputs.deletedAt view.recoveryKeyVersion = .ok () →
        P (append primitives world kind view inputs.deletedAt).2) :
    P (proceedCommit primitives world kind inputs results operationId rest stage).2.ledger := by
  cases stage with
  | appending view =>
    simp only [proceedCommit]
    split
    · exact h
    · rename_i hfields
      have hview := happend view hfields
      generalize append primitives world kind view inputs.deletedAt = appended at hview ⊢
      obtain ⟨item, ledger⟩ := appended
      repeat' split
      · exact hview
      · exact h
      · exact hview
  | reading | counting | committing =>
    simp only [proceedCommit]
    repeat' split
    all_goals exact h

theorem sealed_step (h : SealedLedger primitives world.ledger) (event : NotificationEvent) :
    SealedLedger primitives (world.step primitives event).ledger := by
  cases event with
  | proceed i inputs =>
    unfold step
    dsimp only
    split
    · unfold proceed
      split
      · split <;> exact h
      · exact ledger_proceedCommit h fun view hfields => h.appendItem _ _ hfields
      · exact h
    · exact h
  | backup | restore | prepareRestore | startReplay | finishReplay =>
    simp only [step, startReplay, finishReplay]
    repeat' split
    all_goals exact h
  | _ => exact h

theorem sealed_run (primitives : StorePrimitives) (events : List NotificationEvent) :
    SealedLedger primitives (run (step primitives) initial events).ledger :=
  @run_invariant _ _ (step primitives) initial (fun world => SealedLedger primitives world.ledger)
    (fun _ event h => sealed_step h event)
    ⟨fun i item hitem => by simp [initial] at hitem, List.nodup_nil⟩ events

/-- **The replay reads the ledger.** Whatever an adapter returns as the ledger's head and
items, if nobody but the store authenticates items, then the verification accepts them
exactly if they are the deletions of the ledger from after the watermark to that head, each
in its place and none missing. -/
theorem replay_accepts_iff (primitives : StorePrimitives) (events : List NotificationEvent)
    (hmac : ∀ keyVersion text, digestPattern.test (primitives.mac keyVersion text) = true)
    (items : List DeletionTombstoneItem)
    (hunforged : ∀ item ∈ items,
      item.mac = primitives.mac item.keyVersion (tombstoneMacText item) →
        ∃ own ∈ (run (step primitives) initial events).ledger,
          tombstoneMacText own = tombstoneMacText item ∧ own.keyVersion = item.keyVersion)
    (watermark head : ℕ) :
    verifyTombstoneReplay primitives watermark head items = .ok () ↔
      isSafeInteger head ∧ watermark ≤ head ∧ items.length = head - watermark ∧
        items = readRange (run (step primitives) initial events).ledger watermark head := by
  have hsealed := sealed_run primitives events
  rw [hsealed.readRange]
  constructor
  · intro haccepted
    obtain ⟨hhead, hle, hlength, -⟩ := verifyTombstoneReplay_eq_ok.mp haccepted
    exact ⟨hhead, hle, hlength, hsealed.eq_of_accepted hunforged haccepted⟩
  · rintro ⟨hhead, hle, hlength, rfl⟩
    exact hsealed.accepted hmac hhead hle hlength

theorem startReplay_restored (h : SealedLedger primitives world.ledger)
    (hregular : world.Regular primitives) (hmarked : world.Marked)
    (hmac : ∀ keyVersion text, digestPattern.test (primitives.mac keyVersion text) = true)
    {backupHead : ℕ} (hmissing : world.missing = some backupHead)
    (hsafe : isSafeInteger world.ledger.length) :
    (world.startReplay primitives).replays = world.replays ++
        [⟨world.tables.service.ledgerWatermark, world.ledger.length,
          world.ledger.drop world.tables.service.ledgerWatermark⟩] ∧
      world.tables.service.ledgerWatermark ≤ backupHead := by
  obtain ⟨hhead, hreplaying⟩ := hregular.missing backupHead hmissing
  have hwatermark := hmarked backupHead hmissing
  have hverified := h.accepted hmac hsafe (hwatermark.trans hhead)
    (by rw [List.take_length, List.length_drop])
  have hitems := h.readRange world.tables.service.ledgerWatermark world.ledger.length
  rw [List.take_length] at hverified hitems
  unfold NotificationWorld.startReplay
  simp only [hregular.tables.contracted, hreplaying, and_self, if_true, hitems, hverified,
    hwatermark]

/-- **A restore goes on.** When a backup has been restored, and the operator has prepared
its replay from no watermark beyond it, the replay that is started next passes the
verification, and it has every deletion of the ledger that is not in the backup. -/
theorem replay_starts (primitives : StorePrimitives) (events : List NotificationEvent)
    (hprepares : Along (step primitives) PreparesBackup initial events)
    (hmac : ∀ keyVersion text, digestPattern.test (primitives.mac keyVersion text) = true)
    (backupHead : ℕ) (hmissing : (run (step primitives) initial events).missing = some backupHead)
    (hsafe : isSafeInteger (run (step primitives) initial events).ledger.length) :
    let world := run (step primitives) initial events
    ∃ replay, (world.step primitives .startReplay).replays = world.replays ++ [replay] ∧
      replay.head = world.ledger.length ∧
        ∀ i item, backupHead ≤ i → world.ledger[i]? = some item → item ∈ replay.items := by
  intro world
  have hstep : ∀ (world : NotificationWorld) event, world.Regular primitives ∧ world.Marked →
      world.PreparesBackup event →
        (world.step primitives event).Regular primitives ∧ (world.step primitives event).Marked :=
    fun _ event h hevent => ⟨h.1.step event, h.2.step h.1 hevent⟩
  obtain ⟨hregular, hmarked⟩ : world.Regular primitives ∧ world.Marked :=
    run_invariant_along hstep ⟨regular_initial, marked_initial⟩ hprepares
  obtain ⟨hreplays, hwatermark⟩ :=
    startReplay_restored (sealed_run primitives events) hregular hmarked hmac hmissing hsafe
  refine ⟨_, hreplays, rfl, fun i item hi hitem => List.mem_iff_getElem?.mpr
    ⟨i - world.tables.service.ledgerWatermark, ?_⟩⟩
  rw [List.getElem?_drop, Nat.add_sub_cancel' (hwatermark.trans hi)]
  exact hitem

end NotificationWorld

namespace Sample

/-- The installation is revoked after a backup, which is then restored. -/
def restored : List NotificationEvent :=
  registered ++
    [ .backup,
      .arrive (.revokeInstallation installationId credential "44444444444444444444444444444444"),
      .proceed 0 (inputs 30), .proceed 0 (inputs 40), .proceed 0 (inputs 50),
      .proceed 0 (inputs 60), .proceed 0 (inputs 70), .restore 0 ]

theorem digest_recorded (keyVersion text : String) :
    digestPattern.test (recorded.mac keyVersion text) = true := by
  change digestPattern.test ((codes.lookup text).getD _) = true
  cases hlookup : codes.lookup text with
  | none => decide
  | some code =>
    have hall : ∀ entry ∈ codes, digestPattern.test entry.2 = true := by decide
    obtain ⟨before, after, hcodes, -⟩ := List.lookup_eq_some_iff.mp hlookup
    exact hall (text, code) (by simp [hcodes])

end Sample

open NotificationWorld

theorem replay_accepts_restored :
    verifyTombstoneReplay Sample.recorded 0 1
      (run (step Sample.recorded) initial Sample.restored).ledger = .ok () :=
  (replay_accepts_iff Sample.recorded Sample.restored Sample.digest_recorded _
    (fun item hitem _ => ⟨item, hitem, rfl, rfl⟩) 0 1).mpr (by decide +kernel)

/-- The operator prepares the replay once more, from the watermark of the backup. -/
theorem replay_starts_restored :
    ∃ replay, ((run (step Sample.recorded) initial (Sample.restored ++ [.prepareRestore 0])).step
        Sample.recorded .startReplay).replays = [replay] ∧ replay.head = 1 := by
  obtain ⟨replay, hreplays, hhead, -⟩ := replay_starts Sample.recorded
    (Sample.restored ++ [.prepareRestore 0]) (by decide) Sample.digest_recorded 0
    (by decide) (by decide)
  have hnone : (run (step Sample.recorded) initial
      (Sample.restored ++ [.prepareRestore 0])).replays = [] := by
    decide
  rw [hnone] at hreplays
  exact ⟨replay, hreplays, hhead.trans (by decide)⟩

end Notifications

end HyperTrader
