import HyperTrader.Library.Machine
import HyperTrader.Preferences.Document
import Mathlib.Logic.Function.Basic

/-!
# The market preferences provider

The provider of one app process: what it shows, the value that edits are applied
to, the loads in flight and the queue of writes. The trading context may switch
the network at any time; the effect that reloads the preferences runs later.
-/

namespace HyperTrader

open Library

namespace Preferences

/-- What the storage holds under the key of a network: nothing (or an empty text),
a text that is not JSON, or the JSON value its text denotes. -/
inductive StoredDocument where
  | absent
  | unreadable
  | document (value : Json)
  deriving DecidableEq

def readStored : StoredDocument → Option MarketPreferences
  | .absent => some emptyMarketPreferences
  | .unreadable => none
  | .document value => parseMarketPreferences value

inductive PreferencesStatus where
  | loading
  | ready
  | error
  deriving DecidableEq

structure View where
  network : HyperliquidNetwork
  status : PreferencesStatus
  preferences : MarketPreferences

/-- A call of `reload` that waits for the storage. `result` is what the storage has
read, or that reading failed. -/
structure Load where
  generation : ℕ
  network : HyperliquidNetwork
  result : Option (Option StoredDocument)
  deriving DecidableEq

inductive DueEffect where
  | mount
  | rerun

structure Provider where
  network : HyperliquidNetwork
  due : Option DueEffect
  view : View
  currentPreferences : MarketPreferences
  loadGeneration : ℕ
  loads : List Load
  writeQueue : List (HyperliquidNetwork × Json)
  storage : HyperliquidNetwork → StoredDocument

inductive ProviderEvent where
  /-- The trading context switches the network. -/
  | switchNetwork (network : HyperliquidNetwork)
  /-- The effect that is due runs. -/
  | effects
  /-- The storage reads the document of a load, or fails to. -/
  | read (generation : ℕ) (succeeds : Bool)
  /-- A load goes on with what was read. -/
  | answered (generation : ℕ)
  /-- A callback rendered for the network edits the preferences. -/
  | edit (network : HyperliquidNetwork) (edit : PreferenceEdit)
  /-- The first write of the queue ends. -/
  | written (succeeds : Bool)
  /-- The app is started again, after its queued writes have ended. -/
  | restart (network : HyperliquidNetwork)
  deriving DecidableEq

namespace Provider

def mounted (network : HyperliquidNetwork) (storage : HyperliquidNetwork → StoredDocument) :
    Provider where
  network := network
  due := some .mount
  view := ⟨network, .loading, emptyMarketPreferences⟩
  currentPreferences := emptyMarketPreferences
  loadGeneration := 0
  loads := []
  writeQueue := []
  storage := storage

def reload (provider : Provider) : Provider :=
  let generation := provider.loadGeneration + 1
  { provider with
    due := none
    view := ⟨provider.network, .loading, emptyMarketPreferences⟩
    currentPreferences := emptyMarketPreferences
    loadGeneration := generation
    loads := provider.loads ++ [⟨generation, provider.network, none⟩] }

/-- `reload`, after its read: what was read is shown unless the load has been
superseded. -/
def receive (provider : Provider) (load : Load) (result : Option StoredDocument) : Provider :=
  let provider := { provider with loads := provider.loads.erase load }
  if load.generation = provider.loadGeneration then
    match result.bind readStored with
    | some preferences =>
      { provider with
        currentPreferences := preferences
        view := ⟨load.network, .ready, preferences⟩ }
    | none =>
      { provider with
        currentPreferences := emptyMarketPreferences
        view := ⟨load.network, .error, emptyMarketPreferences⟩ }
  else provider

/-- `commit`, of the callback rendered for `network`. An update that leaves the
preferences as they are is dropped. -/
def commit (provider : Provider) (network : HyperliquidNetwork) (edit : PreferenceEdit) :
    Provider :=
  let next := edit.update provider.currentPreferences
  if next = provider.currentPreferences then provider
  else
    { provider with
      currentPreferences := next
      view := ⟨network, .ready, next⟩
      writeQueue := provider.writeQueue ++ [(network, serializeMarketPreferences next)] }

def endWrite (provider : Provider) (succeeds : Bool) : Provider :=
  match provider.writeQueue with
  | [] => provider
  | (network, value) :: rest =>
    if succeeds then
      { provider with
        writeQueue := rest
        storage := Function.update provider.storage network (.document value) }
    else
      { provider with
        writeQueue := rest
        view :=
          if provider.view.network = network then { provider.view with status := .error }
          else provider.view }

def endRead (provider : Provider) (succeeds : Bool) (load : Load) : Load :=
  match load.result with
  | none =>
    { load with
      result := some (if succeeds then some (provider.storage load.network) else none) }
  | some _ => load

def step (provider : Provider) : ProviderEvent → Provider
  | .switchNetwork network =>
    if network = provider.network then provider
    else { provider with network := network, due := provider.due.or (some .rerun) }
  | .effects =>
    match provider.due with
    | none => provider
    | some .mount => provider.reload
    -- the cleanup of the last effect supersedes its load
    | some .rerun => { provider with loadGeneration := provider.loadGeneration + 1 }.reload
  | .read generation succeeds =>
    { provider with
      loads := provider.loads.map fun load =>
        if load.generation = generation then provider.endRead succeeds load else load }
  | .answered generation =>
    match provider.loads.find? (·.generation = generation) with
    | some load => load.result.elim provider (provider.receive load)
    | none => provider
  | .edit network edit => provider.commit network edit
  | .written succeeds => provider.endWrite succeeds
  | .restart network =>
    if provider.writeQueue = [] then mounted network provider.storage else provider

def displayed (provider : Provider) : View :=
  if provider.view.network = provider.network then provider.view
  else ⟨provider.network, .loading, emptyMarketPreferences⟩

def settled (provider : Provider) : HyperliquidNetwork → StoredDocument :=
  provider.writeQueue.foldl
    (fun storage write => Function.update storage write.1 (.document write.2)) provider.storage

end Provider

open Provider

def editsUnder (network : HyperliquidNetwork) (events : List ProviderEvent) : List PreferenceEdit :=
  events.filterMap fun
    | .edit under edit => if under = network then some edit else none
    | _ => none

/-- No edit has been lost: every stored document is the first one with the edits
made under its network, a document without edits is untouched, and what is shown
as ready is what is stored. -/
structure Kept (start : HyperliquidNetwork → StoredDocument) (events : List ProviderEvent)
    (provider : Provider) : Prop where
  stored : ∀ network, readStored (provider.storage network) =
    (readStored (start network)).map (applyEdits (editsUnder network events))
  untouched : ∀ network, editsUnder network events = [] →
    provider.storage network = start network
  displayed : provider.displayed.status = .ready →
    readStored (provider.storage provider.network) = some provider.displayed.preferences

/-- The condition on a step. An edit is made where the provider is ready for its
network; a load that has not been superseded goes on with the document that the
queued writes leave; writes succeed. An edited identity is trimmed and not empty,
and there is room for another favourite. -/
def Careful (provider : Provider) : ProviderEvent → Prop
  | .edit network edit =>
    provider.view.network = network ∧ provider.view.status = .ready ∧
      CleanId edit.canonicalId ∧
      provider.currentPreferences.favoriteIds.length < maxFavorites
  | .answered generation =>
    ∀ load ∈ provider.loads, load.generation = generation →
      generation = provider.loadGeneration →
      ∀ document ∈ load.result.join, document = provider.settled load.network
  | .written succeeds => succeeds = true
  | _ => True

instance (provider : Provider) (event : ProviderEvent) : Decidable (Careful provider event) := by
  cases event <;> unfold Careful <;> exact inferInstance

/-- Where the provider is ready, it shows and edits the document that the queued
writes leave. -/
def Ready (provider : Provider) : Prop :=
  provider.view.status = .ready →
    provider.view.preferences = provider.currentPreferences ∧
      readStored (provider.settled provider.view.network) = some provider.currentPreferences

variable {provider : Provider}

/-! ### What a step does to the settled storage -/

theorem settled_enqueue (network : HyperliquidNetwork) (value : Json) (view : View)
    (preferences : MarketPreferences) :
    { provider with
      currentPreferences := preferences
      view := view
      writeQueue := provider.writeQueue ++ [(network, value)] }.settled =
    Function.update provider.settled network (.document value) := by
  unfold settled
  rw [List.foldl_append]
  rfl

theorem settled_receive (load : Load) (result : Option StoredDocument) :
    (provider.receive load result).settled = provider.settled := by
  unfold receive
  dsimp only
  split
  · split <;> rfl
  · rfl

theorem settled_endWrite : (provider.endWrite true).settled = provider.settled := by
  unfold endWrite
  cases hqueue : provider.writeQueue with
  | nil => rfl
  | cons write rest =>
    simp only [settled, hqueue, if_true]
    rfl

variable {network : HyperliquidNetwork} {edit : PreferenceEdit} {event : ProviderEvent}
  {events : List ProviderEvent}

theorem readStored_commit (hready : Ready provider) (h : Careful provider (.edit network edit))
    (other : HyperliquidNetwork) :
    readStored ((provider.commit network edit).settled other) =
      (readStored (provider.settled other)).map
        (applyEdits (editsUnder other [.edit network edit])) := by
  obtain ⟨rfl, hstatus, hid, hroom⟩ := h
  obtain ⟨-, hstored⟩ := hready hstatus
  have hclean : provider.currentPreferences.Clean := by
    cases hdocument : provider.settled provider.view.network with
    | absent =>
      rw [hdocument] at hstored
      rw [← Option.some.inj hstored]
      exact emptyMarketPreferences_clean
    | unreadable =>
      rw [hdocument] at hstored
      cases hstored
    | document value =>
      rw [hdocument] at hstored
      exact clean_of_parse hstored
  by_cases hother : provider.view.network = other
  · subst hother
    have hedits : editsUnder provider.view.network
        [.edit provider.view.network edit] = [edit] := by
      simp [editsUnder]
    rw [hedits, hstored]
    unfold commit
    dsimp only
    split
    · rename_i hsame
      rw [hstored]
      exact congrArg some hsame.symm
    · rw [settled_enqueue, Function.update_self]
      exact parseMarketPreferences_toJson (edit.update_clean hclean hid hroom)
  · have hedits : editsUnder other [.edit provider.view.network edit] = [] := by
      simp [editsUnder, hother]
    have hsame : (provider.commit provider.view.network edit).settled other =
        provider.settled other := by
      unfold commit
      dsimp only
      split
      · rfl
      · rw [settled_enqueue, Function.update_of_ne (Ne.symm hother)]
    rw [hedits, hsame]
    cases readStored (provider.settled other) <;> rfl

theorem settled_step (h : Careful provider event)
    (hedit : ∀ network edit, event ≠ .edit network edit) :
    (provider.step event).settled = provider.settled := by
  cases event with
  | switchNetwork network =>
    unfold step
    dsimp only
    split <;> rfl
  | effects =>
    unfold step
    dsimp only
    split <;> rfl
  | read generation succeeds => rfl
  | answered generation =>
    unfold step
    dsimp only
    split
    · rename_i load hload
      cases load.result with
      | none => rfl
      | some result => exact settled_receive load result
    · rfl
  | edit network edit => exact absurd rfl (hedit network edit)
  | written succeeds =>
    cases h
    exact settled_endWrite
  | restart network =>
    unfold step
    dsimp only
    split
    · rename_i hqueue
      simp [settled, mounted, hqueue]
    · rfl

theorem editsUnder_of_ne
    (hedit : ∀ network edit, event ≠ .edit network edit) (network : HyperliquidNetwork) :
    editsUnder network [event] = [] := by
  cases event with
  | edit under edit => exact absurd rfl (hedit under edit)
  | switchNetwork _ | effects | read _ _ | answered _ | written _ | restart _ => rfl

theorem readStored_step (hready : Ready provider)
    (h : Careful provider event) (network : HyperliquidNetwork) :
    readStored ((provider.step event).settled network) = (readStored (provider.settled network)).map
        (applyEdits (editsUnder network [event])) := by
  by_cases hedit : ∃ under edit, event = .edit under edit
  · obtain ⟨under, edit, rfl⟩ := hedit
    exact readStored_commit hready h network
  · have hne : ∀ under edit, event ≠ .edit under edit :=
      fun under edit heq => hedit ⟨under, edit, heq⟩
    rw [settled_step h hne, editsUnder_of_ne hne]
    cases readStored (provider.settled network) <;> rfl

theorem settled_untouched (h : Careful provider event) (hedits : editsUnder network [event] = []) :
    (provider.step event).settled network = provider.settled network := by
  by_cases hedit : ∃ under edit, event = .edit under edit
  · obtain ⟨under, edit, rfl⟩ := hedit
    have hother : under ≠ network := by
      rintro rfl
      simp [editsUnder] at hedits
    change (provider.commit under edit).settled network = _
    unfold commit
    dsimp only
    split
    · rfl
    · rw [settled_enqueue, Function.update_of_ne hother.symm]
  · rw [settled_step h fun under edit heq => hedit ⟨under, edit, heq⟩]

/-! ### The provider stays ready with what is stored -/

theorem Ready.of_eq {after : Provider} (h : Ready provider) (hview : after.view = provider.view)
    (hcurrent : after.currentPreferences = provider.currentPreferences)
    (hsettled : after.settled = provider.settled) : Ready after := by
  intro hstatus
  rw [hview, hcurrent, hsettled]
  exact h (hview ▸ hstatus)

theorem Ready.receive {load : Load} {result : Option StoredDocument} (h : Ready provider)
    (hresult : load.generation = provider.loadGeneration → ∀ document, result = some document →
      document = provider.settled load.network) : Ready (provider.receive load result) := by
  have hsettled : (provider.receive load result).settled = provider.settled :=
    settled_receive load result
  unfold Provider.receive at hsettled ⊢
  dsimp only at hsettled ⊢
  split
  · rename_i hcurrent
    rw [if_pos hcurrent] at hsettled
    split
    · rename_i preferences hread
      refine fun _ => ⟨rfl, ?_⟩
      obtain ⟨document, hdocument, hread⟩ := Option.bind_eq_some_iff.mp hread
      rw [hresult hcurrent document hdocument] at hread
      exact hread
    · exact fun h => by cases h
  · exact h.of_eq rfl rfl rfl

theorem Ready.commit (h : Ready provider) (hcareful : Careful provider (.edit network edit)) :
    Ready (provider.commit network edit) := by
  have hread := readStored_commit h hcareful network
  obtain ⟨rfl, hstatus, -⟩ := hcareful
  obtain ⟨-, hstored⟩ := h hstatus
  have hedits : editsUnder provider.view.network [.edit provider.view.network edit] = [edit] := by
    simp [editsUnder]
  rw [hedits, hstored] at hread
  unfold Provider.commit at hread ⊢
  dsimp only at hread ⊢
  split
  · exact h
  · rename_i hchanged
    rw [if_neg hchanged] at hread
    exact fun _ => ⟨rfl, hread⟩

theorem Ready.step (h : Ready provider)
    (hcareful : Careful provider event) : Ready (provider.step event) := by
  cases event with
  | switchNetwork network =>
    unfold Provider.step
    dsimp only
    split
    · exact h
    · exact h.of_eq rfl rfl rfl
  | effects =>
    unfold Provider.step
    dsimp only
    split
    · exact h
    · exact fun h => by cases h
    · exact fun h => by cases h
  | read generation succeeds => exact h.of_eq rfl rfl rfl
  | answered generation =>
    unfold Provider.step
    dsimp only
    split
    · rename_i load hload
      have hmem := List.mem_of_find?_eq_some hload
      have hgeneration : load.generation = generation := by
        simpa using List.find?_some hload
      cases hresult : load.result with
      | none => exact h
      | some result =>
        apply h.receive
        intro hcurrent document hdocument
        refine hcareful load hmem hgeneration (hgeneration ▸ hcurrent) document ?_
        rw [hresult, hdocument]
        rfl
    · exact h
  | edit network edit => exact h.commit hcareful
  | written succeeds =>
    cases hcareful
    refine h.of_eq ?_ ?_ settled_endWrite
    · change (provider.endWrite true).view = _
      unfold endWrite
      split <;> rfl
    · change (provider.endWrite true).currentPreferences = _
      unfold endWrite
      split <;> rfl
  | restart network =>
    unfold Provider.step
    dsimp only
    split
    · exact fun h => by cases h
    · exact h

/-! ### Whole runs -/

theorem ready_mounted (network : HyperliquidNetwork)
    (start : HyperliquidNetwork → StoredDocument) : Ready (mounted network start) :=
  fun h => by cases h

theorem editsUnder_cons (network : HyperliquidNetwork) (event : ProviderEvent)
    (events : List ProviderEvent) :
    editsUnder network (event :: events) =
      editsUnder network [event] ++ editsUnder network events :=
  List.filterMap_append (l := [event])

theorem readStored_run (hready : Ready provider)
    (h : Along Provider.step Careful provider events) (network : HyperliquidNetwork) :
    readStored ((run Provider.step provider events).settled network) =
      (readStored (provider.settled network)).map (applyEdits (editsUnder network events)) := by
  induction events generalizing provider with
  | nil => exact (Option.map_id' (x := readStored (provider.settled network))).symm
  | cons event events ih =>
    rw [run_cons, ih (hready.step h.1) h.2, readStored_step hready h.1, Option.map_map,
      editsUnder_cons network event events]
    congr 1
    funext preferences
    exact List.foldl_append.symm

theorem settled_run_untouched (h : Along Provider.step Careful provider events)
    (hedits : editsUnder network events = []) :
    (run Provider.step provider events).settled network = provider.settled network := by
  induction events generalizing provider with
  | nil => rfl
  | cons event events ih =>
    rw [editsUnder_cons, List.append_eq_nil_iff] at hedits
    rw [run_cons, ih h.2 hedits.2, settled_untouched h.1 hedits.1]

/-- **No edit of the market preferences is lost** in a run whose edits are made
where the provider is ready for their network and whose loads go on with the
document that the queued writes leave. -/
theorem market_preferences_kept (network : HyperliquidNetwork)
    (start : HyperliquidNetwork → StoredDocument) (events : List ProviderEvent)
    (h : Along Provider.step Careful (mounted network start) events)
    (hsettled : (run Provider.step (mounted network start) events).writeQueue = []) :
    Kept start events (run Provider.step (mounted network start) events) := by
  have hready := run_invariant_along (fun _ _ => Ready.step) (ready_mounted network start) h
  have hread := readStored_run (ready_mounted network start) h
  have huntouched : ∀ other, editsUnder other events = [] →
      (run Provider.step (mounted network start) events).settled other =
        (mounted network start).settled other := fun _ => settled_run_untouched h
  set provider := run Provider.step (mounted network start) events
  have hstorage : provider.settled = provider.storage := by
    unfold settled
    rw [hsettled]
    rfl
  rw [hstorage] at hread huntouched
  refine ⟨hread, huntouched, fun hstatus => ?_⟩
  unfold Provider.displayed at hstatus ⊢
  split at hstatus
  · rename_i hnetwork
    obtain ⟨hshown, hstored⟩ := hready hstatus
    rw [if_pos hnetwork, hshown, ← hnetwork, ← hstorage]
    exact hstored
  · cases hstatus

def oneFavorite (_ : HyperliquidNetwork) : StoredDocument :=
  .document (serializeMarketPreferences ⟨["perp:BTC"], [], none⟩)

def addedAfterLoad : List ProviderEvent :=
  [.effects, .read 1 true, .answered 1, .edit .testnet (.toggleFavorite "perp:ETH"), .written true]

theorem market_preferences_kept_addedAfterLoad :
    Kept oneFavorite addedAfterLoad
      (run Provider.step (mounted .testnet oneFavorite) addedAfterLoad) :=
  market_preferences_kept .testnet oneFavorite addedAfterLoad (by decide) rfl

/-- A favourite added while the first load is in flight replaces the stored ones. -/
theorem early_favorite_replaces :
    ¬ ∀ (network : HyperliquidNetwork) (start : HyperliquidNetwork → StoredDocument)
        (events : List ProviderEvent), ProviderEvent.written false ∉ events →
        (run Provider.step (mounted network start) events).writeQueue = [] →
        Kept start events (run Provider.step (mounted network start) events) := by
  intro hall
  have hkept := hall .testnet oneFavorite
    [.effects, .edit .testnet (.toggleFavorite "perp:ETH"), .written true] (by decide) rfl
  have hlost : readStored (.document (serializeMarketPreferences ⟨["perp:ETH"], [], none⟩)) ≠
      some ⟨["perp:BTC", "perp:ETH"], [], none⟩ := by
    decide
  apply hlost
  refine (hkept.stored .testnet).trans ?_
  decide

end Preferences

end HyperTrader
