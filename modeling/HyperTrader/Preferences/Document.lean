import HyperTrader.Basic
import HyperTrader.Library.Record
import HyperTrader.Library.Text
import Mathlib.Data.List.DropRight

/-!
# The market preferences document

The favourites, the recent markets and the last market of one network, as they
are written to the device's storage and read from it. What an edit leaves is
read back as it was written (`parseMarketPreferences_toJson`).
-/

namespace HyperTrader

open Library Library.Json

namespace Preferences

def maxRecentMarkets : ℕ := 20

def maxFavorites : ℕ := 9007199254740991

structure MarketPreferences where
  favoriteIds : List String
  recentIds : List String
  lastMarketId : Option String
  deriving DecidableEq

def emptyMarketPreferences : MarketPreferences := ⟨[], [], none⟩

/-- The loop of `uniqueIds`: the candidates' trimmed texts, each once, up to
`limit` of them. -/
def uniqueIdsFrom (limit : ℕ) : List String → List Json → Option (List String)
  | ids, [] => some ids
  | ids, .string candidate :: rest =>
    if trim candidate = "" then none
    else
      let added := if trim candidate ∈ ids then ids else ids ++ [trim candidate]
      if added.length = limit then some added else uniqueIdsFrom limit added rest
  | _, _ :: _ => none

def uniqueIds (value : Option Json) (limit : ℕ) : Option (List String) :=
  match value with
  | some (.array candidates) => uniqueIdsFrom limit [] candidates
  | _ => none

def readLastMarketId (value : Option Json) : Option (Option String) :=
  match value with
  | some .null => some none
  | some (.string id) => if trim id = "" then none else some (some (trim id))
  | _ => none

def parseMarketPreferences (value : Json) : Option MarketPreferences :=
  match value with
  | .object _ =>
    if value.field "version" = some (.number 1) then do
      let favoriteIds ← uniqueIds (value.field "favoriteIds") maxFavorites
      let recentIds ← uniqueIds (value.field "recentIds") maxRecentMarkets
      let lastMarketId ← readLastMarketId (value.field "lastMarketId")
      pure ⟨favoriteIds, recentIds, lastMarketId⟩
    else none
  | _ => none

def MarketPreferences.fields (preferences : MarketPreferences) : List (String × Option Json) :=
  [("version", some (.number 1)),
    ("favoriteIds", some (.array (preferences.favoriteIds.map .string))),
    ("recentIds", some (.array (preferences.recentIds.map .string))),
    ("lastMarketId", some (preferences.lastMarketId.elim .null .string))]

def serializeMarketPreferences (preferences : MarketPreferences) : Json :=
  ofFields preferences.fields

def toggleFavorite (preferences : MarketPreferences) (canonicalId : String) : MarketPreferences :=
  { preferences with
    favoriteIds :=
      if canonicalId ∈ preferences.favoriteIds then
        preferences.favoriteIds.filter (· ≠ canonicalId)
      else preferences.favoriteIds ++ [canonicalId] }

def recordRecentMarket (preferences : MarketPreferences) (canonicalId : String) :
    MarketPreferences :=
  if preferences.lastMarketId = some canonicalId ∧
      preferences.recentIds.head? = some canonicalId then preferences
  else
    { preferences with
      lastMarketId := some canonicalId
      recentIds := (canonicalId :: preferences.recentIds.filter (· ≠ canonicalId)).take
        maxRecentMarkets }

inductive PreferenceEdit where
  | toggleFavorite (canonicalId : String)
  | selectMarket (canonicalId : String)
  deriving DecidableEq

def PreferenceEdit.canonicalId : PreferenceEdit → String
  | .toggleFavorite canonicalId | .selectMarket canonicalId => canonicalId

def PreferenceEdit.update : PreferenceEdit → MarketPreferences → MarketPreferences
  | .toggleFavorite canonicalId, preferences => Preferences.toggleFavorite preferences canonicalId
  | .selectMarket canonicalId, preferences => recordRecentMarket preferences canonicalId

def applyEdits (edits : List PreferenceEdit) (preferences : MarketPreferences) :
    MarketPreferences :=
  edits.foldl (fun preferences edit => edit.update preferences) preferences

/-- An identity without white space at its ends that is not empty. -/
def CleanId (id : String) : Prop := trim id = id ∧ id ≠ ""

instance (id : String) : Decidable (CleanId id) := inferInstanceAs (Decidable (_ ∧ _))

theorem dropWhile_rdropWhile (p : Char → Bool) {chars : List Char} (h : chars.dropWhile p = chars) :
    (chars.rdropWhile p).dropWhile p = chars.rdropWhile p := by
  obtain ⟨rest, hrest⟩ := List.rdropWhile_prefix p chars
  cases hchars : chars.rdropWhile p with
  | nil => rfl
  | cons c tail =>
    rw [hchars] at hrest
    apply List.dropWhile_cons_of_neg
    intro hc
    rw [← hrest, List.cons_append, List.dropWhile_cons_of_pos hc] at h
    have hlength := congrArg List.length h
    have hshort := (List.dropWhile_suffix p (l := tail ++ rest)).length_le
    rw [List.length_cons] at hlength
    omega

theorem trim_trim (text : String) : trim (trim text) = trim text := by
  have hfront := List.dropWhile_idempotent isTrimmed text.toList
  have hback := dropWhile_rdropWhile isTrimmed hfront
  unfold trim
  rw [String.toList_ofList]
  congr 1
  change (((text.toList.dropWhile isTrimmed).rdropWhile isTrimmed).dropWhile
    isTrimmed).rdropWhile isTrimmed = (text.toList.dropWhile isTrimmed).rdropWhile isTrimmed
  rw [hback, List.rdropWhile_idempotent]

theorem cleanId_trim {text : String} (h : trim text ≠ "") : CleanId (trim text) :=
  ⟨trim_trim text, h⟩

/-- A list of identities that is read back as it is written. -/
structure CleanIds (limit : ℕ) (ids : List String) : Prop where
  clean : ∀ id ∈ ids, CleanId id
  nodup : ids.Nodup
  bounded : ids.length ≤ limit

theorem cleanIds_nil (limit : ℕ) : CleanIds limit [] :=
  ⟨fun _ h => absurd h List.not_mem_nil, List.nodup_nil, Nat.zero_le _⟩

variable {limit : ℕ} {ids : List String} {preferences : MarketPreferences}

theorem CleanIds.append {id : String}
    (h : CleanIds limit ids) (hid : CleanId id) (hnew : id ∉ ids) (hroom : ids.length < limit) :
    CleanIds limit (ids ++ [id]) where
  clean other hother := (List.mem_append.mp hother).elim (h.clean other) fun hlast => by
    rw [List.mem_singleton.mp hlast]
    exact hid
  nodup := List.nodup_append.mpr ⟨h.nodup, List.nodup_singleton id, fun a ha b hb => by
    rw [List.mem_singleton.mp hb]
    rintro rfl
    exact hnew ha⟩
  bounded := by
    rw [List.length_append, List.length_singleton]
    exact hroom

theorem CleanIds.filter (h : CleanIds limit ids)
    (p : String → Bool) : CleanIds limit (ids.filter p) where
  clean id hid := h.clean id (List.mem_of_mem_filter hid)
  nodup := h.nodup.filter p
  bounded := (List.length_filter_le p ids).trans h.bounded

theorem cleanIds_uniqueIdsFrom {values : List Json} {result : List String}
    (h : uniqueIdsFrom limit ids values = some result) (hids : CleanIds limit ids)
    (hroom : ids.length < limit) : CleanIds limit result := by
  induction values generalizing ids with
  | nil =>
    cases h
    exact hids
  | cons value values ih =>
    cases value with
    | string candidate =>
      simp only [uniqueIdsFrom, Option.ite_none_left_eq_some] at h
      obtain ⟨hblank, h⟩ := h
      have hadded : CleanIds limit
          (if trim candidate ∈ ids then ids else ids ++ [trim candidate]) := by
        split
        · exact hids
        · rename_i hnew
          exact hids.append (cleanId_trim hblank) hnew hroom
      generalize (if trim candidate ∈ ids then ids else ids ++ [trim candidate]) = added
        at h hadded
      by_cases hfull : added.length = limit
      · rw [if_pos hfull] at h
        cases h
        exact hadded
      · rw [if_neg hfull] at h
        exact ih h hadded (lt_of_le_of_ne hadded.bounded hfull)
    | null | bool _ | number _ | array _ | object _ => cases h

theorem uniqueIdsFrom_map {limit : ℕ} {before ids : List String}
    (h : CleanIds limit (before ++ ids)) :
    uniqueIdsFrom limit before (ids.map .string) = some (before ++ ids) := by
  induction ids generalizing before with
  | nil => rw [List.append_nil]; rfl
  | cons id ids ih =>
    obtain ⟨htrim, hne⟩ := h.clean id (List.mem_append_right _ List.mem_cons_self)
    have hnew : id ∉ before := by
      intro hmem
      exact (List.nodup_append.mp h.nodup).2.2 id hmem id List.mem_cons_self rfl
    have hsplit : before ++ id :: ids = (before ++ [id]) ++ ids := by simp
    simp only [List.map_cons, uniqueIdsFrom, htrim, if_neg hne, if_neg hnew]
    rw [hsplit] at h ⊢
    split
    · rename_i hfull
      have hbounded := h.bounded
      rw [List.length_append, hfull] at hbounded
      rw [List.length_eq_zero_iff.mp (by omega : ids.length = 0), List.append_nil]
    · exact ih h

theorem uniqueIds_map (h : CleanIds limit ids) :
    uniqueIds (some (.array (ids.map .string))) limit = some ids :=
  @uniqueIdsFrom_map limit [] ids h

/-- Preferences that are read back as they are written. -/
structure MarketPreferences.Clean (preferences : MarketPreferences) : Prop where
  favoriteIds : CleanIds maxFavorites preferences.favoriteIds
  recentIds : CleanIds maxRecentMarkets preferences.recentIds
  lastMarketId : ∀ id ∈ preferences.lastMarketId, CleanId id

theorem emptyMarketPreferences_clean : emptyMarketPreferences.Clean :=
  ⟨cleanIds_nil _, cleanIds_nil _, fun _ h => by cases h⟩

theorem cleanIds_uniqueIds {value : Option Json}
    (h : uniqueIds value limit = some ids) (hlimit : 0 < limit) : CleanIds limit ids := by
  unfold uniqueIds at h
  split at h
  · exact cleanIds_uniqueIdsFrom h (cleanIds_nil limit) hlimit
  · cases h

theorem clean_of_parse {value : Json}
    (h : parseMarketPreferences value = some preferences) : preferences.Clean := by
  unfold parseMarketPreferences at h
  split at h
  · simp only [Option.ite_none_right_eq_some, Option.bind_eq_bind, Option.bind_eq_some_iff,
      Option.pure_def, Option.some.injEq] at h
    obtain ⟨-, favoriteIds, hfavorites, recentIds, hrecents, lastMarketId, hlast, rfl⟩ := h
    refine ⟨cleanIds_uniqueIds hfavorites (by decide), cleanIds_uniqueIds hrecents (by decide), ?_⟩
    intro id hid
    unfold readLastMarketId at hlast
    split at hlast
    · cases hlast
      cases hid
    · simp only [Option.ite_none_left_eq_some, Option.some.injEq] at hlast
      obtain ⟨hblank, rfl⟩ := hlast
      cases hid
      exact cleanId_trim hblank
    · cases hlast
  · cases h

theorem MarketPreferences.nodup_fields (preferences : MarketPreferences) :
    (preferences.fields.map Prod.fst).Nodup := by
  change ["version", "favoriteIds", "recentIds", "lastMarketId"].Nodup
  decide

theorem parseMarketPreferences_toJson (h : preferences.Clean) :
    parseMarketPreferences (serializeMarketPreferences preferences) = some preferences := by
  have hfield : ∀ key, (serializeMarketPreferences preferences).field key =
      written preferences.fields key := field_ofFields preferences.nodup_fields
  have hlast : readLastMarketId (some (preferences.lastMarketId.elim .null .string)) =
      some preferences.lastMarketId := by
    cases hid : preferences.lastMarketId with
    | none => rfl
    | some id =>
      obtain ⟨htrim, hne⟩ := h.lastMarketId id hid
      simp [readLastMarketId, htrim, hne]
  have hobject : ∃ fields, serializeMarketPreferences preferences = .object fields := ⟨_, rfl⟩
  obtain ⟨fields, hfields⟩ := hobject
  have hversion : (serializeMarketPreferences preferences).field "version" =
      some (.number 1) := hfield "version"
  have hfavorites : (serializeMarketPreferences preferences).field "favoriteIds" =
      some (.array (preferences.favoriteIds.map .string)) := hfield "favoriteIds"
  have hrecents : (serializeMarketPreferences preferences).field "recentIds" =
      some (.array (preferences.recentIds.map .string)) := hfield "recentIds"
  have hmarket : (serializeMarketPreferences preferences).field "lastMarketId" =
      some (preferences.lastMarketId.elim .null .string) := hfield "lastMarketId"
  rw [hfields] at hversion hfavorites hrecents hmarket ⊢
  simp only [parseMarketPreferences, hversion, hfavorites, hrecents, hmarket,
    uniqueIds_map h.favoriteIds, uniqueIds_map h.recentIds, hlast, if_true]
  rfl

theorem PreferenceEdit.update_clean {edit : PreferenceEdit}
    (h : preferences.Clean) (hid : CleanId edit.canonicalId)
    (hroom : preferences.favoriteIds.length < maxFavorites) : (edit.update preferences).Clean := by
  cases edit with
  | toggleFavorite id =>
    refine ⟨?_, h.recentIds, h.lastMarketId⟩
    change CleanIds _ (if id ∈ preferences.favoriteIds then _ else _)
    split
    · exact h.favoriteIds.filter _
    · rename_i hnew
      exact h.favoriteIds.append hid hnew hroom
  | selectMarket id =>
    change (recordRecentMarket preferences id).Clean
    unfold recordRecentMarket
    split
    · exact h
    · refine ⟨h.favoriteIds, ⟨?_, ?_, List.length_take_le _ _⟩, ?_⟩
      · intro other hother
        rcases List.mem_cons.mp (List.mem_of_mem_take hother) with rfl | hmem
        · exact hid
        · exact h.recentIds.clean other (List.mem_of_mem_filter hmem)
      · refine (List.nodup_cons.mpr ⟨?_, h.recentIds.nodup.filter _⟩).sublist
          (List.take_sublist _ _)
        simp
      · intro other hother
        cases hother
        exact hid

/-- What is read is clean, and what is clean is read back from what it is written as. -/
theorem preferences_read_iff (preferences : MarketPreferences) :
    ((∃ value, parseMarketPreferences value = some preferences) ↔ preferences.Clean) ∧
      (preferences.Clean ↔
        parseMarketPreferences (serializeMarketPreferences preferences) = some preferences) := by
  constructor
  · constructor
    · rintro ⟨value, hread⟩
      exact clean_of_parse hread
    · exact fun h => ⟨_, parseMarketPreferences_toJson h⟩
  · exact ⟨parseMarketPreferences_toJson, clean_of_parse⟩

end Preferences

end HyperTrader
