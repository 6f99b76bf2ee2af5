import HyperTrader.Library.Json
import Mathlib.Data.List.Nodup
import Mathlib.Data.List.Perm.Basic

/-!
# Objects written field by field

An object is written from its keys with their values; a key whose value is absent is
left out, as `JSON.stringify` leaves `undefined` out. Reading a key of the object gives
the value it was written with, and the keys of the object are those that were there.
-/

namespace Library

namespace Json

def ofNullable {α : Type} (toJson : α → Json) : Option α → Json
  | none => .null
  | some a => toJson a

def definite (fields : List (String × Json)) : List (String × Option Json) :=
  fields.map fun field => (field.1, some field.2)

def ofFields (fields : List (String × Option Json)) : Json :=
  .object (fields.filterMap fun field => field.2.map fun value => (field.1, value))

def written (fields : List (String × Option Json)) (key : String) : Option Json :=
  (fields.find? fun field => field.1 == key).bind Prod.snd

@[simp] theorem written_nil (key : String) : written [] key = none := rfl

theorem written_cons (name : String) (value : Option Json)
    (fields : List (String × Option Json)) (key : String) :
    written ((name, value) :: fields) key = if name = key then value else written fields key := by
  unfold written
  rw [List.find?_cons]
  by_cases h : name = key
  · simp [h]
  · rw [beq_false_of_ne h, if_neg h]

variable {fields others : List (String × Option Json)} {key : String}

theorem written_eq_none (h : key ∉ fields.map Prod.fst) : written fields key = none := by
  induction fields with
  | nil => rfl
  | cons field fields ih =>
    obtain ⟨name, value⟩ := field
    simp only [List.map_cons, List.mem_cons, not_or] at h
    rw [written_cons, if_neg (Ne.symm h.1), ih h.2]

theorem written_append (h : key ∈ fields.map Prod.fst) :
    written (fields ++ others) key = written fields key := by
  induction fields with
  | nil => cases h
  | cons field fields ih =>
    obtain ⟨name, value⟩ := field
    rw [List.cons_append, written_cons, written_cons]
    split
    · rfl
    · rename_i hne
      rcases List.mem_cons.mp h with hname | h
      · exact absurd hname.symm hne
      · exact ih h

theorem written_append_of_notMem (h : key ∉ fields.map Prod.fst) :
    written (fields ++ others) key = written others key := by
  induction fields with
  | nil => rfl
  | cons field fields ih =>
    obtain ⟨name, value⟩ := field
    simp only [List.map_cons, List.mem_cons, not_or] at h
    rw [List.cons_append, written_cons, if_neg (Ne.symm h.1), ih h.2]

theorem field_ofFields (hnodup : (fields.map Prod.fst).Nodup) (key : String) :
    (ofFields fields).field key = written fields key := by
  induction fields with
  | nil => rfl
  | cons entry fields ih =>
    obtain ⟨name, value⟩ := entry
    obtain ⟨hname, hrest⟩ := List.nodup_cons.mp hnodup
    rw [written_cons]
    cases value with
    | none =>
      have hskip : ofFields ((name, none) :: fields) = ofFields fields := rfl
      rw [hskip, ih hrest]
      split
      · rename_i hkey
        subst hkey
        exact written_eq_none hname
      · rfl
    | some value =>
      have hcons : ofFields ((name, some value) :: fields) =
          .object ((name, value) :: fields.filterMap fun entry =>
            entry.2.map fun value => (entry.1, value)) := rfl
      rw [hcons]
      split
      · rename_i hkey
        subst hkey
        simp [field]
      · rename_i hkey
        rw [field_cons_of_ne hkey]
        exact ih hrest

theorem keys_ofFields (hnodup : (fields.map Prod.fst).Nodup) :
    (ofFields fields).keys = (fields.map Prod.fst).filter fun key =>
      ((ofFields fields).field key).isSome := by
  have hread : ∀ key ∈ fields.map Prod.fst,
      ((ofFields fields).field key).isSome = (written fields key).isSome :=
    fun key _ => by rw [field_ofFields hnodup]
  rw [List.filter_congr hread]
  clear hread
  induction fields with
  | nil => rfl
  | cons entry fields ih =>
    obtain ⟨name, value⟩ := entry
    obtain ⟨hname, hrest⟩ := List.nodup_cons.mp hnodup
    have hlater : ∀ key ∈ fields.map Prod.fst,
        (written ((name, value) :: fields) key).isSome =
          (written fields key).isSome := by
      intro key hkey
      have hne : name ≠ key := by
        rintro rfl
        exact hname hkey
      rw [written_cons, if_neg hne]
    rw [List.map_cons, List.filter_cons, List.filter_congr hlater, ← ih hrest,
      written_cons, if_pos rfl]
    cases value with
    | none => rfl
    | some value => rfl

theorem mem_keys_ofFields (h : key ∈ (ofFields fields).keys) : key ∈ fields.map Prod.fst := by
  simp only [ofFields, keys, List.mem_map, List.mem_filterMap, Option.map_eq_some_iff] at h ⊢
  obtain ⟨_, ⟨field, hfield, value, -, rfl⟩, rfl⟩ := h
  exact ⟨field, hfield, rfl⟩

end Json

end Library
