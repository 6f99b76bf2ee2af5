import HyperTrader.Library.Ascii
import HyperTrader.Library.Record

/-!
# How large a JSON text is

The text of a value has at least the bytes of its parts: those of the values of an
object, of the items of an array, of the characters of a string.
-/

namespace Library

namespace Json

def byteCount (chars : List Char) : ℕ := (chars.flatMap String.utf8EncodeChar).length

theorem byteCount_append (l m : List Char) : byteCount (l ++ m) = byteCount l + byteCount m := by
  simp [byteCount]

theorem byteCount_cons (c : Char) (l : List Char) :
    byteCount (c :: l) = byteCount [c] + byteCount l :=
  byteCount_append [c] l

theorem utf8ByteSize_stringify (value : Json) :
    value.stringify.utf8ByteSize = byteCount value.chars := by
  have hbytes : (textBytes value.stringify).length = value.stringify.utf8ByteSize := rfl
  rw [← hbytes, textBytes_eq, stringify, String.toList_ofList]
  rfl

theorem sum_le_byteCount_itemChars (items : List Json) :
    (items.map fun item => byteCount item.chars).sum ≤ byteCount (itemChars items) := by
  induction items with
  | nil => exact Nat.zero_le _
  | cons item items ih =>
    rw [List.map_cons, List.sum_cons, itemChars, List.cons_append, byteCount_cons, byteCount_append]
    omega

theorem sum_le_byteCount_array (items : List Json) :
    (items.map fun item => byteCount item.chars).sum ≤ byteCount (chars (.array items)) := by
  cases items with
  | nil => exact Nat.zero_le _
  | cons item items =>
    have hrest := sum_le_byteCount_itemChars items
    rw [List.map_cons, List.sum_cons, chars, List.cons_append, byteCount_cons, byteCount_append]
    omega

theorem byteCount_fieldChars (field : String × Json) :
    byteCount field.2.chars ≤ byteCount (fieldChars field) := by
  obtain ⟨key, value⟩ := field
  rw [fieldChars, byteCount_append, byteCount_cons]
  dsimp only
  omega

variable {fields : List (String × Json)} {field : String × Json}

theorem byteCount_moreFieldChars
    (h : field ∈ fields) : byteCount field.2.chars ≤ byteCount (moreFieldChars fields) := by
  induction fields with
  | nil => cases h
  | cons first fields ih =>
    rw [moreFieldChars, List.cons_append, byteCount_cons, byteCount_append]
    rcases List.mem_cons.mp h with rfl | h
    · have hfield := byteCount_fieldChars field
      omega
    · have hrest := ih h
      omega

theorem byteCount_object (h : field ∈ fields) :
    byteCount field.2.chars ≤ byteCount (chars (.object fields)) := by
  cases fields with
  | nil => cases h
  | cons first fields =>
    rw [chars, List.cons_append, byteCount_cons, byteCount_append]
    rcases List.mem_cons.mp h with rfl | h
    · have hfield := byteCount_fieldChars field
      omega
    · have hrest := byteCount_moreFieldChars h
      omega

theorem byteCount_ofFields {fields : List (String × Option Json)} {key : String}
    {value : Json} (h : (key, some value) ∈ fields) :
    byteCount value.chars ≤ byteCount (ofFields fields).chars := by
  have hmem : (key, value) ∈ fields.filterMap fun field =>
      field.2.map fun value => (field.1, value) :=
    List.mem_filterMap.mpr ⟨_, h, rfl⟩
  exact byteCount_object hmem

theorem byteCount_escapeChar (c : Char) : byteCount [c] ≤ byteCount (escapeChar c) := by
  unfold escapeChar
  split_ifs with h h h h h h h h
  · subst h
    decide
  · subst h
    decide
  · subst h
    decide
  · subst h
    decide
  · subst h
    decide
  · subst h
    decide
  · subst h
    decide
  · have hone : byteCount [c] = 1 := by
      unfold byteCount
      rw [List.flatMap_singleton, utf8EncodeChar_ascii (by omega)]
      rfl
    rw [hone, byteCount_cons]
    have hslash : byteCount ['\\'] = 1 := by decide
    omega
  · exact le_rfl

theorem byteCount_flatMap_escapeChar (l : List Char) :
    byteCount l ≤ byteCount (l.flatMap escapeChar) := by
  induction l with
  | nil => exact le_rfl
  | cons c l ih =>
    have hfirst := byteCount_escapeChar c
    rw [List.flatMap_cons, byteCount_append, byteCount_cons]
    omega

theorem byteCount_string (text : String) :
    byteCount text.toList ≤ byteCount (chars (.string text)) := by
  have hinner := byteCount_flatMap_escapeChar text.toList
  rw [chars, quote, List.cons_append, byteCount_cons, byteCount_append]
  omega

theorem byteCount_replicate (n : ℕ) (c : Char) :
    byteCount (List.replicate n c) = n * byteCount [c] := by
  induction n with
  | zero => simp [byteCount]
  | succ n ih => rw [List.replicate_succ, byteCount_cons, ih, Nat.succ_mul, Nat.add_comm]

end Json

end Library
