import Mathlib.Data.Int.Notation
import Mathlib.Data.List.Basic
import Mathlib.Tactic.SplitIfs
import Std.Data.String.ToInt

/-!
# JSON values and their text

`Json` is a JSON value whose numbers are integers and whose objects keep their
keys in order; `Json.stringify` is its text, written the way `JSON.stringify`
writes it. The text determines the value (`Json.stringify_injective`): a value
is read off the front of any text that goes on with a separator or a closing
bracket, so two values that are written the same way are the same.
-/

namespace Library

inductive Json where
  | null
  | bool (value : Bool)
  | number (value : ℤ)
  | string (value : String)
  | array (items : List Json)
  | object (fields : List (String × Json))

namespace Json

def hexDigit (n : ℕ) : Char :=
  if n < 10 then Char.ofNat (48 + n) else Char.ofNat (87 + n)

def hexValue (c : Char) : ℕ :=
  if c.toNat < 58 then c.toNat - 48 else c.toNat - 87

def escapeChar (c : Char) : List Char :=
  if c = '"' then ['\\', '"']
  else if c = '\\' then ['\\', '\\']
  else if c = '\x08' then ['\\', 'b']
  else if c = '\t' then ['\\', 't']
  else if c = '\n' then ['\\', 'n']
  else if c = '\x0c' then ['\\', 'f']
  else if c = '\r' then ['\\', 'r']
  else if c.toNat < 32 then
    ['\\', 'u', '0', '0', hexDigit (c.toNat / 16), hexDigit (c.toNat % 16)]
  else [c]

def quote (s : String) : List Char :=
  '"' :: s.toList.flatMap escapeChar ++ ['"']

mutual

def chars : Json → List Char
  | .null => ['n', 'u', 'l', 'l']
  | .bool true => ['t', 'r', 'u', 'e']
  | .bool false => ['f', 'a', 'l', 's', 'e']
  | .number n => (toString n).toList
  | .string s => quote s
  | .array [] => ['[', ']']
  | .array (item :: items) => '[' :: item.chars ++ itemChars items
  | .object [] => ['\x7b', '\x7d']
  | .object (field :: fields) =>
    '\x7b' :: fieldChars field ++ moreFieldChars fields
termination_by structural value => value

def itemChars : List Json → List Char
  | [] => [']']
  | item :: items => ',' :: item.chars ++ itemChars items
termination_by structural items => items

def fieldChars : String × Json → List Char
  | (key, value) => quote key ++ ':' :: value.chars
termination_by structural field => field

def moreFieldChars : List (String × Json) → List Char
  | [] => ['\x7d']
  | field :: fields => ',' :: fieldChars field ++ moreFieldChars fields
termination_by structural fields => fields

end

def stringify (value : Json) : String := String.ofList value.chars

/-! ### Fields -/

def field (key : String) : Json → Option Json
  | .object fields => (fields.find? fun entry => entry.1 == key).map Prod.snd
  | .null => none
  | .bool _ => none
  | .number _ => none
  | .string _ => none
  | .array _ => none

def text (key : String) (value : Json) : Option String :=
  match value.field key with
  | some (.string s) => some s
  | _ => none

def integer (key : String) (value : Json) : Option ℤ :=
  match value.field key with
  | some (.number n) => some n
  | _ => none

def flag (key : String) (value : Json) : Option Bool :=
  match value.field key with
  | some (.bool b) => some b
  | _ => none

variable {key : String} {value : Json} {n : ℤ} {fields : List (String × Json)} {c : Char}
  {s t : List Char}

theorem text_eq_some {s : String} :
    value.text key = some s ↔ value.field key = some (.string s) := by
  unfold text
  split <;> simp_all

theorem integer_eq_some : value.integer key = some n ↔ value.field key = some (.number n) := by
  unfold integer
  split <;> simp_all

theorem flag_eq_some {b : Bool} : value.flag key = some b ↔ value.field key = some (.bool b) := by
  unfold flag
  split
  · simp_all
  · cases b <;> simp_all

def keys : Json → List String
  | .object fields => fields.map Prod.fst
  | .null => []
  | .bool _ => []
  | .number _ => []
  | .string _ => []
  | .array _ => []

theorem field_cons_of_ne {other : String} (h : key ≠ other) :
    (object ((key, value) :: fields)).field other = (object fields).field other := by
  simp [field, h]

theorem eq_object_of_keys (hnodup : (fields.map Prod.fst).Nodup) :
    fields = (fields.map Prod.fst).map fun key =>
      (key, ((object fields).field key).getD .null) := by
  induction fields with
  | nil => rfl
  | cons entry fields ih =>
    obtain ⟨key, value⟩ := entry
    simp only [List.map_cons, List.nodup_cons] at hnodup
    have hrest : (fields.map Prod.fst).map (fun other =>
          (other, ((object ((key, value) :: fields)).field other).getD .null)) =
        (fields.map Prod.fst).map fun other =>
          (other, ((object fields).field other).getD .null) := by
      apply List.map_congr_left
      intro other hother
      have hne : key ≠ other := by
        rintro rfl
        exact hnodup.1 hother
      rw [field_cons_of_ne hne]
    rw [List.map_cons, List.map_cons, hrest, ← ih hnodup.2]
    simp [field]

/-! ### Strings -/

def readChar : List Char → Option (Char × List Char)
  | '\\' :: 'b' :: s => some ('\x08', s)
  | '\\' :: 't' :: s => some ('\t', s)
  | '\\' :: 'n' :: s => some ('\n', s)
  | '\\' :: 'f' :: s => some ('\x0c', s)
  | '\\' :: 'r' :: s => some ('\r', s)
  | '\\' :: 'u' :: _ :: _ :: high :: low :: s =>
    some (Char.ofNat (16 * hexValue high + hexValue low), s)
  | '\\' :: c :: s => some (c, s)
  | c :: s => some (c, s)
  | [] => none

theorem hexValue_hexDigit : ∀ n < 16, hexValue (hexDigit n) = n := by
  decide

theorem readChar_escapeChar (c : Char) (s : List Char) :
    readChar (escapeChar c ++ s) = some (c, s) := by
  unfold escapeChar
  split_ifs with h1 h2 h3 h4 h5 h6 h7 h8
  · subst h1; rfl
  · subst h2; rfl
  · subst h3; rfl
  · subst h4; rfl
  · subst h5; rfl
  · subst h6; rfl
  · subst h7; rfl
  · have hhigh : hexValue (hexDigit (c.toNat / 16)) = c.toNat / 16 :=
      hexValue_hexDigit _ (by omega)
    have hlow : hexValue (hexDigit (c.toNat % 16)) = c.toNat % 16 :=
      hexValue_hexDigit _ (by omega)
    have hc : 16 * (c.toNat / 16) + c.toNat % 16 = c.toNat := by omega
    simp only [List.cons_append, List.nil_append, readChar, hhigh, hlow, hc, Char.ofNat_toNat]
  · rw [List.singleton_append]
    unfold readChar
    split <;> simp_all

theorem escapeChar_append_inj {d : Char}
    (h : escapeChar c ++ s = escapeChar d ++ t) : c = d ∧ s = t := by
  have hread := readChar_escapeChar c s
  rw [h, readChar_escapeChar d t] at hread
  simpa [eq_comm] using hread

theorem escapeChar_ne_quote (c : Char) (s t : List Char) : escapeChar c ++ s ≠ '"' :: t := by
  intro h
  unfold escapeChar at h
  split_ifs at h <;> simp_all

theorem flatMap_escapeChar_append_inj :
    ∀ {cs ds : List Char},
      cs.flatMap escapeChar ++ '"' :: s = ds.flatMap escapeChar ++ '"' :: t →
        cs = ds ∧ s = t
  | [], [], h => by simpa using h
  | [], d :: ds, h => by
    simp only [List.flatMap_nil, List.nil_append, List.flatMap_cons, List.append_assoc] at h
    exact absurd h.symm (escapeChar_ne_quote _ _ _)
  | c :: cs, [], h => by
    simp only [List.flatMap_nil, List.nil_append, List.flatMap_cons, List.append_assoc] at h
    exact absurd h (escapeChar_ne_quote _ _ _)
  | c :: cs, d :: ds, h => by
    simp only [List.flatMap_cons, List.append_assoc] at h
    obtain ⟨rfl, hrest⟩ := escapeChar_append_inj h
    obtain ⟨rfl, rfl⟩ := flatMap_escapeChar_append_inj hrest
    exact ⟨rfl, rfl⟩

theorem quote_append_inj {a b : String} (h : quote a ++ s = quote b ++ t) : a = b ∧ s = t := by
  simp only [quote, List.cons_append, List.append_assoc, List.nil_append,
    List.cons.injEq, true_and] at h
  obtain ⟨hchars, hrest⟩ := flatMap_escapeChar_append_inj h
  exact ⟨String.toList_injective hchars, hrest⟩

/-! ### Numbers -/

def isNumberChar (c : Char) : Bool := c.isDigit || c = '-'

theorem isNumberChar_of_mem {n : ℤ} {c : Char} (h : c ∈ (toString n).toList) :
    isNumberChar c = true := by
  have hdigits : ∀ m : ℕ, c ∈ m.repr.toList → isNumberChar c = true := by
    intro m hm
    rw [Nat.toList_repr] at hm
    simp [isNumberChar,
      Nat.isDigit_of_mem_toDigits (by decide) (by decide) hm]
  rw [Int.toString_eq_repr, Int.repr_eq_if] at h
  split at h
  · exact hdigits _ h
  · rw [String.toList_append, List.mem_append] at h
    rcases h with h | h
    · have hc : c = '-' := by simpa using h
      simp [isNumberChar, hc]
    · exact hdigits _ h

/-- What may follow a value: a separator, a closing bracket, or nothing. -/
def Stops (s : List Char) : Prop :=
  ∀ c ∈ s.head?, c = ',' ∨ c = ']' ∨ c = '\x7d'

theorem Stops.not_number (h : Stops (c :: s)) : isNumberChar c = false := by
  rcases h c (by simp) with rfl | rfl | rfl <;> decide

theorem takeWhile_number_append (n : ℤ) (hs : Stops s) :
    ((toString n).toList ++ s).takeWhile isNumberChar = (toString n).toList := by
  rw [List.takeWhile_append_of_pos fun c hc => isNumberChar_of_mem hc]
  cases s with
  | nil => simp
  | cons c s => simp [hs.not_number]

theorem number_append_inj {m : ℤ} (hs : Stops s)
    (ht : Stops t) (h : (toString m).toList ++ s = (toString n).toList ++ t) : m = n ∧ s = t := by
  have htext : (toString m).toList = (toString n).toList := by
    rw [← takeWhile_number_append m hs, h, takeWhile_number_append n ht]
  refine ⟨?_, List.append_cancel_left (htext ▸ h)⟩
  exact Int.repr_injective (by simpa using String.toList_injective htext)

/-! ### Values -/

inductive Kind where
  | null
  | bool
  | number
  | string
  | array
  | object
  deriving DecidableEq

def kind : Json → Kind
  | .null => .null
  | .bool _ => .bool
  | .number _ => .number
  | .string _ => .string
  | .array _ => .array
  | .object _ => .object

def kindOfChar (c : Char) : Option Kind :=
  if c = 'n' then some .null
  else if c = 't' ∨ c = 'f' then some .bool
  else if c = '"' then some .string
  else if c = '[' then some .array
  else if c = '\x7b' then some .object
  else if isNumberChar c then some .number
  else none

theorem kindOfChar_number (h : isNumberChar c = true) : kindOfChar c = some .number := by
  unfold kindOfChar
  split_ifs with h1 h2 h3 h4 h5
  · subst h1; simp [isNumberChar] at h
  · rcases h2 with rfl | rfl <;> simp [isNumberChar] at h
  · subst h3; simp [isNumberChar] at h
  · subst h4; simp [isNumberChar] at h
  · subst h5; simp [isNumberChar] at h
  · rfl

theorem exists_chars_cons (value : Json) :
    ∃ c cs, value.chars = c :: cs ∧ kindOfChar c = some value.kind := by
  cases value with
  | null => exact ⟨_, _, rfl, rfl⟩
  | bool b => cases b <;> exact ⟨_, _, rfl, rfl⟩
  | number n =>
    cases h : (toString n).toList with
    | nil =>
      exfalso
      rw [Int.toString_eq_repr, Int.repr_eq_if] at h
      split at h
      · rw [Nat.toList_repr] at h
        exact Nat.toDigits_ne_nil h
      · simp at h
    | cons c cs =>
      refine ⟨c, cs, by rw [chars, h], ?_⟩
      have hc : c ∈ (toString n).toList := by rw [h]; exact List.mem_cons_self
      exact kindOfChar_number (isNumberChar_of_mem hc)
  | string t => exact ⟨_, _, rfl, rfl⟩
  | array items => cases items <;> exact ⟨_, _, rfl, rfl⟩
  | object fields => cases fields <;> exact ⟨_, _, rfl, rfl⟩

theorem kind_eq_of_append {a b : Json} (h : a.chars ++ s = b.chars ++ t) : a.kind = b.kind := by
  obtain ⟨c, cs, ha, hca⟩ := exists_chars_cons a
  obtain ⟨d, ds, hb, hdb⟩ := exists_chars_cons b
  rw [ha, hb, List.cons_append, List.cons_append, List.cons.injEq] at h
  rw [h.1, hdb] at hca
  exact (Option.some.inj hca).symm

theorem chars_append_ne (hc : kindOfChar c = none) : value.chars ++ s ≠ c :: t := by
  obtain ⟨d, ds, hvalue, hd⟩ := exists_chars_cons value
  rw [hvalue]
  rintro h
  cases h
  simp [hc] at hd

theorem fieldChars_append_ne {field : String × Json} : fieldChars field ++ s ≠ '\x7d' :: t := by
  obtain ⟨key, value⟩ := field
  simp [fieldChars, quote]

theorem stops_comma (s : List Char) : Stops (',' :: s) := by simp [Stops]

theorem stops_bracket (s : List Char) : Stops (']' :: s) := by simp [Stops]

theorem stops_brace (s : List Char) : Stops ('\x7d' :: s) := by simp [Stops]

theorem stops_itemChars (items : List Json) (s : List Char) : Stops (itemChars items ++ s) := by
  cases items with
  | nil => exact stops_bracket _
  | cons item items => exact stops_comma _

theorem stops_moreFieldChars (fields : List (String × Json)) (s : List Char) :
    Stops (moreFieldChars fields ++ s) := by
  cases fields with
  | nil => exact stops_brace _
  | cons field fields => exact stops_comma _

mutual

theorem chars_append_inj : ∀ (a b : Json) {s t : List Char}, Stops s → Stops t →
    a.chars ++ s = b.chars ++ t → a = b ∧ s = t
  | .null, b, s, t, hs, ht, h => by
    have hkind := kind_eq_of_append h
    cases b <;> simp_all [kind, chars]
  | .bool x, b, s, t, hs, ht, h => by
    have hkind := kind_eq_of_append h
    cases b with
    | bool y => cases x <;> cases y <;> simp_all [chars]
    | _ => simp [kind] at hkind
  | .number m, b, s, t, hs, ht, h => by
    have hkind := kind_eq_of_append h
    cases b with
    | number n =>
      obtain ⟨rfl, rfl⟩ := number_append_inj hs ht h
      exact ⟨rfl, rfl⟩
    | _ => simp [kind] at hkind
  | .string x, b, s, t, hs, ht, h => by
    have hkind := kind_eq_of_append h
    cases b with
    | string y =>
      obtain ⟨rfl, rfl⟩ := quote_append_inj h
      exact ⟨rfl, rfl⟩
    | _ => simp [kind] at hkind
  | .array items, b, s, t, hs, ht, h => by
    have hkind := kind_eq_of_append h
    cases b with
    | array others =>
      obtain ⟨rfl, rfl⟩ := arrayChars_append_inj items others h
      exact ⟨rfl, rfl⟩
    | _ => simp [kind] at hkind
  | .object fields, b, s, t, hs, ht, h => by
    have hkind := kind_eq_of_append h
    cases b with
    | object others =>
      obtain ⟨rfl, rfl⟩ := objectChars_append_inj fields others h
      exact ⟨rfl, rfl⟩
    | _ => simp [kind] at hkind

theorem arrayChars_append_inj : ∀ (items others : List Json) {s t : List Char},
    (array items).chars ++ s = (array others).chars ++ t →
      items = others ∧ s = t
  | [], [], s, t, h => by simpa [chars] using h
  | [], b :: others, s, t, h => by
    simp only [chars, List.cons_append, List.nil_append, List.append_assoc,
      List.cons.injEq, true_and] at h
    exact absurd h.symm (chars_append_ne (by decide))
  | a :: items, [], s, t, h => by
    simp only [chars, List.cons_append, List.nil_append, List.append_assoc,
      List.cons.injEq, true_and] at h
    exact absurd h (chars_append_ne (by decide))
  | a :: items, b :: others, s, t, h => by
    simp only [chars, List.cons_append, List.append_assoc, List.cons.injEq, true_and] at h
    obtain ⟨rfl, hrest⟩ := chars_append_inj a b (stops_itemChars _ _)
      (stops_itemChars _ _) h
    obtain ⟨rfl, rfl⟩ := itemChars_append_inj items others hrest
    exact ⟨rfl, rfl⟩

theorem itemChars_append_inj : ∀ (items others : List Json) {s t : List Char},
    itemChars items ++ s = itemChars others ++ t → items = others ∧ s = t
  | [], [], s, t, h => by simpa [itemChars] using h
  | [], b :: others, s, t, h => by simp [itemChars] at h
  | a :: items, [], s, t, h => by simp [itemChars] at h
  | a :: items, b :: others, s, t, h => by
    simp only [itemChars, List.cons_append, List.append_assoc, List.cons.injEq, true_and] at h
    obtain ⟨rfl, hrest⟩ := chars_append_inj a b (stops_itemChars _ _)
      (stops_itemChars _ _) h
    obtain ⟨rfl, rfl⟩ := itemChars_append_inj items others hrest
    exact ⟨rfl, rfl⟩

theorem objectChars_append_inj :
    ∀ (fields others : List (String × Json)) {s t : List Char},
      (object fields).chars ++ s = (object others).chars ++ t →
        fields = others ∧ s = t
  | [], [], s, t, h => by simpa [chars] using h
  | [], g :: others, s, t, h => by
    simp only [chars, List.cons_append, List.nil_append, List.append_assoc,
      List.cons.injEq, true_and] at h
    exact absurd h.symm fieldChars_append_ne
  | f :: fields, [], s, t, h => by
    simp only [chars, List.cons_append, List.nil_append, List.append_assoc,
      List.cons.injEq, true_and] at h
    exact absurd h fieldChars_append_ne
  | f :: fields, g :: others, s, t, h => by
    simp only [chars, List.cons_append, List.append_assoc, List.cons.injEq, true_and] at h
    obtain ⟨rfl, hrest⟩ := fieldChars_append_inj f g
      (stops_moreFieldChars _ _) (stops_moreFieldChars _ _) h
    obtain ⟨rfl, rfl⟩ := moreFieldChars_append_inj fields others hrest
    exact ⟨rfl, rfl⟩

theorem moreFieldChars_append_inj :
    ∀ (fields others : List (String × Json)) {s t : List Char},
      moreFieldChars fields ++ s = moreFieldChars others ++ t →
        fields = others ∧ s = t
  | [], [], s, t, h => by simpa [moreFieldChars] using h
  | [], g :: others, s, t, h => by simp [moreFieldChars] at h
  | f :: fields, [], s, t, h => by simp [moreFieldChars] at h
  | f :: fields, g :: others, s, t, h => by
    simp only [moreFieldChars, List.cons_append, List.append_assoc, List.cons.injEq, true_and] at h
    obtain ⟨rfl, hrest⟩ := fieldChars_append_inj f g
      (stops_moreFieldChars _ _) (stops_moreFieldChars _ _) h
    obtain ⟨rfl, rfl⟩ := moreFieldChars_append_inj fields others hrest
    exact ⟨rfl, rfl⟩

theorem fieldChars_append_inj :
    ∀ (field other : String × Json) {s t : List Char}, Stops s → Stops t →
      fieldChars field ++ s = fieldChars other ++ t → field = other ∧ s = t
  | (key, value), (key', value'), s, t, hs, ht, h => by
    simp only [fieldChars, List.append_assoc, List.cons_append] at h
    obtain ⟨rfl, hrest⟩ := quote_append_inj h
    obtain ⟨rfl, rfl⟩ := chars_append_inj value value' hs ht
      (List.cons.inj hrest).2
    exact ⟨rfl, rfl⟩

end

/-- Two values are written alike only where they are the same. -/
theorem stringify_injective : Function.Injective stringify := by
  intro a b h
  have hchars : a.chars = b.chars := by
    simpa [stringify] using congrArg String.toList h
  have hnil : Stops [] := by simp [Stops]
  exact (chars_append_inj a b hnil hnil (by simpa using hchars)).1

instance : DecidableEq Json := fun a b =>
  decidable_of_iff (a.stringify = b.stringify) stringify_injective.eq_iff

end Json

end Library
