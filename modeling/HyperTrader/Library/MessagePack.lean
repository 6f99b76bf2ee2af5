import HyperTrader.Library.Bytes
import HyperTrader.Library.Json
import HyperTrader.Library.Text

/-!
# MessagePack

The bytes of a JSON value in the MessagePack format. A value begins with a byte
that tells its kind and, directly or through the bytes that follow, its size, so
the bytes are a prefix code (`Json.messagePack_prefixCode`). What has no place in
the format as it is used here, a negative number or a size of more than its widest
field, is led by the byte 193, which the format leaves unused.
-/

namespace Library

/-- The layout of a size: the first byte of a short one and how many are short,
then the tag and the width of each longer field, the narrowest first. -/
structure SizeLayout where
  short : ℕ
  limit : ℕ
  fields : List (ℕ × ℕ)

def fieldBytes (escape : ℕ) : List (ℕ × ℕ) → ℕ → List ℕ
  | [], n => 193 :: escape :: (List.replicate n 0 ++ [1])
  | (tag, width) :: fields, n =>
    if n < 256 ^ width then tag :: bigEndian width n
    else fieldBytes escape fields n

namespace SizeLayout

def header (layout : SizeLayout) (n : ℕ) : List ℕ :=
  if n < layout.limit then [layout.short + n]
  else fieldBytes layout.short layout.fields n

def Leads (layout : SizeLayout) (byte : ℕ) : Prop :=
  (layout.short ≤ byte ∧ byte < layout.short + layout.limit) ∨
    byte ∈ layout.fields.map Prod.fst

end SizeLayout

def numberLayout : SizeLayout := ⟨0, 128, [(204, 1), (205, 2), (206, 4), (207, 8)]⟩

def stringLayout : SizeLayout := ⟨160, 32, [(217, 1), (218, 2), (219, 4)]⟩

def arrayLayout : SizeLayout := ⟨144, 16, [(220, 2), (221, 4)]⟩

def objectLayout : SizeLayout := ⟨128, 16, [(222, 2), (223, 4)]⟩

namespace Json

def numberBytes (n : ℤ) : List ℕ :=
  if 0 ≤ n then numberLayout.header n.toNat
  else 193 :: 224 :: numberLayout.header (-n).toNat

def stringBytes (s : String) : List ℕ :=
  stringLayout.header (textBytes s).length ++ (textBytes s).map UInt8.toNat

mutual

def messagePack : Json → List ℕ
  | .null => [192]
  | .bool false => [194]
  | .bool true => [195]
  | .number n => numberBytes n
  | .string s => stringBytes s
  | .array items => arrayLayout.header items.length ++ itemsPack items
  | .object fields => objectLayout.header fields.length ++ fieldsPack fields
termination_by structural value => value

def itemsPack : List Json → List ℕ
  | [] => []
  | item :: items => item.messagePack ++ itemsPack items
termination_by structural items => items

def fieldsPack : List (String × Json) → List ℕ
  | [] => []
  | field :: fields => fieldPack field ++ fieldsPack fields
termination_by structural fields => fields

def fieldPack : String × Json → List ℕ
  | (key, value) => stringBytes key ++ value.messagePack
termination_by structural field => field

end

end Json

/-! ### Sizes -/

variable {m n : ℕ} {s t : List ℕ}

theorem replicate_append_inj (h : List.replicate m 0 ++ 1 :: s = List.replicate n 0 ++ 1 :: t) :
    m = n ∧ s = t := by
  induction m generalizing n with
  | zero =>
    cases n with
    | zero => exact ⟨rfl, (List.cons.inj h).2⟩
    | succ n => simp [List.replicate_succ] at h
  | succ m ih =>
    cases n with
    | zero => simp [List.replicate_succ] at h
    | succ n =>
      simp only [List.replicate_succ, List.cons_append, List.cons.injEq, true_and] at h
      obtain ⟨hmn, hst⟩ := ih h
      exact ⟨congrArg Nat.succ hmn, hst⟩

theorem exists_fieldBytes_cons (escape : ℕ) (fields : List (ℕ × ℕ)) (n : ℕ) :
    ∃ byte bytes, fieldBytes escape fields n = byte :: bytes ∧
      (byte ∈ fields.map Prod.fst ∨ (byte = 193 ∧ bytes.head? = some escape)) := by
  induction fields with
  | nil => exact ⟨193, _, rfl, .inr ⟨rfl, rfl⟩⟩
  | cons field fields ih =>
    obtain ⟨tag, width⟩ := field
    simp only [fieldBytes]
    split
    · exact ⟨tag, _, rfl, .inl (by simp)⟩
    · obtain ⟨byte, bytes, hbytes, hlead⟩ := ih
      refine ⟨byte, bytes, hbytes, hlead.imp_left ?_⟩
      intro hmem
      exact List.mem_cons_of_mem _ hmem

theorem fieldBytes_append_inj {escape : ℕ} {fields : List (ℕ × ℕ)}
    (hnodup : (193 :: fields.map Prod.fst).Nodup)
    (h : fieldBytes escape fields m ++ s = fieldBytes escape fields n ++ t) : m = n ∧ s = t := by
  induction fields with
  | nil =>
    simp only [fieldBytes, List.cons_append, List.append_assoc,
      List.nil_append, List.cons.injEq, true_and] at h
    exact replicate_append_inj h
  | cons field fields ih =>
    obtain ⟨tag, width⟩ := field
    have htag : tag ∉ fields.map Prod.fst ∧ tag ≠ 193 := by
      simp only [List.map_cons, List.nodup_cons, List.mem_cons, not_or] at hnodup
      exact ⟨hnodup.2.1, Ne.symm hnodup.1.1⟩
    -- a narrow size begins with the tag, a wide one does not
    have hapart : ∀ {n : ℕ} {x y : List ℕ},
        tag :: x ≠ fieldBytes escape fields n ++ y := by
      intro n x y heq
      obtain ⟨byte, bytes, hbytes, hlead⟩ := exists_fieldBytes_cons escape fields n
      rw [hbytes, List.cons_append] at heq
      obtain rfl : tag = byte := (List.cons.inj heq).1
      rcases hlead with hmem | ⟨hescape, -⟩
      · exact htag.1 hmem
      · exact htag.2 hescape
    simp only [fieldBytes] at h
    split at h
    · rename_i hm
      split at h
      · rename_i hn
        simp only [List.cons_append, List.cons.injEq, true_and] at h
        obtain ⟨hbytes, hst⟩ := List.append_inj h (by simp)
        exact ⟨bigEndian_injective_of_lt hm hn hbytes, hst⟩
      · exact absurd h hapart
    · split at h
      · exact absurd h.symm hapart
      · refine ih ?_ h
        exact hnodup.sublist ((List.sublist_cons_self _ _).cons_cons _)

namespace SizeLayout

/-- The tags of a layout are apart from each other and from its short sizes. -/
structure Apart (layout : SizeLayout) : Prop where
  nodup : (193 :: layout.fields.map Prod.fst).Nodup
  short : layout.short + layout.limit ≤ 193
  tags : ∀ tag ∈ layout.fields.map Prod.fst, 193 < tag

theorem header_append_inj {layout : SizeLayout} (hapart : layout.Apart) {m n : ℕ}
    {s t : List ℕ} (h : layout.header m ++ s = layout.header n ++ t) : m = n ∧ s = t := by
  have hshort : ∀ {n k : ℕ} {x y : List ℕ}, n < layout.limit →
      [layout.short + n] ++ x ≠ fieldBytes layout.short layout.fields k ++ y := by
    intro n k x y hn heq
    obtain ⟨byte, bytes, hbytes, hlead⟩ :=
      exists_fieldBytes_cons layout.short layout.fields k
    rw [hbytes, List.cons_append, List.cons_append] at heq
    have hbyte : layout.short + n = byte := (List.cons.inj heq).1
    have hle := hapart.short
    rcases hlead with hmem | ⟨hescape, -⟩
    · have hlt := hapart.tags byte hmem
      omega
    · omega
  unfold header at h
  split at h
  · rename_i hm
    split at h
    · simp only [List.cons_append, List.nil_append, List.cons.injEq] at h
      exact ⟨Nat.add_left_cancel h.1, h.2⟩
    · exact absurd h (hshort hm)
  · split at h
    · rename_i hn
      exact absurd h.symm (hshort hn)
    · exact fieldBytes_append_inj hapart.nodup h

end SizeLayout

theorem numberLayout_apart : numberLayout.Apart :=
  ⟨by decide, by decide, by decide⟩

theorem stringLayout_apart : stringLayout.Apart :=
  ⟨by decide, by decide, by decide⟩

theorem arrayLayout_apart : arrayLayout.Apart :=
  ⟨by decide, by decide, by decide⟩

theorem objectLayout_apart : objectLayout.Apart :=
  ⟨by decide, by decide, by decide⟩

namespace Json

/-! ### Kinds -/

/-- The kind of the values that begin with the byte, after the escape byte if
there is one. -/
def kindOfByte (byte : ℕ) : Option Kind :=
  if byte < 128 then some .number
  else if byte < 144 then some .object
  else if byte < 160 then some .array
  else if byte < 192 then some .string
  else if byte = 192 then some .null
  else if byte = 194 ∨ byte = 195 then some .bool
  else if 204 ≤ byte ∧ byte ≤ 207 ∨ byte = 224 then some .number
  else if 217 ≤ byte ∧ byte ≤ 219 then some .string
  else if 220 ≤ byte ∧ byte ≤ 221 then some .array
  else if 222 ≤ byte ∧ byte ≤ 223 then some .object
  else none

def kindOfBytes : List ℕ → Option Kind
  | 193 :: byte :: _ => kindOfByte byte
  | byte :: _ => kindOfByte byte
  | [] => none

def LayoutOf (layout : SizeLayout) (kind : Kind) : Prop :=
  (∀ byte, layout.Leads byte → byte ≠ 193 ∧ kindOfByte byte = some kind) ∧
    kindOfByte layout.short = some kind

theorem kindOfBytes_cons {byte : ℕ} {bytes : List ℕ} (h : byte ≠ 193) :
    kindOfBytes (byte :: bytes) = kindOfByte byte := by
  unfold kindOfBytes
  split
  · rename_i heq
    cases heq
    exact absurd rfl h
  · rename_i heq
    cases heq
    rfl
  · rename_i heq
    cases heq

theorem kindOfBytes_header {layout : SizeLayout} {kind : Kind}
    (hlayout : LayoutOf layout kind) (n : ℕ) (s : List ℕ) :
    kindOfBytes (layout.header n ++ s) = some kind := by
  unfold SizeLayout.header
  split
  · rename_i hn
    obtain ⟨hne, hkind⟩ := hlayout.1 (layout.short + n) (.inl (by omega))
    rw [List.cons_append, kindOfBytes_cons hne, hkind]
  · obtain ⟨byte, bytes, hbytes, hlead⟩ :=
      exists_fieldBytes_cons layout.short layout.fields n
    rw [hbytes, List.cons_append]
    rcases hlead with hmem | ⟨rfl, hescape⟩
    · obtain ⟨hne, hkind⟩ := hlayout.1 byte (.inr hmem)
      rw [kindOfBytes_cons hne, hkind]
    · cases bytes with
      | nil => cases hescape
      | cons next bytes =>
        cases hescape
        exact hlayout.2

theorem layoutOf_number : LayoutOf numberLayout .number := by
  refine ⟨?_, by decide⟩
  rintro byte (hshort | hmem)
  · simp only [numberLayout] at hshort
    exact ⟨by omega, if_pos (by omega)⟩
  · revert byte
    decide

theorem layoutOf_string : LayoutOf stringLayout .string := by
  refine ⟨?_, by decide⟩
  rintro byte (hshort | hmem)
  · simp only [stringLayout] at hshort
    refine ⟨by omega, ?_⟩
    unfold kindOfByte
    rw [if_neg (by omega), if_neg (by omega), if_neg (by omega), if_pos (by omega)]
  · revert byte
    decide

theorem layoutOf_array : LayoutOf arrayLayout .array := by
  refine ⟨?_, by decide⟩
  rintro byte (hshort | hmem)
  · simp only [arrayLayout] at hshort
    refine ⟨by omega, ?_⟩
    unfold kindOfByte
    rw [if_neg (by omega), if_neg (by omega), if_pos (by omega)]
  · revert byte
    decide

theorem layoutOf_object : LayoutOf objectLayout .object := by
  refine ⟨?_, by decide⟩
  rintro byte (hshort | hmem)
  · simp only [objectLayout] at hshort
    refine ⟨by omega, ?_⟩
    unfold kindOfByte
    rw [if_neg (by omega), if_pos (by omega)]
  · revert byte
    decide

theorem kindOfBytes_messagePack (value : Json) (s : List ℕ) :
    kindOfBytes (value.messagePack ++ s) = some value.kind := by
  cases value with
  | null => rfl
  | bool b => cases b <;> rfl
  | number n =>
    simp only [messagePack, numberBytes]
    split
    · exact kindOfBytes_header layoutOf_number _ _
    · rfl
  | string t =>
    simp only [messagePack, stringBytes, List.append_assoc]
    exact kindOfBytes_header layoutOf_string _ _
  | array items =>
    simp only [messagePack, List.append_assoc]
    exact kindOfBytes_header layoutOf_array _ _
  | object fields =>
    simp only [messagePack, List.append_assoc]
    exact kindOfBytes_header layoutOf_object _ _

variable {s t : List ℕ}

theorem kind_eq_of_pack {a b : Json}
    (h : a.messagePack ++ s = b.messagePack ++ t) : a.kind = b.kind := by
  have ha := kindOfBytes_messagePack a s
  rw [h, kindOfBytes_messagePack b t] at ha
  exact (Option.some.inj ha).symm

/-! ### Values -/

theorem numberBytes_append_inj {m n : ℤ}
    (h : numberBytes m ++ s = numberBytes n ++ t) : m = n ∧ s = t := by
  -- a number that is not negative does not begin with the escape byte and 224
  have hsign : ∀ {k : ℕ} {x y : List ℕ},
      numberLayout.header k ++ x ≠ 193 :: 224 :: y := by
    intro k x y heq
    simp only [SizeLayout.header, numberLayout, fieldBytes] at heq
    split_ifs at heq <;> simp at heq
    omega
  unfold numberBytes at h
  split at h
  · split at h
    · obtain ⟨hnat, hst⟩ := SizeLayout.header_append_inj numberLayout_apart h
      exact ⟨by omega, hst⟩
    · exact absurd h hsign
  · split at h
    · exact absurd h.symm hsign
    · simp only [List.cons_append, List.cons.injEq, true_and] at h
      obtain ⟨hnat, hst⟩ := SizeLayout.header_append_inj numberLayout_apart h
      exact ⟨by omega, hst⟩

theorem textBytes_injective : Function.Injective textBytes := by
  intro a b h
  apply String.toByteArray_inj.mp
  apply ByteArray.ext
  exact Array.toList_inj.mp h

theorem stringBytes_append_inj {a b : String}
    (h : stringBytes a ++ s = stringBytes b ++ t) : a = b ∧ s = t := by
  simp only [stringBytes, List.append_assoc] at h
  obtain ⟨hlength, hrest⟩ := SizeLayout.header_append_inj stringLayout_apart h
  obtain ⟨hbytes, hst⟩ := List.append_inj hrest (by simpa using hlength)
  have hsame := List.map_injective_iff.mpr (fun _ _ => UInt8.toNat_inj.mp) hbytes
  exact ⟨textBytes_injective hsame, hst⟩

mutual

theorem messagePack_append_inj : ∀ (a b : Json) {s t : List ℕ},
    a.messagePack ++ s = b.messagePack ++ t → a = b ∧ s = t
  | .null, b, s, t, h => by
    have hkind := kind_eq_of_pack h
    cases b with
    | null => exact ⟨rfl, (List.cons.inj h).2⟩
    | _ => simp [kind] at hkind
  | .bool x, b, s, t, h => by
    have hkind := kind_eq_of_pack h
    cases b with
    | bool y => cases x <;> cases y <;> simp_all [messagePack]
    | _ => simp [kind] at hkind
  | .number m, b, s, t, h => by
    have hkind := kind_eq_of_pack h
    cases b with
    | number n =>
      obtain ⟨rfl, hst⟩ := numberBytes_append_inj h
      exact ⟨rfl, hst⟩
    | _ => simp [kind] at hkind
  | .string x, b, s, t, h => by
    have hkind := kind_eq_of_pack h
    cases b with
    | string y =>
      obtain ⟨rfl, hst⟩ := stringBytes_append_inj h
      exact ⟨rfl, hst⟩
    | _ => simp [kind] at hkind
  | .array items, b, s, t, h => by
    have hkind := kind_eq_of_pack h
    cases b with
    | array others =>
      simp only [messagePack, List.append_assoc] at h
      obtain ⟨hlength, hrest⟩ :=
        SizeLayout.header_append_inj arrayLayout_apart h
      obtain ⟨rfl, hst⟩ := itemsPack_append_inj items others hlength hrest
      exact ⟨rfl, hst⟩
    | _ => simp [kind] at hkind
  | .object fields, b, s, t, h => by
    have hkind := kind_eq_of_pack h
    cases b with
    | object others =>
      simp only [messagePack, List.append_assoc] at h
      obtain ⟨hlength, hrest⟩ :=
        SizeLayout.header_append_inj objectLayout_apart h
      obtain ⟨rfl, hst⟩ := fieldsPack_append_inj fields others hlength hrest
      exact ⟨rfl, hst⟩
    | _ => simp [kind] at hkind

theorem itemsPack_append_inj : ∀ (items others : List Json) {s t : List ℕ},
    items.length = others.length → itemsPack items ++ s = itemsPack others ++ t →
      items = others ∧ s = t
  | [], [], s, t, _, h => ⟨rfl, h⟩
  | [], b :: others, s, t, hlength, _ => by simp at hlength
  | a :: items, [], s, t, hlength, _ => by simp at hlength
  | a :: items, b :: others, s, t, hlength, h => by
    simp only [itemsPack, List.append_assoc] at h
    obtain ⟨rfl, hrest⟩ := messagePack_append_inj a b h
    obtain ⟨rfl, hst⟩ := itemsPack_append_inj items others
      (Nat.succ.inj hlength) hrest
    exact ⟨rfl, hst⟩

theorem fieldsPack_append_inj :
    ∀ (fields others : List (String × Json)) {s t : List ℕ},
      fields.length = others.length →
      fieldsPack fields ++ s = fieldsPack others ++ t → fields = others ∧ s = t
  | [], [], s, t, _, h => ⟨rfl, h⟩
  | [], g :: others, s, t, hlength, _ => by simp at hlength
  | f :: fields, [], s, t, hlength, _ => by simp at hlength
  | f :: fields, g :: others, s, t, hlength, h => by
    simp only [fieldsPack, List.append_assoc] at h
    obtain ⟨rfl, hrest⟩ := fieldPack_append_inj f g h
    obtain ⟨rfl, hst⟩ := fieldsPack_append_inj fields others
      (Nat.succ.inj hlength) hrest
    exact ⟨rfl, hst⟩

theorem fieldPack_append_inj : ∀ (field other : String × Json) {s t : List ℕ},
    fieldPack field ++ s = fieldPack other ++ t → field = other ∧ s = t
  | (key, value), (key', value'), s, t, h => by
    simp only [fieldPack, List.append_assoc] at h
    obtain ⟨rfl, hrest⟩ := stringBytes_append_inj h
    obtain ⟨rfl, hst⟩ := messagePack_append_inj value value' hrest
    exact ⟨rfl, hst⟩

end

theorem messagePack_prefixCode (s : Json → Prop) : PrefixCode s messagePack where
  injective a b _ _ h :=
    (messagePack_append_inj a b (congrArg (· ++ []) h)).1
  prefixFree a b _ _ h := by
    obtain ⟨rest, hrest⟩ := h
    obtain ⟨rfl, -⟩ := messagePack_append_inj a b
      (hrest.trans (List.append_nil _).symm)
    rfl

end Json

end Library
