import HyperTrader.Library.Text
import Mathlib.Data.List.Basic

/-!
# ASCII text and its bytes

A character below 128 is one byte, its own number; every other character has
bytes from 128 on. So the bytes of the text in lower case are the bytes of the
text, each ASCII capital in lower case, and a text whose bytes are all ASCII has
one character for each byte.
-/

namespace Library

theorem textBytes_eq (text : String) :
    textBytes text = text.toList.flatMap String.utf8EncodeChar := by
  unfold textBytes
  rw [← String.utf8Encode_toList]
  simp [List.utf8Encode]

variable {c : Char} {byte : UInt8} {text : String}

theorem utf8EncodeChar_ascii (h : c.toNat < 128) :
    String.utf8EncodeChar c = [UInt8.ofNat c.toNat] := by
  unfold String.utf8EncodeChar
  exact if_pos (Nat.le_of_lt_succ h)

theorem le_of_mem_utf8EncodeChar (h : 128 ≤ c.toNat)
    (hbyte : byte ∈ String.utf8EncodeChar c) : 128 ≤ byte.toNat := by
  unfold String.utf8EncodeChar at hbyte
  have hvalue : c.val.toNat = c.toNat := rfl
  have hlt : c.val.toNat < 1114112 := by
    rcases c.valid with hsmall | hlarge
    · omega
    · omega
  rw [if_neg (by omega)] at hbyte
  split at hbyte
  · simp only [List.mem_cons, List.not_mem_nil, or_false] at hbyte
    rcases hbyte with rfl | rfl <;> simp <;> omega
  · split at hbyte
    · simp only [List.mem_cons, List.not_mem_nil, or_false] at hbyte
      rcases hbyte with rfl | rfl | rfl <;> simp <;> omega
    · simp only [List.mem_cons, List.not_mem_nil, or_false] at hbyte
      rcases hbyte with rfl | rfl | rfl | rfl <;> simp <;> omega

def lowerByte (byte : UInt8) : UInt8 :=
  if inRange 'A' 'Z' byte then byte + 32 else byte

theorem inRange_iff {first last : Char} :
    inRange first last byte = true ↔
      first.toNat ≤ byte.toNat ∧ byte.toNat ≤ last.toNat := by
  simp [inRange]

theorem lowerByte_of_le (h : 128 ≤ byte.toNat) : lowerByte byte = byte := by
  unfold lowerByte
  rw [if_neg]
  rw [inRange_iff]
  rintro ⟨-, hmost⟩
  have hlast : 'Z'.toNat = 90 := rfl
  omega

@[elab_as_elim]
theorem ascii_induction {p : Char → Prop} (hc : c.toNat < 128)
    (h : ∀ n < 128, p (Char.ofNat n)) : p c := by
  have hp := h c.toNat hc
  rwa [Char.ofNat_toNat] at hp

theorem toLower_of_le (h : 128 ≤ c.toNat) : c.toLower = c := by
  unfold Char.toLower
  rw [dif_neg]
  rintro ⟨-, hmost⟩
  have hle : c.toNat ≤ 90 := hmost
  omega

theorem utf8EncodeChar_toLower (c : Char) :
    String.utf8EncodeChar c.toLower = (String.utf8EncodeChar c).map lowerByte := by
  by_cases hc : c.toNat < 128
  · refine ascii_induction hc ?_
    decide
  · have hle : 128 ≤ c.toNat := Nat.le_of_not_lt hc
    rw [toLower_of_le hle]
    conv_lhs => rw [← List.map_id (String.utf8EncodeChar c)]
    apply List.map_congr_left
    intro byte hbyte
    exact (lowerByte_of_le (le_of_mem_utf8EncodeChar hle hbyte)).symm

theorem capital_of_toLower_ne (h : c.toLower ≠ c) :
    (String.utf8EncodeChar c).any (inRange 'A' 'Z') = true := by
  have hc : c.toNat < 128 := by
    by_contra hle
    exact h (toLower_of_le (Nat.le_of_not_lt hle))
  revert h
  refine ascii_induction hc ?_
  decide

theorem toList_asciiLower (text : String) :
    (asciiLower text).toList = text.toList.map Char.toLower := by
  unfold asciiLower
  split
  · exact String.toList_ofList
  · rename_i hnone
    rw [textBytes_eq, List.any_flatMap] at hnone
    conv_lhs => rw [← List.map_id text.toList]
    apply List.map_congr_left
    intro c hc
    by_contra hchanged
    refine hnone (List.any_eq_true.mpr ⟨c, hc, ?_⟩)
    exact capital_of_toLower_ne (Ne.symm hchanged)

theorem textBytes_asciiLower (text : String) :
    textBytes (asciiLower text) = (textBytes text).map lowerByte := by
  rw [textBytes_eq, textBytes_eq, toList_asciiLower, List.flatMap_map, List.map_flatMap]
  exact List.flatMap_congr fun c _ => utf8EncodeChar_toLower c

namespace TextPattern

variable {text : String}

/-- The lead, then as many digits as the pattern allows. -/
theorem test_iff {pattern : TextPattern} :
    pattern.test text = true ↔
      ∃ body, textBytes text = textBytes pattern.lead ++ body ∧
        pattern.least ≤ body.length ∧ body.length ≤ pattern.most ∧
        ∀ byte ∈ body, pattern.digit byte = true := by
  simp only [test, body, Bool.and_eq_true, decide_eq_true_eq, List.all_eq_true,
    List.isPrefixOf_iff_prefix]
  constructor
  · rintro ⟨⟨rest, hrest⟩, ⟨hleast, hmost⟩, hall⟩
    rw [← hrest, List.drop_left] at hleast hmost hall
    exact ⟨rest, hrest.symm, hleast, hmost, hall⟩
  · rintro ⟨rest, hrest, hleast, hmost, hall⟩
    rw [hrest, List.drop_left]
    exact ⟨List.prefix_append _ _, ⟨hleast, hmost⟩, hall⟩

theorem test_asciiLower (pattern lower : TextPattern)
    (hlead : textBytes lower.lead = (textBytes pattern.lead).map lowerByte)
    (hdigit : ∀ byte, pattern.digit byte = true → lower.digit (lowerByte byte) = true)
    (hleast : lower.least = pattern.least) (hmost : lower.most = pattern.most)
    (h : pattern.test text = true) : lower.test (asciiLower text) = true := by
  obtain ⟨body, hbody, hle, hge, hall⟩ := test_iff.mp h
  refine test_iff.mpr ⟨body.map lowerByte, ?_, ?_, ?_, ?_⟩
  · rw [textBytes_asciiLower, hbody, List.map_append, hlead]
  · rwa [List.length_map, hleast]
  · rwa [List.length_map, hmost]
  · intro byte hbyte
    obtain ⟨old, hold, rfl⟩ := List.mem_map.mp hbyte
    exact hdigit old (hall old hold)

end TextPattern

@[elab_as_elim]
theorem byte_induction {p : UInt8 → Prop}
    (hbyte : byte.toNat < 128) (h : ∀ n < 128, p (UInt8.ofNat n)) : p byte := by
  have hp := h byte.toNat hbyte
  rwa [UInt8.ofNat_toNat] at hp

theorem lt_of_isHexDigit (h : isHexDigit byte = true) : byte.toNat < 128 := by
  simp only [isHexDigit, Bool.or_eq_true, inRange_iff] at h
  have h9 : '9'.toNat = 57 := rfl
  have hf : 'f'.toNat = 102 := rfl
  have hF : 'F'.toNat = 70 := rfl
  omega

theorem isLowerHexDigit_lowerByte (h : isHexDigit byte = true) :
    isLowerHexDigit (lowerByte byte) = true := by
  have hbyte := lt_of_isHexDigit h
  revert h
  refine byte_induction hbyte ?_
  decide

theorem textBytes_of_ascii (h : ∀ byte ∈ textBytes text, byte.toNat < 128) :
    textBytes text = text.toList.map (fun c => UInt8.ofNat c.toNat) ∧
      ∀ c ∈ text.toList, c.toNat < 128 := by
  have hchars : ∀ c ∈ text.toList, c.toNat < 128 := by
    intro c hc
    by_contra hge
    have hlarge : 128 ≤ c.toNat := Nat.le_of_not_lt hge
    have hne : String.utf8EncodeChar c ≠ [] := by
      intro hnil
      have hlength := String.length_utf8EncodeChar c
      have hpos := Char.utf8Size_pos c
      rw [hnil, List.length_nil] at hlength
      omega
    obtain ⟨byte, hbyte⟩ := List.exists_mem_of_ne_nil _ hne
    have hsmall := h byte (by
      rw [textBytes_eq]
      exact List.mem_flatMap.mpr ⟨c, hc, hbyte⟩)
    have hle := le_of_mem_utf8EncodeChar hlarge hbyte
    omega
  refine ⟨?_, hchars⟩
  rw [textBytes_eq, List.map_eq_flatMap]
  apply List.flatMap_congr
  intro c hc
  exact utf8EncodeChar_ascii (hchars c hc)

theorem utf16Length_of_ascii (h : ∀ byte ∈ textBytes text, byte.toNat < 128) :
    utf16Length text = (textBytes text).length := by
  obtain ⟨hbytes, hchars⟩ := textBytes_of_ascii h
  have hones : (text.toList.map fun c => if c.toNat < 0x10000 then 1 else 2) =
      text.toList.map fun _ => 1 := by
    apply List.map_congr_left
    intro c hc
    have hsmall := hchars c hc
    exact if_pos (by omega)
  rw [hbytes, List.length_map, utf16Length, hones, List.map_const', List.sum_replicate_nat, mul_one]

end Library
