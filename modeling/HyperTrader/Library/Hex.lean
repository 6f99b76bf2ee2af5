import HyperTrader.Library.Ascii
import HyperTrader.Library.Bytes

/-!
# Hexadecimal text and its bytes

Two digits give one byte, and the byte gives the two digits back up to their
case. So the bytes of a hexadecimal text of a fixed length determine the text up
to the case of its letters.
-/

namespace Library

def HexChar (c : Char) : Prop :=
  c.toNat < 128 ∧ isHexDigit (UInt8.ofNat c.toNat) = true

def lowerHexDigit (value : ℕ) : Char :=
  if value < 10 then Char.ofNat (48 + value) else Char.ofNat (87 + value)

variable {c : Char} {digit : UInt8 → Bool} {width : ℕ} {text first second : String}

theorem hexDigitValue_lt (h : HexChar c) : hexDigitValue c < 16 := by
  obtain ⟨hc, hdigit⟩ := h
  revert hdigit
  refine ascii_induction hc ?_
  decide

theorem lowerHexDigit_hexDigitValue (h : HexChar c) :
    lowerHexDigit (hexDigitValue c) = c.toLower := by
  obtain ⟨hc, hdigit⟩ := h
  revert hdigit
  refine ascii_induction hc ?_
  decide

theorem toLower_eq_of_hexDigitValue {d : Char} (hc : HexChar c)
    (hd : HexChar d) (h : hexDigitValue c = hexDigitValue d) : c.toLower = d.toLower := by
  rw [← lowerHexDigit_hexDigitValue hc, ← lowerHexDigit_hexDigitValue hd, h]

theorem HexChar.toLower (h : HexChar c) : HexChar c.toLower := by
  obtain ⟨hc, hdigit⟩ := h
  revert hdigit
  refine ascii_induction hc ?_
  unfold HexChar
  decide

theorem hexDigitValue_toLower (h : HexChar c.toLower) :
    hexDigitValue c.toLower = hexDigitValue c := by
  by_cases hc : c.toNat < 128
  · obtain ⟨-, hdigit⟩ := h
    revert hdigit
    refine ascii_induction hc ?_
    decide
  · rw [toLower_of_le (Nat.le_of_not_lt hc)]

@[simp] theorem hexPairs_nil : hexPairs [] = [] := rfl

@[simp] theorem hexPairs_pair (c d : Char) (rest : List Char) :
    hexPairs (c :: d :: rest) = (hexDigitValue c * 16 + hexDigitValue d) :: hexPairs rest := rfl

theorem length_hexPairs (digits : List Char) : (hexPairs digits).length = digits.length / 2 := by
  induction digits using hexPairs.induct with
  | case1 c d rest ih =>
    simp only [hexPairs_pair, List.length_cons, ih]
    omega
  | case2 digits hshort =>
    match digits, hshort with
    | [], _ => rfl
    | [_], _ => simp [hexPairs]
    | c :: d :: rest, hshort => exact absurd rfl (hshort c d rest)

theorem hexPairs_injective {xs ys : List Char} (hlength : xs.length = ys.length)
    (heven : xs.length % 2 = 0) (hxs : ∀ c ∈ xs, HexChar c)
    (hys : ∀ c ∈ ys, HexChar c) (h : hexPairs xs = hexPairs ys) :
    xs.map Char.toLower = ys.map Char.toLower := by
  induction xs using hexPairs.induct generalizing ys with
  | case1 c d rest ih =>
    match ys, hlength with
    | c' :: d' :: rest', hlength =>
      simp only [List.length_cons, Nat.add_right_cancel_iff] at hlength heven
      simp only [List.forall_mem_cons] at hxs hys
      simp only [hexPairs_pair, List.cons.injEq] at h
      have hd := hexDigitValue_lt hxs.2.1
      have hd' := hexDigitValue_lt hys.2.1
      have hfirst : hexDigitValue c = hexDigitValue c' := by omega
      have hsecond : hexDigitValue d = hexDigitValue d' := by omega
      have hrest := ih hlength (by omega) hxs.2.2 hys.2.2 h.2
      rw [List.map_cons, List.map_cons, List.map_cons, List.map_cons, hrest,
        toLower_eq_of_hexDigitValue hxs.1 hys.1 hfirst,
        toLower_eq_of_hexDigitValue hxs.2.1 hys.2.1 hsecond]
  | case2 xs hshort =>
    match xs, hshort with
    | [], _ =>
      have hys : ys = [] := List.length_eq_zero_iff.mp hlength.symm
      rw [hys]
    | [_], _ => simp at heven
    | c :: d :: rest, hshort => exact absurd rfl (hshort c d rest)

theorem TextPattern.toList_of_test (hdigit : ∀ byte, digit byte = true → isHexDigit byte = true)
    (h : TextPattern.test ⟨"0x", digit, width, width⟩ text = true) :
    ∃ digits, text.toList = '0' :: 'x' :: digits ∧ digits.length = width ∧
      ∀ c ∈ digits, HexChar c := by
  obtain ⟨body, hbody, hleast, hmost, hall⟩ := TextPattern.test_iff.mp h
  have hlead : textBytes "0x" = [48, 120] := by decide
  have hascii : ∀ byte ∈ textBytes text, byte.toNat < 128 := by
    intro byte hbyte
    rw [hbody, hlead] at hbyte
    simp only [List.cons_append, List.nil_append, List.mem_cons] at hbyte
    rcases hbyte with rfl | rfl | hbyte
    · decide
    · decide
    · exact lt_of_isHexDigit (hdigit byte (hall byte hbyte))
  obtain ⟨hbytes, hchars⟩ := textBytes_of_ascii hascii
  rw [hbytes, hlead] at hbody
  have hcode : ∀ {c : Char} {byte : UInt8}, c.toNat < 128 →
      UInt8.ofNat c.toNat = byte → c = Char.ofNat byte.toNat := by
    intro c byte hc hbyte
    have hnat : (UInt8.ofNat c.toNat).toNat = c.toNat :=
      UInt8.toNat_ofNat_of_lt' (by simp only [UInt8.size]; omega)
    rw [← hbyte, hnat, Char.ofNat_toNat]
  match hlist : text.toList, hbody with
  | c :: d :: digits, hbody =>
    rw [hlist] at hchars
    simp only [List.forall_mem_cons] at hchars
    simp only [List.map_cons, List.cons_append, List.nil_append, List.cons.injEq] at hbody
    have hc : c = '0' := hcode hchars.1 hbody.1
    have hd : d = 'x' := hcode hchars.2.1 hbody.2.1
    refine ⟨digits, by rw [hc, hd], ?_, ?_⟩
    · rw [← List.length_map, hbody.2.2]
      exact Nat.le_antisymm hmost hleast
    · intro e he
      refine ⟨hchars.2.2 e he, hdigit _ (hall _ ?_)⟩
      rw [← hbody.2.2]
      exact List.mem_map_of_mem he
  | [], hbody => simp at hbody
  | [_], hbody => simp at hbody

theorem asciiLower_eq_iff :
    asciiLower first = asciiLower second ↔
      first.toList.map Char.toLower = second.toList.map Char.toLower := by
  rw [← String.toList_inj, toList_asciiLower, toList_asciiLower]

/-- The bytes of a hexadecimal text of even width determine it up to the case of
its letters. -/
theorem hexToBytes_injective (hdigit : ∀ byte, digit byte = true → isHexDigit byte = true)
    (heven : width % 2 = 0) (hfirst : TextPattern.test ⟨"0x", digit, width, width⟩ first = true)
    (hsecond : TextPattern.test ⟨"0x", digit, width, width⟩ second = true)
    (h : hexToBytes first = hexToBytes second) : asciiLower first = asciiLower second := by
  obtain ⟨xs, hxs, hxslength, hxsall⟩ := TextPattern.toList_of_test hdigit hfirst
  obtain ⟨ys, hys, hyslength, hysall⟩ := TextPattern.toList_of_test hdigit hsecond
  simp only [hexToBytes, hxs, hys, List.drop_succ_cons, List.drop_zero] at h
  have hdigits := hexPairs_injective (hxslength.trans hyslength.symm)
    (by rw [hxslength, heven]) hxsall hysall h
  rw [asciiLower_eq_iff, hxs, hys]
  simp only [List.map_cons, hdigits]

theorem hexPairs_map_toLower {digits : List Char} (h : ∀ c ∈ digits.map Char.toLower, HexChar c) :
    hexPairs (digits.map Char.toLower) = hexPairs digits := by
  induction digits using hexPairs.induct with
  | case1 c d rest ih =>
    simp only [List.map_cons, List.forall_mem_cons] at h
    simp only [List.map_cons, hexPairs_pair, hexDigitValue_toLower h.1,
      hexDigitValue_toLower h.2.1, ih h.2.2]
  | case2 digits hshort =>
    match digits, hshort with
    | [], _ => rfl
    | [_], _ => simp [hexPairs]
    | c :: d :: rest, hshort => exact absurd rfl (hshort c d rest)

theorem hexToBytes_congr (hdigit : ∀ byte, digit byte = true → isHexDigit byte = true)
    (hfirst : TextPattern.test ⟨"0x", digit, width, width⟩ first = true)
    (h : asciiLower first = asciiLower second) : hexToBytes first = hexToBytes second := by
  obtain ⟨digits, hdigits, -, hall⟩ := TextPattern.toList_of_test hdigit hfirst
  have hlower : ∀ c ∈ digits.map Char.toLower, HexChar c := by
    intro c hc
    obtain ⟨d, hd, rfl⟩ := List.mem_map.mp hc
    exact (hall d hd).toLower
  rw [asciiLower_eq_iff, hdigits] at h
  have hrest : digits.map Char.toLower =
      (second.toList.drop 2).map Char.toLower := by
    rw [List.map_drop, ← h]
    rfl
  calc hexToBytes first = hexPairs digits := by
        simp only [hexToBytes, hdigits, List.drop_succ_cons, List.drop_zero]
    _ = hexPairs (digits.map Char.toLower) := (hexPairs_map_toLower hlower).symm
    _ = hexPairs ((second.toList.drop 2).map Char.toLower) := by rw [hrest]
    _ = hexToBytes second := hexPairs_map_toLower (hrest ▸ hlower)

theorem length_hexToBytes (hdigit : ∀ byte, digit byte = true → isHexDigit byte = true)
    (h : TextPattern.test ⟨"0x", digit, width, width⟩ text = true) :
    (hexToBytes text).length = width / 2 := by
  obtain ⟨digits, hdigits, hlength, -⟩ := TextPattern.toList_of_test hdigit h
  simp only [hexToBytes, hdigits, List.drop_succ_cons, List.drop_zero]
  rw [length_hexPairs, hlength]

end Library
