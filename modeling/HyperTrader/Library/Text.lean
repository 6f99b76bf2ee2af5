import Mathlib.Algebra.GroupWithZero.Nat
import Mathlib.Data.List.Basic
import Mathlib.Data.List.Infix

/-!
# Text patterns

The anchored patterns a validator matches an identifier against have one shape:
a fixed lead, then a bounded number of characters of one ASCII class.
`TextPattern` is that shape. It is matched on the bytes of the text, where an
ASCII character is its own byte and every other character has bytes of no
class. Lower case and length are the ASCII and UTF-16 notions of the languages
such validators are written in.
-/

namespace Library

def textBytes (text : String) : List UInt8 := text.toByteArray.data.toList

/-- The byte is an ASCII character between `first` and `last`. -/
def inRange (first last : Char) (byte : UInt8) : Bool :=
  decide (first.toNat ≤ byte.toNat) && decide (byte.toNat ≤ last.toNat)

/-- A fixed lead, then between `least` and `most` characters of one class. -/
structure TextPattern where
  lead : String
  digit : UInt8 → Bool
  least : ℕ
  most : ℕ

namespace TextPattern

def body (pattern : TextPattern) (bytes : List UInt8) : Bool :=
  decide (pattern.least ≤ bytes.length) &&
    decide (bytes.length ≤ pattern.most) && bytes.all pattern.digit

def test (pattern : TextPattern) (text : String) : Bool :=
  (textBytes pattern.lead).isPrefixOf (textBytes text) &&
    pattern.body ((textBytes text).drop (textBytes pattern.lead).length)

end TextPattern

def isDecimalDigit (byte : UInt8) : Bool := inRange '0' '9' byte

def isLowerHexDigit (byte : UInt8) : Bool :=
  inRange '0' '9' byte || inRange 'a' 'f' byte

def isHexDigit (byte : UInt8) : Bool :=
  inRange '0' '9' byte || inRange 'a' 'f' byte || inRange 'A' 'F' byte

def isLowerAlphanumeric (byte : UInt8) : Bool :=
  inRange '0' '9' byte || inRange 'a' 'z' byte

def isAlphanumeric (byte : UInt8) : Bool :=
  isLowerAlphanumeric byte || inRange 'A' 'Z' byte

/-- The text with its ASCII capitals in lower case; a text without any is
returned as it is. -/
def asciiLower (text : String) : String :=
  if (textBytes text).any (inRange 'A' 'Z') then
    String.ofList (text.toList.map Char.toLower)
  else text

/-- White space and line terminators, as `trim` takes them off. -/
def isTrimmed (c : Char) : Bool :=
  ['\t', '\n', '\x0b', '\x0c', '\r', ' ', '\u00a0', '\u1680', '\u2028', '\u2029',
    '\u202f', '\u205f', '\u3000', '\ufeff'].contains c ||
    (0x2000 ≤ c.toNat && c.toNat ≤ 0x200a)

def trim (text : String) : String :=
  String.ofList (((text.toList.dropWhile isTrimmed).reverse.dropWhile isTrimmed).reverse)

def utf16Length (text : String) : ℕ :=
  (text.toList.map fun c => if c.toNat < 0x10000 then 1 else 2).sum

def utf16 (text : String) : List ℕ :=
  text.toList.flatMap fun c =>
    if c.toNat < 0x10000 then [c.toNat]
    else [0xD800 + (c.toNat - 0x10000) / 0x400, 0xDC00 + (c.toNat - 0x10000) % 0x400]

theorem toLower_toLower (c : Char) : c.toLower.toLower = c.toLower := by
  unfold Char.toLower
  split
  · rename_i hupper
    rw [dif_neg]
    rintro ⟨-, hmost⟩
    simp only [ge_iff_le, UInt32.le_iff_toNat_le, UInt32.toNat_add, seval]
      at hupper hmost
    omega
  · rfl

@[simp] theorem asciiLower_asciiLower (text : String) :
    asciiLower (asciiLower text) = asciiLower text := by
  by_cases h : (textBytes text).any (inRange 'A' 'Z') = true
  · have hlower : asciiLower text =
        String.ofList (text.toList.map Char.toLower) := by
      simp [asciiLower, h]
    rw [hlower]
    unfold asciiLower
    split
    · have hcomp : Char.toLower ∘ Char.toLower = Char.toLower := funext toLower_toLower
      rw [String.toList_ofList, List.map_map, hcomp]
    · rfl
  · have hself : asciiLower text = text := by simp [asciiLower, h]
    rw [hself, hself]

end Library
