import Mathlib.Data.Nat.Digits.Lemmas
import Mathlib.Data.List.Basic

/-!
# Byte strings

Fixed-width integers and hexadecimal texts as bytes. A fixed width makes the
bytes of a concatenation determine its parts.
-/

namespace Library

/-- The `width` lowest bytes of `n`, the most significant first. -/
def bigEndian : ℕ → ℕ → List ℕ
  | 0, _ => []
  | width + 1, n => (n / 256 ^ width) % 256 :: bigEndian width n

@[simp] theorem length_bigEndian (width n : ℕ) : (bigEndian width n).length = width := by
  induction width with
  | zero => rfl
  | succ width ih => simp [bigEndian, ih]

variable {width m n : ℕ}

theorem bigEndian_injective (h : bigEndian width m = bigEndian width n) :
    m % 256 ^ width = n % 256 ^ width := by
  induction width with
  | zero => simp [Nat.mod_one]
  | succ width ih =>
    simp only [bigEndian, List.cons.injEq] at h
    rw [Nat.pow_succ, Nat.mod_mul, Nat.mod_mul, ih h.2, h.1]

theorem bigEndian_injective_of_lt (hm : m < 256 ^ width)
    (hn : n < 256 ^ width) (h : bigEndian width m = bigEndian width n) : m = n := by
  have hmod := bigEndian_injective h
  rwa [Nat.mod_eq_of_lt hm, Nat.mod_eq_of_lt hn] at hmod

/-- A code of the values in `s`: different values have different codes, and no
code begins another one. -/
structure PrefixCode {α β : Type*} (s : α → Prop) (code : α → List β) : Prop where
  injective : ∀ a b, s a → s b → code a = code b → a = b
  prefixFree : ∀ a b, s a → s b → code a <+: code b → code a = code b

namespace PrefixCode

variable {α β : Type*} {s : α → Prop} {code : α → List β} {a b : α}

theorem eq_of_prefix (hcode : PrefixCode s code) (ha : s a) (hb : s b)
    (h : code a <+: code b) : a = b :=
  hcode.injective a b ha hb (hcode.prefixFree a b ha hb h)

theorem append_inj (hcode : PrefixCode s code) (ha : s a) (hb : s b)
    {x y : List β} (h : code a ++ x = code b ++ y) : a = b ∧ x = y := by
  have hab : a = b := by
    have hfirst : code a <+: code b ++ y := ⟨x, h⟩
    have hsecond : code b <+: code b ++ y := List.prefix_append _ _
    rcases List.prefix_or_prefix_of_prefix hfirst hsecond with hle | hge
    · exact hcode.eq_of_prefix ha hb hle
    · exact (hcode.eq_of_prefix hb ha hge).symm
  subst hab
  exact ⟨rfl, List.append_cancel_left h⟩

end PrefixCode

def hexDigitValue (c : Char) : ℕ :=
  if c.toNat < 58 then c.toNat - 48
  else if c.toNat < 71 then c.toNat - 55
  else c.toNat - 87

def hexPairs : List Char → List ℕ
  | c :: d :: rest =>
    (hexDigitValue c * 16 + hexDigitValue d) :: hexPairs rest
  | _ => []

/-- `hexToBytes`, of a text with the lead `0x`. -/
def hexToBytes (text : String) : List ℕ := hexPairs (text.toList.drop 2)

end Library
