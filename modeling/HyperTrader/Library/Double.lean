import Mathlib.Algebra.Order.Floor.Semiring
import Mathlib.Data.Int.Log
import Mathlib.Data.Nat.Log
import Mathlib.Data.Rat.Floor
import Mathlib.Order.WithBot
import Mathlib.Tactic.NormNum

/-!
# Double-precision numbers

A double-precision number has fifty-three binary digits. Below `2 ^ 53` every
integer is one; above it an integer is rounded to the nearest that is, a half to the
even one. A fraction is rounded likewise, to the digits its size leaves it, and is
infinite beyond the largest double; the two zeros are one.
-/

namespace Library

def nearestDouble (n : ℕ) : ℕ :=
  let unit := 2 ^ (Nat.log2 n - 52)
  let below := n / unit
  let rest := n % unit
  if 2 * rest < unit ∨ (2 * rest = unit ∧ below % 2 = 0) then below * unit
  else (below + 1) * unit

/-- A double-precision number that is a number: finite, or one of the infinities. -/
abbrev Double := WithBot (WithTop ℚ)

namespace Double

def finite (q : ℚ) : Double := ((q : WithTop ℚ) : WithBot (WithTop ℚ))

def nearestInteger (q : ℚ) : ℤ :=
  if 2 * Int.fract q < 1 ∨ (2 * Int.fract q = 1 ∧ ⌊q⌋ % 2 = 0) then ⌊q⌋ else ⌊q⌋ + 1

def round (q : ℚ) : Double :=
  let unit : ℚ := 2 ^ max (-1074) (Int.log 2 |q| - 52)
  let rounded := nearestInteger (q / unit) * unit
  if 2 ^ 1024 ≤ rounded then ((⊤ : WithTop ℚ) : WithBot (WithTop ℚ))
  else if rounded ≤ -2 ^ 1024 then ⊥
  else finite rounded

def toRat? : Double → Option ℚ
  | some (some q) => some q
  | _ => none

/-- An operation on a finite double whose result is rounded; an infinity is kept, as
where it is multiplied or divided by a positive double. -/
def mapFinite (f : ℚ → ℚ) (x : Double) : Double :=
  match x.toRat? with
  | some q => round (f q)
  | none => x

end Double

end Library
