import Mathlib.Algebra.Field.Rat
import Mathlib.Data.Rat.Floor
import Vix75.DecimalRounding
import Vix75.Schemas

/-! The number type of the modelled code: Python float operations beyond arithmetic and
comparison, and their exact rational instance. -/

namespace Vix75

class PyMath (F : Type) where
  ofRat : ℚ → F
  ofInt : ℤ → F
  abs : F → F
  sum : List F → F
  roundTo : ℕ → F → F
  floor : F → Except PyError ℤ
  str : F → String
  fixed : ℕ → F → String

def fixedText (digits : ℕ) (value : ℚ) : String :=
  let units := (DecimalRounding.halfEven (value * 10 ^ digits)).natAbs
  let decimals := toString (units % 10 ^ digits)
  (if value < 0 then "-" else "") ++ toString (units / 10 ^ digits) ++ "." ++
    String.ofList (List.replicate (digits - decimals.length) '0') ++ decimals

instance : PyMath ℚ where
  ofRat := id
  ofInt := Int.cast
  abs := fun value => |value|
  sum := List.sum
  roundTo := DecimalRounding.roundDigits
  floor := fun value => .ok ⌊value⌋
  str := toString
  fixed := fixedText

/-- The constants of the code are the numbers that they name. -/
class ExactMath (F : Type) [Field F] [PyMath F] : Prop where
  ofRat_eq (value : ℚ) : (PyMath.ofRat value : F) = value
  ofInt_eq (value : ℤ) : (PyMath.ofInt value : F) = value

instance : ExactMath ℚ where
  ofRat_eq := fun _ => rfl
  ofInt_eq := fun _ => rfl

section Extrema

variable {F : Type} [LT F] [DecidableLT F]

/-- `max(left, right)` keeps the left one of two equal values. -/
def pyMax (left right : F) : F := if left < right then right else left

def pyMin (left right : F) : F := if right < left then right else left

end Extrema

theorem pyMin_eq_min {F : Type} [LinearOrder F] (left right : F) :
    pyMin left right = min left right := by
  rw [pyMin]
  split
  · exact (min_eq_right (le_of_lt (by assumption))).symm
  · exact (min_eq_left (not_lt.mp (by assumption))).symm

theorem pyMax_eq_max {F : Type} [LinearOrder F] (left right : F) :
    pyMax left right = max left right := by
  rw [pyMax]
  split
  · exact (max_eq_right (le_of_lt (by assumption))).symm
  · exact (max_eq_left (not_lt.mp (by assumption))).symm

end Vix75
