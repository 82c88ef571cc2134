import Mathlib.Algebra.Order.Ring.Rat
import Vix75.BinaryRounding
import Vix75.PyMath

/-! Python floats: IEEE doubles with the infinities and NaN. An operation gives the double nearest
to its exact result; a division by zero, which Python refuses, has no meaning here. -/

namespace Vix75

open BinaryRounding

namespace PyFloat

def lt : PyFloat → PyFloat → Bool
  | .nan, _ => false
  | _, .nan => false
  | .finite left, .finite right => decide (left < right)
  | .negInf, .negInf => false
  | .negInf, _ => true
  | _, .negInf => false
  | .posInf, _ => false
  | _, .posInf => true

def le (left right : PyFloat) : Bool := left.lt right || decide (left = right ∧ left ≠ .nan)

instance : LT PyFloat := ⟨fun left right => left.lt right = true⟩

instance : LE PyFloat := ⟨fun left right => left.le right = true⟩

instance : DecidableLT PyFloat := fun left right =>
  inferInstanceAs (Decidable (left.lt right = true))

instance : DecidableLE PyFloat := fun left right =>
  inferInstanceAs (Decidable (left.le right = true))

def limit : ℚ := 2 ^ 1024

/-- The double nearest to a number; beyond the largest double, an infinity. -/
def double : PyFloat → PyFloat
  | .finite value =>
      let rounded := binary64.nearest value
      if limit ≤ rounded then .posInf
      else if rounded ≤ -limit then .negInf
      else .finite rounded
  | other => other

def neg : PyFloat → PyFloat
  | .finite value => .finite (-value)
  | .posInf => .negInf
  | .negInf => .posInf
  | .nan => .nan

def exactAdd : PyFloat → PyFloat → PyFloat
  | .nan, _ => .nan
  | _, .nan => .nan
  | .finite left, .finite right => .finite (left + right)
  | .posInf, .negInf => .nan
  | .negInf, .posInf => .nan
  | .posInf, _ => .posInf
  | _, .posInf => .posInf
  | .negInf, _ => .negInf
  | _, .negInf => .negInf

def signed : PyFloat → ℚ
  | .finite value => value
  | .posInf => 1
  | .negInf => -1
  | .nan => 0

def infinity (sign : ℚ) : PyFloat :=
  if 0 < sign then .posInf else if sign < 0 then .negInf else .nan

def exactMul : PyFloat → PyFloat → PyFloat
  | .finite left, .finite right => .finite (left * right)
  | left, right => infinity (left.signed * right.signed)

def exactDiv : PyFloat → PyFloat → PyFloat
  | .finite left, .finite right => .finite (left / right)
  | .finite _, .posInf => .finite 0
  | .finite _, .negInf => .finite 0
  | left, .finite right => infinity (left.signed * right)
  | _, _ => .nan

instance : Add PyFloat := ⟨fun left right => (left.exactAdd right).double⟩

instance : Sub PyFloat := ⟨fun left right => (left.exactAdd right.neg).double⟩

instance : Mul PyFloat := ⟨fun left right => (left.exactMul right).double⟩

instance : Div PyFloat := ⟨fun left right => (left.exactDiv right).double⟩

def abs : PyFloat → PyFloat
  | .finite value => .finite |value|
  | .nan => .nan
  | _ => .posInf

/-- What `sum` carries through a list of floats: the total, and what was lost in rounding it. -/
def accumulate (state : PyFloat × PyFloat) (value : PyFloat) : PyFloat × PyFloat :=
  let (total, lost) := state
  let next := total + value
  (next, lost + if value.abs ≤ total.abs then total - next + value else value - next + total)

/-- The compensated `sum`; a compensation that is no number is dropped. -/
def sum : List PyFloat → PyFloat
  | [] => .finite 0
  | first :: values =>
      match values.foldl accumulate (.finite 0 + first, .finite 0) with
      | (total, .finite lost) => if lost = 0 then total else total + .finite lost
      | (total, _) => total

/-- A function of finite floats, extended to the infinities by their names. -/
def text (finite : ℚ → String) : PyFloat → String
  | .finite value => finite value
  | .posInf => "inf"
  | .negInf => "-inf"
  | .nan => "nan"

end PyFloat

instance : PyMath PyFloat where
  ofRat := fun value => (PyFloat.finite value).double
  ofInt := fun value => (PyFloat.finite value).double
  abs := PyFloat.abs
  sum := PyFloat.sum
  roundTo := fun digits value => match value with
    | .finite value => (PyFloat.finite (DecimalRounding.roundDigits digits value)).double
    | other => other
  floor := fun
    | .finite value => .ok ⌊value⌋
    | .nan => .error (.valueError "cannot convert float NaN to integer")
    | _ => .error (.overflowError "cannot convert float infinity to integer")
  str := PyFloat.text toString
  fixed := fun digits => PyFloat.text (fixedText digits)

/-- `float(value)` of an int, which is refused if it would round beyond the largest double. -/
def floatOfInt (value : ℤ) : Except PyError PyFloat :=
  if value.natAbs < 2 ^ 1024 - 2 ^ 970 then .ok (PyMath.ofInt value)
  else .error (.overflowError "int too large to convert to float")

/-- `float(value)` of a decoded document; `parse` reads the numerals. -/
def floatOfJson (parse : String → Option PyFloat) : Json → Except PyError PyFloat
  | .bool value => .ok (.finite (if value then 1 else 0))
  | .int value => floatOfInt value
  | .float value => .ok value
  | .str raw =>
      match parse raw with
      | some value => .ok value
      | none => .error (.valueError ("could not convert string to float: " ++ raw))
  | _ => .error (.typeError "float() argument must be a string or a real number")

namespace PyFloat

section Order

variable {low left right high : PyFloat}

@[simp] theorem finite_lt_finite {left right : ℚ} :
    PyFloat.finite left < .finite right ↔ left < right :=
  decide_eq_true_iff

@[simp] theorem finite_le_finite {left right : ℚ} :
    PyFloat.finite left ≤ .finite right ↔ left ≤ right := by
  change (decide (left < right) || decide _) = true ↔ _
  simp [le_iff_lt_or_eq]

@[simp] theorem not_nan_lt : ¬PyFloat.nan < right := by
  cases right <;> exact Bool.false_ne_true

@[simp] theorem not_lt_nan : ¬left < PyFloat.nan := by
  cases left <;> exact Bool.false_ne_true

@[simp] theorem not_posInf_lt : ¬PyFloat.posInf < right := by
  cases right <;> exact Bool.false_ne_true

@[simp] theorem not_lt_negInf : ¬left < PyFloat.negInf := by
  cases left <;> exact Bool.false_ne_true

@[simp] theorem negInf_lt_finite {right : ℚ} : PyFloat.negInf < .finite right := rfl

@[simp] theorem negInf_lt_posInf : PyFloat.negInf < .posInf := rfl

@[simp] theorem finite_lt_posInf {left : ℚ} : PyFloat.finite left < .posInf := rfl

theorem le_iff_lt_or : left ≤ right ↔ left < right ∨ left = right ∧ left ≠ .nan := by
  change (left.lt right || decide _) = true ↔ left.lt right = true ∨ _
  rw [Bool.or_eq_true, decide_eq_true_iff]

@[simp] theorem not_nan_le : ¬PyFloat.nan ≤ right := by
  simp [le_iff_lt_or]

@[simp] theorem not_le_nan : ¬left ≤ PyFloat.nan := by
  simp +contextual [le_iff_lt_or]

@[simp] theorem le_posInf_iff : left ≤ .posInf ↔ left ≠ .nan := by
  cases left <;> simp [le_iff_lt_or]

@[simp] theorem negInf_le_iff : .negInf ≤ right ↔ right ≠ .nan := by
  cases right <;> simp [le_iff_lt_or]

@[simp] theorem not_posInf_le_finite {right : ℚ} : ¬PyFloat.posInf ≤ .finite right := by
  simp [le_iff_lt_or]

@[simp] theorem not_posInf_le_negInf : ¬PyFloat.posInf ≤ .negInf := by
  simp [le_iff_lt_or]

@[simp] theorem not_finite_le_negInf {left : ℚ} : ¬PyFloat.finite left ≤ .negInf := by
  simp [le_iff_lt_or]

@[simp] theorem le_self_iff : left ≤ left ↔ left ≠ .nan := by
  cases left <;> simp

theorem le_trans (first : low ≤ left) (second : left ≤ high) : low ≤ high := by
  cases low <;> cases left <;> cases high <;> simp_all
  exact first.trans second

theorem lt_iff_le_not_ge : left < right ↔ left ≤ right ∧ ¬right ≤ left := by
  cases left <;> cases right <;> simp
  exact fun less => less.le

@[ext] structure Number where
  value : PyFloat
  number : value ≠ .nan

instance : LinearOrder Number where
  le first second := first.value ≤ second.value
  lt first second := first.value < second.value
  le_refl number := le_self_iff.mpr number.number
  le_trans _ _ _ := PyFloat.le_trans
  lt_iff_le_not_ge _ _ := PyFloat.lt_iff_le_not_ge
  le_antisymm := by
    rintro ⟨first, _⟩ ⟨second, _⟩ below above
    refine Number.ext ?_
    change first ≤ second at below
    change second ≤ first at above
    cases first <;> cases second <;> simp_all
    exact below.antisymm above
  le_total := by
    rintro ⟨first, _⟩ ⟨second, _⟩
    change first ≤ second ∨ second ≤ first
    cases first <;> cases second <;> simp_all
    exact le_total _ _
  toDecidableLE first second := inferInstanceAs (Decidable (first.value ≤ second.value))

theorem ne_nan_of_le (ordered : left ≤ right) : left ≠ .nan ∧ right ≠ .nan := by
  constructor <;> rintro rfl <;> simp at ordered

theorem ne_nan_of_lt (less : left < right) : left ≠ .nan ∧ right ≠ .nan := by
  constructor <;> rintro rfl <;> simp at less

theorem lt_of_lt_of_le (less : low < left) (ordered : left ≤ high) : low < high := by
  have between : (⟨low, (ne_nan_of_lt less).1⟩ : Number) < ⟨left, (ne_nan_of_lt less).2⟩ := less
  exact between.trans_le (show _ ≤ (⟨high, (ne_nan_of_le ordered).2⟩ : Number) from ordered)

theorem lt_of_le_of_lt (ordered : low ≤ left) (less : left < high) : low < high := by
  have between : (⟨low, (ne_nan_of_le ordered).1⟩ : Number) ≤ ⟨left, (ne_nan_of_le ordered).2⟩ :=
    ordered
  exact between.trans_lt (show _ < (⟨high, (ne_nan_of_lt less).2⟩ : Number) from less)

theorem le_of_not_lt (number : left ≠ .nan) (other : right ≠ .nan) (higher : ¬left < right) :
    right ≤ left := by
  have ordered : ¬(⟨left, number⟩ : Number) < ⟨right, other⟩ := higher
  exact not_lt.mp ordered

end Order

/-! The operations on numbers in order -/

section Monotone

variable {low high : PyFloat}

@[simp] theorem double_nan : double .nan = .nan := rfl

theorem double_ne_nan {value : PyFloat} (number : value ≠ .nan) : value.double ≠ .nan := by
  cases value with
  | finite value =>
      simp only [double]
      split_ifs <;> simp
  | nan => exact absurd rfl number
  | _ => exact number

theorem double_mono (ordered : low ≤ high) : low.double ≤ high.double := by
  have numbers := ne_nan_of_le ordered
  have lower := double_ne_nan numbers.1
  have upper := double_ne_nan numbers.2
  cases low with
  | finite low =>
      cases high with
      | finite high =>
          have rounded : binary64.nearest low ≤ binary64.nearest high :=
            Format.nearest_mono (finite_le_finite.mp ordered)
          revert lower upper
          simp only [double]
          split_ifs <;> simp <;> linarith
      | posInf => exact le_posInf_iff.mpr lower
      | _ => simp at ordered
  | negInf => exact negInf_le_iff.mpr upper
  | _ => cases high <;> simp_all [double]

@[simp] theorem double_double (value : PyFloat) : value.double.double = value.double := by
  cases value with
  | finite value =>
      simp only [double]
      split_ifs with above below
      · rfl
      · rfl
      · simp [above, below]
  | _ => rfl

theorem limit_pos : 0 < limit := by
  rw [limit]
  positivity

@[simp] theorem double_zero : double (.finite 0) = .finite 0 := by
  have small : ¬limit ≤ 0 := not_le.mpr limit_pos
  simp [double, small]

@[simp] theorem ofRat_zero : (PyMath.ofRat 0 : PyFloat) = .finite 0 := double_zero

theorem double_finite_neg {value : ℚ} (real : double (.finite value) = .finite value) :
    double (.finite (-value)) = .finite (-value) := by
  simp only [double, Format.nearest_neg] at real ⊢
  split_ifs at real with above below
  have rounded := finite.inj real
  rw [rounded] at above below
  rw [rounded, if_neg (by linarith), if_neg (by linarith)]

theorem infinity_of_pos {sign : ℚ} (positive : 0 < sign) : infinity sign = .posInf :=
  if_pos positive

theorem infinity_of_neg {sign : ℚ} (negative : sign < 0) : infinity sign = .negInf := by
  rw [infinity, if_neg negative.not_gt, if_pos negative]

theorem exactAdd_mono (width : ℚ) (ordered : low ≤ high) :
    low.exactAdd (.finite width) ≤ high.exactAdd (.finite width) := by
  cases low <;> cases high <;> simp_all [exactAdd]

theorem exactMul_mono {width : ℚ} (positive : 0 < width) (ordered : low ≤ high) :
    low.exactMul (.finite width) ≤ high.exactMul (.finite width) := by
  have above : infinity (1 * width) = .posInf := infinity_of_pos (by linarith)
  have below : infinity (-1 * width) = .negInf := infinity_of_neg (by linarith)
  cases low <;> cases high <;> simp_all [exactMul, signed]

theorem exactMul_anti {width : ℚ} (negative : width < 0) (ordered : low ≤ high) :
    high.exactMul (.finite width) ≤ low.exactMul (.finite width) := by
  have below : infinity (1 * width) = .negInf := infinity_of_neg (by linarith)
  have above : infinity (-1 * width) = .posInf := infinity_of_pos (by linarith)
  cases low <;> cases high <;> simp_all [exactMul, signed]

theorem exactDiv_mono {width : ℚ} (positive : 0 < width) (ordered : low ≤ high) :
    low.exactDiv (.finite width) ≤ high.exactDiv (.finite width) := by
  have above : infinity (1 * width) = .posInf := infinity_of_pos (by linarith)
  have below : infinity (-1 * width) = .negInf := infinity_of_neg (by linarith)
  cases low <;> cases high <;> simp_all [exactDiv, signed, div_le_div_iff_of_pos_right]

theorem sub_mono (width : ℚ) (ordered : low ≤ high) :
    low - .finite width ≤ high - .finite width :=
  double_mono (exactAdd_mono (-width) ordered)

theorem mul_mono {width : ℚ} (positive : 0 < width) (ordered : low ≤ high) :
    low * .finite width ≤ high * .finite width :=
  double_mono (exactMul_mono positive ordered)

theorem div_mono {width : ℚ} (positive : 0 < width) (ordered : low ≤ high) :
    low / .finite width ≤ high / .finite width :=
  double_mono (exactDiv_mono positive ordered)

theorem roundTo_mono (digits : ℕ) (ordered : low ≤ high) :
    PyMath.roundTo digits low ≤ PyMath.roundTo digits high := by
  have numbers := ne_nan_of_le ordered
  cases low with
  | finite low =>
      have lower : PyMath.roundTo digits (PyFloat.finite low) ≠ .nan :=
        double_ne_nan (show PyFloat.finite _ ≠ .nan from nofun)
      cases high with
      | finite high =>
          refine double_mono (finite_le_finite.mpr ?_)
          exact DecimalRounding.roundDigits_mono digits (finite_le_finite.mp ordered)
      | posInf => exact le_posInf_iff.mpr lower
      | _ => simp at ordered
  | negInf =>
      refine negInf_le_iff.mpr ?_
      cases high with
      | finite high => exact double_ne_nan (show PyFloat.finite _ ≠ .nan from nofun)
      | nan => exact absurd rfl numbers.2
      | _ => nofun
  | posInf =>
      cases high with
      | posInf => exact le_self_iff.mpr nofun
      | _ => simp at ordered
  | nan => simp at ordered

theorem pyMax_mono {bound : PyFloat} (number : bound ≠ .nan) (ordered : low ≤ high) :
    pyMax low bound ≤ pyMax high bound := by
  have numbers := ne_nan_of_le ordered
  unfold pyMax
  split_ifs with lower upper upper
  · exact le_self_iff.mpr number
  · exact le_of_not_lt numbers.2 number upper
  · have same := le_trans ordered (lt_iff_le_not_ge.mp upper).1
    exact absurd same (fun below => lower (lt_of_le_of_lt ordered upper))
  · exact ordered

theorem le_pyMax {value bound : PyFloat} (number : value ≠ .nan) (other : bound ≠ .nan) :
    bound ≤ pyMax value bound := by
  unfold pyMax
  split_ifs with lower
  · exact le_self_iff.mpr other
  · exact le_of_not_lt number other lower

@[simp] theorem double_infinity (sign : ℚ) : (infinity sign).double = infinity sign := by
  unfold infinity
  split_ifs <;> rfl

theorem lt_infinity_iff {bound : PyFloat} {sign : ℚ} :
    bound < infinity sign ↔ 0 < sign ∧ bound ≠ .nan ∧ bound ≠ .posInf := by
  unfold infinity
  split_ifs with positive
  · cases bound <;> simp_all
  · simp [positive]
  · simp [positive]

theorem mul_posInf (value : PyFloat) : value * .posInf = infinity value.signed := by
  have product : value * .posInf = (infinity (value.signed * 1)).double := by cases value <;> rfl
  rw [product, mul_one, double_infinity]

theorem mul_negInf (value : PyFloat) : value * .negInf = infinity (-value.signed) := by
  have product : value * .negInf = (infinity (value.signed * -1)).double := by cases value <;> rfl
  rw [product, mul_neg_one, double_infinity]

theorem mul_nan (value : PyFloat) : value * .nan = .nan := by
  have product : value * .nan = (infinity (value.signed * 0)).double := by cases value <;> rfl
  rw [product, mul_zero]
  rfl

theorem signed_pos_of_le (ordered : low ≤ high) (positive : 0 < low.signed) : 0 < high.signed := by
  cases low <;> cases high <;> simp_all [signed] <;> linarith

theorem signed_neg_of_le (ordered : low ≤ high) (negative : high.signed < 0) : low.signed < 0 := by
  cases low <;> cases high <;> simp_all [signed] <;> linarith

theorem mul_zero_lt {mid bound : PyFloat} (lower : low ≤ mid) (upper : mid ≤ high)
    (first : bound < low * .finite 0) (last : bound < high * .finite 0) :
    bound < mid * .finite 0 := by
  have number (value : ℚ) : finite value * .finite 0 = .finite 0 := by
    change (finite (value * 0)).double = _
    rw [mul_zero, double_zero]
  have above : posInf * .finite 0 = .nan := by
    change (infinity (1 * 0)).double = _
    rw [mul_zero]
    rfl
  have below : negInf * .finite 0 = .nan := by
    change (infinity (-1 * 0)).double = _
    rw [mul_zero]
    rfl
  cases low <;> cases mid <;> cases high <;> simp_all

theorem lt_mul_of_between {mid factor bound : PyFloat} (lower : low ≤ mid) (upper : mid ≤ high)
    (first : bound < low * factor) (last : bound < high * factor) : bound < mid * factor := by
  cases factor with
  | finite factor =>
      rcases lt_trichotomy 0 factor with positive | rfl | negative
      · exact lt_of_lt_of_le first (mul_mono positive lower)
      · exact mul_zero_lt lower upper first last
      · exact lt_of_lt_of_le last (double_mono (exactMul_anti negative upper))
  | posInf =>
      rw [mul_posInf, lt_infinity_iff] at first ⊢
      exact ⟨signed_pos_of_le lower first.1, first.2⟩
  | negInf =>
      rw [mul_negInf, lt_infinity_iff] at last ⊢
      exact ⟨neg_pos.mpr (signed_neg_of_le upper (neg_pos.mp last.1)), last.2⟩
  | nan => simp [mul_nan] at first

theorem finite_doubles : {value : PyFloat | value.double = value}.Finite := by
  have numbers := (binary64.finite_nearest limit).image PyFloat.finite
  refine (numbers.union (Set.toFinite {.posInf, .negInf, .nan})).subset fun value same => ?_
  cases value with
  | finite value =>
      refine .inl ⟨value, ⟨⟨value, ?_⟩, ?_⟩, rfl⟩
      all_goals
        simp only [Set.mem_ofPred_eq, double] at same
        split_ifs at same with above below
      · exact finite.inj same
      · rw [abs_lt, ← finite.inj same]
        exact ⟨not_le.mp below, not_le.mp above⟩
  | _ => exact .inr (by simp)

end Monotone

end PyFloat

end Vix75
