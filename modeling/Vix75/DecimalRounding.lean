import Mathlib.Algebra.Order.Floor.Ring
import Mathlib.Algebra.Order.Round
import Mathlib.Tactic.Linarith
import Mathlib.Tactic.FieldSimp
import Mathlib.Tactic.Positivity

/-! Rounding half to even, to an integer and to a number of decimals, in exact
arithmetic over any floor field. -/

namespace DecimalRounding

variable {α : Type} [Field α] [LinearOrder α] [FloorRing α]

/-- The nearest integer; a tie goes to the even neighbour. -/
def halfEven (value : α) : ℤ :=
  let below := ⌊value⌋
  let rest := value - below
  if rest < 1 / 2 then below
  else if 1 / 2 < rest then below + 1
  else if below % 2 = 0 then below
  else below + 1

def roundDigits (digits : ℕ) (value : α) : α :=
  (halfEven (value * 10 ^ digits) : α) / 10 ^ digits

variable [IsStrictOrderedRing α]

theorem halfEven_intCast (value : ℤ) : halfEven (value : α) = value := by
  simp [halfEven]

theorem halfEven_le (value : α) : (halfEven value : α) ≤ value + 1 / 2 := by
  have lower := Int.floor_le value
  simp only [halfEven]
  split
  · linarith
  · rename_i half
    split
    · push_cast
      linarith
    · split
      · linarith
      · push_cast
        linarith

omit [IsStrictOrderedRing α] in
theorem floor_le_halfEven (value : α) : ⌊value⌋ ≤ halfEven value := by
  simp only [halfEven]
  split_ifs <;> omega

omit [IsStrictOrderedRing α] in
theorem halfEven_le_floor (value : α) : halfEven value ≤ ⌊value⌋ + 1 := by
  simp only [halfEven]
  split_ifs <;> omega

theorem halfEven_mono {lower upper : α} (ordered : lower ≤ upper) :
    halfEven lower ≤ halfEven upper := by
  rcases (Int.floor_mono ordered).lt_or_eq with apart | same
  · exact (halfEven_le_floor lower).trans ((Int.add_one_le_of_lt apart).trans
      (floor_le_halfEven upper))
  · have rests : lower - ⌊lower⌋ ≤ upper - ⌊upper⌋ := by
      rw [same]
      exact sub_le_sub_right ordered _
    simp only [halfEven, ← same] at rests ⊢
    split_ifs <;> first | omega | linarith

theorem halfEven_neg (value : α) : halfEven (-value) = -halfEven value := by
  by_cases whole : (⌊value⌋ : α) = value
  · rw [← whole, halfEven_intCast, ← Int.cast_neg, halfEven_intCast]
  · have below : (⌊value⌋ : α) < value := lt_of_le_of_ne (Int.floor_le value) whole
    have above := Int.lt_floor_add_one value
    have floor : ⌊-value⌋ = -⌊value⌋ - 1 := by
      rw [Int.floor_eq_iff]
      push_cast
      constructor <;> linarith
    have rest : -value - (⌊-value⌋ : α) = 1 - (value - ⌊value⌋) := by
      rw [floor]
      push_cast
      linarith
    simp only [halfEven, rest]
    rw [floor]
    rcases lt_trichotomy (value - (⌊value⌋ : α)) (1 / 2) with less | tie | more
    · have short : ¬1 - (value - (⌊value⌋ : α)) < 1 / 2 := by linarith
      have large : 1 / 2 < 1 - (value - (⌊value⌋ : α)) := by linarith
      rw [if_neg short, if_pos large, if_pos less]
      omega
    · have below : ¬1 - (value - (⌊value⌋ : α)) < 1 / 2 := by linarith
      have above : ¬1 / 2 < 1 - (value - (⌊value⌋ : α)) := by linarith
      rw [if_neg below, if_neg above, if_neg tie.not_lt, if_neg tie.not_gt]
      split_ifs <;> omega
    · have small : 1 - (value - (⌊value⌋ : α)) < 1 / 2 := by linarith
      rw [if_pos small, if_neg more.not_gt, if_pos more]
      omega

theorem roundDigits_neg (digits : ℕ) (value : α) :
    roundDigits digits (-value) = -roundDigits digits value := by
  rw [roundDigits, roundDigits, neg_mul, halfEven_neg, Int.cast_neg, neg_div]

theorem roundDigits_mono (digits : ℕ) {lower upper : α} (ordered : lower ≤ upper) :
    roundDigits digits lower ≤ roundDigits digits upper := by
  have scale : (0 : α) < 10 ^ digits := by positivity
  rw [roundDigits, roundDigits, div_le_div_iff_of_pos_right scale, Int.cast_le]
  exact halfEven_mono (mul_le_mul_of_nonneg_right ordered scale.le)

theorem roundDigits_of_grid {digits : ℕ} {value : α} {units : ℤ}
    (grid : value * 10 ^ digits = units) : roundDigits digits value = value := by
  have scale : (10 : α) ^ digits ≠ 0 := by positivity
  rw [roundDigits, grid, halfEven_intCast, ← grid]
  field_simp

theorem roundDigits_zero (digits : ℕ) : roundDigits digits (0 : α) = 0 := by
  simp [roundDigits, halfEven]

theorem roundDigits_intCast (digits : ℕ) (value : ℤ) :
    roundDigits digits (value : α) = value := by
  have grid : (value : α) * 10 ^ digits = ((value * 10 ^ digits : ℤ) : α) := by
    push_cast
    rfl
  exact roundDigits_of_grid grid

theorem roundDigits_le (digits : ℕ) (value : α) :
    roundDigits digits value ≤ value + 1 / 2 / 10 ^ digits := by
  have scale : (0 : α) < 10 ^ digits := by positivity
  rw [roundDigits, div_le_iff₀ scale, add_mul, div_mul_cancel₀ _ scale.ne']
  exact halfEven_le _

end DecimalRounding
