import Mathlib.Data.Int.Interval
import Mathlib.Data.Int.Log
import Mathlib.Data.Rat.Floor
import Vix75.DecimalRounding

/-! Rounding of exact results to a binary floating point format, to nearest with ties to even. The
exponents are bounded below only: what is too large for the format is for its user to say. -/

namespace BinaryRounding

open DecimalRounding

/-- Numbers of `digits` binary digits behind the first, on the grid of `2 ^ least`. -/
structure Format where
  digits : ℕ
  least : ℤ

def binary64 : Format := ⟨52, -1074⟩

theorem exists_units {fine coarse : ℤ} (ordered : fine ≤ coarse) :
    ∃ units : ℤ, (2 : ℚ) ^ coarse = units * 2 ^ fine := by
  refine ⟨2 ^ (coarse - fine).toNat, ?_⟩
  have apart : ((coarse - fine).toNat : ℤ) = coarse - fine := by omega
  rw [Int.cast_pow, Int.cast_ofNat, ← zpow_natCast, apart, ← zpow_add₀ two_ne_zero, sub_add_cancel]

namespace Format

variable (format : Format)

def exponent (value : ℚ) : ℤ := max (Int.log 2 |value| - format.digits) format.least

def ulp (value : ℚ) : ℚ := 2 ^ format.exponent value

def nearest (value : ℚ) : ℚ := halfEven (value / format.ulp value) * format.ulp value

theorem ulp_pos (value : ℚ) : 0 < format.ulp value := zpow_pos two_pos _

theorem ulp_neg (value : ℚ) : format.ulp (-value) = format.ulp value := by
  rw [ulp, ulp, exponent, exponent, abs_neg]

@[simp] theorem nearest_neg (value : ℚ) : format.nearest (-value) = -format.nearest value := by
  rw [nearest, nearest, ulp_neg, neg_div, halfEven_neg, Int.cast_neg, neg_mul]

@[simp] theorem nearest_zero : format.nearest 0 = 0 := by
  simp [nearest, halfEven]

variable {format}

theorem nearest_of_units {value : ℚ} {units : ℤ} (whole : value = units * format.ulp value) :
    format.nearest value = value := by
  have count : value / format.ulp value = units :=
    (div_eq_iff (format.ulp_pos value).ne').mpr whole
  rw [nearest, count, halfEven_intCast, ← whole]

theorem nearest_of_power {value : ℚ} {units power : ℤ} (whole : value = units * 2 ^ power)
    (fine : format.exponent value ≤ power) : format.nearest value = value := by
  obtain ⟨scale, coarse⟩ := exists_units fine
  refine nearest_of_units (?_ : value = (units * scale : ℤ) * format.ulp value)
  rw [Int.cast_mul, mul_assoc]
  exact whole.trans (congrArg _ coarse)

theorem nearest_le_power {value : ℚ} {power : ℤ} (fine : format.exponent value ≤ power)
    (below : value ≤ 2 ^ power) : format.nearest value ≤ 2 ^ power := by
  obtain ⟨units, whole⟩ := exists_units fine
  rw [whole] at below ⊢
  have counted : value / format.ulp value ≤ units := (div_le_iff₀ (format.ulp_pos value)).mpr below
  have rounded := halfEven_mono counted
  rw [halfEven_intCast] at rounded
  exact mul_le_mul_of_nonneg_right (Int.cast_le.mpr rounded) (format.ulp_pos value).le

theorem power_le_nearest {value : ℚ} {power : ℤ} (fine : format.exponent value ≤ power)
    (above : 2 ^ power ≤ value) : 2 ^ power ≤ format.nearest value := by
  obtain ⟨units, whole⟩ := exists_units fine
  rw [whole] at above ⊢
  have counted : (units : ℚ) ≤ value / format.ulp value :=
    (le_div_iff₀ (format.ulp_pos value)).mpr above
  have rounded := halfEven_mono counted
  rw [halfEven_intCast] at rounded
  exact mul_le_mul_of_nonneg_right (Int.cast_le.mpr rounded) (format.ulp_pos value).le

theorem nearest_nonneg {value : ℚ} (nonneg : 0 ≤ value) : 0 ≤ format.nearest value := by
  have rounded := halfEven_mono (div_nonneg nonneg (format.ulp_pos value).le)
  have zero : halfEven (0 : ℚ) = 0 := by simp [halfEven]
  rw [zero] at rounded
  exact mul_nonneg (by exact_mod_cast rounded) (format.ulp_pos value).le

theorem exponent_mono {lower upper : ℚ} (positive : 0 < lower) (ordered : lower ≤ upper) :
    format.exponent lower ≤ format.exponent upper := by
  have logs := Int.log_mono_right (b := 2) positive ordered
  rw [exponent, exponent, abs_of_pos positive, abs_of_pos (positive.trans_le ordered)]
  omega

theorem nearest_mono_of_pos {lower upper : ℚ} (positive : 0 < lower) (ordered : lower ≤ upper) :
    format.nearest lower ≤ format.nearest upper := by
  have upperPos := positive.trans_le ordered
  have exponents : format.exponent lower ≤ format.exponent upper := exponent_mono positive ordered
  rcases exponents.eq_or_lt with same | apart
  · have ulps : format.ulp lower = format.ulp upper := congrArg (2 ^ ·) same
    rw [nearest, nearest, ulps]
    have scaled := div_le_div_of_nonneg_right ordered (format.ulp_pos upper).le
    exact mul_le_mul_of_nonneg_right (Int.cast_le.mpr (halfEven_mono scaled))
      (format.ulp_pos upper).le
  · have logs : Int.log 2 lower + 1 ≤ Int.log 2 upper ∧
        format.exponent upper ≤ Int.log 2 upper := by
      rw [exponent, exponent, abs_of_pos positive, abs_of_pos upperPos] at apart
      rw [exponent, abs_of_pos upperPos]
      omega
    have below : lower ≤ 2 ^ Int.log 2 upper :=
      (Int.lt_zpow_succ_log_self one_lt_two lower).le.trans
        (zpow_le_zpow_right₀ one_le_two logs.1)
    exact (nearest_le_power (apart.le.trans logs.2) below).trans
      (power_le_nearest logs.2 (Int.zpow_log_le_self one_lt_two upperPos))

theorem nearest_mono : Monotone format.nearest := by
  intro lower upper ordered
  rcases lt_trichotomy 0 lower with positive | rfl | negative
  · exact nearest_mono_of_pos positive ordered
  · rw [nearest_zero]
    exact nearest_nonneg ordered
  · rcases le_or_gt 0 upper with nonneg | below
    · have opposite : 0 ≤ format.nearest (-lower) := nearest_nonneg (neg_nonneg.mpr negative.le)
      rw [nearest_neg] at opposite
      exact (neg_nonneg.mp opposite).trans (nearest_nonneg nonneg)
    · have opposite : format.nearest (-upper) ≤ format.nearest (-lower) :=
        nearest_mono_of_pos (neg_pos.mpr below) (neg_le_neg ordered)
      simpa using opposite

/-- The digits of a rounded number fit the format, or it is the next power of two. -/
theorem nearest_units (format : Format) (value : ℚ) : ∃ units : ℤ,
    format.nearest value = units * 2 ^ format.exponent value ∧
      |units| ≤ 2 ^ (format.digits + 1) := by
  refine ⟨halfEven (value / format.ulp value), rfl, ?_⟩
  have size : |value / format.ulp value| ≤ ((2 ^ (format.digits + 1) : ℤ) : ℚ) := by
    rw [abs_div, abs_of_pos (format.ulp_pos value), div_le_iff₀ (format.ulp_pos value)]
    have logs : Int.log 2 |value| + 1 ≤ (format.digits + 1 : ℕ) + format.exponent value := by
      rw [exponent]
      push_cast
      omega
    calc |value| ≤ 2 ^ (Int.log 2 |value| + 1) := (Int.lt_zpow_succ_log_self one_lt_two _).le
      _ ≤ 2 ^ ((format.digits + 1 : ℕ) + format.exponent value) :=
          zpow_le_zpow_right₀ one_le_two logs
      _ = _ := by
          rw [zpow_add₀ two_ne_zero, zpow_natCast, ulp]
          push_cast
          rfl
  rw [abs_le] at size ⊢
  constructor
  · have rounded := halfEven_mono size.1
    rwa [← Int.cast_neg, halfEven_intCast] at rounded
  · have rounded := halfEven_mono size.2
    rwa [halfEven_intCast] at rounded

@[simp] theorem nearest_nearest (value : ℚ) :
    format.nearest (format.nearest value) = format.nearest value := by
  obtain ⟨units, whole, size⟩ := format.nearest_units value
  generalize format.nearest value = rounded at whole
  have least : format.least ≤ format.exponent value := le_max_right _ _
  rcases eq_or_ne rounded 0 with rfl | nonzero
  · exact format.nearest_zero
  have positive : 0 < |rounded| := abs_pos.mpr nonzero
  have scale : (0 : ℚ) < 2 ^ format.exponent value := format.ulp_pos value
  rcases size.lt_or_eq with inside | power
  · refine nearest_of_power whole ?_
    have small : |rounded| < 2 ^ ((format.digits + 1 : ℕ) + format.exponent value) := by
      rw [whole, abs_mul, abs_of_pos scale, zpow_add₀ two_ne_zero, zpow_natCast]
      exact mul_lt_mul_of_pos_right (by exact_mod_cast inside) scale
    have log := (Int.lt_zpow_iff_log_lt one_lt_two positive).mp small
    rw [exponent]
    push_cast at log
    omega
  · have size : |rounded| = ((2 : ℕ) : ℚ) ^ ((format.digits + 1 : ℕ) + format.exponent value) := by
      rw [whole, abs_mul, abs_of_pos scale, Nat.cast_ofNat, zpow_add₀ two_ne_zero, zpow_natCast]
      exact congrArg (· * _) (by exact_mod_cast power)
    have log : format.exponent rounded ≤ (format.digits + 1 : ℕ) + format.exponent value := by
      rw [exponent, size, Int.log_zpow one_lt_two]
      push_cast
      omega
    rcases abs_choice rounded with same | opposite
    · refine nearest_of_power (?_ : rounded = (1 : ℤ) * (2 : ℚ) ^ (_ : ℤ)) log
      rw [← same, size]
      simp
    · refine nearest_of_power (?_ : rounded = (-1 : ℤ) * (2 : ℚ) ^ (_ : ℤ)) log
      rw [neg_eq_iff_eq_neg.mp opposite.symm, size]
      simp

theorem finite_nearest (format : Format) (bound : ℚ) :
    {rounded | (∃ value, format.nearest value = rounded) ∧ |rounded| < bound}.Finite := by
  have grid : (0 : ℚ) < 2 ^ format.least := zpow_pos two_pos _
  refine ((Set.finite_Icc (-⌈bound / 2 ^ format.least⌉) ⌈bound / 2 ^ format.least⌉).image
    fun units : ℤ => (units : ℚ) * 2 ^ format.least).subset ?_
  rintro rounded ⟨⟨value, rfl⟩, small⟩
  obtain ⟨units, whole, _⟩ := format.nearest_units value
  obtain ⟨scale, coarse⟩ : ∃ scale : ℤ,
      (2 : ℚ) ^ format.exponent value = scale * 2 ^ format.least :=
    exists_units (le_max_right _ _)
  have gridded : format.nearest value = (units * scale : ℤ) * 2 ^ format.least := by
    rw [whole, coarse, Int.cast_mul, mul_assoc]
  refine ⟨units * scale, ?_, gridded.symm⟩
  have counted : |((units * scale : ℤ) : ℚ)| ≤ bound / 2 ^ format.least := by
    rw [gridded, abs_mul, abs_of_pos grid] at small
    exact (le_div_iff₀ grid).mpr small.le
  have ceiled := counted.trans (Int.le_ceil _)
  rw [abs_le] at ceiled
  exact ⟨by exact_mod_cast ceiled.1, by exact_mod_cast ceiled.2⟩

end Format

end BinaryRounding
