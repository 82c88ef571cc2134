import Vix75.IndicatorMemory

/-! The relative strength of prices turned upside down: gains and losses change places. -/

namespace Vix75

open PyMath

section Reflection

variable {F : Type} [Field F]

def reflect (c : F) (close : List F) : List F := close.map fun price => c - price

theorem moves_reflect (c : F) (close : List F) :
    List.zipWith (· - ·) (reflect c close) (shifted (reflect c close)) =
      (List.zipWith (· - ·) close (shifted close)).map fun move => 0 - move := by
  have later : shifted (reflect c close) = (shifted close).map fun price => c - price := by
    cases close with
    | nil => rfl
    | cons first rest => simp only [reflect, shifted, List.map_cons, List.map_dropLast]
  rw [later, reflect, List.zipWith_map, List.map_zipWith]
  congr
  funext price previous
  ring

variable [LinearOrder F] [PyMath F] {close : List F}

theorem rsi_defined {period : ℕ+} {n : ℕ} {value : F}
    (here : (rsi close period)[n]? = some (some value)) :
    period ≤ n ∧ n < close.length := by
  have inside := (List.getElem?_eq_some_iff.mp here).1
  rw [length_rsi] at inside
  refine ⟨?_, inside⟩
  by_contra early
  have missing : (rsi close period)[n]? = some none := by
    unfold rsi
    split
    · exact List.getElem?_replicate_of_lt inside
    · rw [List.getElem?_append_left (by rw [List.length_replicate]; omega)]
      exact List.getElem?_replicate_of_lt (by omega)
  rw [missing] at here
  cases here

variable [ExactMath F]

theorem moves_eq_zero_iff {k : ℕ} (inside : k + 1 < close.length) :
    (gains close).getD (k + 1) 0 = 0 ∧ (losses close).getD (k + 1) 0 = 0 ↔
      close[k + 1]? = close[k]? := by
  have previous : (shifted close)[k + 1]? = close[k]? := by
    cases close with
    | nil => simp at inside
    | cons first rest =>
        rw [shifted, List.getElem?_cons_succ, List.getElem?_dropLast, if_pos (by omega)]
  have here := List.getElem?_eq_getElem inside
  have before := List.getElem?_eq_getElem (Nat.lt_of_succ_lt inside)
  simp only [gains, losses, List.getD_eq_getElem?_getD, List.getElem?_map, List.getElem?_zipWith,
    previous, here, before, Option.map_some, Option.getD_some, Option.some_inj,
    ExactMath.ofRat_eq, Rat.cast_zero, zero_sub]
  rw [← sub_eq_zero (a := close[k + 1])]
  generalize close[k + 1] - close[k] = move
  rcases lt_trichotomy move 0 with fell | rfl | rose
  · simp [fell, fell.not_gt, fell.ne]
  · simp
  · simp [rose, rose.not_gt, rose.ne']

variable [IsStrictOrderedRing F]

theorem gains_reflect (c : F) (close : List F) : gains (reflect c close) = losses close := by
  rw [gains, losses, moves_reflect, List.map_map]
  refine List.map_congr_left fun move _ => ?_
  simp only [Function.comp_apply, ExactMath.ofRat_eq, Rat.cast_zero, zero_sub, neg_pos]

theorem losses_reflect (c : F) (close : List F) : losses (reflect c close) = gains close := by
  rw [gains, losses, moves_reflect, List.map_map]
  refine List.map_congr_left fun move _ => ?_
  simp only [Function.comp_apply, ExactMath.ofRat_eq, Rat.cast_zero, zero_sub, neg_lt_zero, neg_neg]

theorem getD_ema_one {values : List F} {n : ℕ} (inside : n < values.length) :
    (ema values 1).getD n 0 = values.getD n 0 := by
  cases n with
  | zero => exact getD_ema_zero values 1
  | succ n =>
      rw [getD_ema_succ 1 inside, decay_eq, PNat.one_coe, Nat.cast_one, sub_self, zero_div,
        sub_zero, mul_one, zero_mul, add_zero]

theorem getD_ema_eq_zero_iff {values : List F} {period : ℕ+} {n : ℕ} (more : 1 < period)
    (nonneg : ∀ value ∈ values, 0 ≤ value) (inside : n < values.length) :
    (ema values period).getD n 0 = 0 ↔ ∀ k ≤ n, values.getD k 0 = 0 := by
  have weight : (0 : F) < decay period := decay_pos more
  have fresh : (0 : F) < 1 - decay period := by
    have larger : (0 : F) < ((period : ℕ) : F) + 1 := by positivity
    rw [decay_eq, sub_pos, div_lt_one larger]
    linarith
  induction n with
  | zero => simp only [getD_ema_zero, Nat.le_zero, forall_eq]
  | succ n ih =>
      have value : 0 ≤ values.getD (n + 1) 0 := by
        rw [List.getD_eq_getElem _ _ inside]
        exact nonneg _ (List.getElem_mem inside)
      have before : 0 ≤ (ema values period).getD n 0 := ema_nonneg nonneg n
      have earlier : (ema values period).getD n 0 = 0 ↔ ∀ k ≤ n, values.getD k 0 = 0 :=
        ih (Nat.lt_of_succ_lt inside)
      rw [getD_ema_succ period inside, add_eq_zero_iff_of_nonneg (mul_nonneg value fresh.le)
        (mul_nonneg weight.le before), mul_eq_zero_iff_right fresh.ne',
        mul_eq_zero_iff_left weight.ne', earlier]
      constructor
      · rintro ⟨last, others⟩ k below
        rcases Nat.le_succ_iff.mp below with early | rfl
        · exact others k early
        · exact last
      · intro every
        exact ⟨every _ (Nat.le_refl _), fun k below => every k (Nat.le_succ_of_le below)⟩

/-- No price change that the averages at entry `n` know of: with period 1 they know of the last one
alone. -/
def Still (close : List F) (period : ℕ+) (n : ℕ) : Prop :=
  ∀ k < n, ((period : ℕ) = 1 → k + 1 = n) → close[k + 1]? = close[k]?

instance (close : List F) (period : ℕ+) (n : ℕ) : Decidable (Still close period n) :=
  inferInstanceAs (Decidable (∀ k < n, ((period : ℕ) = 1 → k + 1 = n) →
    close[k + 1]? = close[k]?))

theorem coe_wilder (period : ℕ+) : ((2 * period - 1 : ℕ+) : ℕ) = 2 * period - 1 := by
  have pos := period.pos
  have large : 1 < 2 * period := by
    rw [← PNat.coe_lt_coe, PNat.mul_coe]
    change 1 < 2 * (period : ℕ)
    omega
  rw [PNat.sub_coe, if_pos large]
  rfl

theorem one_lt_wilder {period : ℕ+} (more : 1 < period) : 1 < 2 * period - 1 := by
  have larger : 1 < (period : ℕ) := more
  rw [← PNat.coe_lt_coe, coe_wilder, PNat.one_coe]
  omega

theorem averages_eq_zero_iff {period : ℕ+} {n : ℕ} (warm : period ≤ n)
    (inside : n < close.length) : (wilderSmooth (gains close) period).getD n 0 = 0 ∧
      (wilderSmooth (losses close) period).getD n 0 = 0 ↔ Still close period n := by
  have gain : n < (gains close).length := by rwa [length_gains]
  have loss : n < (losses close).length := by rwa [length_losses]
  simp only [wilderSmooth]
  by_cases single : period = 1
  · subst single
    obtain ⟨before, rfl⟩ := Nat.exists_eq_add_of_le' warm
    have first : (2 * 1 - 1 : ℕ+) = 1 := rfl
    rw [first, getD_ema_one gain, getD_ema_one loss]
    rw [PNat.one_coe, moves_eq_zero_iff inside]
    constructor
    · rintro same k _ last
      obtain rfl : k = before := Nat.succ_inj.mp (last rfl)
      exact same
    · intro still
      exact still before (Nat.lt_succ_self before) fun _ => rfl
  · have more : 1 < 2 * period - 1 := one_lt_wilder (one_lt_iff_ne_one.mpr single)
    rw [getD_ema_eq_zero_iff more (gains_nonneg close) gain,
      getD_ema_eq_zero_iff more (losses_nonneg close) loss]
    constructor
    · rintro ⟨noGain, noLoss⟩ k below -
      exact (moves_eq_zero_iff (by omega)).mp ⟨noGain _ below, noLoss _ below⟩
    · intro still
      have none (k : ℕ) (below : k ≤ n) :
          (gains close).getD k 0 = 0 ∧ (losses close).getD k 0 = 0 := by
        cases k with
        | zero => exact getD_moves_zero close
        | succ k =>
            exact (moves_eq_zero_iff (by omega)).mpr
              (still k below fun same => absurd (PNat.coe_eq_one_iff.mp same) single)
      exact ⟨fun k below => (none k below).1, fun k below => (none k below).2⟩

/-! Strength -/

theorem strength_swap {gain loss : F} (gainNonneg : 0 ≤ gain) (lossNonneg : 0 ≤ loss)
    (moved : ¬(gain = 0 ∧ loss = 0)) : strength loss gain = 100 - strength gain loss := by
  simp only [strength, ExactMath.ofRat_eq, Rat.cast_zero, Rat.cast_one, Rat.cast_ofNat]
  by_cases noLoss : loss = 0
  · have some : gain ≠ 0 := fun none => moved ⟨none, noLoss⟩
    rw [if_neg some, if_pos noLoss, noLoss, zero_div, add_zero, div_one]
  · by_cases noGain : gain = 0
    · rw [if_pos noGain, if_neg noLoss, noGain, zero_div, add_zero, div_one, sub_self, sub_zero]
    · have gainPos : 0 < gain := gainNonneg.lt_of_ne' noGain
      have lossPos : 0 < loss := lossNonneg.lt_of_ne' noLoss
      have both : 0 < gain + loss := add_pos gainPos lossPos
      have sum : loss + gain = gain + loss := add_comm loss gain
      rw [if_neg noGain, if_neg noLoss, one_add_div noLoss, one_add_div noGain, sum]
      field_simp
      ring

/-- Upside down, the relative strength is the complement, but for a stretch without any price
change: there it is 100 either way up. -/
theorem rsi_reflect (close : List F) (period : ℕ+) (c : F) (n : ℕ) (value : F)
    (here : (rsi close period)[n]? = some (some value)) :
    if Still close period n then
      value = 100 ∧ (rsi (reflect c close) period)[n]? = some (some 100)
    else (rsi (reflect c close) period)[n]? = some (some (100 - value)) := by
  obtain ⟨warm, inside⟩ := rsi_defined here
  rw [getElem?_rsi warm inside, Option.some_inj, Option.some_inj] at here
  rw [getElem?_rsi warm (by rwa [reflect, List.length_map]), gains_reflect, losses_reflect, ← here]
  have average {moves : List F} (nonneg : ∀ move ∈ moves, 0 ≤ move) :
      0 ≤ (wilderSmooth moves period).getD n 0 := ema_nonneg nonneg n
  split
  · rename_i still
    obtain ⟨noGain, noLoss⟩ := (averages_eq_zero_iff warm inside).mpr still
    have top : strength (0 : F) 0 = 100 := by simp [strength, ExactMath.ofRat_eq]
    rw [noGain, noLoss, top]
    exact ⟨rfl, rfl⟩
  · rename_i moving
    rw [strength_swap (average (gains_nonneg close)) (average (losses_nonneg close))
      ((averages_eq_zero_iff warm inside).not.mpr moving)]

end Reflection

theorem rsi_reflect_falling :
    (rsi (reflect (10 : ℚ) [1, 4, 3]) 2)[2]? = some (some 40) := by
  have held := rsi_reflect [(1 : ℚ), 4, 3] 2 10 2 60 (by decide +kernel)
  rw [if_neg (by decide +kernel)] at held
  rw [held]
  norm_num

theorem rsi_not_reflected : ¬∀ (close : List ℚ) (period : ℕ+) (c : ℚ) (n : ℕ) (value : ℚ),
    (rsi close period)[n]? = some (some value) →
      (rsi (reflect c close) period)[n]? = some (some (100 - value)) := by
  intro reflected
  have held := reflected (List.replicate 15 100) 14 200 14 100 (by decide +kernel)
  exact absurd held (by decide +kernel)

end Vix75
