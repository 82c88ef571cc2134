import Mathlib.Algebra.Order.BigOperators.Group.List
import Mathlib.Data.List.Induction
import Mathlib.Order.Bounds.Basic
import Vix75.Documents
import Vix75.IndicatorMemory
import Vix75.WarmSeries

/-! What the indicators range over in an ordered field, and from which entry on they are there. -/

namespace Vix75

open PyMath CausalSeries WarmSeries

variable {F : Type}

section Extrema

variable [LinearOrder F] [number : PyMath F]

theorem maximum_concat {values : List F} (some : values ≠ []) (last : F) :
    maximum (values ++ [last]) = max (maximum values) last := by
  obtain ⟨first, rest, rfl⟩ := List.exists_cons_of_ne_nil some
  simp only [maximum, List.cons_append, List.tail_cons, List.headD_cons, List.foldl_append,
    List.foldl_cons, List.foldl_nil, pyMax_eq_max]

theorem isGreatest_maximum {values : List F} (some : values ≠ []) :
    IsGreatest {value | value ∈ values} (maximum values) := by
  induction values using List.reverseRecOn with
  | nil => exact absurd rfl some
  | append_singleton values last ih =>
      by_cases single : values = []
      · subst single
        exact ⟨List.mem_singleton_self last, fun value member => (List.mem_singleton.mp member).le⟩
      · obtain ⟨member, upper⟩ := ih single
        rw [maximum_concat single]
        constructor
        · rcases max_choice (maximum values) last with earlier | latest
          · rw [earlier]
            exact List.mem_append_left _ member
          · rw [latest]
            exact List.mem_append_right _ (List.mem_singleton_self last)
        · intro value inside
          rcases List.mem_append.mp inside with early | late
          · exact le_max_of_le_left (upper early)
          · exact le_max_of_le_right (List.mem_singleton.mp late).le

theorem isGreatest_concat_iff {values : List F} (some : values ≠ []) (last : F) :
    IsGreatest {value | value ∈ values} (maximum (values ++ [last])) ↔
      ∃ value ∈ values, last ≤ value := by
  have greatest := isGreatest_maximum some
  rw [maximum_concat some]
  constructor
  · intro same
    have kept := same.unique greatest
    exact ⟨maximum values, greatest.1, max_eq_left_iff.mp kept⟩
  · rintro ⟨value, member, reached⟩
    rwa [max_eq_left (reached.trans (greatest.2 member))]

theorem isLeast_minimum {values : List F} (some : values ≠ []) :
    IsLeast {value | value ∈ values} (minimum values) :=
  @isGreatest_maximum Fᵒᵈ _ number values some

theorem isLeast_concat_iff {values : List F} (some : values ≠ []) (last : F) :
    IsLeast {value | value ∈ values} (minimum (values ++ [last])) ↔
      ∃ value ∈ values, value ≤ last :=
  @isGreatest_concat_iff Fᵒᵈ _ number values some last

end Extrema

theorem getElem?_slidingWindows {α : Type} {size : ℕ} (some : 0 < size) {values window : List α}
    {j : ℕ} (here : (slidingWindows size values)[j]? = Option.some window) :
    window = (values.drop j).take size ∧ j + size ≤ values.length := by
  have inside := (List.getElem?_eq_some_iff.mp here).1
  rw [length_slidingWindows some] at inside
  rw [← Nat.add_zero j, ← (forgets_slidingWindows some).getElem? (Nat.zero_le 0)] at here
  cases rest : values.drop j with
  | nil =>
      rw [rest] at here
      cases here
  | cons first others =>
      have length := congrArg List.length rest
      rw [List.length_drop, List.length_cons] at length
      have long : ¬(first :: others).length < size := by
        rw [List.length_cons]
        omega
      rw [rest, slidingWindows, if_neg long, List.getElem?_cons_zero, Option.some_inj] at here
      exact ⟨here.symm, by omega⟩

theorem mem_slidingWindows {α : Type} {size : ℕ} (some : 0 < size) {values window : List α}
    (member : window ∈ slidingWindows size values) : window.length = size ∧ window ⊆ values := by
  obtain ⟨j, here⟩ := List.mem_iff_getElem?.mp member
  obtain ⟨rfl, inside⟩ := getElem?_slidingWindows some here
  constructor
  · rw [List.length_take, List.length_drop]
    omega
  · exact List.Subset.trans (List.take_subset _ _) (List.drop_subset _ _)

theorem warm_windows {α β : Type} {size : ℕ} {s : Set β} {values : List α}
    {entry : List α → Option β}
    (each : ∀ window ∈ slidingWindows size values, ∃ value ∈ s, entry window = some value) :
    Warm (size - 1) s (if values.length < size then List.replicate values.length none
      else List.replicate (size - 1) none ++ (slidingWindows size values).map entry) := by
  split
  · refine warm_short ?_
    rw [List.length_replicate]
    omega
  · refine warm_append ?_ (warm_map each)
    rw [List.length_replicate]

theorem warm_banded (period : ℕ) (band : List F → F) (close : List F) :
    Warm (period - 1) Set.univ (banded period band close) :=
  warm_windows fun window _ => ⟨band window, trivial, rfl⟩

theorem banded_le [LinearOrder F] {period n : ℕ} {band wider : List F → F}
    (ordered : ∀ window, band window ≤ wider window)
    {close : List F} {value larger : F} (here : (banded period band close)[n]? = some (some value))
    (there : (banded period wider close)[n]? = some (some larger)) : value ≤ larger := by
  have slots (band : List F → F) : banded period band close =
      (if close.length < period then List.replicate close.length none
        else List.replicate (period - 1) none ++
          (slidingWindows period close).map some).map (Option.map band) := by
    unfold banded
    split <;> simp
  rw [slots, List.getElem?_map, Option.map_eq_some_iff] at here there
  obtain ⟨slot, position, found⟩ := here
  obtain ⟨other, again, same⟩ := there
  obtain rfl : slot = other := Option.some_inj.mp (position.symm.trans again)
  obtain ⟨window, rfl, rfl⟩ := Option.map_eq_some_iff.mp found
  rw [Option.map_some, Option.some_inj] at same
  rw [← same]
  exact ordered window

section Bounds

theorem slice_prices {bars : List (Bar F)} {bar : Bar F} {kPeriod j : ℕ} (pos : 0 < kPeriod)
    (here : bars[kPeriod - 1 + j]? = some bar) (price : Bar F → F) :
    price bar ∈ ((bars.map price).drop j).take kPeriod := by
  refine List.mem_iff_getElem?.mpr ⟨kPeriod - 1, ?_⟩
  rw [List.getElem?_take_of_lt (by omega), List.getElem?_drop, Nat.add_comm, List.getElem?_map,
    here, Option.map_some]

variable [Field F] [PyMath F]

theorem warm_realizedVolatility (numerics : Numerics F) {returns : Series F} {window : ℕ}
    (pos : 0 < window) (warm : Warm 0 Set.univ returns) :
    Warm (window - 1) Set.univ (realizedVolatility numerics returns window) := by
  refine warm_windows fun entries member => ?_
  have subset := (mem_slidingWindows pos member).2
  have defined : entries.mapM id = some (entries.map fun entry => entry.getD 0) := by
    refine mapM_eq_some_iff.mpr (List.forall₂_map_right_iff.mpr (List.forall₂_same.mpr ?_))
    intro entry inside
    obtain ⟨value, -, rfl⟩ := warm entry (subset inside)
    rfl
  exact ⟨_, trivial, by rw [defined, Option.map_some]⟩

variable [ExactMath F]

theorem total_eq_sum (values : List F) : total values = values.sum := by
  rw [total, ExactMath.ofRat_eq, Rat.cast_zero, List.sum_eq_foldl]

variable [LinearOrder F] [IsStrictOrderedRing F]

theorem mean_mem_Icc {values : List F} {low high : F} (some : values ≠ [])
    (inside : ∀ value ∈ values, value ∈ Set.Icc low high) : mean values ∈ Set.Icc low high := by
  have count : (0 : F) < values.length := by exact_mod_cast List.length_pos_iff.mpr some
  have least := List.card_nsmul_le_sum values low fun value member => (inside value member).1
  have greatest := List.sum_le_card_nsmul values high fun value member => (inside value member).2
  rw [nsmul_eq_mul] at least greatest
  rw [mean, total_eq_sum, ExactMath.ofInt_eq, Int.cast_natCast]
  constructor
  · rw [le_div_iff₀ count, mul_comm]
    exact least
  · rw [div_le_iff₀ count, mul_comm]
    exact greatest

/-- What the indicators rely on of `np.log` and `np.sqrt`. -/
structure Numerics.Regular (numerics : Numerics F) : Prop where
  log_defined : ∀ value, 0 < value → (numerics.log value).isSome
  sqrt_nonneg : ∀ value, 0 ≤ value → 0 ≤ numerics.sqrt value

variable {numerics : Numerics F}

theorem std_nonneg (regular : numerics.Regular) (values : List F) :
    0 ≤ std numerics 0 values := by
  refine regular.sqrt_nonneg _ (div_nonneg ?_ ?_)
  · rw [total_eq_sum]
    refine List.sum_nonneg fun square member => ?_
    obtain ⟨value, -, rfl⟩ := List.mem_map.mp member
    exact mul_self_nonneg _
  · rw [ExactMath.ofInt_eq, Nat.cast_zero, sub_zero, Int.cast_natCast]
    exact Nat.cast_nonneg _

omit [ExactMath F] in
theorem trueRange_nonneg {bars : List (Bar F)} (ordered : ∀ bar ∈ bars, bar.low ≤ bar.high) :
    ∀ value ∈ trueRange (bars.map Bar.high) (bars.map Bar.low) (bars.map Bar.close),
      0 ≤ value := by
  have each : ∀ value ∈ ranges bars, 0 ≤ value := by
    intro value member
    obtain ⟨prices, inside, previous, -, rfl⟩ := exists_of_mem_zipWith member
    rw [List.zip_map'] at inside
    obtain ⟨bar, among, rfl⟩ := List.mem_map.mp inside
    have width : 0 ≤ bar.high - bar.low := sub_nonneg.mpr (ordered bar among)
    simp only [pyMax_eq_max]
    exact le_max_of_le_left (le_max_of_le_left width)
  rw [trueRange_eq]
  cases bars with
  | nil => exact fun _ member => absurd member List.not_mem_nil
  | cons first rest =>
      refine List.forall_mem_cons.mpr ⟨?_, fun value member =>
        each value (List.mem_of_mem_tail member)⟩
      exact sub_nonneg.mpr (ordered first List.mem_cons_self)

theorem warm_atr {bars : List (Bar F)} {period : ℕ+}
    (ordered : ∀ bar ∈ bars, bar.low ≤ bar.high) : Warm 1 (Set.Ici 0)
      (atr (bars.map Bar.high) (bars.map Bar.low) (bars.map Bar.close) period) := by
  rw [atr_eq]
  exact warm_replaceHead (ema_mem (convex_Ici 0) (trueRange_nonneg ordered))

theorem ema_between {close : List F} {period : ℕ+} {i : ℕ} {value : F}
    (here : ((ema close period).map some)[i]? = some (some value)) :
    minimum (close.take (i + 1)) ≤ value ∧ value ≤ maximum (close.take (i + 1)) := by
  rw [List.getElem?_map, Option.map_eq_some_iff] at here
  obtain ⟨average, here, same⟩ := here
  rw [Option.some_inj] at same
  subst same
  have inside := (List.getElem?_eq_some_iff.mp here).1
  rw [length_ema] at inside
  have some : close.take (i + 1) ≠ [] := List.ne_nil_of_length_pos (by
    rw [List.length_take]
    omega)
  have early : ema (close.take (i + 1)) period = (ema close period).take (i + 1) :=
    causal_ema period close (i + 1)
  have member : average ∈ ema (close.take (i + 1)) period := by
    rw [early]
    exact List.mem_iff_getElem?.mpr ⟨i, by
      rw [List.getElem?_take_of_lt (Nat.lt_succ_self i), here]⟩
  have between : ∀ price ∈ close.take (i + 1),
      price ∈ Set.Icc (minimum (close.take (i + 1))) (maximum (close.take (i + 1))) :=
    fun price among => ⟨(isLeast_minimum some).2 among, (isGreatest_maximum some).2 among⟩
  exact ema_mem (convex_Icc _ _) between average member

theorem strength_mem_Icc {gain loss : F} (gainNonneg : 0 ≤ gain) (lossNonneg : 0 ≤ loss) :
    strength gain loss ∈ Set.Icc 0 100 := by
  simp only [strength, ExactMath.ofRat_eq, Rat.cast_zero, Rat.cast_one, Rat.cast_ofNat]
  split
  · exact ⟨by norm_num, le_refl _⟩
  · have ratio : 1 ≤ 1 + gain / loss := le_add_of_nonneg_right (div_nonneg gainNonneg lossNonneg)
    have part : 100 / (1 + gain / loss) ≤ 100 := div_le_self (by norm_num) ratio
    have pos : 0 ≤ 100 / (1 + gain / loss) := div_nonneg (by norm_num) (by linarith)
    exact ⟨by linarith, by linarith⟩

theorem warm_rsi (close : List F) (period : ℕ+) :
    Warm period (Set.Icc 0 100) (rsi close period) := by
  intro entry member
  obtain ⟨n, here⟩ := List.mem_iff_getElem?.mp member
  rw [List.getElem?_drop] at here
  have inside := (List.getElem?_eq_some_iff.mp here).1
  rw [length_rsi] at inside
  rw [getElem?_rsi (Nat.le_add_right period n) inside, Option.some_inj] at here
  exact ⟨_, strength_mem_Icc (ema_nonneg (gains_nonneg close) _)
    (ema_nonneg (losses_nonneg close) _), here.symm⟩

theorem rawStochastic_mem_Icc {bars : List (Bar F)} {kPeriod : ℕ} (pos : 0 < kPeriod)
    (ordered : ∀ bar ∈ bars, bar.low ≤ bar.close ∧ bar.close ≤ bar.high) :
    ∀ value ∈ rawStochastic kPeriod bars, value ∈ Set.Icc 0 100 := by
  intro value member
  obtain ⟨j, here⟩ := List.mem_iff_getElem?.mp member
  obtain ⟨⟨highest, lowest⟩, close, extremes, price, rfl⟩ :=
    List.getElem?_zipWith_eq_some.mp here
  obtain ⟨highHere, lowHere⟩ := List.getElem?_zip_eq_some.mp extremes
  rw [List.getElem?_drop, List.getElem?_map, Option.map_eq_some_iff] at price
  rw [List.getElem?_map, Option.map_eq_some_iff] at highHere lowHere
  obtain ⟨bar, inside, rfl⟩ := price
  obtain ⟨highs, slice, top⟩ := highHere
  obtain ⟨lows, otherSlice, bottom⟩ := lowHere
  dsimp only at top bottom
  have high : bar.high ∈ highs := by
    rw [(getElem?_slidingWindows pos slice).1]
    exact slice_prices pos inside Bar.high
  have low : bar.low ∈ lows := by
    rw [(getElem?_slidingWindows pos otherSlice).1]
    exact slice_prices pos inside Bar.low
  have upper : bar.high ≤ highest := top ▸ (isGreatest_maximum (List.ne_nil_of_mem high)).2 high
  have lower : lowest ≤ bar.low := bottom ▸ (isLeast_minimum (List.ne_nil_of_mem low)).2 low
  obtain ⟨above, below⟩ := ordered bar (List.mem_of_getElem? inside)
  simp only [ExactMath.ofRat_eq, Rat.cast_zero, Rat.cast_ofNat]
  split
  · rename_i wide
    constructor
    · exact div_nonneg (mul_nonneg (by norm_num) (by linarith)) wide.le
    · rw [div_le_iff₀ wide]
      linarith
  · exact ⟨by norm_num, by norm_num⟩

theorem warm_stochastic {bars : List (Bar F)} {kPeriod dPeriod : ℕ} (kPos : 0 < kPeriod)
    (dPos : 0 < dPeriod) (ordered : ∀ bar ∈ bars, bar.low ≤ bar.close ∧ bar.close ≤ bar.high) :
    (Warm (kPeriod - 1) (Set.Icc 0 100) (stochastic (bars.map Bar.high) (bars.map Bar.low)
      (bars.map Bar.close) kPeriod dPeriod).k) ∧
    Warm (kPeriod + dPeriod - 2) (Set.Icc 0 100) (stochastic (bars.map Bar.high)
      (bars.map Bar.low) (bars.map Bar.close) kPeriod dPeriod).d := by
  have raw := rawStochastic_mem_Icc kPos ordered
  rw [stochastic_eq kPos dPos]
  constructor
  · dsimp only
    split
    · exact warm_short (by rw [List.length_replicate]; omega)
    · exact warm_append (by rw [List.length_replicate]) (warm_map_some raw)
  · dsimp only
    split
    · exact warm_short (by rw [List.length_replicate]; omega)
    · refine warm_append (by rw [List.length_replicate]) (warm_map fun window member => ?_)
      obtain ⟨length, subset⟩ := mem_slidingWindows dPos member
      have some : window ≠ [] := List.ne_nil_of_length_pos (length ▸ dPos)
      exact ⟨_, mean_mem_Icc some fun value inside => raw value (subset inside), rfl⟩

theorem warm_logReturns (regular : numerics.Regular) {close : List F}
    (pos : ∀ value ∈ close, 0 < value) : Warm 0 Set.univ (logReturns numerics close) := by
  have each : ∀ entry ∈ List.zipWith (fun value previous => numerics.log
      (if ofRat 0 < previous then value / previous else ofRat 1)) close (shifted close),
      ∃ value ∈ Set.univ, entry = some value := by
    intro entry member
    obtain ⟨value, inside, previous, -, rfl⟩ := exists_of_mem_zipWith member
    have ratio : 0 < if ofRat 0 < previous then value / previous else ofRat 1 := by
      simp only [ExactMath.ofRat_eq, Rat.cast_zero, Rat.cast_one]
      split
      · exact div_pos (pos value inside) (by assumption)
      · exact one_pos
    obtain ⟨result, same⟩ := Option.isSome_iff_exists.mp (regular.log_defined _ ratio)
    exact ⟨result, trivial, same⟩
  rw [logReturns_eq]
  generalize List.zipWith _ close (shifted close) = returns at each
  cases returns with
  | nil => exact warm_short le_rfl
  | cons first rest =>
      rw [replaceHead, List.map_id]
      intro entry member
      rcases List.mem_cons.mp member with rfl | later
      · exact ⟨_, trivial, rfl⟩
      · exact each entry (List.mem_cons_of_mem first later)

end Bounds

end Vix75
