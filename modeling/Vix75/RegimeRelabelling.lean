import Mathlib.Data.Fin.Tuple.Sort
import Mathlib.Data.List.Sort
import Vix75.InferenceChecks

/-! hmmlearn numbers its states as it happens. What ml-service says of a regime does not depend on
the numbers, as long as no two states are equally likely. -/

namespace Vix75

namespace Inference

/-- The order of `np.argsort`, with every NaN last. -/
def sortsBefore (first second : PyFloat) : Bool :=
  first.lt second || decide (first ≠ .nan ∧ second = .nan)

def argsort {n : ℕ} (values : Fin n → PyFloat) : List (Fin n) :=
  (List.finRange n).insertionSort fun i j => sortsBefore (values j) (values i) = false

theorem perm_argsort {n : ℕ} (values : Fin n → PyFloat) :
    (argsort values).Perm (List.finRange n) := List.perm_insertionSort ..

theorem ranking_cases (values : Fin 3 → PyFloat) :
    ∃ down range up, argsort values = [down, range, up] := by
  have size := (perm_argsort values).length_eq
  rw [List.length_finRange] at size
  match argsort values, size with
  | [down, range, up], _ => exact ⟨down, range, up, rfl⟩

def canonicalOrder (meanReturns : Fin 3 → PyFloat) : RegimeOrder where
  entries := [("S2", ((argsort meanReturns).getD 0 0).val),
    ("S0", ((argsort meanReturns).getD 1 0).val), ("S1", ((argsort meanReturns).getD 2 0).val)]
  labels := show ["S2", "S0", "S1"].Perm ["S0", "S1", "S2"] by decide
  states := by
    obtain ⟨down, range, up, ranked⟩ := ranking_cases meanReturns
    have all := (perm_argsort meanReturns).map Fin.val
    rw [ranked] at all ⊢
    exact all

section Relabelling

variable {n : ℕ}

def relabel {α : Type} (numbers : Equiv.Perm (Fin n)) (values : Fin n → α) : Fin n → α :=
  values ∘ numbers.symm

def finite (values : Fin n → ℚ) : Fin n → PyFloat := fun state => .finite (values state)

theorem argsort_finite (means : Fin n → ℚ) : argsort (finite means) =
    (List.finRange n).insertionSort fun i j => means i ≤ means j := by
  have order : (fun i j => sortsBefore (finite means j) (finite means i) = false) =
      fun i j => means i ≤ means j := by
    funext i j
    simp [sortsBefore, finite, PyFloat.lt]
  unfold argsort
  simp only [order]

theorem argsort_relabel (numbers : Equiv.Perm (Fin n)) {means : Fin n → ℚ}
    (distinct : Function.Injective means) : argsort (finite (relabel numbers means)) =
      (argsort (finite means)).map numbers := by
  have sorted (values : Fin n → ℚ) : (argsort (finite values)).Pairwise
      fun i j => values i ≤ values j := by
    rw [argsort_finite]
    have total : Std.Total fun i j => values i ≤ values j := ⟨fun i j => le_total _ _⟩
    have trans : IsTrans (Fin n) fun i j => values i ≤ values j := ⟨fun _ _ _ => le_trans⟩
    exact List.pairwise_insertionSort ..
  have same : (argsort (finite (relabel numbers means))).Perm
      ((argsort (finite means)).map numbers) := by
    refine (perm_argsort _).trans (.trans ?_ ((perm_argsort _).map numbers).symm)
    exact (List.perm_ext_iff_of_nodup (List.nodup_finRange n)
      ((List.nodup_finRange n).map numbers.injective)).mpr fun state => by
        simpa using ⟨numbers.symm state, numbers.apply_symm_apply state⟩
  have ranked : ((argsort (finite means)).map numbers).Pairwise
      fun i j => relabel numbers means i ≤ relabel numbers means j := by
    rw [List.pairwise_map]
    simpa [relabel] using sorted means
  refine same.eq_of_pairwise ?_ (sorted (relabel numbers means)) ranked
  intro i j _ _ first second
  exact numbers.symm.injective (distinct (le_antisymm first second))

end Relabelling

def posteriorOf (probabilities : Fin 3 → ℚ) : Posterior :=
  ⟨List.ofFn (finite probabilities), by simp⟩

theorem at_posteriorOf (probabilities : Fin 3 → ℚ) (state : Fin 3) :
    (posteriorOf probabilities).at state.val = .finite (probabilities state) := by
  fin_cases state <;> rfl

theorem argmax_posteriorOf (probabilities : Fin 3 → ℚ) :
    ∃ best : Fin 3, argmax (posteriorOf probabilities).probabilities = best.val ∧
      (∀ other, probabilities other ≤ probabilities best) ∧
      ∀ other < best, probabilities other < probabilities best := by
  have listed : (posteriorOf probabilities).probabilities =
      [.finite (probabilities 0), .finite (probabilities 1), .finite (probabilities 2)] := rfl
  rw [listed]
  simp only [argmax, argmaxFrom, PyFloat.lt, decide_eq_true_eq, ne_eq, reduceCtorEq,
    not_false_eq_true, true_and, false_or]
  by_cases second : probabilities 0 < probabilities 1
  · by_cases third : probabilities 1 < probabilities 2
    · refine ⟨2, by simp [second, third], fun other => ?_, fun other _ => ?_⟩
      · fin_cases other <;> simp <;> linarith
      · fin_cases other <;> simp_all
        linarith
    · refine ⟨1, by simp [second, third], fun other => ?_, fun other _ => ?_⟩
      · fin_cases other <;> simp <;> linarith
      · fin_cases other <;> simp_all
  · by_cases third : probabilities 0 < probabilities 2
    · refine ⟨2, by simp [second, third], fun other => ?_, fun other _ => ?_⟩
      · fin_cases other <;> simp <;> linarith
      · fin_cases other <;> simp_all
        linarith
    · refine ⟨0, by simp [second, third], fun other => ?_, fun other below => ?_⟩
      · fin_cases other <;> simp <;> linarith
      · exact absurd below (Fin.not_lt_zero other)

section Labels

variable {means probabilities : Fin 3 → ℚ} (numbers : Equiv.Perm (Fin 3))

theorem labelByState_ranked {values : Fin 3 → PyFloat} {down range up : Fin 3}
    (ranked : argsort values = [down, range, up]) (state : Fin 3) :
    (canonicalOrder values).labelByState state.val =
      if up = state then some "S1" else if range = state then some "S0"
      else if down = state then some "S2" else none := by
  simp only [RegimeOrder.labelByState, canonicalOrder, ranked, List.getD_cons_zero,
    List.getD_cons_succ, List.reverse_cons, List.reverse_nil, List.nil_append, List.cons_append,
    List.find?_cons, List.find?_nil, Fin.val_inj]
  by_cases top : up = state
  · simp [top]
  · by_cases middle : range = state
    · simp [top, middle]
    · by_cases bottom : down = state <;> simp [top, middle, bottom]

theorem label_relabel (distinct : Function.Injective means) (state : Fin 3) :
    (canonicalOrder (finite (relabel numbers means))).labelByState (numbers state).val =
      (canonicalOrder (finite means)).labelByState state.val := by
  obtain ⟨down, range, up, ranked⟩ := ranking_cases (finite means)
  have renamed := argsort_relabel numbers distinct
  rw [ranked, List.map_cons, List.map_cons, List.map_cons, List.map_nil] at renamed
  simp only [labelByState_ranked ranked, labelByState_ranked renamed, numbers.injective.eq_iff]

theorem probabilities_ranked {values : Fin 3 → PyFloat} {down range up : Fin 3}
    (ranked : argsort values = [down, range, up]) :
    (canonicalOrder values).probabilities (posteriorOf probabilities) =
      .ok [.finite (probabilities range), .finite (probabilities up),
        .finite (probabilities down)] := by
  simp [RegimeOrder.probabilities, RegimeOrder.state, canonicalOrder, ranked, List.lookup_cons,
    bind, Except.bind, at_posteriorOf]

theorem probabilities_relabel (distinct : Function.Injective means) :
    (canonicalOrder (finite (relabel numbers means))).probabilities
        (posteriorOf (relabel numbers probabilities)) =
      (canonicalOrder (finite means)).probabilities (posteriorOf probabilities) := by
  obtain ⟨down, range, up, ranked⟩ := ranking_cases (finite means)
  have renamed := argsort_relabel numbers distinct
  rw [ranked, List.map_cons, List.map_cons, List.map_cons, List.map_nil] at renamed
  rw [probabilities_ranked ranked, probabilities_ranked renamed]
  simp [relabel]

theorem label_injective {first second : Fin 3}
    (same : (canonicalOrder (finite means)).labelByState first.val =
      (canonicalOrder (finite means)).labelByState second.val) : first = second := by
  obtain ⟨down, range, up, ranked⟩ := ranking_cases (finite means)
  have listed (state : Fin 3) : state = down ∨ state = range ∨ state = up := by
    have member := (perm_argsort (finite means)).mem_iff.mpr (List.mem_finRange state)
    simpa [ranked] using member
  have distinct := (perm_argsort (finite means)).nodup_iff.mpr (List.nodup_finRange 3)
  simp only [ranked, List.nodup_cons, List.mem_cons, List.not_mem_nil, or_false, not_or] at distinct
  rw [labelByState_ranked ranked, labelByState_ranked ranked] at same
  rcases listed first with rfl | rfl | rfl <;> rcases listed second with rfl | rfl | rfl <;>
    first | rfl | simp_all [eq_comm]

theorem argmax_eq {best : Fin 3} (likeliest : ∀ other, other ≠ best →
    probabilities other < probabilities best) :
    argmax (posteriorOf probabilities).probabilities = best.val := by
  obtain ⟨chosen, is, most, _⟩ := argmax_posteriorOf probabilities
  rw [is]
  by_contra apart
  exact absurd (likeliest chosen fun same => apart (by rw [same])) (not_lt.mpr (most best))

theorem argmax_swap {state : Fin 3} (most : ∀ other, probabilities other ≤ probabilities state) :
    argmax (posteriorOf (relabel (Equiv.swap state 0) probabilities)).probabilities =
      (0 : Fin 3).val := by
  obtain ⟨first, is, _, strict⟩ := argmax_posteriorOf (relabel (Equiv.swap state 0) probabilities)
  rw [is]
  congr 1
  by_contra later
  have less := strict 0 (Fin.pos_iff_ne_zero.mpr later)
  have top : relabel (Equiv.swap state 0) probabilities 0 = probabilities state := by
    simp [relabel]
  rw [top] at less
  exact absurd less (not_lt.mpr (most _))

end Labels

/-! What is published -/

/-- A label and the probabilities; the raw state id is left out. -/
def said (predicted : Except PyError (String × ℕ × List PyFloat)) :
    Except PyError (String × List PyFloat) :=
  predicted.map fun regime => (regime.1, regime.2.2)

def cachedRegime (entry : Except PyError Json) : Except PyError (Option Json × Option Json) :=
  entry.map fun document => (document.item? "regime", document.item? "probabilities")

section Published

variable {order other : RegimeOrder} {posterior renamed : Posterior}

def regimeLabel (shortLabel : String) : String :=
  match shortToRegime.lookup shortLabel with
  | some regime => regime.value
  | none => shortLabel

theorem regimeLabel_injective {first second : String} (known : first ∈ ["S0", "S1", "S2"])
    (known' : second ∈ ["S0", "S1", "S2"]) (same : regimeLabel first = regimeLabel second) :
    first = second := by
  simp only [List.mem_cons, List.not_mem_nil, or_false] at known known'
  rcases known with rfl | rfl | rfl <;> rcases known' with rfl | rfl | rfl <;>
    first | rfl | exact absurd same (by decide)

theorem said_predictRegime {label : String} {probabilities : List PyFloat}
    (labelled : order.labelByState (argmax posterior.probabilities) = some label)
    (found : order.probabilities posterior = .ok probabilities) :
    said (predictRegime order posterior) = .ok (regimeLabel label, probabilities) := by
  simp only [predictRegime, labelled, found, bind, Except.bind, said, Except.map]
  rfl

theorem cachedRegime_regimeEntry {label : String} {probabilities : List PyFloat}
    (labelled : order.labelByState (argmax posterior.probabilities) = some label)
    (found : order.probabilities posterior = .ok probabilities)
    (symbol timeframe tsIso correlationId : String) :
    cachedRegime (regimeEntry order posterior symbol timeframe tsIso correlationId) =
      .ok (some (.str label), some (.list (probabilities.map Json.float))) := by
  simp [regimeEntry, labelled, found, bind, Except.bind, cachedRegime, Except.map, Json.item?,
    List.lookup_cons]

theorem published_congr
    (labels : other.labelByState (argmax renamed.probabilities) =
      order.labelByState (argmax posterior.probabilities))
    (same : other.probabilities renamed = order.probabilities posterior) :
    said (predictRegime other renamed) = said (predictRegime order posterior) ∧
      ∀ symbol timeframe tsIso correlationId,
        cachedRegime (regimeEntry other renamed symbol timeframe tsIso correlationId) =
          cachedRegime (regimeEntry order posterior symbol timeframe tsIso correlationId) := by
  obtain ⟨label, _, labelled⟩ := order.label_of_state posterior.argmax_lt_three
  obtain ⟨probabilities, found⟩ := order.probabilities_ok posterior
  rw [labelled] at labels
  rw [found] at same
  refine ⟨?_, fun symbol timeframe tsIso correlationId => ?_⟩
  · rw [said_predictRegime labels same, said_predictRegime labelled found]
  · rw [cachedRegime_regimeEntry labels same, cachedRegime_regimeEntry labelled found]

end Published

/-- The label and the probabilities that are served and cached are the same under every numbering
of the states exactly if one state is the likeliest. -/
theorem regime_survives_relabelling (means probabilities : Fin 3 → ℚ)
    (distinct : Function.Injective means) :
    (∃ best, ∀ other, other ≠ best → probabilities other < probabilities best) ↔
      ∀ numbers : Equiv.Perm (Fin 3),
        said (predictRegime (canonicalOrder (finite (relabel numbers means)))
            (posteriorOf (relabel numbers probabilities))) =
          said (predictRegime (canonicalOrder (finite means)) (posteriorOf probabilities)) ∧
        ∀ symbol timeframe tsIso correlationId,
          cachedRegime (regimeEntry (canonicalOrder (finite (relabel numbers means)))
              (posteriorOf (relabel numbers probabilities)) symbol timeframe tsIso correlationId) =
            cachedRegime (regimeEntry (canonicalOrder (finite means))
              (posteriorOf probabilities) symbol timeframe tsIso correlationId) := by
  constructor
  · rintro ⟨best, likeliest⟩ numbers
    refine published_congr ?_ (probabilities_relabel numbers distinct)
    have renamed : ∀ other, other ≠ numbers best →
        relabel numbers probabilities other < relabel numbers probabilities (numbers best) := by
      intro other apart
      have unlike : numbers.symm other ≠ best := fun same => apart (by rw [← same]; simp)
      simpa [relabel] using likeliest _ unlike
    rw [argmax_eq likeliest, argmax_eq renamed, label_relabel numbers distinct]
  · intro survives
    obtain ⟨chosen, is, most, _⟩ := argmax_posteriorOf probabilities
    refine ⟨chosen, fun other apart => lt_of_le_of_ne (most other) fun tie => apart ?_⟩
    -- under the number 0 the tied state comes first
    have renamedIs := argmax_swap fun state => (most state).trans_eq tie.symm
    obtain ⟨label, known, labelled⟩ := (canonicalOrder (finite means)).label_of_state
      (posteriorOf probabilities).argmax_lt_three
    obtain ⟨label', known', labelled'⟩ := (canonicalOrder (finite
      (relabel (Equiv.swap other 0) means))).label_of_state
        (posteriorOf (relabel (Equiv.swap other 0) probabilities)).argmax_lt_three
    obtain ⟨shown, found⟩ := (canonicalOrder (finite means)).probabilities_ok
      (posteriorOf probabilities)
    have found' := (probabilities_relabel (Equiv.swap other 0) distinct).trans found
    have told := (survives (Equiv.swap other 0)).1
    rw [said_predictRegime labelled found, said_predictRegime labelled' found',
      Except.ok.injEq, Prod.mk.injEq] at told
    have same := regimeLabel_injective known' known told.1
    have numbered := label_relabel (Equiv.swap other 0) distinct other
    rw [Equiv.swap_apply_left] at numbered
    rw [renamedIs, numbered] at labelled'
    rw [is] at labelled
    exact label_injective (labelled'.trans (same ▸ labelled.symm))

theorem regime_survives_relabelling_trend :
    said (predictRegime (canonicalOrder (finite (relabel (Equiv.swap 0 2)
        ![0, 1 / 1000, -1 / 1000]))) (posteriorOf (relabel (Equiv.swap 0 2)
          ![1 / 5, 7 / 10, 1 / 10]))) =
      .ok ("S1_trend_up", [.finite (1 / 5), .finite (7 / 10), .finite (1 / 10)]) := by
  have distinct : Function.Injective (![0, 1 / 1000, -1 / 1000] : Fin 3 → ℚ) := by decide +kernel
  have likeliest : ∃ best : Fin 3, ∀ other, other ≠ best →
      (![1 / 5, 7 / 10, 1 / 10] : Fin 3 → ℚ) other <
        (![1 / 5, 7 / 10, 1 / 10] : Fin 3 → ℚ) best := ⟨1, by decide +kernel⟩
  rw [((regime_survives_relabelling _ _ distinct).mp likeliest (Equiv.swap 0 2)).1]
  decide +kernel

end Inference

end Vix75
