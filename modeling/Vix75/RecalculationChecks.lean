import Vix75.ConfluenceIndicator

/-! The indicator's calls, tick by tick, against one first call on the final history. -/

namespace Vix75

namespace Mt5

/-- A call of the terminal: its bars, of which the newest is still forming, what the handles give,
and whether the sequence restarts. -/
structure Call where
  ratesTotal : ℕ
  bar : ℕ → Bar ℚ
  terminal : Terminal
  restart : Bool := false

variable (inputs : Inputs)

def step (state : Indicator × ℕ) (call : Call) : Indicator × ℕ :=
  onCalculate inputs call.terminal call.bar state.1 call.ratesTotal
    (if call.restart then 0 else state.2)

def firstCall (call : Call) : Indicator × ℕ :=
  onCalculate inputs call.terminal call.bar {} call.ratesTotal 0

def Follows (call next : Call) : Prop :=
  call.ratesTotal ≤ next.ratesTotal ∧
    ∀ k, k + 1 < call.ratesTotal → next.bar k = call.bar k

/-- A run up to `call`, made in the state `before`, whose consecutive calls are allowed. -/
inductive Run (allowed : Indicator × ℕ → Call → Call → Prop) : Indicator × ℕ → Call → Prop
  | first (call : Call) : Run allowed ({}, 0) call
  | next {before : Indicator × ℕ} {call next : Call} (run : Run allowed before call)
      (follows : Follows call next) (allows : allowed before call next) :
      Run allowed (step inputs before call) next

/-- What two calculations of a zone must agree on. -/
def SdZone.look (zone : SdZone) : ZoneKind × ℚ × ℚ × ZoneState × Bool :=
  (zone.kind, zone.top, zone.bottom, zone.state, zone.active)

structure Recalculated (before : Indicator × ℕ) (call : Call) : Prop where
  buy : ∀ i, i + 1 < call.ratesTotal →
    (step inputs before call).1.buyArrow i = (firstCall inputs call).1.buyArrow i
  sell : ∀ i, i + 1 < call.ratesTotal →
    (step inputs before call).1.sellArrow i = (firstCall inputs call).1.sellArrow i
  zones : (step inputs before call).1.zones.map SdZone.look =
    (firstCall inputs call).1.zones.map SdZone.look

def settledZones (call : Call) : List SdZone :=
  (processBars inputs call.terminal call.bar call.ratesTotal {} (minBars inputs)
    (call.ratesTotal - 1)).zones

def FormingIdle (call : Call) : Prop :=
  detectNewZones inputs call.terminal call.bar (updateZoneStates inputs call.terminal call.bar
    (settledZones inputs call) (call.ratesTotal - 1)) (call.ratesTotal - 1) =
      settledZones inputs call

structure SameReadings (left right : Terminal) (i : ℕ) : Prop where
  atr : getIndValue left .atrLtf i = getIndValue right .atrLtf i
  rsi : getIndValue left .rsiLtf i = getIndValue right .rsiLtf i
  ema50 : getIndValue left .ema50Ltf i = getIndValue right .ema50Ltf i
  ema200 : getIndValue left .ema200Ltf i = getIndValue right .ema200Ltf i
  htfTrend : getHtfTrend left = getHtfTrend right
  regime : getRegimeProxy inputs left = getRegimeProxy inputs right

/-- A restart finds no zone; a call that goes on finds the zones as before the forming bar, and
reads for the bars it leaves out what was read for them before. -/
def Undisturbed (before : Indicator × ℕ) (call next : Call) : Prop :=
  if next.restart then (step inputs before call).1.zones = []
  else minBars inputs < call.ratesTotal → FormingIdle inputs call ∧
    ∀ i, minBars inputs ≤ i → i + 1 < call.ratesTotal →
      SameReadings inputs next.terminal call.terminal i

/-! What a bar depends on -/

section Congruence

variable {inputs} {left right : Terminal} {bars others : ℕ → Bar ℚ} {i : ℕ}

theorem body_congr {k : ℕ} (same : bars k = others k) : body bars k = body others k := by
  rw [body, body, same]

theorem averageBody_congr (same : ∀ k ≤ i, bars k = others k) {index : ℕ} (bound : index ≤ i)
    (count : ℕ) : averageBody bars index count = averageBody others index count := by
  have each (j : ℕ) : body bars (index - j) = body others (index - j) :=
    body_congr (same _ ((Nat.sub_le index j).trans bound))
  simp only [averageBody, each]

theorem walkBase_congr (same : ∀ k ≤ i, bars k = others k) (budget : ℕ) {position : ℕ}
    (bound : position ≤ i) : walkBase bars budget position = walkBase others budget position := by
  induction budget generalizing position with
  | zero => rw [walkBase, walkBase]
  | succ budget ih =>
      cases position with
      | zero => rfl
      | succ position =>
          have below : position ≤ i := (Nat.le_succ position).trans bound
          rw [walkBase, walkBase, body_congr (same position below),
            averageBody_congr same ((Nat.sub_le position 1).trans below), ih below]

theorem walkBase_le (budget position : ℕ) : walkBase bars budget position ≤ position := by
  induction budget generalizing position with
  | zero =>
      rw [walkBase]
      exact Nat.zero_le position
  | succ budget ih =>
      cases position with
      | zero => exact le_rfl
      | succ position =>
          rw [walkBase]
          split
          · exact Nat.zero_le _
          · exact Nat.succ_le_succ (ih position)

theorem newZone_congr (same : ∀ k ≤ i, bars k = others k)
    (atr : getIndValue left .atrLtf i = getIndValue right .atrLtf i) :
    newZone inputs left bars i = newZone inputs right others i := by
  have start := same (i - walkBase others inputs.maxBaseCandles i) (Nat.sub_le _ _)
  have span : (List.range (walkBase others inputs.maxBaseCandles i + 1)).map
      (fun j => bars (i - walkBase others inputs.maxBaseCandles i + j)) =
        (List.range (walkBase others inputs.maxBaseCandles i + 1)).map
          fun j => others (i - walkBase others inputs.maxBaseCandles i + j) := by
    refine List.map_congr_left fun j member => same _ ?_
    have bound := @walkBase_le others inputs.maxBaseCandles i
    have within := List.mem_range.mp member
    omega
  unfold newZone
  simp only [atr, body_congr (same i le_rfl), averageBody_congr same le_rfl,
    walkBase_congr same inputs.maxBaseCandles le_rfl, same i le_rfl, span, start]

theorem evaluateBar_congr (same : bars i = others i) (readings : SameReadings inputs left right i)
    (zones : List SdZone) :
    evaluateBar inputs left bars zones i = evaluateBar inputs right others zones i := by
  unfold evaluateBar
  rw [same, readings.atr, readings.rsi, readings.ema50, readings.ema200, readings.htfTrend,
    readings.regime]

theorem processBar_congr (same : ∀ k ≤ i, bars k = others k)
    (readings : SameReadings inputs left right i) {total other : ℕ}
    (closed : i + 1 < total ∧ i + 1 < other) (indicator : Indicator) :
    processBar inputs left bars total indicator i =
      processBar inputs right others other indicator i := by
  unfold processBar detectNewZones updateZoneStates
  simp only [closed, if_true, newZone_congr same readings.atr, readings.atr, same i le_rfl,
    evaluateBar_congr (same i le_rfl) readings]

end Congruence

section Loop

variable {inputs} {terminal : Terminal} {bar : ℕ → Bar ℚ} {total start mid stop : ℕ}

theorem processBars_empty (indicator : Indicator) (done : stop ≤ start) :
    processBars inputs terminal bar total indicator start stop = indicator := by
  rw [processBars, Nat.sub_eq_zero_of_le done]
  rfl

theorem processBars_cons (indicator : Indicator) (more : start < stop) :
    processBars inputs terminal bar total indicator start stop = processBars inputs terminal bar
      total (processBar inputs terminal bar total indicator start) (start + 1) stop := by
  obtain ⟨count, rfl⟩ := Nat.exists_eq_add_of_lt more
  have counts : start + count + 1 - start = count + 1 ∧
      start + count + 1 - (start + 1) = count := by omega
  rw [processBars, processBars, counts.1, counts.2]
  rfl

theorem processBars_append (indicator : Indicator) (lower : start ≤ mid) (upper : mid ≤ stop) :
    processBars inputs terminal bar total indicator start stop = processBars inputs terminal bar
      total (processBars inputs terminal bar total indicator start mid) mid stop := by
  obtain ⟨before, rfl⟩ := Nat.exists_eq_add_of_le lower
  obtain ⟨after, rfl⟩ := Nat.exists_eq_add_of_le upper
  have counts : start + before + after - start = before + after ∧
      start + before - start = before ∧ start + before + after - (start + before) = after := by
    omega
  rw [processBars, processBars, processBars, counts.1, counts.2.1, counts.2.2,
    ← List.range'_append_1, List.foldl_append]

theorem processBars_congr {other : Terminal} {others : ℕ → Bar ℚ} {count : ℕ}
    (same : ∀ i, start ≤ i → i < stop → ∀ indicator,
      processBar inputs terminal bar total indicator i =
        processBar inputs other others count indicator i) (indicator : Indicator) :
    processBars inputs terminal bar total indicator start stop =
      processBars inputs other others count indicator start stop := by
  refine List.foldl_ext _ _ _ fun indicator i member => ?_
  have bounds := List.mem_range'_1.mp member
  exact same i bounds.1 (by omega) indicator

structure SameOutside (start stop : ℕ) (left right : Indicator) : Prop where
  zones : left.zones = right.zones
  buy : ∀ i, ¬(start ≤ i ∧ i < stop) → left.buyArrow i = right.buyArrow i
  sell : ∀ i, ¬(start ≤ i ∧ i < stop) → left.sellArrow i = right.sellArrow i

theorem setArrow_congr {left right : ℕ → Option ℚ}
    (same : ∀ i, ¬(start ≤ i ∧ i < stop) → left i = right i) (value : Option ℚ) (i : ℕ)
    (outside : ¬(start + 1 ≤ i ∧ i < stop)) :
    setArrow left start value i = setArrow right start value i := by
  unfold setArrow
  split
  · rfl
  · refine same i ?_
    omega

theorem SameOutside.processBar {left right : Indicator} (same : SameOutside start stop left right) :
    SameOutside (start + 1) stop (processBar inputs terminal bar total left start)
      (processBar inputs terminal bar total right start) := by
  unfold Mt5.processBar
  rw [same.zones]
  exact ⟨rfl, setArrow_congr same.buy _, setArrow_congr same.sell _⟩

theorem SameOutside.processBars {left right : Indicator} (same : SameOutside start stop left right)
    (ordered : start ≤ stop) : processBars inputs terminal bar total left start stop =
      processBars inputs terminal bar total right start stop := by
  obtain ⟨count, rfl⟩ := Nat.exists_eq_add_of_le ordered
  induction count generalizing start left right with
  | zero =>
      rw [Nat.add_zero] at same ⊢
      rw [processBars_empty left le_rfl, processBars_empty right le_rfl]
      have buy : left.buyArrow = right.buyArrow := funext fun i => same.buy i (by omega)
      have sell : left.sellArrow = right.sellArrow := funext fun i => same.sell i (by omega)
      cases left
      cases right
      simp only [Indicator.mk.injEq]
      exact ⟨same.zones, buy, sell⟩
  | succ count ih =>
      have shifted : start + (count + 1) = start + 1 + count := by omega
      rw [processBars_cons left (by omega), processBars_cons right (by omega)]
      rw [shifted] at same ⊢
      exact ih same.processBar (by omega)

theorem processBars_outside (indicator : Indicator) (ordered : start ≤ stop) (i : ℕ)
    (outside : ¬(start ≤ i ∧ i < stop)) :
    (processBars inputs terminal bar total indicator start stop).buyArrow i = indicator.buyArrow i ∧
      (processBars inputs terminal bar total indicator start stop).sellArrow i =
        indicator.sellArrow i := by
  obtain ⟨count, rfl⟩ := Nat.exists_eq_add_of_le ordered
  induction count generalizing start indicator with
  | zero =>
      rw [Nat.add_zero, processBars_empty indicator le_rfl]
      exact ⟨rfl, rfl⟩
  | succ count ih =>
      have shifted : start + (count + 1) = start + 1 + count := by omega
      have later : ¬(start + 1 ≤ i ∧ i < start + 1 + count) := by omega
      rw [processBars_cons indicator (by omega), shifted]
      obtain ⟨buy, sell⟩ := ih (processBar inputs terminal bar total indicator start) (by omega)
        later
      have other : i ≠ start := by omega
      rw [buy, sell]
      exact ⟨if_neg other, if_neg other⟩

end Loop

section Runs

variable {inputs} {before : Indicator × ℕ} {call next : Call}

theorem firstCall_few (few : call.ratesTotal < minBars inputs) :
    firstCall inputs call = ({}, 0) := if_pos few

theorem firstCall_enough (enough : minBars inputs ≤ call.ratesTotal) :
    firstCall inputs call = (processBars inputs call.terminal call.bar call.ratesTotal {}
      (minBars inputs) call.ratesTotal, call.ratesTotal) := by
  rw [firstCall, onCalculate, if_neg (not_lt.mpr enough), Nat.zero_sub, Nat.zero_max]

theorem firstCall_outside (i : ℕ) (outside : ¬(minBars inputs ≤ i ∧ i < call.ratesTotal)) :
    (firstCall inputs call).1.buyArrow i = none ∧ (firstCall inputs call).1.sellArrow i = none := by
  by_cases few : call.ratesTotal < minBars inputs
  · rw [firstCall_few few]
    exact ⟨rfl, rfl⟩
  · rw [firstCall_enough (not_lt.mp few)]
    exact processBars_outside {} (not_lt.mp few) i outside

theorem recalculates (enough : minBars inputs ≤ next.ratesTotal)
    (grown : call.ratesTotal ≤ next.ratesTotal)
    (untracked : (firstCall inputs call).1.zones = []) :
    processBars inputs next.terminal next.bar next.ratesTotal (firstCall inputs call).1
      (minBars inputs) next.ratesTotal = (firstCall inputs next).1 := by
  have outside (i : ℕ) (beyond : ¬(minBars inputs ≤ i ∧ i < next.ratesTotal)) :=
    @firstCall_outside inputs call i (by omega)
  rw [firstCall_enough enough]
  exact SameOutside.processBars ⟨untracked, fun i beyond => (outside i beyond).1,
    fun i beyond => (outside i beyond).2⟩ enough

theorem continues (follows : Follows call next) (more : minBars inputs < call.ratesTotal)
    (idle : FormingIdle inputs call)
    (readings : ∀ i, minBars inputs ≤ i → i + 1 < call.ratesTotal →
      SameReadings inputs next.terminal call.terminal i) :
    processBars inputs next.terminal next.bar next.ratesTotal (firstCall inputs call).1
      (call.ratesTotal - 1) next.ratesTotal = (firstCall inputs next).1 := by
  obtain ⟨newest, same⟩ := Nat.exists_eq_succ_of_ne_zero (Nat.ne_zero_of_lt more)
  obtain ⟨grown, closed⟩ := follows
  have settled : processBars inputs next.terminal next.bar next.ratesTotal {} (minBars inputs)
      newest = processBars inputs call.terminal call.bar call.ratesTotal {} (minBars inputs)
        newest := by
    refine processBars_congr (fun i lower upper indicator => ?_) {}
    refine processBar_congr (fun k bound => closed k (by omega)) (readings i lower (by omega)) ?_
      indicator
    omega
  have left : (firstCall inputs call).1 = processBar inputs call.terminal call.bar call.ratesTotal
      (processBars inputs call.terminal call.bar call.ratesTotal {} (minBars inputs) newest)
        newest := by
    rw [firstCall_enough more.le]
    dsimp only
    rw [@processBars_append _ _ _ _ _ newest _ {} (by omega) (by omega),
      processBars_cons _ (by omega), processBars_empty _ (by omega)]
  have shown : call.ratesTotal - 1 = newest := by omega
  rw [FormingIdle, settledZones, shown] at idle
  have whole : processBars inputs next.terminal next.bar next.ratesTotal {} (minBars inputs)
      next.ratesTotal = processBars inputs next.terminal next.bar next.ratesTotal
        (processBars inputs next.terminal next.bar next.ratesTotal {} (minBars inputs) newest)
        newest next.ratesTotal :=
    processBars_append {} (by omega) (by omega)
  rw [firstCall_enough (more.le.trans grown), left, shown]
  dsimp only
  rw [whole, settled]
  refine SameOutside.processBars ⟨idle, fun i beyond => ?_, fun i beyond => ?_⟩ (by omega)
  · exact if_neg (by omega)
  · exact if_neg (by omega)

theorem step_eq_firstCall (run : Run inputs (Undisturbed inputs) before call) :
    step inputs before call = firstCall inputs call := by
  induction run with
  | first call => rw [step, ite_self, firstCall]
  | @next before call next run follows allows ih =>
      rw [Undisturbed, ih] at allows
      rw [ih, step]
      by_cases few : next.ratesTotal < minBars inputs
      · have fewer := follows.1.trans_lt few
        rw [firstCall_few few, firstCall_few fewer, onCalculate, if_pos few]
      have enough := not_lt.mp few
      rw [onCalculate, if_neg few]
      have whole : firstCall inputs next = ((firstCall inputs next).1, next.ratesTotal) := by
        rw [firstCall_enough enough]
      rw [whole, Prod.mk.injEq]
      refine ⟨?_, rfl⟩
      cases restarts : next.restart with
      | true =>
          rw [if_pos restarts] at allows
          rw [if_pos rfl, Nat.zero_sub, Nat.zero_max]
          exact recalculates enough follows.1 allows
      | false =>
          rw [restarts, if_neg Bool.false_ne_true] at allows
          rw [if_neg Bool.false_ne_true]
          by_cases more : minBars inputs < call.ratesTotal
          · obtain ⟨idle, readings⟩ := allows more
            have returned : (firstCall inputs call).2 = call.ratesTotal := by
              rw [firstCall_enough more.le]
            rw [returned, max_eq_left (by omega)]
            exact continues follows more idle readings
          · obtain ⟨untracked, returned⟩ : (firstCall inputs call).1.zones = [] ∧
                (firstCall inputs call).2 ≤ minBars inputs := by
              by_cases fewer : call.ratesTotal < minBars inputs
              · rw [firstCall_few fewer]
                exact ⟨rfl, Nat.zero_le _⟩
              · rw [firstCall_enough (not_lt.mp fewer)]
                dsimp only
                rw [processBars_empty _ (not_lt.mp more)]
                exact ⟨rfl, not_lt.mp more⟩
            rw [max_eq_right (by omega)]
            exact recalculates enough follows.1 untracked

/-- Over every run in which a forming bar leaves no trace, readings stay what they were and no
restart finds a zone. -/
theorem run_recalculated (run : Run inputs (Undisturbed inputs) before call) :
    Recalculated inputs before call := by
  have same := step_eq_firstCall run
  exact ⟨fun i _ => by rw [same], fun i _ => by rw [same], by rw [same]⟩

end Runs

namespace Sample

def shortInputs : Inputs where
  emaSlow := 1
  atrPeriod := 1

def flat : Terminal := fun _ _ _ => some 1

def history (newest : Bar ℚ) (k : ℕ) : Bar ℚ :=
  if k < 12 then ⟨0, 100, 101, 99, 100⟩
  else if k = 12 then ⟨0, 100, 110, 100, 110⟩
  else newest

def tick (ratesTotal : ℕ) (newest : Bar ℚ) : Call where
  ratesTotal := ratesTotal
  bar := history newest
  terminal := flat

def above : Bar ℚ := ⟨0, 120, 121, 119, 120⟩

def dipping : Bar ℚ := ⟨0, 987 / 10, 100, 98, 98⟩

def recovered : Bar ℚ := ⟨0, 987 / 10, 100, 98, 995 / 10⟩

end Sample

theorem run_recalculated_above :
    Recalculated Sample.shortInputs (step Sample.shortInputs ({}, 0) (Sample.tick 14 Sample.above))
      (Sample.tick 15 Sample.above) ∧
    (firstCall Sample.shortInputs (Sample.tick 15 Sample.above)).1.zones.length = 1 := by
  constructor
  · refine run_recalculated (.next (.first _) ⟨by decide, fun _ _ => rfl⟩ ?_)
    intro _
    refine ⟨?_, fun i _ _ => ⟨rfl, rfl, rfl, rfl, rfl, rfl⟩⟩
    unfold FormingIdle
    decide +kernel
  · decide +kernel

/-- A tick below the zone breaks it for good, though the bar closes in it. -/
theorem run_not_recalculated : ¬∀ before call,
    Run Sample.shortInputs (fun _ _ _ => True) before call →
      Recalculated Sample.shortInputs before call := by
  intro recalculated
  have run : Run Sample.shortInputs (fun _ _ _ => True) (step Sample.shortInputs ({}, 0)
      (Sample.tick 14 Sample.dipping)) (Sample.tick 14 Sample.recovered) := by
    refine .next (.first _) ⟨le_rfl, fun k closed => ?_⟩ trivial
    have earlier : k < 13 := Nat.lt_of_succ_lt_succ closed
    simp only [Sample.tick, Sample.history]
    split
    · rfl
    · rw [if_pos (by omega), if_pos (by omega)]
  have same := (recalculated _ _ run).zones
  exact absurd same (by decide +kernel)

end Mt5

end Vix75
