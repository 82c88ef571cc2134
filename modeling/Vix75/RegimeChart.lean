import Vix75.FeatureStore

/-! visualization-service: the bands of the regime chart. One pass over the stored rows draws them,
and they show at every instant the regime of the newest row, up to the last row. -/

namespace Vix75

namespace RegimeChart

structure ChartRow where
  symbol : String
  timeframe : String
  ts : Timestamp
  regimeId : Option ℤ

def ChartRow.key (row : ChartRow) : String × String × Timestamp :=
  (row.symbol, row.timeframe, row.ts)

def regimeColors : List (ℤ × String) :=
  [(0, "rgba(158,158,158,0.12)"), (1, "rgba(76,175,80,0.10)"), (2, "rgba(244,67,54,0.10)")]

def regimeLabels : List (ℤ × String) := [(0, "S0 Range"), (1, "S1 Up"), (2, "S2 Down")]

structure Band where
  x0 : Timestamp
  x1 : Timestamp
  fillcolor : String
  opacity : ℚ := 6 / 10
  layer : String := "below"
  annotationText : String
  annotationFontSize : ℕ := 10
deriving DecidableEq

structure Loop where
  spanStart : ℕ := 0
  bands : List Band := []

/-- What is drawn for a span of rows; `none` is an IndexError. -/
def drawSpan (fTs : List Timestamp) (regimeIds : List ℤ) (spanStart i : ℕ) :
    Option (List Band) := do
  let rid ← regimeIds[spanStart]?
  if fTs = [] then some []
  else do
    let t0 ← fTs[spanStart]?
    let t1 ← fTs[min i (fTs.length - 1)]?
    match regimeColors.lookup rid with
    | some color => some [{
        x0 := t0
        x1 := t1
        fillcolor := color
        annotationText := (regimeLabels.lookup rid).getD "" }]
    | none => some []

def loopBody (fTs : List Timestamp) (regimeIds : List ℤ) (loop : Loop) (i : ℕ) : Option Loop :=
  if i = regimeIds.length ∨ regimeIds[i]? ≠ regimeIds[loop.spanStart]? then
    (drawSpan fTs regimeIds loop.spanStart i).map fun drawn => ⟨i, loop.bands ++ drawn⟩
  else some loop

/-- A band shows a regime at an instant. -/
def Band.Shows (band : Band) (t : Timestamp) (regime : ℤ) : Prop :=
  band.x0 ≤ t ∧ t < band.x1 ∧ regimeColors.lookup regime = some band.fillcolor ∧
    regimeLabels.lookup regime = some band.annotationText

section Times

variable {α : Type} [LinearOrder α]

def Between (times : List α) (k : ℕ) (t : α) : Prop :=
  ∃ t0 t1, times[k]? = some t0 ∧ times[k + 1]? = some t1 ∧ t0 ≤ t ∧ t < t1

theorem between_iff {times : List α} (sorted : times.Pairwise (· < ·)) {start stop : ℕ}
    (ordered : start ≤ stop) (within : stop < times.length) (t : α) :
    (∃ t0 t1, times[start]? = some t0 ∧ times[stop]? = some t1 ∧ t0 ≤ t ∧ t < t1) ↔
      ∃ k, start ≤ k ∧ k < stop ∧ Between times k t := by
  induction stop, ordered using Nat.le_induction with
  | base =>
      constructor
      · rintro ⟨t0, t1, first, second, lower, upper⟩
        obtain rfl : t0 = t1 := Option.some.inj (first.symm.trans second)
        exact absurd (lower.trans_lt upper) (lt_irrefl _)
      · rintro ⟨k, lower, upper, _⟩
        omega
  | succ stop ordered ih =>
      have ih := ih (by omega)
      have step : times[stop]? = some times[stop] := List.getElem?_eq_getElem (by omega)
      have next : times[stop + 1]? = some times[stop + 1] := List.getElem?_eq_getElem within
      constructor
      · rintro ⟨t0, t1, first, second, lower, upper⟩
        rcases lt_or_ge t times[stop] with early | late
        · obtain ⟨k, from_, below, between⟩ := ih.mp ⟨t0, times[stop], first, step, lower, early⟩
          exact ⟨k, from_, by omega, between⟩
        · exact ⟨stop, ordered, by omega, times[stop], t1, step, second, late, upper⟩
      · rintro ⟨k, from_, below, between⟩
        rcases Nat.lt_succ_iff_lt_or_eq.mp below with earlier | rfl
        · obtain ⟨t0, t1, first, second, lower, upper⟩ := ih.mpr ⟨k, from_, earlier, between⟩
          obtain rfl : times[stop] = t1 := Option.some.inj (step.symm.trans second)
          have rises : times[stop] < times[stop + 1] :=
            List.pairwise_iff_getElem.mp sorted stop (stop + 1) (by omega) within (by omega)
          exact ⟨t0, times[stop + 1], first, next, lower, upper.trans rises⟩
        · obtain ⟨t0, t1, first, second, lower, upper⟩ := between
          have begins : times[start]? = some times[start] := List.getElem?_eq_getElem (by omega)
          obtain rfl : times[k] = t0 := Option.some.inj (step.symm.trans first)
          refine ⟨times[start], t1, begins, second, ?_, upper⟩
          rcases from_.lt_or_eq with strictly | rfl
          · exact (List.pairwise_iff_getElem.mp sorted start k (by omega) (by omega)
              strictly).le.trans lower
          · exact lower

end Times

theorem color_cases {regime : ℤ} {color : String}
    (known : regimeColors.lookup regime = some color) :
    (regime = 0 ∧ color = "rgba(158,158,158,0.12)") ∨
      (regime = 1 ∧ color = "rgba(76,175,80,0.10)") ∨
      (regime = 2 ∧ color = "rgba(244,67,54,0.10)") := by
  by_cases first : regime = 0
  · subst first
    exact .inl ⟨rfl, (Option.some.inj known).symm⟩
  by_cases second : regime = 1
  · subst second
    exact .inr (.inl ⟨rfl, (Option.some.inj known).symm⟩)
  by_cases third : regime = 2
  · subst third
    exact .inr (.inr ⟨rfl, (Option.some.inj known).symm⟩)
  simp only [regimeColors, List.lookup_cons, beq_false_of_ne first, beq_false_of_ne second,
    beq_false_of_ne third, List.lookup_nil] at known
  cases known

theorem label_of_color {regime : ℤ} {color : String}
    (known : regimeColors.lookup regime = some color) :
    ∃ label, regimeLabels.lookup regime = some label := by
  rcases color_cases known with ⟨rfl, _⟩ | ⟨rfl, _⟩ | ⟨rfl, _⟩
  · exact ⟨"S0 Range", rfl⟩
  · exact ⟨"S1 Up", rfl⟩
  · exact ⟨"S2 Down", rfl⟩

theorem color_injective {regime other : ℤ} {color : String}
    (first : regimeColors.lookup regime = some color)
    (second : regimeColors.lookup other = some color) : regime = other := by
  rcases color_cases first with ⟨rfl, one⟩ | ⟨rfl, one⟩ | ⟨rfl, one⟩ <;>
    rcases color_cases second with ⟨rfl, two⟩ | ⟨rfl, two⟩ | ⟨rfl, two⟩ <;>
    first | rfl | exact absurd (one.symm.trans two) (by decide)

section Drawing

variable {fTs : List Timestamp} {regimeIds : List ℤ}

def Coloured (fTs : List Timestamp) (regimeIds : List ℤ) (k : ℕ) (t : Timestamp) (regime : ℤ) :
    Prop :=
  Between fTs k t ∧ regimeIds[k]? = some regime ∧ (regimeColors.lookup regime).isSome

theorem drawSpan_ok (sizes : fTs.length = regimeIds.length) {start : ℕ}
    (within : start < regimeIds.length) (stop : ℕ) :
    ∃ drawn, drawSpan fTs regimeIds start stop = some drawn ∧ drawn.length ≤ 1 ∧
      (∀ band ∈ drawn, fTs[start]? = some band.x0 ∧
        fTs[min stop (fTs.length - 1)]? = some band.x1) ∧
      ∀ t regime, (∃ band ∈ drawn, band.Shows t regime) ↔
        (∃ t0 t1, fTs[start]? = some t0 ∧ fTs[min stop (fTs.length - 1)]? = some t1 ∧
          t0 ≤ t ∧ t < t1) ∧
        regimeIds[start]? = some regime ∧ (regimeColors.lookup regime).isSome := by
  have rid : regimeIds[start]? = some regimeIds[start] := List.getElem?_eq_getElem within
  have t0 : fTs[start]? = some fTs[start] := List.getElem?_eq_getElem (by omega)
  have some_ : fTs ≠ [] := List.ne_nil_of_length_pos (by omega)
  obtain ⟨t1, ends⟩ : ∃ t1, fTs[min stop (fTs.length - 1)]? = some t1 :=
    ⟨fTs[min stop (fTs.length - 1)], List.getElem?_eq_getElem (by omega)⟩
  simp only [drawSpan, rid, t0, ends, if_neg some_, Option.bind_eq_bind, Option.bind_some]
  cases known : regimeColors.lookup regimeIds[start] with
  | none =>
      refine ⟨[], rfl, by simp, by simp, fun t regime => ?_⟩
      constructor
      · rintro ⟨band, member, _⟩
        cases member
      · rintro ⟨_, same, coloured⟩
        rw [← Option.some.inj same, known] at coloured
        cases coloured
  | some color =>
      obtain ⟨label, labelled⟩ := label_of_color known
      refine ⟨_, rfl, by simp, ?_, fun t regime => ?_⟩
      · intro band member
        obtain rfl := List.mem_singleton.mp member
        exact ⟨rfl, rfl⟩
      · constructor
        · rintro ⟨band, member, lower, upper, shown, _⟩
          obtain rfl := List.mem_singleton.mp member
          have same : regimeIds[start] = regime := color_injective known shown
          exact ⟨⟨_, _, rfl, rfl, lower, upper⟩, congrArg some same, by simp [shown]⟩
        · rintro ⟨⟨_, _, first, last, lower, upper⟩, same, _⟩
          obtain rfl := Option.some.inj same
          obtain rfl := Option.some.inj first
          obtain rfl := Option.some.inj last
          exact ⟨_, List.mem_singleton_self _, lower, upper, known, by simp [labelled]⟩

/-- What the loop has drawn when it comes to row `i`: everything before its span, whose rows have
one regime. -/
structure Drawn (fTs : List Timestamp) (regimeIds : List ℤ) (i : ℕ) (loop : Loop) : Prop where
  begun : loop.spanStart < i
  same : ∀ k, loop.spanStart ≤ k → k < i → regimeIds[k]? = regimeIds[loop.spanStart]?
  shown : ∀ t regime, (∃ band ∈ loop.bands, band.Shows t regime) ↔
    ∃ k < loop.spanStart, Coloured fTs regimeIds k t regime
  apart : loop.bands.Pairwise fun first second => first.x1 ≤ second.x0
  past : ∀ band ∈ loop.bands, ∀ time, fTs[loop.spanStart]? = some time → band.x1 ≤ time

theorem Drawn.close (sizes : fTs.length = regimeIds.length) (sorted : fTs.Pairwise (· < ·))
    {i : ℕ} {loop : Loop} (drawn : Drawn fTs regimeIds i loop) (within : i ≤ regimeIds.length) :
    ∃ bands, drawSpan fTs regimeIds loop.spanStart i = some bands ∧
      (∀ t regime, (∃ band ∈ loop.bands ++ bands, band.Shows t regime) ↔
        ∃ k < i, Coloured fTs regimeIds k t regime) ∧
      (loop.bands ++ bands).Pairwise (fun first second => first.x1 ≤ second.x0) ∧
      ∀ band ∈ loop.bands ++ bands, ∀ time, fTs[i]? = some time → band.x1 ≤ time := by
  have begun := drawn.begun
  obtain ⟨bands, drew, few, ends, shows⟩ := drawSpan_ok sizes (show loop.spanStart < _ by omega) i
  refine ⟨bands, drew, fun t regime => ?_, ?_, ?_⟩
  · -- The span is cut up by its rows, which share a regime.
    have spans := between_iff sorted (show loop.spanStart ≤ min i (fTs.length - 1) by omega)
      (by omega) t
    have new : (∃ band ∈ bands, band.Shows t regime) ↔
        ∃ k, loop.spanStart ≤ k ∧ k < i ∧ Coloured fTs regimeIds k t regime := by
      rw [shows, spans]
      constructor
      · rintro ⟨⟨k, from_, below, between⟩, rid, known⟩
        exact ⟨k, from_, by omega, between, (drawn.same k from_ (by omega)).trans rid, known⟩
      · rintro ⟨k, from_, below, between, rid, known⟩
        have follows : k + 1 < fTs.length := by
          obtain ⟨_, _, _, second, _⟩ := between
          exact (List.getElem?_eq_some_iff.mp second).1
        exact ⟨⟨k, from_, by omega, between⟩, (drawn.same k from_ below).symm.trans rid, known⟩
    simp only [List.mem_append, or_and_right, exists_or, drawn.shown, new]
    constructor
    · rintro (⟨k, below, coloured⟩ | ⟨k, _, below, coloured⟩)
      · exact ⟨k, by omega, coloured⟩
      · exact ⟨k, below, coloured⟩
    · rintro ⟨k, below, coloured⟩
      rcases Nat.lt_or_ge k loop.spanStart with earlier | later
      · exact .inl ⟨k, earlier, coloured⟩
      · exact .inr ⟨k, later, below, coloured⟩
  · refine List.pairwise_append.mpr ⟨drawn.apart, ?_, fun old member new fresh => ?_⟩
    · match bands, few with
      | [], _ => exact List.Pairwise.nil
      | [band], _ => exact List.pairwise_singleton _ _
    · exact drawn.past old member new.x0 (ends new fresh).1
  · intro band member time here
    have bound : i < fTs.length := (List.getElem?_eq_some_iff.mp here).1
    rcases List.mem_append.mp member with old | fresh
    · have first : fTs[loop.spanStart]? = some fTs[loop.spanStart] :=
        List.getElem?_eq_getElem (by omega)
      have rises : fTs[loop.spanStart] < fTs[i] :=
        List.pairwise_iff_getElem.mp sorted _ _ (by omega) bound begun
      have same := (List.getElem?_eq_some_iff.mp here).2
      exact (drawn.past band old _ first).trans (rises.le.trans same.le)
    · have last := (ends band fresh).2
      rw [show min i (fTs.length - 1) = i by omega, here] at last
      exact (Option.some.inj last).ge

theorem Drawn.step (sizes : fTs.length = regimeIds.length) (sorted : fTs.Pairwise (· < ·))
    {i : ℕ} {loop : Loop} (drawn : Drawn fTs regimeIds i loop) (within : i < regimeIds.length) :
    ∃ next, loopBody fTs regimeIds loop i = some next ∧ Drawn fTs regimeIds (i + 1) next := by
  by_cases ended : regimeIds[i]? = regimeIds[loop.spanStart]?
  · refine ⟨loop, by simp [loopBody, ended, within.ne], ?_⟩
    refine { drawn with begun := drawn.begun.trans (Nat.lt_succ_self i), same := ?_ }
    intro k from_ below
    rcases Nat.lt_succ_iff_lt_or_eq.mp below with earlier | rfl
    · exact drawn.same k from_ earlier
    · exact ended
  · obtain ⟨bands, drew, shown, apart, past⟩ := drawn.close sizes sorted within.le
    refine ⟨⟨i, loop.bands ++ bands⟩, by simp [loopBody, ended, drew], ?_⟩
    refine ⟨Nat.lt_succ_self i, fun k from_ below => ?_, shown, apart, past⟩
    have from_ : i ≤ k := from_
    obtain rfl : k = i := by omega
    rfl

theorem Drawn.run (sizes : fTs.length = regimeIds.length) (sorted : fTs.Pairwise (· < ·))
    (count : ℕ) {i : ℕ} {loop : Loop} (drawn : Drawn fTs regimeIds i loop)
    (within : i + count ≤ regimeIds.length) :
    ∃ next, (List.range' i count).foldlM (loopBody fTs regimeIds) loop = some next ∧
      Drawn fTs regimeIds (i + count) next := by
  induction count generalizing i loop with
  | zero => exact ⟨loop, rfl, drawn⟩
  | succ count ih =>
      obtain ⟨middle, stepped, drawn⟩ := drawn.step sizes sorted (by omega)
      obtain ⟨next, ran, drawn⟩ := ih drawn (by omega)
      refine ⟨next, ?_, by rwa [show i + (count + 1) = i + 1 + count by omega]⟩
      rw [List.range'_succ, List.foldlM_cons, stepped]
      exact ran

end Drawing

section Tables

variable (table : RegimeTable) (symbol timeframe : String) (since : Timestamp)

end Tables

end RegimeChart

end Vix75
