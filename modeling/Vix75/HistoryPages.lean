import Vix75.BackfillChecks

/-! The pages of a backfill: a generator that counts positions back from the newest bar, while
bars keep opening between its calls. -/

namespace Vix75

open EffectProgram

namespace BrokerHistory

variable {F : Type} {history middle after : BrokerHistory F} {opened : ℕ}

inductive Grows (history : BrokerHistory F) : BrokerHistory F → ℕ → Prop
  | still : Grows history history 0
  | tick {middle after : BrokerHistory F} {opened : ℕ} {bar : Bar F} :
      Grows history middle opened → middle.tick bar = some after → Grows history after opened
  | opens {middle after : BrokerHistory F} {opened : ℕ} {bar : Bar F} :
      Grows history middle opened → middle.opens bar = some after → Grows history after (opened + 1)

end BrokerHistory

namespace Data

section Generator

variable {F : Type}

def feed (now : Timestamp) (copyRates : ℕ → ℕ → ℕ → Option (List (Bar F))) (call : ℕ) :
    (effect : DataEffect F) → Except PyError effect.Reply × ℕ
  | .now => (.ok now, call)
  | .copyRatesFromPos _ _ start count => (.ok (copyRates call start count), call + 1)
  | _ => (.error .noGroup, call)

def keep (pages : List (List (Bar F))) (rates : List (Bar F)) :
    Program F (List (List (Bar F))) :=
  .done (pages ++ [rates])

/-- What the generator yields to a loop over it, or `none` if the fuel runs out. `copyRates`
answers a call by its number, its position and its count. -/
def historyChunks (copyRates : ℕ → ℕ → ℕ → Option (List (Bar F))) (symbol timeframe : String)
    (now : Timestamp) (lookbackDays : ℤ) (chunkSize fuel : ℕ) :
    Except PyError (Option (List (List (Bar F)))) :=
  (Prog.eval (feed now copyRates) 0
    (iterHistoryChunks keep symbol timeframe lookbackDays chunkSize fuel [])).1.map fun kept =>
      if kept.2 then some kept.1 else none

def yieldPages (copyRates : ℕ → ℕ → ℕ → Option (List (Bar F))) (chunkSize : ℕ)
    (cutoff : Timestamp) : ℕ → ℕ → ℕ → Option (List (List (Bar F)))
  | 0, _, _ => none
  | fuel + 1, call, startPos =>
      match copyRates call startPos chunkSize with
      | none => some []
      | some [] => some []
      | some (oldest :: later) =>
          let rates := oldest :: later
          if oldest.ts ≤ cutoff ∨ rates.length < chunkSize then some [rates]
          else (yieldPages copyRates chunkSize cutoff fuel (call + 1) (startPos + rates.length)).map
            fun pages => rates :: pages

variable {copyRates : ℕ → ℕ → ℕ → Option (List (Bar F))} {symbol timeframe : String}
variable {now cutoff : Timestamp} {lookbackDays : ℤ} {chunkSize : ℕ}

theorem iterPages_eval (fuel call startPos : ℕ) (before : List (List (Bar F))) :
    (Prog.eval (feed now copyRates) call
      (iterPages keep symbol timeframe chunkSize cutoff fuel startPos before)).1.map
        (fun kept => if kept.2 then some kept.1 else none) =
      .ok ((yieldPages copyRates chunkSize cutoff fuel call startPos).map (before ++ ·)) := by
  induction fuel generalizing call startPos before with
  | zero => rfl
  | succ fuel ih =>
      rw [iterPages, yieldPages, Prog.eval_perform_bind]
      simp only [feed]
      rcases copyRates call startPos chunkSize with _ | _ | ⟨oldest, later⟩
      · simp [Except.map]
      · simp [Except.map]
      · simp only [keep, Prog.done_bind]
        split
        next ended => rfl
        next going =>
          rw [ih, Option.map_map]
          simp [Function.comp_def]

theorem historyChunks_eq (known : ¬(timeframe ∉ Ingest.ingestTimeframes ∧
      timeframe ∉ ["M30", "H4", "D1"])) (fuel : ℕ) :
    historyChunks copyRates symbol timeframe now lookbackDays chunkSize fuel =
      (cutoffOf now lookbackDays).map fun cutoff =>
        yieldPages copyRates chunkSize cutoff fuel 0 0 := by
  rw [historyChunks, iterHistoryChunks, if_neg known, Prog.eval_perform_bind]
  simp only [feed]
  cases cutoffOf now lookbackDays with
  | error error => rfl
  | ok cutoff =>
      refine (iterPages_eval fuel 0 0 []).trans ?_
      simp [Except.map]

end Generator

end Data

namespace BrokerHistory

variable {F : Type} {history middle after : BrokerHistory F} {opened start count i : ℕ}

theorem Grows.length (grown : Grows history after opened) :
    after.bars.length = history.bars.length + opened := by
  induction grown with
  | still => rfl
  | tick _ moved ih =>
      obtain ⟨bars, forming, last, _⟩ := tick_eq_some moved
      have inhabited := List.length_pos_of_mem (List.mem_of_getLast? last)
      rw [bars, List.length_append, List.length_dropLast, List.length_singleton, ← ih]
      omega
  | opens _ opened ih =>
      rw [opens_eq_some opened, List.length_append, List.length_singleton, ih, Nat.add_assoc]

theorem Grows.closed_prefix (grown : Grows history after opened) :
    history.closed <+: after.closed := by
  induction grown with
  | still => exact List.prefix_rfl
  | tick _ moved ih => exact closed_tick moved ▸ ih
  | opens _ opened ih =>
      rw [closed_opens opened]
      exact ih.trans (List.dropLast_prefix _)

theorem Grows.mem (grown : Grows history after opened) {bar : Bar F} (member : bar ∈ history.bars) :
    ∃ row ∈ after.bars, row.ts = bar.ts := by
  induction grown with
  | still => exact ⟨bar, member, rfl⟩
  | tick _ moved ih =>
      obtain ⟨row, known, same⟩ := ih
      rcases mem_tick moved known with kept | replaced
      · exact ⟨row, kept, same⟩
      · exact ⟨_, tick_mem moved, replaced.symm.trans same⟩
  | opens _ opened ih =>
      obtain ⟨row, known, same⟩ := ih
      exact ⟨row, opens_eq_some opened ▸ List.mem_append_left _ known, same⟩

theorem Grows.of_closed (grown : Grows history after opened) {bar row : Bar F}
    (member : bar ∈ history.closed) (here : row ∈ after.bars) (same : row.ts = bar.ts) :
    row = bar :=
  after.eq_of_ts here (after.closed_subset (grown.closed_prefix.subset member)) same

theorem Grows.getElem? (grown : Grows history after opened) (below : i + 1 < history.bars.length) :
    after.bars[i]? = history.bars[i]? := by
  have inside : i < history.closed.length := by
    rw [closed, List.length_dropLast]
    omega
  obtain ⟨later, whole⟩ := grown.closed_prefix.trans (List.dropLast_prefix after.bars)
  rw [← whole, List.getElem?_append_left inside, closed, List.getElem?_dropLast,
    if_pos (by omega)]

theorem ts_lt_of_lt (history : BrokerHistory F) {j : ℕ} {bar other : Bar F}
    (here : history.bars[i]? = some bar) (there : history.bars[j]? = some other) (before : i < j) :
    bar.ts < other.ts := by
  obtain ⟨inside, rfl⟩ := List.getElem?_eq_some_iff.mp here
  obtain ⟨within, rfl⟩ := List.getElem?_eq_some_iff.mp there
  have ascending := List.pairwise_iff_getElem.mp history.ascending i j (by simpa) (by simpa) before
  simpa using ascending

theorem length_copyRatesFromPos (history : BrokerHistory F) (start count : ℕ) :
    (history.copyRatesFromPos start count).length = min count (history.bars.length - start) := by
  rw [copyRatesFromPos, List.length_drop, List.length_take]
  omega

theorem getElem?_copyRatesFromPos (history : BrokerHistory F) (start count i : ℕ) :
    (history.copyRatesFromPos start count)[i]? =
      if history.bars.length - start - count + i < history.bars.length - start then
        history.bars[history.bars.length - start - count + i]? else none := by
  rw [copyRatesFromPos, List.getElem?_drop, List.getElem?_take]

theorem mem_copyRatesFromPos {bar : Bar F} (here : history.bars[i]? = some bar)
    (above : i + start < history.bars.length) (within : history.bars.length ≤ i + start + count) :
    bar ∈ history.copyRatesFromPos start count := by
  rw [List.mem_iff_getElem?]
  refine ⟨i - (history.bars.length - start - count), ?_⟩
  rw [getElem?_copyRatesFromPos]
  have place : history.bars.length - start - count +
      (i - (history.bars.length - start - count)) = i := by omega
  rw [place, if_pos (by omega), here]

end BrokerHistory

namespace Data

section Coverage

variable {F : Type} {copyRates : ℕ → ℕ → ℕ → Option (List (Bar F))}
  {histories : ℕ → BrokerHistory F} {chunkSize fuel call startPos : ℕ} {cutoff : Timestamp}
  {pages : List (List (Bar F))}

def Answered (copyRates : ℕ → ℕ → ℕ → Option (List (Bar F))) (histories : ℕ → BrokerHistory F) :
    Prop :=
  ∀ call start count,
    (copyRates call start count).getD [] = (histories call).copyRatesFromPos start count

/-- Fewer bars than a chunk holds open between a call and the next one. -/
def SlowMarket (histories : ℕ → BrokerHistory F) (chunkSize : ℕ) : Prop :=
  ∀ call, ∃ opened < chunkSize, (histories call).Grows (histories (call + 1)) opened

theorem yieldPages_succ (answered : Answered copyRates histories)
    (yielded : yieldPages copyRates chunkSize cutoff (fuel + 1) call startPos = some pages) :
    (pages = [] ∧ (histories call).copyRatesFromPos startPos chunkSize = []) ∨
      ∃ oldest later, (histories call).copyRatesFromPos startPos chunkSize = oldest :: later ∧
        ((oldest.ts ≤ cutoff ∨ (oldest :: later).length < chunkSize) ∧ pages = [oldest :: later] ∨
          chunkSize ≤ (oldest :: later).length ∧ ∃ rest, pages = (oldest :: later) :: rest ∧
            yieldPages copyRates chunkSize cutoff fuel (call + 1)
              (startPos + (oldest :: later).length) = some rest) := by
  have told := answered call startPos chunkSize
  rw [yieldPages] at yielded
  rcases reply : copyRates call startPos chunkSize with _ | _ | ⟨oldest, later⟩
  · rw [reply] at yielded told
    exact .inl ⟨(Option.some.inj yielded).symm, told.symm⟩
  · rw [reply] at yielded told
    exact .inl ⟨(Option.some.inj yielded).symm, told.symm⟩
  · rw [reply] at yielded told
    refine .inr ⟨oldest, later, told.symm, ?_⟩
    simp only at yielded
    split at yielded
    next ended => exact .inl ⟨ended, (Option.some.inj yielded).symm⟩
    next going =>
      obtain ⟨rest, more, rfl⟩ := Option.map_eq_some_iff.mp yielded
      exact .inr ⟨not_lt.mp fun short => going (.inr short), rest, rfl, more⟩

/-- Induction on the pages: a bar that the next page leaves out is below the newest one, so it
keeps its place while bars open, and its position only grows. -/
theorem yieldPages_covers (answered : Answered copyRates histories)
    (slow : SlowMarket histories chunkSize) (positive : 1 ≤ chunkSize)
    (yielded : yieldPages copyRates chunkSize cutoff fuel call startPos = some pages)
    {i : ℕ} {bar : Bar F} (here : (histories call).bars[i]? = some bar)
    (above : i + startPos < (histories call).bars.length) (recent : cutoff ≤ bar.ts) :
    ∃ page ∈ pages, bar ∈ page := by
  induction fuel generalizing call startPos pages with
  | zero => cases yielded
  | succ fuel ih =>
      have size := (histories call).length_copyRatesFromPos startPos chunkSize
      rcases yieldPages_succ answered yielded with ⟨rfl, empty⟩ | ⟨oldest, later, page, stops⟩
      · rw [empty, List.length_nil] at size
        omega
      · by_cases within : (histories call).bars.length ≤ i + startPos + chunkSize
        · have member := BrokerHistory.mem_copyRatesFromPos here above within
          rw [page] at member
          rcases stops with ⟨_, rfl⟩ | ⟨_, rest, rfl, _⟩
          · exact ⟨_, List.mem_singleton_self _, member⟩
          · exact ⟨_, List.mem_cons_self, member⟩
        · rw [page] at size
          rcases stops with ⟨old | short, rfl⟩ | ⟨_, rest, rfl, more⟩
          · -- the bar is older than the oldest one of the page
            have first : (histories call).bars[(histories call).bars.length - startPos -
                chunkSize]? = some oldest := by
              have head := (histories call).getElem?_copyRatesFromPos startPos chunkSize 0
              rw [page, if_pos (by omega)] at head
              exact head.symm
            have older : bar.ts < oldest.ts := (histories call).ts_lt_of_lt here first (by omega)
            exact absurd (recent.trans_lt older) (not_lt.mpr old)
          · omega
          · obtain ⟨opened, _, grown⟩ := slow call
            have longer := grown.length
            have kept := (grown.getElem? (by omega : i + 1 < _)).trans here
            obtain ⟨other, member, among⟩ := ih more kept (by omega)
            exact ⟨other, List.mem_cons_of_mem _ member, among⟩

theorem yieldPages_bounded (answered : Answered copyRates histories)
    (yielded : yieldPages copyRates chunkSize cutoff fuel call startPos = some pages) :
    ∀ page ∈ pages, page.length ≤ chunkSize := by
  induction fuel generalizing call startPos pages with
  | zero => cases yielded
  | succ fuel ih =>
      have size := (histories call).length_copyRatesFromPos startPos chunkSize
      rcases yieldPages_succ answered yielded with ⟨rfl, _⟩ | ⟨oldest, later, page, stops⟩
      · exact fun _ => nofun
      · rw [page] at size
        have bounded : (oldest :: later).length ≤ chunkSize := by omega
        rcases stops with ⟨_, rfl⟩ | ⟨_, rest, rfl, more⟩
        · intro other member
          rwa [List.mem_singleton.mp member]
        · intro other member
          rcases List.mem_cons.mp member with rfl | among
          · exact bounded
          · exact ih more other among

theorem yieldPages_ends (answered : Answered copyRates histories)
    (slow : SlowMarket histories chunkSize) (cutoff : Timestamp)
    (enough : (histories call).bars.length ≤ fuel + startPos) :
    ∃ pages, yieldPages copyRates chunkSize cutoff (fuel + 1) call startPos = some pages := by
  induction fuel generalizing call startPos with
  | zero =>
      have size := (histories call).length_copyRatesFromPos startPos chunkSize
      have told := answered call startPos chunkSize
      rw [yieldPages]
      rcases reply : copyRates call startPos chunkSize with _ | _ | ⟨oldest, later⟩
      · exact ⟨[], rfl⟩
      · exact ⟨[], rfl⟩
      · rw [reply, Option.getD_some] at told
        rw [← told, List.length_cons] at size
        omega
  | succ fuel ih =>
      have size := (histories call).length_copyRatesFromPos startPos chunkSize
      have told := answered call startPos chunkSize
      rw [yieldPages]
      rcases reply : copyRates call startPos chunkSize with _ | _ | ⟨oldest, later⟩
      · exact ⟨[], rfl⟩
      · exact ⟨[], rfl⟩
      · rw [reply, Option.getD_some] at told
        rw [← told] at size
        simp only
        split
        next ended => exact ⟨_, rfl⟩
        next going =>
          have full := not_lt.mp fun short => going (.inr short)
          obtain ⟨opened, few, grown⟩ := slow call
          have longer := grown.length
          have remaining : ∃ pages, yieldPages copyRates chunkSize cutoff (fuel + 1) (call + 1)
              (startPos + (oldest :: later).length) = some pages := ih (by omega)
          obtain ⟨rest, more⟩ := remaining
          exact ⟨_, by rw [more]; rfl⟩

theorem yieldPages_mono {more : ℕ} (fewer : fuel ≤ more)
    (yielded : yieldPages copyRates chunkSize cutoff fuel call startPos = some pages) :
    yieldPages copyRates chunkSize cutoff more call startPos = some pages := by
  induction fuel generalizing more call startPos pages with
  | zero => cases yielded
  | succ fuel ih =>
      obtain ⟨more, rfl⟩ : ∃ rest, more = rest + 1 := ⟨more - 1, by omega⟩
      rw [yieldPages] at yielded ⊢
      split at yielded
      · exact yielded
      · exact yielded
      · simp only at yielded ⊢
        split at yielded
        next ended => rwa [if_pos ended]
        next going =>
          obtain ⟨rest, later, rfl⟩ := Option.map_eq_some_iff.mp yielded
          rw [if_neg going, ih (by omega) later, Option.map_some]

end Coverage

namespace Sample

def candle (minute : ℤ) : Bar ℚ := ⟨minute * 60000000, 100, 101, 99, 100⟩

def before : BrokerHistory ℚ := ⟨[candle 0, candle 1, candle 2], by decide⟩

def later : BrokerHistory ℚ := ⟨[candle 0, candle 1, candle 2, candle 3], by decide⟩

def histories : ℕ → BrokerHistory ℚ
  | 0 => before
  | _ + 1 => later

def copyRates (call start count : ℕ) : Option (List (Bar ℚ)) :=
  some ((histories call).copyRatesFromPos start count)

theorem slow : SlowMarket histories 2 := by
  intro call
  have opened : before.opens (candle 3) = some later := rfl
  cases call with
  | zero => exact ⟨1, by decide, .opens .still opened⟩
  | succ call => exact ⟨0, by decide, .still⟩

end Sample

/-- The pages of a backfill reach every bar of its window, though positions shift while it runs.
Outside the years of a `datetime` there is no cutoff, and nothing is read. -/
theorem iterHistoryChunks_covers {F : Type} (begun : BrokerHistory F) (opened : ℕ)
    (histories : ℕ → BrokerHistory F) (grown : begun.Grows (histories 0) opened)
    (copyRates : ℕ → ℕ → ℕ → Option (List (Bar F))) (answered : Answered copyRates histories)
    (symbol timeframe : String)
    (supported : timeframe ∈ Ingest.ingestTimeframes ++ ["M30", "H4", "D1"])
    (now : Timestamp) (lookbackDays : ℤ) (chunkSize : ℕ) (positive : 1 ≤ chunkSize)
    (slow : SlowMarket histories chunkSize) :
    match cutoffOf now lookbackDays with
    | .error error => ∀ fuel,
        historyChunks copyRates symbol timeframe now lookbackDays chunkSize fuel = .error error
    | .ok cutoff => ∃ pages,
        (∀ fuel, (histories 0).bars.length < fuel →
          historyChunks copyRates symbol timeframe now lookbackDays chunkSize fuel =
            .ok (some pages)) ∧
        (∀ page ∈ pages, page.length ≤ chunkSize) ∧
        ∀ bar ∈ begun.bars, cutoff ≤ bar.ts →
          ∃ page ∈ pages, ∃ row ∈ page, row.ts = bar.ts ∧ (bar ∈ begun.closed → row = bar) := by
  have known : ¬(timeframe ∉ Ingest.ingestTimeframes ∧ timeframe ∉ ["M30", "H4", "D1"]) := by
    rintro ⟨unpolled, unlisted⟩
    rcases List.mem_append.mp supported with polled | listed
    · exact unpolled polled
    · exact unlisted listed
  split
  next error refused =>
    intro fuel
    rw [historyChunks_eq known, refused]
    rfl
  next cutoff reached =>
    obtain ⟨pages, yielded⟩ := yieldPages_ends answered slow cutoff
      (show (histories 0).bars.length ≤ (histories 0).bars.length + 0 from le_rfl)
    refine ⟨pages, ?_, yieldPages_bounded answered yielded, ?_⟩
    · intro fuel enough
      rw [historyChunks_eq known, reached]
      exact congrArg Except.ok (yieldPages_mono enough yielded)
    · intro bar member recent
      obtain ⟨row, held, same⟩ := grown.mem member
      obtain ⟨i, inside, here⟩ := List.mem_iff_getElem.mp held
      have there : (histories 0).bars[i]? = some row := List.getElem?_eq_some_iff.mpr ⟨inside, here⟩
      obtain ⟨page, among, found⟩ := yieldPages_covers answered slow positive yielded there inside
        (same ▸ recent)
      exact ⟨page, among, row, found, same, fun closed => grown.of_closed closed held same⟩

theorem iterHistoryChunks_covers_shifted : ∃ pages,
    (∀ fuel, 3 < fuel → historyChunks Sample.copyRates "V75" "M1" 180000000 1 2 fuel =
      .ok (some pages)) ∧ (∀ page ∈ pages, page.length ≤ 2) ∧
    ∀ bar ∈ Sample.before.bars, -86220000000 ≤ bar.ts →
      ∃ page ∈ pages, ∃ row ∈ page, row.ts = bar.ts ∧ (bar ∈ Sample.before.closed → row = bar) :=
  iterHistoryChunks_covers Sample.before 0 Sample.histories .still Sample.copyRates
    (fun _ _ _ => rfl) "V75" "M1" (by decide) 180000000 1 2 (by decide) Sample.slow

end Data

end Vix75
