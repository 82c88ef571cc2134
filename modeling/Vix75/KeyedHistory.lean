import Mathlib.Data.List.Induction
import Vix75.KeyedTable

/-! What a dictionary holds after a history of writes: under each key its last value, unless
that was deleted. -/

namespace KeyedTable

variable {Key Value : Type} [DecidableEq Key]

abbrev Dict (Key Value : Type) := KeyedTable (Key × Value) Key Prod.fst

inductive Write (Key Value : Type) where
  | set (key : Key) (value : Value)
  | delete (key : Key)

namespace Write

def key : Write Key Value → Key
  | .set key _ => key
  | .delete key => key

def value? : Write Key Value → Option Value
  | .set _ value => some value
  | .delete _ => none

def map {Other : Type} (change : Value → Other) : Write Key Value → Write Key Other
  | .set key value => .set key (change value)
  | .delete key => .delete key

end Write

namespace Dict

def get? (dict : Dict Key Value) (wanted : Key) : Option Value :=
  (dict.find? wanted).map Prod.snd

theorem mem_rows_iff {dict : Dict Key Value} {key : Key} {value : Value} :
    (key, value) ∈ dict.rows ↔ dict.get? key = some value := by
  constructor
  · intro member
    rw [get?, find?_eq_some_iff.mpr ⟨member, rfl⟩]
    rfl
  · intro found
    obtain ⟨row, here, rfl⟩ := Option.map_eq_some_iff.mp found
    obtain ⟨member, rfl⟩ := find?_eq_some_iff.mp here
    exact member

def write (dict : Dict Key Value) : Write Key Value → Dict Key Value
  | .set key value => dict.upsert (fun old row => (old.1, row.2)) (fun _ _ => rfl) (key, value)
  | .delete key => dict.erase key

theorem get?_set {dict : Dict Key Value} {key wanted : Key} {value : Value} :
    (dict.write (.set key value)).get? wanted =
      if wanted = key then some value else dict.get? wanted := by
  simp only [write, get?, find?_upsert]
  by_cases same : wanted = key
  · rw [if_pos same, if_pos same]
    cases dict.find? wanted <;> rfl
  · rw [if_neg same, if_neg same]

theorem get?_delete {dict : Dict Key Value} {key wanted : Key} :
    (dict.write (.delete key)).get? wanted = if wanted = key then none else dict.get? wanted := by
  simp only [write, get?, find?, erase, List.find?_filter]
  by_cases same : wanted = key
  · subst same
    rw [if_pos rfl, Option.map_eq_none_iff, List.find?_eq_none]
    simp
  · rw [if_neg same]
    congr 2
    funext row
    by_cases own : row.1 = wanted
    · simp [own, same]
    · simp [own]

theorem get?_write {dict : Dict Key Value} {change : Write Key Value} {wanted : Key} :
    (dict.write change).get? wanted =
      if wanted = change.key then change.value? else dict.get? wanted := by
  cases change with
  | set key value => exact get?_set
  | delete key => exact get?_delete

def replay (writes : List (Write Key Value)) : Dict Key Value := writes.foldl write empty

theorem replay_concat (writes : List (Write Key Value)) (last : Write Key Value) :
    replay (writes ++ [last]) = (replay writes).write last := by
  rw [replay, List.foldl_append]
  rfl

/-- The last write of the key sets it to the value. -/
def Standing (writes : List (Write Key Value)) (key : Key) (value : Value) : Prop :=
  ∃ before after, writes = before ++ .set key value :: after ∧
    ∀ write ∈ after, write.key ≠ key

omit [DecidableEq Key] in
theorem standing_concat {writes : List (Write Key Value)} {last : Write Key Value} {key : Key}
    {value : Value} : Standing (writes ++ [last]) key value ↔
      last = .set key value ∨ last.key ≠ key ∧ Standing writes key value := by
  constructor
  · rintro ⟨before, after, whole, untouched⟩
    rcases List.eq_nil_or_concat after with rfl | ⟨front, final, rfl⟩
    · exact .inl (List.singleton_inj.mp (List.append_inj' whole rfl).2)
    · rw [List.concat_eq_append] at whole untouched
      rw [← List.cons_append, ← List.append_assoc] at whole
      obtain ⟨writesEq, lastEq⟩ := List.append_inj' whole rfl
      have finalEq : last = final := by simpa using lastEq
      refine .inr ⟨?_, before, front, writesEq, fun write member => ?_⟩
      · exact finalEq ▸ untouched final (by simp)
      · exact untouched write (by simp [member])
  · rintro (rfl | ⟨other, before, after, rfl, untouched⟩)
    · exact ⟨writes, [], rfl, nofun⟩
    · refine ⟨before, after ++ [last], by simp, fun write member => ?_⟩
      rcases List.mem_append.mp member with earlier | here
      · exact untouched write earlier
      · rw [List.mem_singleton.mp here]
        exact other

theorem get?_replay_iff {writes : List (Write Key Value)} {key : Key} {value : Value} :
    (replay writes).get? key = some value ↔ Standing writes key value := by
  induction writes using List.reverseRecOn with
  | nil =>
      refine ⟨fun found => ?_, ?_⟩
      · simp [replay, get?, find?, empty] at found
      · rintro ⟨before, after, whole, _⟩
        simp at whole
  | append_singleton writes last ih =>
      rw [replay_concat, get?_write, standing_concat, ← ih]
      by_cases same : key = last.key
      · rw [if_pos same]
        cases last with
        | set own given =>
            obtain rfl : key = own := same
            simp [Write.value?, Write.key]
        | delete own =>
            obtain rfl : key = own := same
            simp [Write.value?, Write.key]
      · rw [if_neg same]
        constructor
        · exact fun found => .inr ⟨fun own => same own.symm, found⟩
        · rintro (rfl | ⟨_, found⟩)
          · exact absurd rfl same
          · exact found

theorem mem_replay_iff {writes : List (Write Key Value)} {key : Key} {value : Value} :
    (key, value) ∈ (replay writes).rows ↔ Standing writes key value :=
  mem_rows_iff.trans get?_replay_iff

/-! Other values under the same keys -/

variable {Other : Type} (change : Value → Other)

def map (dict : Dict Key Value) : Dict Key Other :=
  ⟨dict.rows.map fun row => (row.1, change row.2), by
    simpa [List.map_map, Function.comp_def] using dict.unique⟩

omit [DecidableEq Key] in
theorem keys_map (dict : Dict Key Value) :
    (map change dict).rows.map Prod.fst = dict.rows.map Prod.fst := by
  simp [map, Function.comp_def]

theorem rows_set (dict : Dict Key Value) (key : Key) (value : Value) :
    (dict.write (.set key value)).rows =
      if key ∈ dict.rows.map Prod.fst then
        dict.rows.map fun row => if row.1 = key then (row.1, value) else row
      else dict.rows ++ [(key, value)] := by
  simp only [write, upsert]
  split
  · simp only [update, decide_eq_true_eq]
  · rename_i absent
    rw [insert, dif_pos absent]

theorem map_write (dict : Dict Key Value) (last : Write Key Value) :
    map change (dict.write last) = (map change dict).write (last.map change) := by
  have rows : (map change (dict.write last)).rows =
      ((map change dict).write (last.map change)).rows := by
    cases last with
    | set key value =>
        rw [Write.map, rows_set, keys_map]
        simp only [map, rows_set]
        split
        · simp only [List.map_map]
          refine List.map_congr_left fun row _ => ?_
          by_cases own : row.1 = key <;> simp [own]
        · simp
    | delete key =>
        simp only [Write.map, write, erase, map, List.filter_map]
        congr 1
  cases first : map change (dict.write last)
  cases second : (map change dict).write (last.map change)
  simp only [first, second] at rows
  simp [rows]

theorem replay_map (writes : List (Write Key Value)) :
    replay (writes.map (Write.map change)) = map change (replay writes) := by
  induction writes using List.reverseRecOn with
  | nil => rfl
  | append_singleton writes last ih =>
      rw [List.map_append, List.map_singleton, replay_concat, ih, replay_concat, map_write]

theorem rows_replay_sets {rows : List (Key × Value)} (distinct : (rows.map Prod.fst).Nodup) :
    (replay (rows.map fun row => .set row.1 row.2)).rows = rows := by
  induction rows using List.reverseRecOn with
  | nil => rfl
  | append_singleton rows last ih =>
      rw [List.map_append, List.map_singleton, List.nodup_append] at distinct
      rw [List.map_append, List.map_singleton, replay_concat, rows_set, ih distinct.1, if_neg]
      exact fun member => distinct.2.2 _ member last.1 (by simp) rfl

end Dict

end KeyedTable
