import Mathlib.Data.List.Lemmas
import Mathlib.Data.List.Nodup
import Mathlib.Data.List.Perm.Subperm

/-! A table of rows with a unique key column: insertion that does nothing on a
conflict, and updates that leave the keys alone. -/

/-- Rows in insertion order; no two of them share a key. -/
structure KeyedTable (Row Key : Type) (key : Row → Key) where
  rows : List Row
  unique : (rows.map key).Nodup

namespace KeyedTable

variable {Row Key : Type} {key : Row → Key} [DecidableEq Key]

def empty : KeyedTable Row Key key := ⟨[], List.nodup_nil⟩

def find? (table : KeyedTable Row Key key) (wanted : Key) : Option Row :=
  table.rows.find? fun row => key row = wanted

theorem key_of_find? {table : KeyedTable Row Key key} {wanted : Key} {row : Row}
    (found : table.find? wanted = some row) : key row = wanted := by
  simpa using List.find?_some found

theorem find?_eq_some_iff {table : KeyedTable Row Key key} {wanted : Key} {row : Row} :
    table.find? wanted = some row ↔ row ∈ table.rows ∧ key row = wanted := by
  constructor
  · intro found
    exact ⟨List.mem_of_find?_eq_some found, key_of_find? found⟩
  · rintro ⟨member, rfl⟩
    cases found : table.find? (key row) with
    | none =>
        have absent := List.find?_eq_none.mp found row member
        simp at absent
    | some other =>
        have same := List.inj_on_of_nodup_map table.unique (List.mem_of_find?_eq_some found)
          member (key_of_find? found)
        rw [same]

omit [DecidableEq Key] in
theorem eq_of_countP_le_one {table : KeyedTable Row Key key} {condition : Row → Bool}
    {first second : Row} (few : table.rows.countP condition ≤ 1) (member : first ∈ table.rows)
    (holds : condition first = true) (other : second ∈ table.rows)
    (otherHolds : condition second = true) : first = second := by
  rw [List.countP_eq_length_filter] at few
  have firstIn : first ∈ table.rows.filter condition := List.mem_filter.mpr ⟨member, holds⟩
  have secondIn : second ∈ table.rows.filter condition := List.mem_filter.mpr ⟨other, otherHolds⟩
  generalize table.rows.filter condition = hits at few firstIn secondIn
  match hits with
  | [] => simp at firstIn
  | [only] =>
      rw [List.mem_singleton.mp firstIn, List.mem_singleton.mp secondIn]
  | _ :: _ :: _ => simp at few

theorem countP_key_le_one (table : KeyedTable Row Key key) (wanted : Key) :
    table.rows.countP (fun row => key row = wanted) ≤ 1 := by
  have once := List.nodup_iff_count_le_one.mp table.unique wanted
  rw [List.count, List.countP_map] at once
  exact once

/-- `INSERT ... ON CONFLICT (key) DO NOTHING`. -/
def insert (table : KeyedTable Row Key key) (row : Row) : KeyedTable Row Key key :=
  if absent : key row ∉ table.rows.map key then
    ⟨table.rows ++ [row], by
      rw [List.map_append, List.map_singleton, ← List.concat_eq_append, List.nodup_concat]
      exact ⟨absent, table.unique⟩⟩
  else table

def insertCount (table : KeyedTable Row Key key) (row : Row) : Nat :=
  if key row ∉ table.rows.map key then 1 else 0

theorem insertCount_eq_one {table : KeyedTable Row Key key} {row : Row} :
    table.insertCount row = 1 ↔ table.find? (key row) = none := by
  simp [insertCount, find?]

theorem find?_insert_of_ne {table : KeyedTable Row Key key} {row : Row} {wanted : Key}
    (different : wanted ≠ key row) : (table.insert row).find? wanted = table.find? wanted := by
  unfold insert
  split
  · simp [find?, List.find?_append, different.symm]
  · rfl

theorem find?_insert_absent {table : KeyedTable Row Key key} {row : Row}
    (absent : table.find? (key row) = none) :
    (table.insert row).find? (key row) = some row := by
  have missing : key row ∉ table.rows.map key := by simpa [find?] using absent
  have none : table.rows.find? (fun other => key other = key row) = none := absent
  simp [insert, missing, find?, List.find?_append, none]

theorem insert_present {table : KeyedTable Row Key key} {row found : Row}
    (present : table.find? (key row) = some found) : table.insert row = table := by
  have member := List.mem_of_find?_eq_some present
  have same := key_of_find? present
  have known : key row ∈ table.rows.map key := List.mem_map.mpr ⟨found, member, same⟩
  simp [insert, known]

theorem find?_insert {table : KeyedTable Row Key key} {row : Row} {wanted : Key} :
    (table.insert row).find? wanted =
      if wanted = key row then some ((table.find? wanted).getD row) else table.find? wanted := by
  by_cases same : wanted = key row
  · subst same
    cases present : table.find? (key row) with
    | none => simp [find?_insert_absent present]
    | some found => simp [insert_present present, present]
  · simp [find?_insert_of_ne same, same]

theorem mem_keys_insert {table : KeyedTable Row Key key} {row : Row} {wanted : Key} :
    wanted ∈ (table.insert row).rows.map key ↔ wanted ∈ table.rows.map key ∨ wanted = key row := by
  unfold insert
  split
  · rw [List.map_append, List.mem_append, List.map_singleton, List.mem_singleton]
  · rename_i present
    constructor
    · exact .inl
    · rintro (known | rfl)
      · exact known
      · exact not_not.mp present

theorem mem_insert {table : KeyedTable Row Key key} {row other : Row}
    (member : other ∈ (table.insert row).rows) :
    other ∈ table.rows ∨ other = row ∧ key row ∉ table.rows.map key := by
  unfold insert at member
  split at member
  · rename_i absent
    rcases List.mem_append.mp member with old | new
    · exact .inl old
    · exact .inr ⟨List.mem_singleton.mp new, absent⟩
  · exact .inl member

def insertAll (table : KeyedTable Row Key key) (rows : List Row) : KeyedTable Row Key key :=
  rows.foldl insert table

theorem mem_keys_insertAll {table : KeyedTable Row Key key} {rows : List Row} {wanted : Key} :
    wanted ∈ (table.insertAll rows).rows.map key ↔
      wanted ∈ table.rows.map key ∨ wanted ∈ rows.map key := by
  induction rows generalizing table with
  | nil => simp [insertAll]
  | cons row rows ih =>
      change wanted ∈ ((table.insert row).insertAll rows).rows.map key ↔ _
      rw [ih, mem_keys_insert, List.map_cons, List.mem_cons, or_assoc]

omit [DecidableEq Key] in
theorem map_key_ite {condition : Row → Bool} {change : Row → Row}
    (keeps : ∀ row, key (change row) = key row) (row : Row) :
    key (if condition row then change row else row) = key row := by
  split
  · exact keeps row
  · rfl

def update (table : KeyedTable Row Key key) (condition : Row → Bool) (change : Row → Row)
    (keeps : ∀ row, key (change row) = key row) : KeyedTable Row Key key :=
  ⟨table.rows.map fun row => if condition row then change row else row, by
    simpa [List.map_map, Function.comp_def, map_key_ite keeps] using table.unique⟩

theorem find?_update {table : KeyedTable Row Key key} {condition : Row → Bool}
    {change : Row → Row} {keeps : ∀ row, key (change row) = key row} {wanted : Key} :
    (table.update condition change keeps).find? wanted =
      (table.find? wanted).map fun row => if condition row then change row else row := by
  have same : (fun row => decide (key row = wanted)) ∘
      (fun row => if condition row then change row else row) =
        fun row => decide (key row = wanted) := by
    funext row
    exact congrArg (fun found => decide (found = wanted)) (map_key_ite keeps row)
  rw [find?, find?, update, List.find?_map, same]

/-- `INSERT ... ON CONFLICT (key) DO UPDATE SET`, with the columns that `merge` takes over. -/
def upsert (table : KeyedTable Row Key key) (merge : Row → Row → Row)
    (keeps : ∀ old row, key (merge old row) = key old) (row : Row) : KeyedTable Row Key key :=
  if key row ∈ table.rows.map key then
    table.update (fun old => key old = key row) (fun old => merge old row) fun old => keeps old row
  else table.insert row

theorem find?_upsert {table : KeyedTable Row Key key} {merge : Row → Row → Row}
    {keeps : ∀ old row, key (merge old row) = key old} {row : Row} {wanted : Key} :
    (table.upsert merge keeps row).find? wanted =
      if wanted = key row then
        some (((table.find? wanted).map fun old => merge old row).getD row)
      else table.find? wanted := by
  unfold upsert
  by_cases same : wanted = key row
  · subst same
    rw [if_pos rfl]
    cases present : table.find? (key row) with
    | none =>
        have absent : key row ∉ table.rows.map key := by simpa [find?] using present
        rw [if_neg absent, find?_insert_absent present]
        rfl
    | some old =>
        have known : key row ∈ table.rows.map key :=
          List.mem_map.mpr ⟨old, find?_eq_some_iff.mp present⟩
        rw [if_pos known, find?_update, present]
        simp [key_of_find? present]
  · rw [if_neg same]
    split
    · rw [find?_update]
      cases present : table.find? wanted with
      | none => rfl
      | some old => simp [key_of_find? present, same]
    · exact find?_insert_of_ne same

def upsertAll (table : KeyedTable Row Key key) (merge : Row → Row → Row)
    (keeps : ∀ old row, key (merge old row) = key old) (rows : List Row) :
    KeyedTable Row Key key :=
  rows.foldl (fun table row => table.upsert merge keeps row) table

theorem find?_upsertAll_of_not_mem {table : KeyedTable Row Key key} {merge : Row → Row → Row}
    {keeps : ∀ old row, key (merge old row) = key old} {rows : List Row} {wanted : Key}
    (absent : wanted ∉ rows.map key) :
    (table.upsertAll merge keeps rows).find? wanted = table.find? wanted := by
  induction rows generalizing table with
  | nil => rfl
  | cons row rows ih =>
      rw [List.map_cons, List.mem_cons, not_or] at absent
      change ((table.upsert merge keeps row).upsertAll merge keeps rows).find? wanted = _
      rw [ih absent.2, find?_upsert, if_neg absent.1]

theorem find?_upsertAll {table : KeyedTable Row Key key} {merge : Row → Row → Row}
    {keeps : ∀ old row, key (merge old row) = key old} {rows : List Row} {row : Row}
    (distinct : (rows.map key).Nodup) (member : row ∈ rows) :
    (table.upsertAll merge keeps rows).find? (key row) =
      some (((table.find? (key row)).map fun old => merge old row).getD row) := by
  induction rows generalizing table with
  | nil => simp at member
  | cons first rows ih =>
      rw [List.map_cons, List.nodup_cons] at distinct
      change ((table.upsert merge keeps first).upsertAll merge keeps rows).find? (key row) = _
      rcases List.mem_cons.mp member with rfl | later
      · rw [find?_upsertAll_of_not_mem distinct.1, find?_upsert, if_pos rfl]
      · have different : key row ≠ key first := fun same =>
          distinct.1 (same ▸ List.mem_map_of_mem later)
        rw [ih distinct.2 later, find?_upsert, if_neg different]

def erase (table : KeyedTable Row Key key) (unwanted : Key) : KeyedTable Row Key key :=
  ⟨table.rows.filter fun row => key row ≠ unwanted,
    table.unique.sublist (List.filter_sublist.map key)⟩

theorem erase_sublist (table : KeyedTable Row Key key) (unwanted : Key) :
    (table.erase unwanted).rows.Sublist table.rows := List.filter_sublist

theorem mem_keys_erase {table : KeyedTable Row Key key} {unwanted wanted : Key} :
    wanted ∈ (table.erase unwanted).rows.map key ↔
      wanted ∈ table.rows.map key ∧ wanted ≠ unwanted := by
  simp only [erase, List.mem_map, List.mem_filter, decide_eq_true_eq]
  constructor
  · rintro ⟨row, ⟨member, different⟩, rfl⟩
    exact ⟨⟨row, member, rfl⟩, different⟩
  · rintro ⟨⟨row, member, rfl⟩, different⟩
    exact ⟨row, ⟨member, different⟩, rfl⟩

omit [DecidableEq Key] in
def keep (table : KeyedTable Row Key key) (condition : Row → Bool) : KeyedTable Row Key key :=
  ⟨table.rows.filter condition, table.unique.sublist (List.filter_sublist.map key)⟩

def put (table : KeyedTable Row Key key) (row : Row) : KeyedTable Row Key key :=
  ⟨(table.erase (key row)).rows ++ [row], by
    rw [List.map_append, List.map_singleton, ← List.concat_eq_append, List.nodup_concat]
    exact ⟨fun member => (mem_keys_erase.mp member).2 rfl, (table.erase (key row)).unique⟩⟩

theorem mem_keys_put {table : KeyedTable Row Key key} {row : Row} {wanted : Key} :
    wanted ∈ (table.put row).rows.map key ↔ wanted ∈ table.rows.map key ∨ wanted = key row := by
  rw [put, List.map_append, List.mem_append, mem_keys_erase]
  by_cases same : wanted = key row <;> simp [same]

theorem length_le_put (table : KeyedTable Row Key key) (row : Row) :
    table.rows.length ≤ (table.put row).rows.length := by
  have kept : table.rows.map key ⊆ (table.put row).rows.map key := fun _ member =>
    mem_keys_put.mpr (.inl member)
  simpa using (List.subperm_of_subset table.unique kept).length_le

end KeyedTable
