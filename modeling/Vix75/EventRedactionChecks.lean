import Mathlib.Data.List.Forall2
import Vix75.RedactionChecks

/-! The redaction of events as a noninterference property: what stands under a sensitive key has
no influence on the result, and all else but the texts comes through, where elements of a set that
the redaction makes equal become one. -/

namespace Vix75

namespace Redaction

theorem Value.builtin {α : Type} {motive : Value α Empty → Prop}
    (scalar : ∀ value, motive (.scalar value)) (str : ∀ text, motive (.str text))
    (list : ∀ items, (∀ item ∈ items, motive item) → motive (.list items))
    (tuple : ∀ items, (∀ item ∈ items, motive item) → motive (.tuple items))
    (set : ∀ items, (∀ item ∈ items, motive item) → motive (.set items))
    (dict : ∀ entries, (∀ entry ∈ entries, motive entry.2) → motive (.dict entries))
    (value : Value α Empty) : motive value :=
  value.ind scalar str list tuple set dict (fun cls => cls.elim) (fun cls => cls.elim)
    (fun cls => cls.elim)

section Pairs

variable {β γ δ : Type} {left : List β} {middle : List γ}

theorem mono_mem {R S : β → γ → Prop} (related : List.Forall₂ R left middle)
    (imp : ∀ first ∈ left, ∀ second, R first second → S first second) :
    List.Forall₂ S left middle := by
  induction related with
  | nil => exact .nil
  | cons here later ih =>
      rw [List.forall_mem_cons] at imp
      exact .cons (imp.1 _ here) (ih imp.2)

theorem trans_mem {R : β → γ → Prop} {S : γ → δ → Prop} {T : β → δ → Prop} {right : List δ}
    (related : List.Forall₂ R left middle) (next : List.Forall₂ S middle right)
    (imp : ∀ first ∈ left, ∀ second third, R first second → S second third → T first third) :
    List.Forall₂ T left right := by
  induction related generalizing right with
  | nil =>
      cases next
      exact .nil
  | cons here later ih =>
      rw [List.forall_mem_cons] at imp
      cases next with
      | cons now rest => exact .cons (imp.1 _ _ here now) (ih rest imp.2)

theorem mem_left {R : β → γ → Prop} (related : List.Forall₂ R left middle) {first : β}
    (member : first ∈ left) : ∃ second ∈ middle, R first second := by
  induction related with
  | nil => cases member
  | cons here later ih =>
      rcases List.mem_cons.mp member with rfl | among
      · exact ⟨_, List.mem_cons_self, here⟩
      · obtain ⟨second, found, pair⟩ := ih among
        exact ⟨second, List.mem_cons_of_mem _ found, pair⟩

theorem mem_right {R : β → γ → Prop} (related : List.Forall₂ R left middle) {second : γ}
    (member : second ∈ middle) : ∃ first ∈ left, R first second :=
  mem_left related.flip member

end Pairs

section Equality

variable {α κ : Type} [BEq α] {classes : Classes α κ}

namespace Classes

theorem eqItems_iff {items others : List (Value α κ)} :
    classes.eqItems items others = true ↔
      List.Forall₂ (fun item other => classes.eq item other = true) items others := by
  induction items generalizing others with
  | nil => cases others <;> simp [eqItems, List.forall₂_nil_left_iff]
  | cons item items ih => cases others <;> simp [eqItems, ih, List.forall₂_nil_right_iff]

theorem within_iff {items others : List (Value α κ)} :
    classes.within items others = true ↔
      ∀ item ∈ items, ∃ other ∈ others, classes.eq item other = true := by
  induction items with
  | nil => simp [within]
  | cons item items ih => simp [within, ih]

theorem covers_iff {items : List (Value α κ)} {other : Value α κ} :
    classes.covers items other = true ↔ ∃ item ∈ items, classes.eq item other = true := by
  induction items with
  | nil => simp [covers]
  | cons item items ih => simp [covers, ih]

theorem entriesWithin_iff {entries others : List (Key α × Value α κ)} :
    classes.entriesWithin entries others = true ↔ ∀ entry ∈ entries, ∃ other ∈ others,
      (entry.1 == other.1) = true ∧ classes.eq entry.2 other.2 = true := by
  induction entries with
  | nil => simp [entriesWithin]
  | cons entry entries ih =>
      rw [entriesWithin, Bool.and_eq_true, ih, List.forall_mem_cons, List.any_eq_true]
      simp only [Bool.and_eq_true]

theorem entriesCover_iff {entries : List (Key α × Value α κ)} {other : Key α × Value α κ} :
    classes.entriesCover entries other = true ↔ ∃ entry ∈ entries,
      (entry.1 == other.1) = true ∧ classes.eq entry.2 other.2 = true := by
  induction entries with
  | nil => simp [entriesCover]
  | cons entry entries ih =>
      rw [entriesCover, Bool.or_eq_true, ih, List.exists_mem_cons_iff, Bool.and_eq_true]

theorem eq_set {items others : List (Value α κ)} :
    classes.eq (.set items) (.set others) = true ↔
      (∀ item ∈ items, ∃ other ∈ others, classes.eq item other = true) ∧
        ∀ other ∈ others, ∃ item ∈ items, classes.eq item other = true := by
  simp only [eq, Bool.and_eq_true, within_iff, List.all_eq_true, covers_iff]

theorem eq_dict {entries others : List (Key α × Value α κ)} :
    classes.eq (.dict entries) (.dict others) = true ↔
      (∀ entry ∈ entries, ∃ other ∈ others,
        (entry.1 == other.1) = true ∧ classes.eq entry.2 other.2 = true) ∧
      ∀ other ∈ others, ∃ entry ∈ entries,
        (entry.1 == other.1) = true ∧ classes.eq entry.2 other.2 = true := by
  simp only [eq, Bool.and_eq_true, entriesWithin_iff, List.all_eq_true, entriesCover_iff]

omit [BEq α] in
theorem hashableItems_iff {items : List (Value α κ)} :
    classes.hashableItems items = true ↔ ∀ item ∈ items, classes.hashable item = true := by
  induction items with
  | nil => simp [hashableItems]
  | cons item items ih => simp [hashableItems, ih]

end Classes

namespace CharTables

variable {tables : CharTables}

theorem redactItems_iff {items results : List (Value α κ)} :
    tables.redactItems classes items = some results ↔
      List.Forall₂ (fun item result => tables.redactValue classes item = some result)
        items results := by
  induction items generalizing results with
  | nil => cases results <;> simp [redactItems, List.forall₂_nil_left_iff]
  | cons item items ih =>
      cases results with
      | nil => simp [redactItems, Option.bind_eq_some_iff, List.forall₂_nil_right_iff]
      | cons result results =>
          simp only [redactItems, Option.bind_eq_bind, Option.bind_eq_some_iff, ih,
            List.forall₂_cons, Option.some.injEq, List.cons.injEq]
          constructor
          · rintro ⟨_, first, _, others, rfl, rfl⟩
            exact ⟨first, others⟩
          · rintro ⟨first, others⟩
            exact ⟨_, first, _, others, rfl, rfl⟩

def redactEntry (tables : CharTables) (classes : Classes α κ) (entry : Key α × Value α κ) :
    Option (Value α κ) :=
  if tables.masks entry.1 then some (.str redacted) else tables.redactValue classes entry.2

theorem redactEntries_iff {entries results : List (Key α × Value α κ)} :
    tables.redactEntries classes entries = some results ↔
      List.Forall₂ (fun entry result => entry.1 = result.1 ∧
        tables.redactEntry classes entry = some result.2) entries results := by
  induction entries generalizing results with
  | nil => cases results <;> simp [redactEntries, List.forall₂_nil_left_iff]
  | cons entry entries ih =>
      obtain ⟨key, item⟩ := entry
      cases results with
      | nil => simp [redactEntries, Option.bind_eq_some_iff, List.forall₂_nil_right_iff]
      | cons result results =>
          obtain ⟨kept, shown⟩ := result
          simp only [redactEntries, Option.bind_eq_bind, Option.bind_eq_some_iff, ih,
            List.forall₂_cons, Option.some.injEq, List.cons.injEq, Prod.mk.injEq]
          constructor
          · rintro ⟨_, first, _, others, ⟨rfl, rfl⟩, rfl⟩
            exact ⟨⟨rfl, first⟩, others⟩
          · rintro ⟨⟨rfl, first⟩, others⟩
            exact ⟨_, first, _, others, ⟨rfl, rfl⟩, rfl⟩

end CharTables

end Equality

section Inversion

variable {α : Type} [BEq α] {classes : Classes α Empty}

namespace Classes

theorem eq_scalar_left {value : α} {other : Value α Empty}
    (same : classes.eq (.scalar value) other = true) :
    ∃ second, other = .scalar second ∧ (value == second) = true := by
  cases other with
  | scalar second => exact ⟨second, rfl, same⟩
  | strOf cls _ | sequenceOf cls _ | mappingOf cls _ => exact cls.elim
  | _ => cases same

theorem eq_str_left {text : String} {other : Value α Empty}
    (same : classes.eq (.str text) other = true) : other = .str text := by
  cases other with
  | str second => rw [show text = second from beq_iff_eq.mp same]
  | strOf cls _ | sequenceOf cls _ | mappingOf cls _ => exact cls.elim
  | _ => cases same

theorem eq_list_left {items : List (Value α Empty)} {other : Value α Empty}
    (same : classes.eq (.list items) other = true) :
    ∃ others, other = .list others ∧
      List.Forall₂ (fun item other => classes.eq item other = true) items others := by
  cases other with
  | list others => exact ⟨others, rfl, eqItems_iff.mp same⟩
  | strOf cls _ | sequenceOf cls _ | mappingOf cls _ => exact cls.elim
  | _ => cases same

theorem eq_tuple_left {items : List (Value α Empty)} {other : Value α Empty}
    (same : classes.eq (.tuple items) other = true) :
    ∃ others, other = .tuple others ∧
      List.Forall₂ (fun item other => classes.eq item other = true) items others := by
  cases other with
  | tuple others => exact ⟨others, rfl, eqItems_iff.mp same⟩
  | strOf cls _ | sequenceOf cls _ | mappingOf cls _ => exact cls.elim
  | _ => cases same

theorem eq_set_left {items : List (Value α Empty)} {other : Value α Empty}
    (same : classes.eq (.set items) other = true) :
    ∃ others, other = .set others ∧
      (∀ item ∈ items, ∃ other ∈ others, classes.eq item other = true) ∧
        ∀ other ∈ others, ∃ item ∈ items, classes.eq item other = true := by
  cases other with
  | set others => exact ⟨others, rfl, eq_set.mp same⟩
  | strOf cls _ | sequenceOf cls _ | mappingOf cls _ => exact cls.elim
  | _ => cases same

theorem eq_dict_left {entries : List (Key α × Value α Empty)} {other : Value α Empty}
    (same : classes.eq (.dict entries) other = true) :
    ∃ others, other = .dict others ∧
      (∀ entry ∈ entries, ∃ other ∈ others,
        (entry.1 == other.1) = true ∧ classes.eq entry.2 other.2 = true) ∧
      ∀ other ∈ others, ∃ entry ∈ entries,
        (entry.1 == other.1) = true ∧ classes.eq entry.2 other.2 = true := by
  cases other with
  | dict others => exact ⟨others, rfl, eq_dict.mp same⟩
  | strOf cls _ | sequenceOf cls _ | mappingOf cls _ => exact cls.elim
  | _ => cases same

theorem merge_subset {items : List (Value α Empty)} {item : Value α Empty}
    (member : item ∈ classes.merge items) : item ∈ items :=
  List.pwFilter_subset items member

end Classes

end Inversion

section Equivalence

variable {α : Type} [BEq α] [EquivBEq α] {classes : Classes α Empty}

instance : EquivBEq (Key α) where
  rfl := by
    rintro (text | value)
    · exact beq_self_eq_true text
    · exact BEq.refl value
  symm := by
    rintro (text | value) (other | other) same
    · exact BEq.symm (α := String) same
    · cases same
    · cases same
    · exact BEq.symm (α := α) same
  trans := by
    rintro (text | value) (other | other) (third | third) same next
    all_goals first | cases same | cases next | skip
    · exact BEq.trans (α := String) same next
    · exact BEq.trans (α := α) same next

namespace Classes

theorem eq_refl (value : Value α Empty) : classes.eq value value = true := by
  induction value using Value.builtin with
  | scalar value => exact BEq.refl value
  | str text => exact beq_self_eq_true text
  | list items ih | tuple items ih =>
      rw [eq, eqItems_iff]
      exact List.forall₂_same.mpr ih
  | set items ih =>
      rw [eq_set]
      exact ⟨fun item member => ⟨item, member, ih item member⟩,
        fun item member => ⟨item, member, ih item member⟩⟩
  | dict entries ih =>
      rw [eq_dict]
      exact ⟨fun entry member => ⟨entry, member, BEq.refl entry.1, ih entry member⟩,
        fun entry member => ⟨entry, member, BEq.refl entry.1, ih entry member⟩⟩

theorem eq_symm {value other : Value α Empty} (same : classes.eq value other = true) :
    classes.eq other value = true := by
  induction value using Value.builtin generalizing other with
  | scalar value =>
      obtain ⟨second, rfl, same⟩ := eq_scalar_left same
      exact BEq.symm (α := α) same
  | str text =>
      obtain rfl := eq_str_left same
      exact eq_refl _
  | list items ih =>
      obtain ⟨others, rfl, paired⟩ := eq_list_left same
      rw [eq, eqItems_iff]
      exact (mono_mem paired fun item member other => ih item member).flip
  | tuple items ih =>
      obtain ⟨others, rfl, paired⟩ := eq_tuple_left same
      rw [eq, eqItems_iff]
      exact (mono_mem paired fun item member other => ih item member).flip
  | set items ih =>
      obtain ⟨others, rfl, into, back⟩ := eq_set_left same
      rw [eq_set]
      constructor
      · intro other member
        obtain ⟨item, among, same⟩ := back other member
        exact ⟨item, among, ih item among same⟩
      · intro item member
        obtain ⟨other, among, same⟩ := into item member
        exact ⟨other, among, ih item member same⟩
  | dict entries ih =>
      obtain ⟨others, rfl, into, back⟩ := eq_dict_left same
      rw [eq_dict]
      constructor
      · intro other member
        obtain ⟨entry, among, key, same⟩ := back other member
        exact ⟨entry, among, BEq.symm key, ih entry among same⟩
      · intro entry member
        obtain ⟨other, among, key, same⟩ := into entry member
        exact ⟨other, among, BEq.symm key, ih entry member same⟩

theorem eq_trans {value other third : Value α Empty} (same : classes.eq value other = true)
    (next : classes.eq other third = true) : classes.eq value third = true := by
  induction value using Value.builtin generalizing other third with
  | scalar value =>
      obtain ⟨second, rfl, same⟩ := eq_scalar_left same
      obtain ⟨last, rfl, next⟩ := eq_scalar_left next
      exact BEq.trans (α := α) same next
  | str text =>
      obtain rfl := eq_str_left same
      exact next
  | list items ih =>
      obtain ⟨others, rfl, paired⟩ := eq_list_left same
      obtain ⟨thirds, rfl, onward⟩ := eq_list_left next
      rw [eq, eqItems_iff]
      exact trans_mem paired onward fun item member _ _ => ih item member
  | tuple items ih =>
      obtain ⟨others, rfl, paired⟩ := eq_tuple_left same
      obtain ⟨thirds, rfl, onward⟩ := eq_tuple_left next
      rw [eq, eqItems_iff]
      exact trans_mem paired onward fun item member _ _ => ih item member
  | set items ih =>
      obtain ⟨others, rfl, into, back⟩ := eq_set_left same
      obtain ⟨thirds, rfl, into', back'⟩ := eq_set_left next
      rw [eq_set]
      constructor
      · intro item member
        obtain ⟨other, among, same⟩ := into item member
        obtain ⟨third, last, next⟩ := into' other among
        exact ⟨third, last, ih item member same next⟩
      · intro third member
        obtain ⟨other, among, next⟩ := back' third member
        obtain ⟨item, first, same⟩ := back other among
        exact ⟨item, first, ih item first same next⟩
  | dict entries ih =>
      obtain ⟨others, rfl, into, back⟩ := eq_dict_left same
      obtain ⟨thirds, rfl, into', back'⟩ := eq_dict_left next
      rw [eq_dict]
      constructor
      · intro entry member
        obtain ⟨other, among, key, same⟩ := into entry member
        obtain ⟨third, last, key', next⟩ := into' other among
        exact ⟨third, last, BEq.trans key key', ih entry member same next⟩
      · intro third member
        obtain ⟨other, among, key', next⟩ := back' third member
        obtain ⟨entry, first, key, same⟩ := back other among
        exact ⟨entry, first, BEq.trans key key', ih entry first same next⟩

theorem merge_covers {items : List (Value α Empty)} {item : Value α Empty} (member : item ∈ items) :
    ∃ kept ∈ classes.merge items, classes.eq item kept = true := by
  by_contra uncovered
  simp only [not_exists, not_and, Bool.not_eq_true] at uncovered
  have apart := (List.forall_mem_pwFilter (R := fun item other => classes.eq item other = false)
    ?_ item items).mp uncovered item member
  · rw [eq_refl] at apart
    cases apart
  · intro value other third differ
    by_contra equal
    simp only [not_or, Bool.not_eq_false] at equal
    rw [eq_trans equal.1 equal.2] at differ
    cases differ

theorem merge_eq {items others : List (Value α Empty)}
    (into : ∀ item ∈ items, ∃ other ∈ others, classes.eq item other = true)
    (back : ∀ other ∈ others, ∃ item ∈ items, classes.eq item other = true) :
    classes.eq (.set (classes.merge items)) (.set (classes.merge others)) = true := by
  rw [eq_set]
  constructor
  · intro item member
    obtain ⟨other, among, same⟩ := into item (merge_subset member)
    obtain ⟨kept, stays, equal⟩ := merge_covers among
    exact ⟨kept, stays, eq_trans same equal⟩
  · intro other member
    obtain ⟨item, among, same⟩ := back other (merge_subset member)
    obtain ⟨kept, stays, equal⟩ := merge_covers among
    exact ⟨kept, stays, eq_trans (eq_symm equal) same⟩

end Classes

end Equivalence

namespace CharTables

section Secrets

variable {α κ : Type} [BEq α] (tables : CharTables)

mutual

def withoutSecrets : Value α κ → Value α κ
  | .dict entries => .dict (entriesWithoutSecrets entries)
  | .mappingOf cls entries => .mappingOf cls (entriesWithoutSecrets entries)
  | .list items => .list (itemsWithoutSecrets items)
  | .tuple items => .tuple (itemsWithoutSecrets items)
  | .set items => .set (itemsWithoutSecrets items)
  | .sequenceOf cls items => .sequenceOf cls (itemsWithoutSecrets items)
  | .strOf cls text => .strOf cls text
  | .str text => .str text
  | .scalar value => .scalar value

def itemsWithoutSecrets : List (Value α κ) → List (Value α κ)
  | [] => []
  | item :: items => withoutSecrets item :: itemsWithoutSecrets items

def entriesWithoutSecrets : List (Key α × Value α κ) → List (Key α × Value α κ)
  | [] => []
  | (key, item) :: entries =>
      (key, if tables.masks key then .str "" else withoutSecrets item) ::
        entriesWithoutSecrets entries

end

end Secrets

end CharTables

section Noninterference

variable {α : Type} [BEq α] {tables : CharTables} {classes : Classes α Empty}

namespace CharTables

/-! Redaction does not look at secrets -/

theorem redactItems_withoutSecrets {items : List (Value α Empty)}
    (same : ∀ item ∈ items, tables.redactValue classes (tables.withoutSecrets item) =
      tables.redactValue classes item) :
    tables.redactItems classes (tables.itemsWithoutSecrets items) =
      tables.redactItems classes items := by
  induction items with
  | nil => rfl
  | cons item items ih =>
      rw [List.forall_mem_cons] at same
      rw [itemsWithoutSecrets, redactItems, redactItems, same.1, ih same.2]

theorem redactEntries_withoutSecrets {entries : List (Key α × Value α Empty)}
    (same : ∀ entry ∈ entries, tables.redactValue classes (tables.withoutSecrets entry.2) =
      tables.redactValue classes entry.2) :
    tables.redactEntries classes (tables.entriesWithoutSecrets entries) =
      tables.redactEntries classes entries := by
  induction entries with
  | nil => rfl
  | cons entry entries ih =>
      obtain ⟨key, item⟩ := entry
      rw [List.forall_mem_cons] at same
      rw [entriesWithoutSecrets, redactEntries, redactEntries, ih same.2]
      by_cases sensitive : tables.masks key = true
      · rw [if_pos sensitive, if_pos sensitive]
      · rw [if_neg sensitive, if_neg sensitive, if_neg sensitive, same.1]

theorem redactValue_withoutSecrets (value : Value α Empty) :
    tables.redactValue classes (tables.withoutSecrets value) =
      tables.redactValue classes value := by
  induction value using Value.builtin with
  | scalar value => rfl
  | str text => rfl
  | list items ih | tuple items ih | set items ih =>
      rw [withoutSecrets, redactValue, redactValue, redactItems_withoutSecrets ih]
  | dict entries ih =>
      rw [withoutSecrets, redactValue, redactValue, redactEntries_withoutSecrets ih]

theorem redactEventDict_eq (entries : List (String × Value α Empty)) :
    tables.redactEventDict classes entries =
      tables.redactValue classes (Value.ofEntries entries) := by
  have entriesSame : tables.redactEntries classes
      ((tables.maskTop entries).map fun entry => (.str entry.1, entry.2)) =
        tables.redactEntries classes (entries.map fun entry => (.str entry.1, entry.2)) := by
    induction entries with
    | nil => rfl
    | cons entry entries ih =>
        obtain ⟨key, item⟩ := entry
        rw [maskTop, List.map_cons, List.map_cons, ← maskTop, List.map_cons, redactEntries,
          redactEntries, ih, masks]
        by_cases sensitive : tables.isSensitive key = true
        · rw [if_pos sensitive, if_pos sensitive, if_pos sensitive]
        · rw [if_neg sensitive, if_neg sensitive, if_neg sensitive]
  rw [redactEventDict, Value.ofEntries, Value.ofEntries, redactValue, redactValue, entriesSame]

/-- The elements of every set are hashable, as in every Python set. -/
inductive Valid (classes : Classes α Empty) : Value α Empty → Prop
  | scalar (value : α) : Valid classes (.scalar value)
  | str (text : String) : Valid classes (.str text)
  | list {items : List (Value α Empty)} (members : ∀ item ∈ items, Valid classes item) :
      Valid classes (.list items)
  | tuple {items : List (Value α Empty)} (members : ∀ item ∈ items, Valid classes item) :
      Valid classes (.tuple items)
  | set {items : List (Value α Empty)} (members : ∀ item ∈ items, Valid classes item)
      (hashable : ∀ item ∈ items, classes.hashable item = true) : Valid classes (.set items)
  | dict {entries : List (Key α × Value α Empty)}
      (members : ∀ entry ∈ entries, Valid classes entry.2) : Valid classes (.dict entries)

theorem redactItems_returns {items : List (Value α Empty)}
    (returns : ∀ item ∈ items, ∃ result, tables.redactValue classes item = some result) :
    ∃ results, tables.redactItems classes items = some results := by
  induction items with
  | nil => exact ⟨[], rfl⟩
  | cons item items ih =>
      rw [List.forall_mem_cons] at returns
      obtain ⟨⟨result, first⟩, others⟩ := returns
      obtain ⟨results, rest⟩ := ih others
      exact ⟨result :: results, by rw [redactItems, first, rest]; rfl⟩

theorem redactEntries_returns {entries : List (Key α × Value α Empty)}
    (returns : ∀ entry ∈ entries, ∃ result, tables.redactValue classes entry.2 = some result) :
    ∃ results, tables.redactEntries classes entries = some results := by
  induction entries with
  | nil => exact ⟨[], rfl⟩
  | cons entry entries ih =>
      obtain ⟨key, item⟩ := entry
      rw [List.forall_mem_cons] at returns
      obtain ⟨⟨result, first⟩, others⟩ := returns
      obtain ⟨results, rest⟩ := ih others
      rw [redactEntries, rest]
      split
      · exact ⟨_, rfl⟩
      · exact ⟨_, by rw [first]; rfl⟩

theorem redactValue_returns {value : Value α Empty} (valid : Valid classes value) :
    ∃ result, tables.redactValue classes value = some result ∧
      (classes.hashable value = true → classes.hashable result = true) := by
  induction valid with
  | scalar value => exact ⟨_, rfl, id⟩
  | str text => exact ⟨_, rfl, id⟩
  | list members ih =>
      obtain ⟨results, redacts⟩ := redactItems_returns fun item member =>
        (ih item member).imp fun _ => And.left
      exact ⟨.list results, by rw [redactValue, redacts]; rfl, id⟩
  | tuple members ih =>
      obtain ⟨results, redacts⟩ := redactItems_returns fun item member =>
        (ih item member).imp fun _ => And.left
      refine ⟨.tuple results, by rw [redactValue, redacts]; rfl, ?_⟩
      rw [Classes.hashable, Classes.hashable, Classes.hashableItems_iff,
        Classes.hashableItems_iff]
      intro all image member
      obtain ⟨item, among, shown⟩ := mem_right (redactItems_iff.mp redacts) member
      obtain ⟨result, redacts, hashes⟩ := ih item among
      rw [shown] at redacts
      obtain rfl := Option.some.inj redacts
      exact hashes (all item among)
  | set members hashable ih =>
      obtain ⟨results, redacts⟩ := redactItems_returns fun item member =>
        (ih item member).imp fun _ => And.left
      have all : results.all classes.hashable = true := by
        rw [List.all_eq_true]
        intro image member
        obtain ⟨item, among, shown⟩ := mem_right (redactItems_iff.mp redacts) member
        obtain ⟨result, redacts, hashes⟩ := ih item among
        rw [shown] at redacts
        obtain rfl := Option.some.inj redacts
        exact hashes (hashable item among)
      refine ⟨.set (classes.merge results), ?_, nofun⟩
      rw [redactValue, redacts, Option.bind_some, Classes.setOf, if_pos all]
  | dict members ih =>
      obtain ⟨results, redacts⟩ := redactEntries_returns fun entry member =>
        (ih entry member).imp fun _ => And.left
      exact ⟨.dict results, by rw [redactValue, redacts]; rfl, nofun⟩

theorem redactValue_set {items : List (Value α Empty)} {result : Value α Empty}
    (redacts : tables.redactValue classes (.set items) = some result) :
    ∃ images, List.Forall₂ (fun item image => tables.redactValue classes item = some image)
      items images ∧ result = .set (classes.merge images) := by
  rw [redactValue, Option.bind_eq_some_iff] at redacts
  obtain ⟨images, redactsItems, built⟩ := redacts
  rw [Classes.setOf] at built
  split at built
  · exact ⟨images, redactItems_iff.mp redactsItems, (Option.some.inj built).symm⟩
  · cases built

mutual

/-- What the redaction may do to a value: change a text, hide what stands under a sensitive key,
and rebuild a set by `merges` from what becomes of its elements. -/
inductive Kept (tables : CharTables)
    (merges : List (Value α Empty) → List (Value α Empty) → Prop) :
    Value α Empty → Value α Empty → Prop
  | scalar (value : α) : Kept tables merges (.scalar value) (.scalar value)
  | str (text shown : String) : Kept tables merges (.str text) (.str shown)
  | list {items images : List (Value α Empty)}
      (members : List.Forall₂ (Kept tables merges) items images) :
      Kept tables merges (.list items) (.list images)
  | tuple {items images : List (Value α Empty)}
      (members : List.Forall₂ (Kept tables merges) items images) :
      Kept tables merges (.tuple items) (.tuple images)
  | set {items images rest : List (Value α Empty)}
      (members : List.Forall₂ (Kept tables merges) items images) (merged : merges images rest) :
      Kept tables merges (.set items) (.set rest)
  | dict {entries images : List (Key α × Value α Empty)}
      (members : List.Forall₂ (KeptEntry tables merges) entries images) :
      Kept tables merges (.dict entries) (.dict images)

inductive KeptEntry (tables : CharTables)
    (merges : List (Value α Empty) → List (Value α Empty) → Prop) :
    Key α × Value α Empty → Key α × Value α Empty → Prop
  | hidden {key : Key α} (sensitive : tables.masks key = true) (item : Value α Empty) :
      KeptEntry tables merges (key, item) (key, .str redacted)
  | shown {key : Key α} {item image : Value α Empty} (plain : tables.masks key = false)
      (kept : Kept tables merges item image) : KeptEntry tables merges (key, item) (key, image)

end

structure Merged (classes : Classes α Empty) (images rest : List (Value α Empty)) : Prop where
  sublist : rest.Sublist images
  distinct : rest.Pairwise fun first second => classes.eq first second = false
  covers : ∀ image ∈ images, ∃ other ∈ rest, classes.eq image other = true

theorem redactItems_eq {items others results images : List (Value α Empty)}
    (each : ∀ item ∈ items, ∀ {other result image}, classes.eq item other = true →
      tables.redactValue classes item = some result →
      tables.redactValue classes other = some image → classes.eq result image = true)
    (paired : List.Forall₂ (fun item other => classes.eq item other = true) items others)
    (first : tables.redactItems classes items = some results)
    (second : tables.redactItems classes others = some images) :
    List.Forall₂ (fun result image => classes.eq result image = true) results images := by
  have onward : List.Forall₂ (fun item image => ∀ result,
      tables.redactValue classes item = some result → classes.eq result image = true)
      items images :=
    trans_mem paired (redactItems_iff.mp second) fun item member other image same redacts result
      begun => each item member same begun redacts
  exact trans_mem (redactItems_iff.mp first).flip onward fun result _ item image begun related =>
    related result begun

theorem masks_eq {key other : Key α} (same : (key == other) = true) :
    tables.masks key = tables.masks other := by
  cases key with
  | str text =>
      cases other with
      | str second => rw [show text = second from beq_iff_eq.mp same]
      | other _ => cases same
  | other value =>
      cases other with
      | str _ => cases same
      | other _ => rfl

variable [EquivBEq α]

theorem merged_merge (images : List (Value α Empty)) :
    Merged classes images (classes.merge images) :=
  ⟨List.pwFilter_sublist images, List.pairwise_pwFilter images,
    fun _ member => Classes.merge_covers member⟩

theorem redactValue_kept {value result : Value α Empty}
    (redacts : tables.redactValue classes value = some result) :
    Kept tables (Merged classes) value result := by
  induction value using Value.builtin generalizing result with
  | scalar value =>
      obtain rfl := Option.some.inj redacts
      exact .scalar value
  | str text =>
      obtain rfl := Option.some.inj redacts
      exact .str text _
  | list items ih =>
      obtain ⟨images, redactsItems, rfl⟩ := Option.map_eq_some_iff.mp redacts
      exact .list (mono_mem (redactItems_iff.mp redactsItems) fun item member _ => ih item member)
  | tuple items ih =>
      obtain ⟨images, redactsItems, rfl⟩ := Option.map_eq_some_iff.mp redacts
      exact .tuple (mono_mem (redactItems_iff.mp redactsItems) fun item member _ => ih item member)
  | set items ih =>
      obtain ⟨images, redactsItems, rfl⟩ := redactValue_set redacts
      exact .set (mono_mem redactsItems fun item member _ => ih item member) (merged_merge images)
  | dict entries ih =>
      obtain ⟨images, redactsEntries, rfl⟩ := Option.map_eq_some_iff.mp redacts
      refine .dict (mono_mem (redactEntries_iff.mp redactsEntries) fun entry member image => ?_)
      obtain ⟨key, item⟩ := entry
      obtain ⟨other, shown⟩ := image
      rintro ⟨rfl, becomes⟩
      unfold redactEntry at becomes
      split at becomes
      · rename_i sensitive
        obtain rfl := Option.some.inj becomes
        exact .hidden sensitive item
      · rename_i plain
        exact .shown (Bool.eq_false_iff.mpr plain) (ih _ member becomes)

theorem redactEntry_eq {entry other : Key α × Value α Empty} {result image : Value α Empty}
    (ih : ∀ {result image}, tables.redactValue classes entry.2 = some result →
      tables.redactValue classes other.2 = some image → classes.eq result image = true)
    (key : (entry.1 == other.1) = true) (first : tables.redactEntry classes entry = some result)
    (second : tables.redactEntry classes other = some image) :
    classes.eq result image = true := by
  unfold redactEntry at first second
  rw [← masks_eq key] at second
  split at first
  · rename_i sensitive
    rw [if_pos sensitive] at second
    rw [← Option.some.inj first, ← Option.some.inj second]
    exact Classes.eq_refl _
  · rename_i plain
    rw [if_neg plain] at second
    exact ih first second

theorem redactValue_eq {value other result image : Value α Empty}
    (same : classes.eq value other = true)
    (first : tables.redactValue classes value = some result)
    (second : tables.redactValue classes other = some image) :
    classes.eq result image = true := by
  induction value using Value.builtin generalizing other result image with
  | scalar value =>
      obtain ⟨other, rfl, _⟩ := Classes.eq_scalar_left same
      obtain rfl := Option.some.inj first
      obtain rfl := Option.some.inj second
      exact same
  | str text =>
      obtain rfl := Classes.eq_str_left same
      rw [first] at second
      obtain rfl := Option.some.inj second
      exact Classes.eq_refl _
  | list items ih =>
      obtain ⟨others, rfl, paired⟩ := Classes.eq_list_left same
      obtain ⟨results, redacts, rfl⟩ := Option.map_eq_some_iff.mp first
      obtain ⟨images, redacts', rfl⟩ := Option.map_eq_some_iff.mp second
      exact Classes.eqItems_iff.mpr (redactItems_eq ih paired redacts redacts')
  | tuple items ih =>
      obtain ⟨others, rfl, paired⟩ := Classes.eq_tuple_left same
      obtain ⟨results, redacts, rfl⟩ := Option.map_eq_some_iff.mp first
      obtain ⟨images, redacts', rfl⟩ := Option.map_eq_some_iff.mp second
      exact Classes.eqItems_iff.mpr (redactItems_eq ih paired redacts redacts')
  | set items ih =>
      obtain ⟨others, rfl, into, back⟩ := Classes.eq_set_left same
      obtain ⟨results, redacts, rfl⟩ := redactValue_set first
      obtain ⟨images, redacts', rfl⟩ := redactValue_set second
      refine Classes.merge_eq (fun result member => ?_) fun image member => ?_
      · obtain ⟨item, among, shown⟩ := mem_right redacts member
        obtain ⟨other, there, same⟩ := into item among
        obtain ⟨image, found, shown'⟩ := mem_left redacts' there
        exact ⟨image, found, ih item among same shown shown'⟩
      · obtain ⟨other, there, shown'⟩ := mem_right redacts' member
        obtain ⟨item, among, same⟩ := back other there
        obtain ⟨result, found, shown⟩ := mem_left redacts among
        exact ⟨result, found, ih item among same shown shown'⟩
  | dict entries ih =>
      obtain ⟨others, rfl, into, back⟩ := Classes.eq_dict_left same
      obtain ⟨results, redacts, rfl⟩ := Option.map_eq_some_iff.mp first
      obtain ⟨images, redacts', rfl⟩ := Option.map_eq_some_iff.mp second
      have redacts := redactEntries_iff.mp redacts
      have redacts' := redactEntries_iff.mp redacts'
      refine Classes.eq_dict.mpr ⟨fun result member => ?_, fun image member => ?_⟩
      · obtain ⟨entry, among, named, shown⟩ := mem_right redacts member
        obtain ⟨other, there, key, same⟩ := into entry among
        obtain ⟨image, found, named', shown'⟩ := mem_left redacts' there
        exact ⟨image, found, by rwa [← named, ← named'],
          redactEntry_eq (ih entry among same) key shown shown'⟩
      · obtain ⟨other, there, named', shown'⟩ := mem_right redacts' member
        obtain ⟨entry, among, key, same⟩ := back other there
        obtain ⟨result, found, named, shown⟩ := mem_left redacts among
        exact ⟨result, found, by rwa [← named, ← named'],
          redactEntry_eq (ih entry among same) key shown shown'⟩

end CharTables

end Noninterference

structure Event {α : Type} [BEq α] (classes : Classes α Empty) where
  entries : List (String × Value α Empty)
  valid : CharTables.Valid classes (Value.ofEntries entries)

def Event.value {α : Type} [BEq α] {classes : Classes α Empty} (event : Event classes) :
    Value α Empty := Value.ofEntries event.entries

namespace CharTables

variable {α : Type} [BEq α] {classes : Classes α Empty} (tables : CharTables)

/-- The events differ at most in what stands under sensitive keys. -/
def DifferInSecrets (left right : Event classes) : Prop :=
  classes.eq (tables.withoutSecrets left.value) (tables.withoutSecrets right.value) = true

variable {tables} in
theorem redactEventDict_returns (event : Event classes) :
    ∃ result, tables.redactEventDict classes event.entries = some result ∧
      tables.redactValue classes event.value = some result := by
  obtain ⟨result, redacts, _⟩ : ∃ result, tables.redactValue classes event.value = some result ∧
      _ := redactValue_returns event.valid
  exact ⟨result, (redactEventDict_eq event.entries).trans redacts, redacts⟩

/-- Events that differ in their secrets only are logged alike, and what is logged keeps the
containers, keys and scalars of the event, but for elements of a set that have become equal. -/
theorem redactEventDict_noninterferent [EquivBEq α] {left right : Event classes}
    (differ : tables.DifferInSecrets left right) :
    ∃ result other, tables.redactEventDict classes left.entries = some result ∧
      tables.redactEventDict classes right.entries = some other ∧
      classes.eq result other = true ∧ Kept tables (Merged classes) left.value result := by
  obtain ⟨result, returns, redacts⟩ := redactEventDict_returns left
  obtain ⟨other, returns', redacts'⟩ := redactEventDict_returns right
  refine ⟨result, other, returns, returns', ?_, redactValue_kept redacts⟩
  rw [← redactValue_withoutSecrets] at redacts redacts'
  exact redactValue_eq differ redacts redacts'

namespace Sample

def builtins : Classes ℤ Empty where
  build := fun cls => cls.elim
  equal := fun _ _ => false
  hashes := fun _ => false

def login (password : String) : Event builtins where
  entries := [("user", .str "trader"),
    ("credentials", .dict [(.str "Password", .str password), (.str "tries", .scalar 1)])]
  valid := by
    refine .dict ?_
    simp only [List.map_cons, List.map_nil, List.forall_mem_cons, List.not_mem_nil,
      false_implies, implies_true, and_true]
    refine ⟨.str _, .dict ?_⟩
    simp only [List.forall_mem_cons, List.not_mem_nil, false_implies, implies_true, and_true]
    exact ⟨.str _, .scalar _⟩

def worker (text : String) : Value ℤ Empty := .tuple [.str text, .scalar 1]

theorem worker_valid (text : String) : Valid builtins (worker text) := by
  refine .tuple ?_
  simp only [List.forall_mem_cons, List.not_mem_nil, false_implies, implies_true, and_true]
  exact ⟨.str _, .scalar _⟩

def workers : Event builtins where
  entries := [("workers", .set [worker "token=a", worker "token=b"])]
  valid := by
    refine .dict ?_
    simp only [List.map_cons, List.map_nil, List.forall_mem_cons, List.not_mem_nil,
      false_implies, implies_true, and_true]
    refine .set ?_ ?_ <;>
      simp only [List.forall_mem_cons, List.not_mem_nil, false_implies, implies_true, and_true]
    · exact ⟨worker_valid _, worker_valid _⟩
    · exact ⟨rfl, rfl⟩

end Sample

theorem redactEventDict_noninterferent_login :
    ∃ result other,
      Sample.ascii.redactEventDict Sample.builtins (Sample.login "hunter2").entries = some result ∧
      Sample.ascii.redactEventDict Sample.builtins (Sample.login "swordfish").entries =
        some other ∧
      Sample.builtins.eq result other = true ∧
      Kept Sample.ascii (Merged Sample.builtins) (Sample.login "hunter2").value result := by
  refine redactEventDict_noninterferent Sample.ascii ?_
  have sensitive : Sample.ascii.isSensitive "Password" = true := by decide +kernel
  have others : Sample.ascii.isSensitive "user" = false ∧
      Sample.ascii.isSensitive "credentials" = false ∧
      Sample.ascii.isSensitive "tries" = false := by decide +kernel
  have erased : Sample.ascii.withoutSecrets (Sample.login "hunter2").value =
      Sample.ascii.withoutSecrets (Sample.login "swordfish").value := by
    simp [Sample.login, Event.value, Value.ofEntries, withoutSecrets, entriesWithoutSecrets, masks,
      sensitive, others]
  rw [DifferInSecrets, erased]
  exact Classes.eq_refl _

theorem redactValue_worker {text : String}
    (hides : Sample.ascii.redactText text = "token=[REDACTED]") :
    Sample.ascii.redactValue Sample.builtins (Sample.worker text) =
      some (Sample.worker "token=[REDACTED]") := by
  rw [Sample.worker, redactValue, redactItems, redactValue, hides]
  rfl

theorem redactValue_workers :
    Sample.ascii.redactValue Sample.builtins Sample.workers.value =
      some (.dict [(.str "workers", .set [Sample.worker "token=[REDACTED]"])]) := by
  have masked : Sample.ascii.masks (.str "workers" : Key ℤ) = false := by decide +kernel
  have first : Sample.ascii.redactText "token=a" = "token=[REDACTED]" :=
    (redactText_eq _).trans (by decide +kernel)
  have second : Sample.ascii.redactText "token=b" = "token=[REDACTED]" :=
    (redactText_eq _).trans (by decide +kernel)
  have elements : Sample.ascii.redactValue Sample.builtins
      (.set [Sample.worker "token=a", Sample.worker "token=b"]) =
        some (.set [Sample.worker "token=[REDACTED]"]) := by
    rw [redactValue, redactItems, redactItems, redactValue_worker first, redactValue_worker second]
    rfl
  change (Sample.ascii.redactEntries Sample.builtins [(.str "workers", _)]).map Value.dict = _
  rw [redactEntries, if_neg (by rw [masked]; decide), elements]
  rfl

/-- Two elements of a set that differ in a redacted text only are logged as one. -/
theorem redactEventDict_merges :
    ¬∀ left right : Event Sample.builtins, Sample.ascii.DifferInSecrets left right →
      ∃ result other, Sample.ascii.redactEventDict Sample.builtins left.entries = some result ∧
        Sample.ascii.redactEventDict Sample.builtins right.entries = some other ∧
        Sample.builtins.eq result other = true ∧
        Kept Sample.ascii List.Perm left.value result := by
  intro preserved
  obtain ⟨result, _, logged, _, _, kept⟩ :=
    preserved Sample.workers Sample.workers (Classes.eq_refl _)
  rw [redactEventDict_eq] at logged
  obtain rfl := Option.some.inj (redactValue_workers.symm.trans logged)
  cases kept with
  | dict members =>
      cases members with
      | cons entry _ =>
          cases entry with
          | shown _ kept =>
              cases kept with
              | set members merged =>
                  have two := members.length_eq
                  have one := merged.length_eq
                  rw [← two] at one
                  cases one

end CharTables

end Redaction

end Vix75
