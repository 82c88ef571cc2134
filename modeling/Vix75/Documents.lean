import Mathlib.Data.List.Forall2
import Vix75.Schemas

/-! Dicts that come back from a hop that may write them in another way, and the readers of
strict models on them. -/

namespace Vix75

theorem lookup_eq_none_iff_keys {κ α : Type} [BEq κ] [LawfulBEq κ] {entries : List (κ × α)}
    {name : κ} : entries.lookup name = none ↔ name ∉ entries.map Prod.fst := by
  rw [List.lookup_eq_none_iff, List.mem_map]
  constructor
  · rintro absent ⟨entry, member, rfl⟩
    simpa using absent entry member
  · intro absent entry member
    exact bne_iff_ne.mpr fun same => absent ⟨entry, member, same.symm⟩

theorem mapM_eq_some_iff {α β : Type} {read : α → Option β} {items : List α}
    {results : List β} : items.mapM read = some results ↔
      List.Forall₂ (fun item result => read item = some result) items results := by
  induction items generalizing results with
  | nil => cases results <;> simp
  | cons item rest ih =>
      rw [List.mapM_cons]
      simp only [Option.bind_eq_bind, Option.bind_eq_some_iff, Option.pure_def, Option.some.injEq]
      cases results with
      | nil => simp
      | cons result others =>
          simp only [List.cons.injEq, ↓existsAndEq, and_true, List.forall₂_cons, ih]

namespace Json

/-- A dict that holds, in any order, what a hop makes of the fields of another. -/
structure Carried (hop : Json → Json → Prop) (given kept : List (String × Json)) : Prop where
  found : ∀ name document, given.lookup name = some document →
    ∃ value, kept.lookup name = some value ∧ hop document value
  closed : ∀ name, given.lookup name = none → kept.lookup name = none

/-- What a JSONB column gives back: keys in another order, and a whole float perhaps as an
integer. -/
inductive Stored : Json → Json → Prop
  | null : Stored .null .null
  | bool (value : Bool) : Stored (.bool value) (.bool value)
  | int (value : ℤ) : Stored (.int value) (.int value)
  | float (value : PyFloat) : Stored (.float value) (.float value)
  | whole (value : ℤ) : Stored (.float (.finite value)) (.int value)
  | str (text : String) : Stored (.str text) (.str text)
  | list {items kept : List Json} (same : items.length = kept.length)
      (each : ∀ (i : ℕ) (item value : Json), items[i]? = some item → kept[i]? = some value →
        Stored item value) : Stored (.list items) (.list kept)
  | dict {given kept : List (String × Json)} (value : String → Json)
      (found : ∀ name document, given.lookup name = some document →
        kept.lookup name = some (value name))
      (each : ∀ name document, given.lookup name = some document → Stored document (value name))
      (closed : ∀ name, given.lookup name = none → kept.lookup name = none) :
      Stored (.dict given) (.dict kept)

theorem Stored.of_dict {given : List (String × Json)} {document : Json}
    (stored : Stored (.dict given) document) :
    ∃ kept, document = .dict kept ∧ Carried Stored given kept := by
  cases stored with
  | dict value found each closed =>
      exact ⟨_, rfl, fun name document here => ⟨_, found name document here,
        each name document here⟩, closed⟩

theorem Carried.refl (given : List (String × Json)) : Carried Eq given given where
  found := fun _ document here => ⟨document, here, rfl⟩
  closed := fun _ absent => absent

/-! Strict models -/

section Models

variable {α : Type}

/-- The fields of a dict that has no other than these names; `extra="forbid"`. -/
def strict (names : List String) : Json → Option (List (String × Json))
  | .dict data => if data.all fun entry => decide (entry.1 ∈ names) then some data else none
  | _ => none

def required (read : Json → Option α) (name : String) (data : List (String × Json)) : Option α :=
  (data.lookup name).bind read

def defaulted (read : Json → Option α) (name : String) (default : α)
    (data : List (String × Json)) : Option α :=
  match data.lookup name with
  | none => some default
  | some value => read value

def optional (read : Json → Option α) : Json → Option (Option α)
  | .null => some none
  | value => (read value).map some

def enumeration (value : α → String) (members : List α) : Json → Option α
  | .str text => members.find? fun member => value member = text
  | _ => none

def readStr : Json → Option String
  | .str text => some text
  | _ => none

def readBool : Json → Option Bool
  | .bool value => some value
  | .int 0 => some false
  | .int 1 => some true
  | .float (.finite value) =>
      if value = 0 then some false else if value = 1 then some true else none
  | .str text =>
      if text.toLower ∈ ["0", "off", "f", "false", "n", "no"] then some false
      else if text.toLower ∈ ["1", "on", "t", "true", "y", "yes"] then some true
      else none
  | _ => none

def Reads (hop : Json → Json → Prop) (document : Json) (read : Json → Option α) (value : α) :
    Prop :=
  ∀ arrived, hop document arrived → read arrived = some value

theorem then_some {β : Type} {first : Option α} {value : α} {rest : α → Option β} {result : β}
    (here : first = some value) (after : rest value = some result) :
    (first >>= rest) = some result := by
  rw [here]
  exact after

variable {hop : Json → Json → Prop} {given kept : List (String × Json)} {read : Json → Option α}
  {name : String} {document : Json} {value : α}

theorem Carried.strict (carried : Carried hop given kept) (names : List String)
    (known : ∀ entry ∈ given, entry.1 ∈ names) : strict names (.dict kept) = some kept := by
  refine if_pos (List.all_eq_true.mpr fun entry member => decide_eq_true ?_)
  by_contra unknown
  have absent : given.lookup entry.1 = none := by
    rw [lookup_eq_none_iff_keys, List.mem_map]
    rintro ⟨other, among, same⟩
    exact unknown (same ▸ known other among)
  exact lookup_eq_none_iff_keys.mp (carried.closed _ absent) (List.mem_map_of_mem member)

theorem Carried.required (carried : Carried hop given kept) (reads : Reads hop document read value)
    (here : given.lookup name = some document) : required read name kept = some value := by
  obtain ⟨arrived, found, hopped⟩ := carried.found name document here
  rw [Json.required, found, Option.bind_some]
  exact reads arrived hopped

theorem Carried.defaulted (carried : Carried hop given kept) (reads : Reads hop document read value)
    (here : given.lookup name = some document) (default : α) :
    defaulted read name default kept = some value := by
  obtain ⟨arrived, found, hopped⟩ := carried.found name document here
  rw [Json.defaulted, found]
  exact reads arrived hopped

theorem Reads.optional (reads : Reads hop document read value) (null : read .null = none) :
    Reads hop document (optional read) (some value) := by
  intro arrived hopped
  have found := reads arrived hopped
  cases arrived with
  | null => rw [null] at found; contradiction
  | _ => rw [Json.optional, found, Option.map_some]; simp

theorem Reads.enumeration {code : α → String} {members : List α}
    (text : ∀ text arrived, hop (.str text) arrived → arrived = .str text)
    (distinct : Function.Injective code) (member : value ∈ members) :
    Reads hop (.str (code value)) (enumeration code members) value := by
  intro arrived hopped
  rw [text _ _ hopped, Json.enumeration]
  cases found : members.find? fun member => code member = code value with
  | none => simpa using List.find?_eq_none.mp found value member
  | some other =>
      have same := List.find?_some found
      exact congrArg some (distinct (by simpa using same))

end Models

end Json

end Vix75
