import Mathlib.Data.List.Basic
import Mathlib.Data.List.Pairwise

/-! vix_core.logging: the redaction of free texts and of structlog event dicts. -/

namespace Vix75

namespace Redaction

def sensitiveKeys : List String :=
  ["mt5_login", "login", "account", "account_id", "balance", "equity", "password", "passwd", "pwd",
    "mt5_password", "token", "telegram_token", "deriv_api_token", "api_key", "secret",
    "jwt_secret", "authorization"]

def patternKeys : List String :=
  ["mt5_login", "mt5_password", "login", "account", "account_id", "balance", "equity", "password",
    "passwd", "pwd", "token", "secret", "api_key"]

def redacted : String := "[REDACTED]"

def isMark (char : Char) : Bool := char = ':' || char = '='

/-- Python's Unicode tables: `\w`, `\s`, the letter that a character is to a pattern that ignores
case, and `str.lower`. -/
structure CharTables where
  isWord : Char → Bool
  isSpace : Char → Bool
  fold : Char → Char
  lower : String → String
  word_of_fold : ∀ char, ∀ key ∈ sensitiveKeys, fold char ∈ key.toList → isWord char = true
  not_word_of_space : ∀ char, isSpace char = true → isWord char = false
  not_word_of_mark : ∀ char, isMark char = true → isWord char = false
  not_space_of_mark : ∀ char, isMark char = true → isSpace char = false

structure Match where
  key : List Char
  separator : List Char
  value : List Char
  rest : List Char

namespace CharTables

variable (tables : CharTables)

def isKey (word : List Char) : Bool :=
  patternKeys.any fun key => decide (word.map tables.fold = key.toList)

def assignment (text : List Char) : Option (List Char × List Char × List Char) :=
  match text.dropWhile tables.isSpace with
  | [] => none
  | mark :: after =>
      if isMark mark then
        let value := (after.dropWhile tables.isSpace).takeWhile fun char => !tables.isSpace char
        if value = [] then none
        else some (text.takeWhile tables.isSpace ++ mark :: after.takeWhile tables.isSpace, value,
          (after.dropWhile tables.isSpace).dropWhile fun char => !tables.isSpace char)
      else none

/-- `_KEY_VALUE_RE` at one position; `inWord` tells whether a word character stands before it. The
boundaries on both sides leave only whole words to the alternation. -/
def matchAt (inWord : Bool) (text : List Char) : Option Match :=
  if !inWord && tables.isKey (text.takeWhile tables.isWord) then
    (tables.assignment (text.dropWhile tables.isWord)).map fun found =>
      ⟨text.takeWhile tables.isWord, found.1, found.2.1, found.2.2⟩
  else none

theorem assignment_shorter {text : List Char} {found : List Char × List Char × List Char}
    (assigned : tables.assignment text = some found) : found.2.2.length < text.length := by
  unfold assignment at assigned
  split at assigned
  · cases assigned
  · rename_i mark after spaces
    have shorter := (List.dropWhile_sublist tables.isSpace (l := text)).length_le
    rw [spaces, List.length_cons] at shorter
    split at assigned
    · dsimp only at assigned
      split at assigned
      · cases assigned
      · obtain rfl := Option.some.inj assigned
        have gap := (List.dropWhile_sublist tables.isSpace (l := after)).length_le
        have value := (List.dropWhile_sublist (fun char => !tables.isSpace char)
          (l := after.dropWhile tables.isSpace)).length_le
        dsimp only
        omega
    · cases assigned

theorem matchAt_shorter {inWord : Bool} {text : List Char} {found : Match}
    (matched : tables.matchAt inWord text = some found) : found.rest.length < text.length := by
  unfold matchAt at matched
  split at matched
  · obtain ⟨_, assigned, rfl⟩ := Option.map_eq_some_iff.mp matched
    have word := (List.dropWhile_sublist tables.isWord (l := text)).length_le
    exact Nat.lt_of_lt_of_le (tables.assignment_shorter assigned) word
  · cases matched

def sub (inWord : Bool) (text : List Char) : List Char :=
  match _matched : tables.matchAt inWord text with
  | some found => found.key ++ found.separator ++ redacted.toList ++
      sub (found.value.getLast?.any tables.isWord) found.rest
  | none =>
      match text with
      | [] => []
      | char :: rest => char :: sub (tables.isWord char) rest
termination_by text.length
decreasing_by
  · exact tables.matchAt_shorter _matched
  · simp

def redactText (text : String) : String := String.ofList (tables.sub false text.toList)

end CharTables

/-! redact_event_dict -/

inductive Key (α : Type) where
  | str (text : String)
  | other (value : α)

/-- A logged value: `α` are the objects that the redaction returns as they are, `κ` the classes
derived from str, from list, tuple and set, and the mutable mappings other than dict. A set is
listed in any order. -/
inductive Value (α κ : Type) where
  | scalar (value : α)
  | str (text : String)
  | list (items : List (Value α κ))
  | tuple (items : List (Value α κ))
  | set (items : List (Value α κ))
  | dict (entries : List (Key α × Value α κ))
  | strOf (cls : κ) (text : String)
  | sequenceOf (cls : κ) (items : List (Value α κ))
  | mappingOf (cls : κ) (entries : List (Key α × Value α κ))

variable {α κ : Type}

theorem Value.ind {motive : Value α κ → Prop} (scalar : ∀ value, motive (.scalar value))
    (str : ∀ text, motive (.str text))
    (list : ∀ items, (∀ item ∈ items, motive item) → motive (.list items))
    (tuple : ∀ items, (∀ item ∈ items, motive item) → motive (.tuple items))
    (set : ∀ items, (∀ item ∈ items, motive item) → motive (.set items))
    (dict : ∀ entries, (∀ entry ∈ entries, motive entry.2) → motive (.dict entries))
    (strOf : ∀ cls text, motive (.strOf cls text))
    (sequenceOf : ∀ cls items, (∀ item ∈ items, motive item) → motive (.sequenceOf cls items))
    (mappingOf : ∀ cls entries, (∀ entry ∈ entries, motive entry.2) →
      motive (.mappingOf cls entries)) (value : Value α κ) : motive value :=
  @Value.rec α κ motive (fun items => ∀ item ∈ items, motive item)
    (fun entries => ∀ entry ∈ entries, motive entry.2) (fun entry => motive entry.2)
    scalar str list tuple set dict strOf sequenceOf mappingOf (by simp)
    (fun _ _ first others => List.forall_mem_cons.mpr ⟨first, others⟩) (by simp)
    (fun _ _ first others => List.forall_mem_cons.mpr ⟨first, others⟩) (fun _ _ item => item) value

def Value.ofEntries (entries : List (String × Value α κ)) : Value α κ :=
  .dict (entries.map fun entry => (.str entry.1, entry.2))

def Value.derived : Value α κ → Bool
  | .strOf _ _ | .sequenceOf _ _ | .mappingOf _ _ => true
  | _ => false

/-- What classes that are not built in do: `build` is `container_type(items)`, or `none` for what it
raises, and the other two are their `==` and whether `hash` accepts an instance. -/
structure Classes (α κ : Type) where
  build : κ → List (Value α κ) → Option (Value α κ)
  equal : Value α κ → Value α κ → Bool
  hashes : Value α κ → Bool

variable [BEq α]

def Key.same : Key α → Key α → Bool
  | .str left, .str right => left == right
  | .other left, .other right => left == right
  | _, _ => false

instance : BEq (Key α) := ⟨Key.same⟩

namespace Classes

variable (classes : Classes α κ)

mutual

def eq : Value α κ → Value α κ → Bool
  | .scalar value, .scalar other => value == other
  | .str text, .str other => text == other
  | .list items, .list others => eqItems items others
  | .tuple items, .tuple others => eqItems items others
  | .set items, .set others => within items others && others.all fun other => covers items other
  | .dict entries, .dict others =>
      entriesWithin entries others && others.all fun other => entriesCover entries other
  | value, other => (value.derived || other.derived) && classes.equal value other
termination_by structural value => value

def eqItems : List (Value α κ) → List (Value α κ) → Bool
  | [], [] => true
  | item :: items, other :: others => eq item other && eqItems items others
  | _, _ => false
termination_by structural value => value

def within : List (Value α κ) → List (Value α κ) → Bool
  | [], _ => true
  | item :: items, others => (others.any fun other => eq item other) && within items others
termination_by structural value => value

def covers : List (Value α κ) → Value α κ → Bool
  | [], _ => false
  | item :: items, other => eq item other || covers items other
termination_by structural value => value

def entriesWithin : List (Key α × Value α κ) → List (Key α × Value α κ) → Bool
  | [], _ => true
  | (key, item) :: entries, others =>
      (others.any fun other => key == other.1 && eq item other.2) && entriesWithin entries others
termination_by structural value => value

def entriesCover : List (Key α × Value α κ) → Key α × Value α κ → Bool
  | [], _ => false
  | (key, item) :: entries, other =>
      key == other.1 && eq item other.2 || entriesCover entries other
termination_by structural value => value

end

mutual

def hashable : Value α κ → Bool
  | .scalar _ | .str _ => true
  | .list _ | .set _ | .dict _ => false
  | .tuple items => hashableItems items
  | .strOf cls text => classes.hashes (.strOf cls text)
  | .sequenceOf cls items => classes.hashes (.sequenceOf cls items)
  | .mappingOf cls entries => classes.hashes (.mappingOf cls entries)

def hashableItems : List (Value α κ) → Bool
  | [] => true
  | item :: items => hashable item && hashableItems items

end

def merge (items : List (Value α κ)) : List (Value α κ) :=
  items.pwFilter fun item other => classes.eq item other = false

def setOf (items : List (Value α κ)) : Option (Value α κ) :=
  if items.all classes.hashable then some (.set (classes.merge items)) else none

end Classes

namespace CharTables

variable (tables : CharTables) (classes : Classes α κ)

def isSensitive (key : String) : Bool := decide (tables.lower key ∈ sensitiveKeys)

def masks : Key α → Bool
  | .str key => tables.isSensitive key
  | .other _ => false

mutual

/-- `none` for the TypeError of a class that cannot be built from the redacted items. -/
def redactValue : Value α κ → Option (Value α κ)
  | .dict entries => (redactEntries entries).map .dict
  | .mappingOf _ entries => (redactEntries entries).map .dict
  | .list items => (redactItems items).map .list
  | .tuple items => (redactItems items).map .tuple
  | .set items => (redactItems items).bind classes.setOf
  | .sequenceOf cls items => (redactItems items).bind (classes.build cls)
  | .str text => some (.str (tables.redactText text))
  | .strOf _ text => some (.str (tables.redactText text))
  | .scalar value => some (.scalar value)

def redactItems : List (Value α κ) → Option (List (Value α κ))
  | [] => some []
  | item :: items => do
      let item ← redactValue item
      let items ← redactItems items
      some (item :: items)

def redactEntries : List (Key α × Value α κ) → Option (List (Key α × Value α κ))
  | [] => some []
  | (key, item) :: entries => do
      let item ← (if tables.masks key then some (.str redacted) else redactValue item)
      let entries ← redactEntries entries
      some ((key, item) :: entries)

end

/-- The first pass of `redact_event_dict`, in place. -/
def maskTop (entries : List (String × Value α κ)) : List (String × Value α κ) :=
  entries.map fun entry => (entry.1, if tables.isSensitive entry.1 then .str redacted else entry.2)

def redactEventDict (entries : List (String × Value α κ)) : Option (Value α κ) :=
  tables.redactValue classes (Value.ofEntries (tables.maskTop entries))

end CharTables

end Redaction

end Vix75
