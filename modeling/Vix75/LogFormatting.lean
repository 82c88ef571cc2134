import Mathlib.Data.Int.Notation
import Vix75.Redaction

/-! Records of the standard logging library: `msg % args` for a string message with positional or
dict args, `getMessage`, and the filter of vix_core.logging on a record. -/

namespace Vix75

open Redaction

namespace Logging

inductive Size where
  | digits (value : ℕ)
  | star
deriving DecidableEq

structure Conversion where
  key : Option (List Char) := none
  flags : List Char := []
  width : Option Size := none
  precision : Option Size := none
  type : Char := '%'
deriving DecidableEq

inductive Stage where
  | percent
  | key (depth : ℕ) (read : List Char)
  | flags
  | width
  | afterWidth
  | dot
  | precision
  | afterPrecision
  | afterLength

structure Placeholder where
  stage : Stage
  conversion : Conversion
  raw : List Char

inductive Piece where
  | literal (char : Char)
  | conversion (raw : List Char) (conversion : Conversion)

def Piece.raw : Piece → List Char
  | .literal char => [char]
  | .conversion raw _ => raw

def flagChars : List Char := ['-', '+', ' ', '#', '0']

def lengthChars : List Char := ['h', 'l', 'L']

def typeChars : List Char :=
  ['d', 'i', 'o', 'u', 'x', 'X', 'e', 'E', 'f', 'F', 'g', 'G', 'c', 'r', 's', 'a']

def Size.extend (size : Option Size) (digit : Char) : Option Size :=
  match size with
  | some (.digits value) => some (.digits (10 * value + (digit.toNat - '0'.toNat)))
  | _ => some (.digits (digit.toNat - '0'.toNat))

namespace Placeholder

variable (placeholder : Placeholder) (char : Char)

def opened : Placeholder := ⟨.percent, {}, ['%']⟩

def more (stage : Stage) (conversion : Conversion) : Placeholder ⊕ Conversion :=
  .inl ⟨stage, conversion, placeholder.raw ++ [char]⟩

def readType : Placeholder ⊕ Conversion := .inr { placeholder.conversion with type := char }

def readLength : Placeholder ⊕ Conversion :=
  if char ∈ lengthChars then placeholder.more char .afterLength placeholder.conversion
  else placeholder.readType char

def readDot : Placeholder ⊕ Conversion :=
  if char = '.' then
    placeholder.more char .dot { placeholder.conversion with precision := some (.digits 0) }
  else placeholder.readLength char

def readWidth : Placeholder ⊕ Conversion :=
  if char = '*' then
    placeholder.more char .afterWidth { placeholder.conversion with width := some .star }
  else if char.isDigit then
    placeholder.more char .width { placeholder.conversion with width := Size.extend none char }
  else placeholder.readDot char

def readFlag : Placeholder ⊕ Conversion :=
  if char ∈ flagChars then
    placeholder.more char .flags { placeholder.conversion with
      flags := placeholder.conversion.flags ++ [char] }
  else placeholder.readWidth char

def readKey (depth : ℕ) (read : List Char) : Placeholder ⊕ Conversion :=
  if char = ')' then
    match depth with
    | 0 => placeholder.more char .flags { placeholder.conversion with key := some read }
    | outer + 1 => placeholder.more char (.key outer (read ++ [char])) placeholder.conversion
  else if char = '(' then
    placeholder.more char (.key (depth + 1) (read ++ [char])) placeholder.conversion
  else placeholder.more char (.key depth (read ++ [char])) placeholder.conversion

def read : Placeholder ⊕ Conversion :=
  match placeholder.stage with
  | .percent =>
      if char = '(' then placeholder.more char (.key 0 []) placeholder.conversion
      else placeholder.readFlag char
  | .key depth read => placeholder.readKey char depth read
  | .flags => placeholder.readFlag char
  | .width =>
      if char.isDigit then
        placeholder.more char .width { placeholder.conversion with
          width := Size.extend placeholder.conversion.width char }
      else placeholder.readDot char
  | .afterWidth => placeholder.readDot char
  | .dot =>
      if char = '*' then
        placeholder.more char .afterPrecision { placeholder.conversion with
          precision := some .star }
      else if char.isDigit then
        placeholder.more char .precision { placeholder.conversion with
          precision := Size.extend none char }
      else placeholder.readLength char
  | .precision =>
      if char.isDigit then
        placeholder.more char .precision { placeholder.conversion with
          precision := Size.extend placeholder.conversion.precision char }
      else placeholder.readLength char
  | .afterPrecision => placeholder.readLength char
  | .afterLength => placeholder.readType char

end Placeholder

def pieces : Option Placeholder → List Char → Option (List Piece)
  | none, [] => some []
  | some _, [] => none
  | none, char :: rest =>
      if char = '%' then pieces (some .opened) rest
      else (pieces none rest).map (.literal char :: ·)
  | some placeholder, char :: rest =>
      match placeholder.read char with
      | .inl longer => pieces (some longer) rest
      | .inr conversion =>
          (pieces none rest).map (.conversion (placeholder.raw ++ [char]) conversion :: ·)

/-! Arguments -/

variable {α κ : Type}

/-- The values of a tuple, or a dict, which may be of a derived class. -/
inductive Arguments (α κ : Type) where
  | positional (values : List (Value α κ))
  | mapping (cls : Option κ) (entries : List (Key α × Value α κ))

/-- What the next placeholder may take: the rest of a tuple, one value, or nothing more. -/
inductive Supply (α κ : Type) where
  | queue (values : List (Value α κ))
  | single (value : Value α κ)
  | spent

/-- The texts of values: `convert` is one conversion of a value, by its type, flags, width (to be
filled on the right if it is negative) and precision, or `none` for what it raises. `item` is the
value under a key of a derived mapping, which may have values for further keys. -/
structure Rendering (α κ : Type) [BEq α] where
  convert : Char → List Char → Option ℤ → Option ℤ → Value α κ → Option (List Char)
  intOf : α → Option ℤ
  item : κ → List (Key α × Value α κ) → String → Option (Value α κ)
  convert_str : ∀ text, convert 's' [] none none (.str text) = some text.toList
  item_stored : ∀ cls entries key value, entries.lookup (.str key) = some value →
    item cls entries key = some value

namespace Supply

def next : Supply α κ → Option (Value α κ × Supply α κ)
  | .queue [] => none
  | .queue (value :: values) => some (value, .queue values)
  | .single value => some (value, .spent)
  | .spent => none

def finished : Supply α κ → Bool
  | .queue values => values.isEmpty
  | .single _ => true
  | .spent => true

end Supply

namespace Arguments

def dictOf (cls : Option κ) (entries : List (Key α × Value α κ)) : Value α κ :=
  match cls with
  | none => .dict entries
  | some cls => .mappingOf cls entries

def supply : Arguments α κ → Supply α κ
  | .positional values => .queue values
  | .mapping cls entries => .single (dictOf cls entries)

def truthy : Arguments α κ → Bool
  | .positional values => !values.isEmpty
  | .mapping _ entries => !entries.isEmpty

end Arguments

variable [BEq α]

namespace Rendering

variable (rendering : Rendering α κ) (args : Arguments α κ)

def lookup (cls : Option κ) (entries : List (Key α × Value α κ)) (key : String) :
    Option (Value α κ) :=
  match cls with
  | none => entries.lookup (.str key)
  | some cls => rendering.item cls entries key

def select (key : Option (List Char)) (supply : Supply α κ) : Option (Supply α κ) :=
  match key, args with
  | none, _ => some supply
  | some _, .positional _ => none
  | some key, .mapping cls entries =>
      (rendering.lookup cls entries (String.ofList key)).map .single

def starOf : Value α κ → Option ℤ
  | .scalar value => rendering.intOf value
  | _ => none

def readSize (size : Option Size) (supply : Supply α κ) : Option (Option ℤ × Supply α κ) :=
  match size with
  | none => some (none, supply)
  | some (.digits value) => some (some (value : ℤ), supply)
  | some .star => do
      let (value, later) ← supply.next
      some (some (← rendering.starOf value), later)

def convertNext (conversion : Conversion) (width precision : Option ℤ) (supply : Supply α κ) :
    Option (List Char × Supply α κ) :=
  if conversion.type = '%' then some (['%'], supply)
  else if conversion.type ∉ typeChars then none
  else do
    let (value, later) ← supply.next
    some (← rendering.convert conversion.type conversion.flags width precision value, later)

def apply (conversion : Conversion) (supply : Supply α κ) :
    Option (List Char × Supply α κ) := do
  let supply ← rendering.select args conversion.key supply
  let (width, supply) ← rendering.readSize conversion.width supply
  let (precision, supply) ← rendering.readSize conversion.precision supply
  rendering.convertNext conversion width precision supply

def format : Supply α κ → List Piece → Option (List Char)
  | supply, [] => if supply.finished then some [] else none
  | supply, .literal char :: rest => (format supply rest).map (char :: ·)
  | supply, .conversion _ conversion :: rest => do
      let (text, later) ← rendering.apply args conversion supply
      (format later rest).map (text ++ ·)

/-- `msg % args`. -/
def percent (msg : String) : Option String := do
  let template ← pieces none msg.toList
  (rendering.format args args.supply template).map String.ofList

end Rendering

structure LogRecord (α κ : Type) where
  msg : String
  args : Arguments α κ

end Logging

namespace Redaction.CharTables

open Logging

variable {α κ : Type} [BEq α] (tables : CharTables) (classes : Classes α κ)

def redactArgs : Arguments α κ → Option (Arguments α κ)
  | .positional values => (tables.redactItems classes values).map .positional
  | .mapping _ entries => (tables.redactEntries classes entries).map (.mapping none)

/-- The record as `RedactingFilter.filter` leaves it, or `none` if it raises; every other record
passes. -/
def filter (record : LogRecord α κ) : Option (LogRecord α κ) :=
  if record.args.truthy then
    (tables.redactArgs classes record.args).map fun args => ⟨tables.redactText record.msg, args⟩
  else some ⟨tables.redactText record.msg, record.args⟩

end Redaction.CharTables

end Vix75
