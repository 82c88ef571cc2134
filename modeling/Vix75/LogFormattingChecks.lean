import Vix75.LogArgumentChecks

/-! Redaction of a record against redaction of its message: they agree when the pattern finds in
the message the values that it finds in the template and in the arguments, each by itself. -/

namespace Vix75

open Redaction MaskedText

namespace Logging

section Records

variable {α κ : Type} [BEq α] {tables : CharTables} {classes : Classes α κ}
  {rendering : Rendering α κ} {args : Arguments α κ} {formats : Bool} {template : List Piece}
  {state : Scan} {supply : Supply α κ} {hidden : List (Mark Char)}

/-- The values that the pattern finds in the message are those it finds in the template and in the
arguments, each by itself, and the texts under sensitive keys. -/
def LogRecord.Aligned (tables : CharTables) (classes : Classes α κ) (rendering : Rendering α κ)
    (record : LogRecord α κ) (message : String) : Prop :=
  (tables.redactArgs classes record.args).isSome = true ∧
    ∃ template ∈ pieces none record.msg.toList,
      apart tables classes rendering record.args record.args.truthy .gap record.args.supply
        template = some (tables.marks .gap message.toList)

instance (tables : CharTables) (classes : Classes α κ) (rendering : Rendering α κ)
    (record : LogRecord α κ) (message : String) :
    Decidable (record.Aligned tables classes rendering message) :=
  inferInstanceAs (Decidable (_ ∧ ∃ template ∈ pieces none record.msg.toList, _))

end Records

/-! Plain records, where nothing else will do -/

section Plain

variable {α κ : Type} [BEq α] {tables : CharTables} {classes : Classes α κ}
  {rendering : Rendering α κ} {args : Arguments α κ} {template : List Piece} {state : Scan}
  {supply masked later : Supply α κ} {conversion : Conversion} {text : List Char}

/-- The redaction leaves the value as it is, or the value is a text under `%s`; under a sensitive
key it is only asked that the placeholder is `%(key)s`. -/
def Told (tables : CharTables) (classes : Classes α κ) (args : Arguments α κ)
    (conversion : Conversion) (value : Value α κ) : Prop :=
  if args.secret tables conversion then conversion.bare = true
  else tables.leaves classes value = true ∨ conversion.bare = true ∧ ∃ text, value = .str text

end Plain

namespace Sample

def login : LogRecord ℤ Unit where
  msg := "login=%s"
  args := .positional [.str "alice"]

def pair : LogRecord ℤ Unit where
  msg := "%s=%s"
  args := .positional [.str "password", .str "hunter2"]

def point : LogRecord ℤ Unit where
  msg := "at %s"
  args := .positional [.sequenceOf () [.scalar 1, .scalar 2]]

end Sample

end Logging

end Vix75
