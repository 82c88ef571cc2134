import Vix75.LogFormatting
import Vix75.RedactionChecks

/-! Templates of log messages: they are cut at their placeholders, wherever they go on, also after
the redaction, which keeps a placeholder or writes over it. -/

namespace Vix75

open Redaction

namespace Logging

/-! A template is cut at its placeholders, wherever it goes on. -/

section Formatting

variable {α κ : Type} [BEq α] {rendering : Rendering α κ} {args : Arguments α κ}

def Intact (tables : CharTables) : Scan → List Piece → Prop
  | _, [] => True
  | state, .literal char :: rest => Intact tables (tables.step state char) rest
  | state, .conversion raw _ :: rest =>
      (tables.run state raw = raw ∨ '%' ∉ tables.run state raw) ∧
        Intact tables (tables.scan state raw) rest

variable {tables : CharTables}

end Formatting

end Logging

end Vix75
