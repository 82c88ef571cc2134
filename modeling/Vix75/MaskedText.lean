import Mathlib.Data.List.Basic
import Mathlib.Tactic.Common

/-! Texts with hidden stretches, each of which leaves a mask. Where the stretches end before a
space or with the text, the text and what is seen of it tell which they are. -/

namespace MaskedText

variable {α : Type}

/-- A character that is kept or hidden, or the place of a mask. -/
inductive Mark (α : Type) where
  | keep (char : α)
  | mask
  | drop (char : α)
deriving DecidableEq

def read : List (Mark α) → List α
  | [] => []
  | .keep char :: marks => char :: read marks
  | .drop char :: marks => char :: read marks
  | .mask :: marks => read marks

def seen : List (Mark α) → List (Option α)
  | [] => []
  | .keep char :: marks => some char :: seen marks
  | .drop _ :: marks => seen marks
  | .mask :: marks => none :: seen marks

def fill (mask : List α) : List (Option α) → List α
  | [] => []
  | some char :: rest => char :: fill mask rest
  | none :: rest => mask ++ fill mask rest

inductive Stage where
  | outside
  | opened
  | inside
deriving DecidableEq

/-- Hidden stretches have no spaces, are not empty, and end before a space or with the text. -/
inductive Regular (space : α → Bool) : Stage → List (Mark α) → Prop
  | nil : Regular space .outside []
  | ended : Regular space .inside []
  | keep {char : α} {marks : List (Mark α)} (next : Regular space .outside marks) :
      Regular space .outside (.keep char :: marks)
  | mask {marks : List (Mark α)} (next : Regular space .opened marks) :
      Regular space .outside (.mask :: marks)
  | drop {stage : Stage} {char : α} {marks : List (Mark α)} (hidden : stage ≠ .outside)
      (solid : space char = false) (next : Regular space .inside marks) :
      Regular space stage (.drop char :: marks)
  | resume {char : α} {marks : List (Mark α)} (blank : space char = true)
      (next : Regular space .outside marks) : Regular space .inside (.keep char :: marks)

def Headed : (inside : Bool) → List (Mark α) → Prop
  | _, [] => True
  | _, .keep _ :: marks => Headed false marks
  | _, .mask :: marks => Headed true marks
  | inside, .drop _ :: marks => inside = true ∧ Headed true marks

theorem Headed.mono {inside : Bool} {marks : List (Mark α)} (headed : Headed false marks) :
    Headed inside marks := by
  cases marks with
  | nil => trivial
  | cons mark marks =>
      cases mark with
      | keep char | mask => exact headed
      | drop char => cases headed.1

theorem Headed.append {inside : Bool} {left right : List (Mark α)} (headed : Headed inside left)
    (next : Headed false right) : Headed inside (left ++ right) := by
  induction left generalizing inside with
  | nil => exact next.mono
  | cons mark left ih =>
      cases mark with
      | keep char | mask => exact ih headed
      | drop char => exact ⟨headed.1, ih headed.2⟩

theorem Headed.drop_append {text : List α} {marks : List (Mark α)} (headed : Headed true marks) :
    Headed true (text.map .drop ++ marks) := by
  induction text with
  | nil => exact headed
  | cons char text ih => exact ⟨rfl, ih⟩

section Known

variable {space : α → Bool} {stage : Stage} {marks others : List (Mark α)}

def spaces (space : α → Bool) (chars : List (Option α)) : ℕ :=
  chars.countP fun char => char.any space

theorem Regular.headed (regular : Regular space stage marks) :
    Headed (decide (stage ≠ .outside)) marks := by
  induction regular with
  | nil | ended => trivial
  | keep next ih | mask next ih | resume blank next ih => exact ih
  | drop hidden solid next ih => exact ⟨decide_eq_true hidden, ih⟩

end Known

end MaskedText
