import Vix75.EventRedactionChecks
import Vix75.LogTemplateChecks
import Vix75.MaskedText

/-! What the redaction of a record hides where the template and the arguments are redacted apart:
the values that the pattern finds in them, and what stands under sensitive keys. -/

namespace Vix75

open Redaction MaskedText

namespace Redaction

def Scan.stage : Scan → Stage
  | .value => .inside
  | _ => .outside

namespace CharTables

variable (tables : CharTables)

def mark : Scan → Char → List (Mark Char)
  | .assigned, char => if tables.isSpace char then [.keep char] else [.mask, .drop char]
  | .value, char => if tables.isSpace char then [.keep char] else [.drop char]
  | _, char => [.keep char]

def marks : Scan → List Char → List (Mark Char)
  | _, [] => []
  | state, char :: text => tables.mark state char ++ marks (tables.step state char) text

variable {tables}

theorem unassigning :
    ¬Scan.gap.Assigning ∧ ¬Scan.named.Assigning ∧ ∀ read, ¬(Scan.word read).Assigning := by
  refine ⟨?_, ?_, fun read => ?_⟩ <;> rintro (same | same) <;> cases same

end CharTables

end Redaction

/-! Values that the redaction returns as they are -/

namespace Redaction.CharTables

variable {α κ : Type} [BEq α] (tables : CharTables) (classes : Classes α κ)

mutual

def leaves : Value α κ → Bool
  | .scalar _ => true
  | .str text => tables.redactText text == text
  | .list items => leavesItems items
  | .tuple items => leavesItems items
  | .set items => leavesItems items && items.all classes.hashable &&
      (classes.merge items).length == items.length
  | .dict entries => leavesEntries entries
  | .strOf _ _ | .sequenceOf _ _ | .mappingOf _ _ => false

def leavesItems : List (Value α κ) → Bool
  | [] => true
  | item :: items => leaves item && leavesItems items

def leavesEntries : List (Key α × Value α κ) → Bool
  | [] => true
  | (key, item) :: entries => !tables.masks key && leaves item && leavesEntries entries

end

variable {tables classes}

end Redaction.CharTables

namespace Logging

section Parts

variable {α κ : Type} [BEq α]

def Size.stars : Option Size → ℕ
  | some .star => 1
  | _ => 0

def Conversion.arity (conversion : Conversion) : ℕ :=
  Size.stars conversion.width + Size.stars conversion.precision +
    if conversion.type = '%' then 0 else 1

def Conversion.bare (conversion : Conversion) : Bool :=
  decide ({ conversion with key := none } = { type := 's' : Conversion })

def Rendering.argument (rendering : Rendering α κ) (args : Arguments α κ)
    (conversion : Conversion) (supply : Supply α κ) : Option (Value α κ) := do
  let supply ← rendering.select args conversion.key supply
  let (_, supply) ← rendering.readSize conversion.width supply
  let (_, supply) ← rendering.readSize conversion.precision supply
  if conversion.type = '%' then none else supply.next.map Prod.fst

def Arguments.secret (tables : CharTables) (args : Arguments α κ) (conversion : Conversion) :
    Bool :=
  match args, conversion.key with
  | .mapping _ _, some key => tables.isSensitive (String.ofList key)
  | _, _ => false

def Arguments.spares (args : Arguments α κ) (conversion : Conversion) : Bool :=
  match args, conversion.key with
  | .positional _, _ => conversion.arity == 0
  | .mapping _ _, some _ => conversion.type != '%'
  | .mapping _ _, none => true

def Arguments.stores (args : Arguments α κ) (conversion : Conversion) : Bool :=
  match args, conversion.key with
  | .mapping _ entries, some key =>
      conversion.type != '%' && (entries.lookup (.str (String.ofList key))).isSome
  | _, _ => true

variable (tables : CharTables) (classes : Classes α κ) (rendering : Rendering α κ)
  (args : Arguments α κ)

/-- What is hidden of the text of a value; `none` for a value that is changed otherwise. -/
def valueMarks (conversion : Conversion) (value : Value α κ) (text : List Char) :
    Option (List (Mark Char)) :=
  if args.secret tables conversion then
    if conversion.bare then some (.mask :: text.map .drop) else none
  else if tables.leaves classes value then some (text.map .keep)
  else match value with
    | .str _ => if conversion.bare then some (tables.marks .gap text) else none
    | _ => none

def argumentMarks (conversion : Conversion) (supply : Supply α κ) (text : List Char) :
    Option (List (Mark Char)) :=
  match rendering.argument args conversion supply with
  | some value => valueMarks tables classes args conversion value text
  | none => some (text.map .keep)

/-- What is hidden of the message when the template and the arguments are redacted apart: `formats`
tells whether there are arguments, `state` is that of the template. `none` where an argument
cannot be told by its text, or a placeholder is cut or wanted. -/
def apart (formats : Bool) : Scan → Supply α κ → List Piece → Option (List (Mark Char))
  | _, _, [] => some []
  | state, supply, .literal char :: rest =>
      (apart formats (tables.step state char) supply rest).map (tables.mark state char ++ ·)
  | state, supply, .conversion raw conversion :: rest => do
      let (text, later) ← rendering.apply args conversion supply
      if state.Assigning then
        if raw.all (fun char => !tables.isSpace char) && args.spares conversion then
          (apart formats .value later rest).map
            ((if state = .assigned then [.mask] else []) ++ text.map .drop ++ ·)
        else none
      else if tables.run state raw = raw ∧ formats = true ∧ args.stores conversion = true then
        (argumentMarks tables classes rendering args conversion supply text).bind fun hidden =>
          (apart formats (tables.scan state raw) later rest).map (hidden ++ ·)
      else none

end Parts

section Taking

variable {α κ : Type} [BEq α] {tables : CharTables} {classes : Classes α κ}
  {rendering : Rendering α κ} {args : Arguments α κ} {supply masked later : Supply α κ}
  {conversion : Conversion} {text : List Char}

inductive Matches (tables : CharTables) (classes : Classes α κ) :
    Arguments α κ → Supply α κ → Supply α κ → Prop
  | queue {whole values images : List (Value α κ)} (within : ∀ value ∈ values, value ∈ whole)
      (pairs : List.Forall₂ (fun value image => tables.redactValue classes value = some image)
        values images) : Matches tables classes (.positional whole) (.queue values) (.queue images)
  | single {cls : Option κ} {entries : List (Key α × Value α κ)} {image : Value α κ}
      (redacts : tables.redactValue classes (Arguments.dictOf cls entries) = some image) :
      Matches tables classes (.mapping cls entries) (.single (Arguments.dictOf cls entries))
        (.single image)
  | spent {cls : Option κ} {entries : List (Key α × Value α κ)} {masked : Supply α κ}
      (done : masked.finished = true) : Matches tables classes (.mapping cls entries) .spent masked

def Arguments.Offers : Arguments α κ → Option (List Char) → Value α κ → Prop
  | .positional values, _, value => value ∈ values
  | .mapping cls entries, none, value => value = dictOf cls entries
  | .mapping _ entries, some key, value => entries.lookup (.str (String.ofList key)) = some value

theorem Matches.initial {image : Arguments α κ}
    (redacts : tables.redactArgs classes args = some image) :
    Matches tables classes args args.supply image.supply := by
  cases args with
  | positional values =>
      obtain ⟨images, pairs, rfl⟩ := Option.map_eq_some_iff.mp redacts
      exact .queue (fun _ => id) (CharTables.redactItems_iff.mp pairs)
  | mapping cls entries =>
      obtain ⟨images, pairs, rfl⟩ := Option.map_eq_some_iff.mp redacts
      refine .single ?_
      have whole : tables.redactValue classes (Arguments.dictOf cls entries) =
          (tables.redactEntries classes entries).map .dict := by cases cls <;> rfl
      rw [whole, pairs, Option.map_some]
      rfl

theorem Matches.finished (matched : Matches tables classes args supply masked)
    (done : supply.finished = true) : masked.finished = true := by
  cases matched with
  | queue _ pairs =>
      cases pairs with
      | nil => rfl
      | cons => cases done
  | single => rfl
  | spent masked => exact masked

theorem Matches.next {value : Value α κ} (matched : Matches tables classes args supply masked)
    (taken : supply.next = some (value, later)) :
    args.Offers none value ∧ ∃ image left, masked.next = some (image, left) ∧
      tables.redactValue classes value = some image ∧ Matches tables classes args later left := by
  cases matched with
  | queue within pairs =>
      cases pairs with
      | nil => cases taken
      | cons here rest =>
          obtain ⟨rfl, rfl⟩ := Prod.mk.inj (Option.some.inj taken)
          rw [List.forall_mem_cons] at within
          exact ⟨within.1, _, _, rfl, here, .queue within.2 rest⟩
  | single redacts =>
      obtain ⟨rfl, rfl⟩ := Prod.mk.inj (Option.some.inj taken)
      exact ⟨rfl, _, _, rfl, redacts, .spent rfl⟩
  | spent => cases taken

theorem starOf_redactValue {value image : Value α κ} {size : ℤ}
    (star : rendering.starOf value = some size)
    (redacts : tables.redactValue classes value = some image) :
    rendering.starOf image = some size := by
  cases value with
  | scalar value =>
      obtain rfl := Option.some.inj redacts
      exact star
  | _ => cases star

theorem Matches.readSize {size : Option Size} {width : Option ℤ}
    (matched : Matches tables classes args supply masked)
    (reads : rendering.readSize size supply = some (width, later)) :
    ∃ left, rendering.readSize size masked = some (width, left) ∧
      Matches tables classes args later left := by
  rcases size with _ | ⟨value⟩ | _
  · obtain ⟨rfl, rfl⟩ := Prod.mk.inj (Option.some.inj reads)
    exact ⟨masked, rfl, matched⟩
  · obtain ⟨rfl, rfl⟩ := Prod.mk.inj (Option.some.inj reads)
    exact ⟨masked, rfl, matched⟩
  · simp only [Rendering.readSize, Option.bind_eq_bind, Option.bind_eq_some_iff,
      Prod.exists] at reads
    obtain ⟨value, rest, taken, size, star, same⟩ := reads
    obtain ⟨rfl, rfl⟩ := Prod.mk.inj (Option.some.inj same)
    obtain ⟨_, image, left, takes, redacts, after⟩ := matched.next taken
    refine ⟨left, ?_, after⟩
    rw [Rendering.readSize, takes, Option.bind_eq_bind, Option.bind_some]
    dsimp only
    rw [starOf_redactValue star redacts]
    rfl

end Taking

end Logging

end Vix75
