import Mathlib.Data.List.TakeWhile
import Vix75.Redaction

/-! What redaction hides: in a text, the value after a listed key that no earlier assignment has
swallowed; in an event, everything under a sensitive key. -/

namespace Vix75

namespace Redaction

/-- Where a scan of a text stands: between words, in a word that started at a boundary, after a
listed key, after its mark, or in its value. -/
inductive Scan where
  | gap
  | word (read : List Char)
  | named
  | assigned
  | value
deriving DecidableEq

def Scan.inWord : Scan → Bool
  | .word _ => true
  | _ => false

def Scan.Open (state : Scan) : Prop := state = .gap ∨ state = .named

def Scan.Assigning (state : Scan) : Prop := state = .assigned ∨ state = .value

instance (state : Scan) : Decidable (Scan.Assigning state) := inferInstanceAs (Decidable (_ ∨ _))

namespace CharTables

variable (tables : CharTables)

def fresh (char : Char) : Scan := if tables.isWord char then .word [char] else .gap

def next (char : Char) : Scan :=
  if tables.isSpace char then .named
  else if isMark char then .assigned
  else tables.fresh char

def step : Scan → Char → Scan
  | .gap, char => tables.fresh char
  | .word read, char =>
      if tables.isWord char then .word (read ++ [char])
      else if tables.isKey read then tables.next char
      else .gap
  | .named, char => tables.next char
  | .assigned, char => if tables.isSpace char then .assigned else .value
  | .value, char => if tables.isSpace char then .gap else .value

/-- What the scan writes for a character: the value is replaced at its first one. -/
def write : Scan → Char → List Char
  | .assigned, char => if tables.isSpace char then [char] else redacted.toList
  | .value, char => if tables.isSpace char then [char] else []
  | _, char => [char]

def scan (state : Scan) (text : List Char) : Scan := text.foldl tables.step state

def run (state : Scan) : List Char → List Char
  | [] => []
  | char :: text => tables.write state char ++ run (tables.step state char) text

variable {tables}

theorem scan_append (state : Scan) (left right : List Char) :
    tables.scan state (left ++ right) = tables.scan (tables.scan state left) right :=
  List.foldl_append

theorem run_append (state : Scan) (left right : List Char) :
    tables.run state (left ++ right) =
      tables.run state left ++ tables.run (tables.scan state left) right := by
  induction left generalizing state with
  | nil => rfl
  | cons char left ih =>
      rw [List.cons_append, run, run, ih, List.append_assoc]
      rfl

theorem not_space_of_word {char : Char} (word : tables.isWord char = true) :
    tables.isSpace char = false := by
  by_contra space
  rw [tables.not_word_of_space char (Bool.of_not_eq_false space)] at word
  cases word

theorem not_mark_of_word {char : Char} (word : tables.isWord char = true) :
    isMark char = false := by
  by_contra mark
  rw [tables.not_word_of_mark char (Bool.of_not_eq_false mark)] at word
  cases word

theorem isKey_nil : tables.isKey [] = false := rfl

theorem isKey_ne_nil {word : List Char} (listed : tables.isKey word = true) : word ≠ [] := by
  rintro rfl
  rw [isKey_nil] at listed
  cases listed

theorem step_word {state : Scan} (opens : Scan.Open state) {char : Char}
    (word : tables.isWord char = true) : tables.step state char = .word [char] := by
  have fresh : tables.fresh char = .word [char] := if_pos word
  rcases opens with rfl | rfl
  · exact fresh
  · simp only [step, next, not_space_of_word word, not_mark_of_word word, fresh,
      Bool.false_eq_true, if_false]

theorem scan_within (read : List Char) {word : List Char}
    (chars : ∀ char ∈ word, tables.isWord char = true) :
    tables.scan (.word read) word = .word (read ++ word) ∧ tables.run (.word read) word = word := by
  induction word generalizing read with
  | nil => exact ⟨by rw [List.append_nil]; rfl, rfl⟩
  | cons char word ih =>
      obtain ⟨scanned, ran⟩ := ih (read ++ [char]) fun other member =>
        chars other (List.mem_cons_of_mem _ member)
      have stepped : tables.step (.word read) char = .word (read ++ [char]) :=
        if_pos (chars char List.mem_cons_self)
      constructor
      · rw [scan, List.foldl_cons, stepped, ← scan, scanned, List.append_assoc]
        rfl
      · rw [run, stepped, ran]
        rfl

theorem scan_word {state : Scan} (opens : Scan.Open state) {word : List Char} (some : word ≠ [])
    (chars : ∀ char ∈ word, tables.isWord char = true) :
    tables.scan state word = .word word ∧ tables.run state word = word := by
  cases word with
  | nil => exact absurd rfl some
  | cons char word =>
      have stepped := step_word opens (chars char List.mem_cons_self)
      obtain ⟨scanned, ran⟩ := scan_within [char] fun other member =>
        chars other (List.mem_cons_of_mem _ member)
      constructor
      · rw [scan, List.foldl_cons, stepped, ← scan, scanned]
        rfl
      · rw [run, stepped, ran]
        rcases opens with rfl | rfl <;> rfl

theorem scan_spaces {state : Scan} (still : state = .gap ∨ state = .named ∨ state = .assigned)
    {spaces : List Char} (chars : ∀ char ∈ spaces, tables.isSpace char = true) :
    tables.scan state spaces = state ∧ tables.run state spaces = spaces := by
  induction spaces with
  | nil => exact ⟨rfl, rfl⟩
  | cons char spaces ih =>
      obtain ⟨scanned, ran⟩ := ih fun other member => chars other (List.mem_cons_of_mem _ member)
      have space := chars char List.mem_cons_self
      have stepped : tables.step state char = state ∧ tables.write state char = [char] := by
        rcases still with rfl | rfl | rfl
        · simp [step, write, fresh, tables.not_word_of_space char space]
        · simp [step, write, next, space]
        · simp [step, write, space]
      constructor
      · rw [scan, List.foldl_cons, stepped.1]
        exact scanned
      · rw [run, stepped.1, stepped.2, ran]
        rfl

theorem scan_swallowed {text : List Char} (chars : ∀ char ∈ text, tables.isSpace char = false) :
    tables.scan .value text = .value ∧ tables.run .value text = [] := by
  induction text with
  | nil => exact ⟨rfl, rfl⟩
  | cons char text ih =>
      obtain ⟨scanned, ran⟩ := ih fun other member => chars other (List.mem_cons_of_mem _ member)
      have kept := chars char List.mem_cons_self
      have stepped : tables.step .value char = .value ∧ tables.write .value char = [] := by
        simp [step, write, kept]
      constructor
      · rw [scan, List.foldl_cons, stepped.1]
        exact scanned
      · rw [run, stepped.1, stepped.2, ran]
        rfl

theorem scan_value {value : List Char} (some : value ≠ [])
    (chars : ∀ char ∈ value, tables.isSpace char = false) :
    tables.scan .assigned value = .value ∧
      tables.run .assigned value = redacted.toList := by
  cases value with
  | nil => exact absurd rfl some
  | cons char value =>
      obtain ⟨scanned, ran⟩ := scan_swallowed fun other member =>
        chars other (List.mem_cons_of_mem _ member)
      have stepped : tables.step .assigned char = .value ∧
          tables.write .assigned char = redacted.toList := by
        simp [step, write, chars char List.mem_cons_self]
      constructor
      · rw [scan, List.foldl_cons, stepped.1]
        exact scanned
      · rw [run, stepped.1, stepped.2, ran, List.append_nil]

structure Separator (tables : CharTables) where
  before : List Char
  mark : Char
  after : List Char
  isMark_mark : isMark mark = true
  before_spaces : ∀ char ∈ before, tables.isSpace char = true
  after_spaces : ∀ char ∈ after, tables.isSpace char = true

def Separator.text (separator : Separator tables) : List Char :=
  separator.before ++ separator.mark :: separator.after

theorem scan_mark {read : List Char} (key : tables.isKey read = true)
    (separator : Separator tables) :
    tables.scan (.word read) separator.text = .assigned ∧
      tables.run (.word read) separator.text = separator.text := by
  have mark := separator.isMark_mark
  have unspaced := tables.not_space_of_mark _ mark
  have unworded := tables.not_word_of_mark _ mark
  -- after the key, a first space names it and the mark assigns it
  have next_mark : tables.next separator.mark = .assigned := by
    simp [next, unspaced, mark]
  have rest (state : Scan) (stepped : tables.step state separator.mark = .assigned)
      (written : tables.write state separator.mark = [separator.mark]) :
      tables.scan state (separator.mark :: separator.after) = .assigned ∧
        tables.run state (separator.mark :: separator.after) =
          separator.mark :: separator.after := by
    obtain ⟨scanned, ran⟩ := scan_spaces (.inr (.inr rfl)) separator.after_spaces
    constructor
    · rw [scan, List.foldl_cons, stepped]
      exact scanned
    · rw [run, stepped, written, ran]
      rfl
  unfold Separator.text
  have spaces := separator.before_spaces
  cases given : separator.before with
  | nil =>
      rw [List.nil_append]
      exact rest _ (by simp [step, unworded, key, next_mark]) rfl
  | cons char before =>
      rw [given] at spaces
      have space := spaces char List.mem_cons_self
      have stepped : tables.step (.word read) char = .named := by
        simp [step, tables.not_word_of_space char space, key, next, space]
      obtain ⟨scanned, ran⟩ := scan_spaces (.inr (.inl rfl)) fun other member =>
        spaces other (List.mem_cons_of_mem _ member)
      obtain ⟨scannedMark, ranMark⟩ := rest .named next_mark rfl
      rw [List.cons_append]
      constructor
      · rw [scan, List.foldl_cons, stepped, ← scan, scan_append, scanned, scannedMark]
      · rw [run, stepped, run_append, scanned, ran, ranMark]
        rfl

/-! The substitution is the scan -/

def Stuck (tables : CharTables) : Scan → List Char → Prop
  | .gap, _ => True
  | .word read, text => tables.isKey (read ++ text.takeWhile tables.isWord) = true →
      tables.assignment (text.dropWhile tables.isWord) = none
  | .named, text => tables.assignment text = none
  | .assigned, text => ∀ char ∈ text, tables.isSpace char = true
  | .value, _ => False

theorem assignment_space {char : Char} {text : List Char} (space : tables.isSpace char = true)
    (unassigned : tables.assignment (char :: text) = none) : tables.assignment text = none := by
  unfold assignment at unassigned ⊢
  rw [List.dropWhile_cons_of_pos space] at unassigned
  split at unassigned
  · rfl
  · rename_i mark after spaces
    dsimp only at unassigned ⊢
    split at unassigned
    · rename_i marked
      rw [if_pos marked]
      split at unassigned
      · rename_i valueless
        rw [if_pos valueless]
      · cases unassigned
    · rename_i unmarked
      rw [if_neg unmarked]

theorem assignment_mark {char : Char} {text : List Char} (mark : isMark char = true)
    (unassigned : tables.assignment (char :: text) = none) :
    ∀ other ∈ text, tables.isSpace other = true := by
  have unspaced := tables.not_space_of_mark char mark
  unfold assignment at unassigned
  rw [List.dropWhile_cons_of_neg (by simp [unspaced])] at unassigned
  simp only [mark, if_true] at unassigned
  split at unassigned
  · rename_i valueless
    cases remaining : text.dropWhile tables.isSpace with
    | nil => exact List.dropWhile_eq_nil_iff.mp remaining
    | cons first later =>
        have kept := List.head_dropWhile_not tables.isSpace (l := text) (by simp [remaining])
        simp only [remaining, List.head_cons] at kept
        simp [remaining, kept] at valueless
  · cases unassigned

theorem matchAt_boundary {char : Char} (unworded : tables.isWord char = false) (inWord : Bool)
    (text : List Char) : tables.matchAt inWord (char :: text) = none := by
  have empty : (char :: text).takeWhile tables.isWord = [] :=
    List.takeWhile_cons_of_neg (by simp [unworded])
  rw [matchAt, empty, isKey_nil, Bool.and_false]
  rfl

theorem stuck_fresh {char : Char} {text : List Char}
    (unmatched : tables.matchAt false (char :: text) = none) :
    (tables.fresh char).inWord = tables.isWord char ∧ Stuck tables (tables.fresh char) text := by
  unfold fresh
  by_cases word : tables.isWord char = true
  · rw [if_pos word, word]
    refine ⟨rfl, fun key => ?_⟩
    rw [List.singleton_append, ← List.takeWhile_cons_of_pos word] at key
    rw [matchAt, key, List.dropWhile_cons_of_pos word] at unmatched
    exact Option.map_eq_none_iff.mp unmatched
  · rw [if_neg word, Bool.eq_false_iff.mpr word]
    exact ⟨rfl, trivial⟩

theorem stuck_next {char : Char} {text : List Char}
    (unassigned : tables.assignment (char :: text) = none)
    (unmatched : tables.matchAt false (char :: text) = none) :
    (tables.next char).inWord = tables.isWord char ∧ Stuck tables (tables.next char) text := by
  unfold next
  by_cases space : tables.isSpace char = true
  · rw [if_pos space, tables.not_word_of_space char space]
    exact ⟨rfl, assignment_space space unassigned⟩
  · rw [if_neg space]
    by_cases mark : isMark char = true
    · rw [if_pos mark, tables.not_word_of_mark char mark]
      exact ⟨rfl, assignment_mark mark unassigned⟩
    · rw [if_neg mark]
      exact stuck_fresh unmatched

theorem stuck_step {state : Scan} {char : Char} {text : List Char}
    (unmatched : tables.matchAt state.inWord (char :: text) = none)
    (stuck : Stuck tables state (char :: text)) :
    tables.write state char = [char] ∧ (tables.step state char).inWord = tables.isWord char ∧
      Stuck tables (tables.step state char) text := by
  cases state with
  | gap => exact ⟨rfl, stuck_fresh unmatched⟩
  | named => exact ⟨rfl, stuck_next stuck unmatched⟩
  | value => exact stuck.elim
  | assigned =>
      have space := stuck char List.mem_cons_self
      simp only [write, step, space, if_true, true_and]
      exact ⟨(tables.not_word_of_space char space).symm, fun other member =>
        stuck other (List.mem_cons_of_mem _ member)⟩
  | word read =>
      refine ⟨rfl, ?_⟩
      simp only [step]
      by_cases word : tables.isWord char = true
      · rw [if_pos word, word]
        refine ⟨rfl, fun key => ?_⟩
        have unassigned := stuck
        simp only [Stuck, List.takeWhile_cons_of_pos word, List.dropWhile_cons_of_pos word]
          at unassigned
        rw [List.append_assoc] at key
        exact unassigned key
      · rw [if_neg word]
        have unworded := Bool.eq_false_iff.mpr word
        by_cases key : tables.isKey read = true
        · rw [if_pos key]
          simp only [Stuck, List.takeWhile_cons_of_neg word, List.dropWhile_cons_of_neg word,
            List.append_nil] at stuck
          exact stuck_next (stuck key) (matchAt_boundary unworded false text)
        · rw [if_neg key, unworded]
          exact ⟨rfl, trivial⟩

def Apart (tables : CharTables) (text : List Char) : Prop :=
  ∀ char ∈ text.head?, tables.isSpace char = true

instance (text : List Char) : Decidable (Apart tables text) :=
  decidable_of_iff (text.head?.all tables.isSpace = true) (Option.all_eq_true _ _)

theorem apart_dropWhile (text : List Char) :
    Apart tables (text.dropWhile fun char => !tables.isSpace char) := by
  intro char first
  have stopped := List.head?_dropWhile_not (fun char => !tables.isSpace char) text
  rw [Option.mem_def.mp first] at stopped
  simpa using stopped

theorem assignment_some {text : List Char} {found : List Char × List Char × List Char}
    (assigned : tables.assignment text = some found) :
    ∃ separator : Separator tables, found.1 = separator.text ∧ found.2.1 ≠ [] ∧
      (∀ char ∈ found.2.1, tables.isSpace char = false) ∧ Apart tables found.2.2 ∧
        text = found.1 ++ (found.2.1 ++ found.2.2) := by
  unfold assignment at assigned
  split at assigned
  · cases assigned
  rename_i mark after spaces
  split at assigned
  rotate_left
  · cases assigned
  rename_i marked
  dsimp only at assigned
  split at assigned
  · cases assigned
  rename_i valued
  obtain rfl := Option.some.inj assigned
  refine ⟨⟨_, mark, _, marked, fun char => List.mem_takeWhile_imp,
    fun char => List.mem_takeWhile_imp⟩, rfl, valued, fun char member => ?_,
    apart_dropWhile _, ?_⟩
  · simpa using List.mem_takeWhile_imp member
  · rw [List.takeWhile_append_dropWhile, List.append_assoc, List.cons_append,
      List.takeWhile_append_dropWhile, ← spaces, List.takeWhile_append_dropWhile]

theorem matchAt_some {inWord : Bool} {text : List Char} {found : Match}
    (matched : tables.matchAt inWord text = some found) :
    inWord = false ∧ tables.isKey found.key = true ∧
      (∀ char ∈ found.key, tables.isWord char = true) ∧
      ∃ separator : Separator tables, found.separator = separator.text ∧ found.value ≠ [] ∧
        (∀ char ∈ found.value, tables.isSpace char = false) ∧ Apart tables found.rest ∧
          text = found.key ++ (found.separator ++ (found.value ++ found.rest)) := by
  unfold matchAt at matched
  split at matched
  rotate_left
  · cases matched
  rename_i opened
  rw [Bool.and_eq_true, Bool.not_eq_true'] at opened
  obtain ⟨parts, assigned, rfl⟩ := Option.map_eq_some_iff.mp matched
  obtain ⟨separator, same, valued, kept, apart, split_⟩ := assignment_some assigned
  refine ⟨opened.1, opened.2, fun char => List.mem_takeWhile_imp, separator, same, valued, kept,
    apart, ?_⟩
  rw [← split_, List.takeWhile_append_dropWhile]

theorem run_apart {state : Scan} (ended : state = .word [] ∨ state = .value) {text : List Char}
    (apart : Apart tables text) : tables.run state text = tables.run .gap text := by
  cases text with
  | nil => rfl
  | cons char text =>
      have space := apart char rfl
      have unworded := tables.not_word_of_space char space
      have stepped : tables.step state char = tables.step .gap char ∧
          tables.write state char = tables.write .gap char := by
        rcases ended with rfl | rfl
        · simp [step, write, fresh, unworded, isKey_nil]
        · simp [step, write, fresh, unworded, space]
      rw [run, run, stepped.1, stepped.2]

theorem run_assignment {state : Scan} (opens : state.Open) {key value : List Char}
    (listed : tables.isKey key = true) (chars : ∀ char ∈ key, tables.isWord char = true)
    (separator : Separator tables) (valued : value ≠ [])
    (kept : ∀ char ∈ value, tables.isSpace char = false) {rest : List Char}
    (apart : Apart tables rest) :
    tables.run state (key ++ (separator.text ++ (value ++ rest))) =
      key ++ (separator.text ++ (redacted.toList ++ tables.run .gap rest)) := by
  obtain ⟨scannedKey, ranKey⟩ := scan_word opens (isKey_ne_nil listed) chars
  obtain ⟨scannedMark, ranMark⟩ := scan_mark listed separator
  obtain ⟨scannedValue, ranValue⟩ := scan_value valued kept
  rw [run_append, scannedKey, ranKey, run_append, scannedMark, ranMark, run_append, scannedValue,
    ranValue, run_apart (.inr rfl) apart]

theorem open_of_stuck {state : Scan} (outside : state.inWord = false) {key later : List Char}
    (some : key ≠ []) (chars : ∀ char ∈ key, tables.isWord char = true)
    (stuck : Stuck tables state (key ++ later)) : state.Open := by
  cases state with
  | gap => exact .inl rfl
  | named => exact .inr rfl
  | value => exact stuck.elim
  | word read => cases outside
  | assigned =>
      obtain ⟨char, key, rfl⟩ := List.exists_cons_of_ne_nil some
      have unspaced := not_space_of_word (chars char List.mem_cons_self)
      rw [stuck char List.mem_cons_self] at unspaced
      cases unspaced

theorem sub_some {inWord : Bool} {text : List Char} {found : Match}
    (matched : tables.matchAt inWord text = some found) :
    tables.sub inWord text = found.key ++ found.separator ++ redacted.toList ++
      tables.sub (found.value.getLast?.any tables.isWord) found.rest := by
  rw [sub]
  split
  · rename_i other same
    obtain rfl := Option.some.inj (matched.symm.trans same)
    rfl
  · rename_i unmatched
    rw [matched] at unmatched
    cases unmatched

theorem sub_none {inWord : Bool} {char : Char} {rest : List Char}
    (unmatched : tables.matchAt inWord (char :: rest) = none) :
    tables.sub inWord (char :: rest) = char :: tables.sub (tables.isWord char) rest := by
  rw [sub]
  split
  · rename_i matched
    rw [unmatched] at matched
    cases matched
  · rfl

theorem sub_eq_run (inWord : Bool) (text : List Char) :
    ∀ state : Scan, state.inWord = inWord → Stuck tables state text →
      tables.sub inWord text = tables.run state text := by
  induction inWord, text using sub.induct tables with
  | case1 inWord text found matched ih =>
      rintro state rfl stuck
      obtain ⟨outside, listed, chars, separator, same, valued, kept, apart, split_⟩ :=
        matchAt_some matched
      have some := isKey_ne_nil listed
      have opens : state.Open := by
        rw [split_] at stuck
        exact open_of_stuck outside some chars stuck
      -- the pattern goes on before a space or at the end, where no word is open
      have later : tables.sub (found.value.getLast?.any tables.isWord) found.rest =
          tables.run .gap found.rest := by
        cases inside : found.value.getLast?.any tables.isWord with
        | false => exact inside ▸ ih .gap inside.symm trivial
        | true =>
            rw [← run_apart (.inl rfl) apart, ← inside]
            refine ih (.word []) inside.symm fun key => ?_
            have nothing : found.rest.takeWhile tables.isWord = [] := by
              cases rest : found.rest with
              | nil => rfl
              | cons char later =>
                  have space := apart char (by rw [rest]; rfl)
                  exact List.takeWhile_cons_of_neg (by simp [tables.not_word_of_space char space])
            rw [nothing] at key
            exact absurd rfl (isKey_ne_nil key)
      rw [sub_some matched, later]
      conv_rhs => rw [split_, same]
      rw [run_assignment opens listed chars separator valued kept apart, same]
      simp only [List.append_assoc]
  | case2 inWord unmatched =>
      intro state _ _
      rw [sub, run]
      split
      · rename_i matched
        rw [unmatched] at matched
        cases matched
      · rfl
  | case3 inWord char rest unmatched ih =>
      rintro state rfl stuck
      obtain ⟨written, words, stuckRest⟩ := stuck_step unmatched stuck
      rw [sub_none unmatched, run, written, ih _ words stuckRest]
      rfl

theorem redactText_eq (text : String) :
    tables.redactText text = String.ofList (tables.run .gap text.toList) :=
  congrArg String.ofList (sub_eq_run false text.toList .gap rfl trivial)

theorem scan_unworded {text : List Char} (chars : ∀ char ∈ text, tables.isWord char = false) :
    tables.scan .gap text = .gap ∧ tables.run .gap text = text := by
  induction text with
  | nil => exact ⟨rfl, rfl⟩
  | cons char text ih =>
      obtain ⟨scanned, ran⟩ := ih fun other member => chars other (List.mem_cons_of_mem _ member)
      have stepped : tables.step .gap char = .gap := by
        simp [step, fresh, chars char List.mem_cons_self]
      constructor
      · rw [scan, List.foldl_cons, stepped]
        exact scanned
      · rw [run, stepped, ran]
        rfl

theorem Separator.unworded (separator : Separator tables) :
    ∀ char ∈ separator.text, tables.isWord char = false := by
  intro char member
  rcases List.mem_append.mp member with early | late
  · exact tables.not_word_of_space char (separator.before_spaces char early)
  · rcases List.mem_cons.mp late with rfl | after
    · exact tables.not_word_of_mark _ separator.isMark_mark
    · exact tables.not_word_of_space char (separator.after_spaces char after)

theorem Separator.text_ne_nil (separator : Separator tables) : separator.text ≠ [] := by
  unfold Separator.text
  simp

theorem inWord_step {state : Scan} {char : Char} (unworded : tables.isWord char = false) :
    (tables.step state char).inWord = false := by
  cases state <;> simp only [step, next, fresh, unworded, Bool.false_eq_true, if_false] <;>
    repeat' split
  all_goals rfl

theorem inWord_scan {text : List Char}
    (ends : ∀ char ∈ text.getLast?, tables.isWord char = false) :
    (tables.scan .gap text).inWord = false := by
  rcases List.eq_nil_or_concat text with rfl | ⟨front, char, rfl⟩
  · rfl
  · rw [List.concat_eq_append] at ends ⊢
    rw [scan_append]
    exact inWord_step (ends char (by simp))

def IsValue (tables : CharTables) (value : List Char) : Prop :=
  value ≠ [] ∧ ∀ char ∈ value, tables.isSpace char = false

def Spaceless (separator : Separator tables) : Prop :=
  separator.before = [] ∧ separator.after = []

instance (value : List Char) : Decidable (IsValue tables value) :=
  decidable_of_iff (value ≠ [] ∧ value.all (fun char => !tables.isSpace char) = true) (by
    simp [IsValue])

instance (separator : Separator tables) : Decidable (Spaceless separator) :=
  inferInstanceAs (Decidable (_ ∧ _))

theorem scan_spaced (separator : Separator tables) (spaced : ¬Spaceless separator) :
    tables.scan .value separator.text = .gap := by
  have unspaced := tables.not_space_of_mark _ separator.isMark_mark
  have cut (char : Char) (text : List Char) (space : tables.isSpace char = true)
      (chars : ∀ other ∈ text, tables.isWord other = false) :
      tables.scan .value (char :: text) = .gap := by
    rw [scan, List.foldl_cons, step, if_pos space, ← scan, (scan_unworded chars).1]
  have unworded := separator.unworded
  unfold Separator.text at unworded ⊢
  cases front : separator.before with
  | cons char text =>
      rw [front] at unworded
      refine cut char _ (separator.before_spaces char (front ▸ List.mem_cons_self)) ?_
      intro other member
      exact unworded other (List.mem_cons_of_mem _ member)
  | nil =>
      cases back : separator.after with
      | nil => exact absurd ⟨front, back⟩ spaced
      | cons char text =>
          rw [List.nil_append, scan, List.foldl_cons, step, if_neg (by simp [unspaced]), ← scan]
          refine cut char text (separator.after_spaces char (back ▸ List.mem_cons_self)) ?_
          intro other member
          exact tables.not_word_of_space other
            (separator.after_spaces other (back ▸ List.mem_cons_of_mem _ member))

theorem scan_unlisted {read text : List Char} (unlisted : tables.isKey read = false)
    (some : text ≠ []) (chars : ∀ char ∈ text, tables.isWord char = false) :
    tables.scan (.word read) text = .gap := by
  obtain ⟨char, later, rfl⟩ := List.exists_cons_of_ne_nil some
  have stepped : tables.step (.word read) char = .gap := by
    simp [step, chars char List.mem_cons_self, unlisted]
  rw [scan, List.foldl_cons, stepped, ← scan]
  exact (scan_unworded fun other member => chars other (List.mem_cons_of_mem _ member)).1

theorem scan_assigning {state : Scan} (assigning : state.Assigning) {text : List Char}
    (some : text ≠ []) (chars : ∀ char ∈ text, tables.isSpace char = false) :
    tables.scan state text = .value := by
  rcases assigning with rfl | rfl
  · exact (scan_value some chars).1
  · exact (scan_swallowed chars).1

theorem Scan.open_of_not_assigning {state : Scan} (outside : state.inWord = false)
    (unassigning : ¬state.Assigning) : state.Open := by
  cases state with
  | gap => exact .inl rfl
  | named => exact .inr rfl
  | word read => cases outside
  | assigned => exact absurd (.inl rfl) unassigning
  | value => exact absurd (.inr rfl) unassigning

section Context

variable {before key later : List Char} (separator : Separator tables)

/-- The value of the key is read by the pattern as the value of that key or as the end of an
earlier value. -/
def Covered (before key : List Char) : Prop :=
  if (tables.scan .gap before).Assigning then Spaceless separator else tables.isKey key = true

theorem run_covered (some : key ≠ []) (chars : ∀ char ∈ key, tables.isWord char = true)
    (ends : ∀ char ∈ before.getLast?, tables.isWord char = false) (apart : Apart tables later)
    (covered : Covered separator before key) :
    ∃ written, ∀ value, IsValue tables value →
      tables.run .gap (before ++ (key ++ (separator.text ++ (value ++ later)))) = written := by
  unfold Covered at covered
  split at covered
  · rename_i assigning
    obtain ⟨noneBefore, noneAfter⟩ := covered
    have scannedKey := scan_assigning assigning some fun char member =>
      not_space_of_word (chars char member)
    refine ⟨tables.run .gap before ++ (tables.run (tables.scan .gap before) key ++
      tables.run .value later), fun value kept => ?_⟩
    have swallowed : ∀ char ∈ separator.text ++ value, tables.isSpace char = false := by
      intro char member
      rcases List.mem_append.mp member with mark | inside
      · rw [Separator.text, noneBefore, noneAfter] at mark
        obtain rfl := List.mem_singleton.mp mark
        exact tables.not_space_of_mark _ separator.isMark_mark
      · exact kept.2 char inside
    obtain ⟨scanned, ran⟩ := scan_swallowed swallowed
    rw [run_append, run_append, scannedKey, ← List.append_assoc separator.text, run_append, scanned,
      ran, List.nil_append]
  · rename_i unassigning
    have opens := Scan.open_of_not_assigning (inWord_scan ends) unassigning
    refine ⟨tables.run .gap before ++ (key ++ (separator.text ++ (redacted.toList ++
      tables.run .gap later))), fun value kept => ?_⟩
    rw [run_append, run_assignment opens covered chars separator kept.1 kept.2 apart]

theorem run_uncovered (some : key ≠ []) (chars : ∀ char ∈ key, tables.isWord char = true)
    (ends : ∀ char ∈ before.getLast?, tables.isWord char = false)
    (uncovered : ¬Covered separator before key) :
    ∃ written, ∀ rest, tables.run .gap (before ++ (key ++ (separator.text ++ rest))) =
      written ++ tables.run .gap rest := by
  have passed : tables.scan (tables.scan (tables.scan .gap before) key) separator.text = .gap := by
    unfold Covered at uncovered
    split at uncovered
    · rename_i assigning
      rw [scan_assigning assigning some fun char member => not_space_of_word (chars char member)]
      exact scan_spaced separator uncovered
    · rename_i unassigning
      have opens := Scan.open_of_not_assigning (inWord_scan ends) unassigning
      rw [(scan_word opens some chars).1]
      exact scan_unlisted (Bool.eq_false_iff.mpr uncovered) separator.text_ne_nil separator.unworded
  refine ⟨tables.run .gap before ++ (tables.run (tables.scan .gap before) key ++
    tables.run (tables.scan (tables.scan .gap before) key) separator.text), fun rest => ?_⟩
  rw [run_append, run_append, run_append, passed]
  simp only [List.append_assoc]

end Context

theorem isKey_iff {key : String} {word : List Char}
    (spelled : word.map tables.fold = key.toList) :
    tables.isKey word = true ↔ key ∈ patternKeys := by
  rw [isKey, List.any_eq_true]
  constructor
  · rintro ⟨other, member, same⟩
    rw [decide_eq_true_eq, spelled] at same
    exact String.toList_inj.mp same ▸ member
  · intro listed
    exact ⟨key, listed, decide_eq_true spelled⟩

theorem word_of_spelled {key : String} (sensitive : key ∈ sensitiveKeys) {word : List Char}
    (spelled : word.map tables.fold = key.toList) :
    word ≠ [] ∧ ∀ char ∈ word, tables.isWord char = true := by
  constructor
  · rintro rfl
    have some : ∀ other ∈ sensitiveKeys, other.toList ≠ [] := by decide
    exact some key sensitive spelled.symm
  · intro char member
    refine tables.word_of_fold char key sensitive ?_
    rw [← spelled]
    exact List.mem_map_of_mem member

/-- A secret is hidden behind its key if the pattern lists the key or reads on from an earlier
assignment. -/
theorem redactText_hides_iff (tables : CharTables) {key : String}
    (sensitive : key ∈ sensitiveKeys) (separator : Separator tables) {a k b : String}
    (spelled : k.toList.map tables.fold = key.toList)
    (ends : ∀ char ∈ a.toList.getLast?, tables.isWord char = false)
    (apart : Apart tables b.toList) :
    (∀ v1 v2 : String, IsValue tables v1.toList → IsValue tables v2.toList →
      tables.redactText (a ++ k ++ String.ofList separator.text ++ v1 ++ b) =
        tables.redactText (a ++ k ++ String.ofList separator.text ++ v2 ++ b)) ↔
      if (tables.scan .gap a.toList).Assigning then Spaceless separator else key ∈ patternKeys := by
  obtain ⟨some, chars⟩ := word_of_spelled sensitive spelled
  have covered : Covered separator a.toList k.toList ↔
      if (tables.scan .gap a.toList).Assigning then Spaceless separator
      else key ∈ patternKeys := by
    rw [Covered, isKey_iff spelled]
  have written (value : String) :
      tables.redactText (a ++ k ++ String.ofList separator.text ++ value ++ b) =
        String.ofList (tables.run .gap (a.toList ++ (k.toList ++ (separator.text ++
          (value.toList ++ b.toList))))) := by
    rw [redactText_eq]
    simp only [String.toList_append, String.toList_ofList, List.append_assoc]
  rw [← covered]
  constructor
  · intro hides
    by_contra uncovered
    obtain ⟨front, leaks⟩ := run_uncovered separator some chars ends uncovered
    have shown (mark : Char) (marks : isMark mark = true) :
        IsValue tables (String.singleton mark).toList := by
      rw [String.toList_singleton]
      exact ⟨List.cons_ne_nil _ _, fun char member =>
        List.mem_singleton.mp member ▸ tables.not_space_of_mark mark marks⟩
    have same := hides (String.singleton ':') (String.singleton '=') (shown ':' rfl) (shown '=' rfl)
    rw [written, written, leaks, leaks] at same
    have heads := List.append_cancel_left (String.ofList_inj.mp same)
    cases (List.cons.inj heads).1
  · intro hidden v1 v2 first second
    obtain ⟨whole, same⟩ := run_covered separator some chars ends apart hidden
    rw [written, written, same _ first, same _ second]

namespace Sample

def asciiSpaces : List Char :=
  [' ', '\t', '\n', '\r', '\x0b', '\x0c', '\x1c', '\x1d', '\x1e', '\x1f']

def asciiWord (char : Char) : Bool := char.isAlphanum || char = '_'

theorem word_of_lower {char : Char} (word : asciiWord char.toLower = true) :
    asciiWord char = true := by
  by_cases upper : char.isUpper = true
  · change (char.isUpper || char.isLower || char.isDigit || _) = true
    rw [upper]
    rfl
  · have outside : ¬(char.val ≥ 'A'.val ∧ char.val ≤ 'Z'.val) :=
      fun within => upper (decide_eq_true within)
    have same : char.toLower = char := dif_neg outside
    rwa [same] at word

def ascii : CharTables where
  isWord := asciiWord
  isSpace := fun char => asciiSpaces.contains char
  fold := Char.toLower
  lower := String.toLower
  word_of_fold := by
    intro char key sensitive member
    have words : ∀ key ∈ sensitiveKeys, key.toList.all asciiWord = true := by decide
    exact word_of_lower (List.all_eq_true.mp (words key sensitive) _ member)
  not_word_of_space := by
    have unworded : asciiSpaces.all (fun char => !asciiWord char) = true := by decide
    intro char space
    simpa using List.all_eq_true.mp unworded char (List.contains_iff_mem.mp space)
  not_word_of_mark := by
    intro char mark
    simp only [isMark, Bool.or_eq_true, decide_eq_true_eq] at mark
    rcases mark with rfl | rfl <;> rfl
  not_space_of_mark := by
    intro char mark
    simp only [isMark, Bool.or_eq_true, decide_eq_true_eq] at mark
    rcases mark with rfl | rfl <;> rfl

def equals : Separator ascii where
  before := []
  mark := '='
  after := []
  isMark_mark := rfl
  before_spaces := by simp
  after_spaces := by simp

end Sample

theorem redactText_hides_token :
    Sample.ascii.redactText
        ("with " ++ "TOKEN" ++ String.ofList Sample.equals.text ++ "abc" ++ "") =
      Sample.ascii.redactText
        ("with " ++ "TOKEN" ++ String.ofList Sample.equals.text ++ "xyz" ++ "") := by
  have sensitive : "token" ∈ sensitiveKeys := by decide
  have spelled : "TOKEN".toList.map Sample.ascii.fold = "token".toList := by decide
  have ends : ∀ char ∈ "with ".toList.getLast?, Sample.ascii.isWord char = false := by
    have last : "with ".toList.getLast? = some ' ' := by decide
    rw [last]
    rintro char ⟨rfl⟩
    decide
  have apart : Apart Sample.ascii "".toList := by decide
  exact (redactText_hides_iff Sample.ascii sensitive Sample.equals spelled ends apart).mpr
    (by decide) "abc" "xyz" (by decide) (by decide)

/-- The pattern does not list every sensitive key. -/
theorem redactText_leaks : ¬∀ key ∈ sensitiveKeys, ∀ (separator : Separator Sample.ascii)
    (a k b v1 v2 : String), k.toList.map Sample.ascii.fold = key.toList →
      (∀ char ∈ a.toList.getLast?, Sample.ascii.isWord char = false) →
        Apart Sample.ascii b.toList → IsValue Sample.ascii v1.toList →
          IsValue Sample.ascii v2.toList →
            Sample.ascii.redactText (a ++ k ++ String.ofList separator.text ++ v1 ++ b) =
              Sample.ascii.redactText (a ++ k ++ String.ofList separator.text ++ v2 ++ b) := by
  intro hides
  have same := hides "telegram_token" (by decide) Sample.equals "" "telegram_token" "" "abc" "xyz"
    (by decide) (by simp) (by decide) (by decide) (by decide)
  rw [redactText_eq, redactText_eq, String.ofList_inj] at same
  exact absurd same (by decide)

end CharTables

end Redaction

end Vix75
