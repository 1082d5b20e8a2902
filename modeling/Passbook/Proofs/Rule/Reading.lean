/-
Two views of the rule language. The laws of readings say what a reader takes off
the front of a text; the spellings say which texts are rule lines, and nothing
about how a text is taken apart.
-/

import Passbook.Proofs.Text
import Passbook.Rule.Compiler
import Passbook.Rule.Grammar

namespace Passbook

/-! ## Readings

Laws of readings: what each of them takes off the front of a text. A law for a
part that is read exactly is an equivalence; a part that takes as much as it can
has one for what it took and one for when it stops there. -/

namespace Reading

variable {α β γ : Type} {text rest : List Char}

@[simp]
theorem read_named (construct : Construct) (part : Reading α) (text : List Char) :
    (named construct part).read text = part.read text :=
  rfl

@[simp]
theorem read_sealed (part : Reading α) (text : List Char) :
    (sealed part).read text = part.read text :=
  rfl

theorem read_token_iff {expected : List Char} :
    (token expected).read text = some ((), rest) ↔ text = expected ++ rest := by
  unfold token
  dsimp only
  constructor
  · intro read
    split at read
    · rename_i starts
      obtain ⟨others, whole⟩ := List.isPrefixOf_iff_prefix.mp starts
      cases read
      rw [← whole, List.drop_left]
    · cases read
  · intro whole
    have starts : expected.isPrefixOf text = true :=
      List.isPrefixOf_iff_prefix.mpr ⟨rest, whole.symm⟩
    rw [if_pos starts, whole, List.drop_left]

theorem read_exactly_iff {count : Nat} {inClass : Char → Bool} {found : List Char} :
    (exactly count inClass).read text = some (found, rest) ↔
      text = found ++ rest ∧ found.length = count ∧ ∀ c ∈ found, inClass c = true := by
  unfold exactly
  dsimp only
  constructor
  · intro read
    split at read
    · rename_i holds
      cases read
      exact ⟨(List.take_append_drop count text).symm, holds.1, List.all_eq_true.mp holds.2⟩
    · cases read
  · rintro ⟨rfl, rfl, members⟩
    rw [List.take_left, List.drop_left, if_pos ⟨rfl, List.all_eq_true.mpr members⟩]

theorem read_atEnd_iff {value : Unit} :
    atEnd.read text = some (value, rest) ↔ text = [] ∧ rest = [] := by
  cases text with
  | nil => simp [atEnd, eq_comm]
  | cons c text => simp [atEnd]

theorem read_map_iff {change : α → β} {part : Reading α} {value : β} :
    (part.map change).read text = some (value, rest) ↔
      ∃ own, part.read text = some (own, rest) ∧ change own = value := by
  unfold Reading.map
  simp [Option.map_eq_some_iff]

theorem read_marked_iff {part : Reading α} {left : Nat} {value : α} :
    (marked part).read text = some ((left, value), rest) ↔
      left = text.length ∧ part.read text = some (value, rest) := by
  unfold marked
  dsimp only
  cases part.read text with
  | none => simp
  | some taken => simp [Prod.ext_iff, and_assoc, eq_comm]

theorem read_andThen_iff {combine : α → β → γ} {first : Reading α} {second : Reading β}
    {value : γ} :
    (andThen combine first second).read text = some (value, rest) ↔
      ∃ a middle b, first.read text = some (a, middle) ∧ second.read middle = some (b, rest) ∧
        combine a b = value := by
  unfold andThen
  dsimp only
  constructor
  · intro read
    split at read
    · cases read
    · rename_i a middle taken
      split at read
      · cases read
      · rename_i b others later
        cases read
        exact ⟨a, middle, b, taken, later, rfl⟩
  · rintro ⟨a, middle, b, taken, later, rfl⟩
    rw [taken]
    dsimp only
    rw [later]

theorem read_before_iff {first : Reading α} {second : Reading β} {value : α} :
    (before first second).read text = some (value, rest) ↔
      ∃ middle b, first.read text = some (value, middle) ∧
        second.read middle = some (b, rest) := by
  unfold before
  rw [read_andThen_iff]
  constructor
  · rintro ⟨a, middle, b, taken, later, rfl⟩
    exact ⟨middle, b, taken, later⟩
  · rintro ⟨middle, b, taken, later⟩
    exact ⟨value, middle, b, taken, later, rfl⟩

theorem read_after_iff {first : Reading α} {second : Reading β} {value : β} :
    (after first second).read text = some (value, rest) ↔
      ∃ a middle, first.read text = some (a, middle) ∧
        second.read middle = some (value, rest) := by
  unfold after
  rw [read_andThen_iff]
  constructor
  · rintro ⟨a, middle, b, taken, later, rfl⟩
    exact ⟨a, middle, taken, later⟩
  · rintro ⟨a, middle, taken, later⟩
    exact ⟨a, middle, value, taken, later, rfl⟩

theorem read_after_token_iff {expected : List Char} {part : Reading α} {value : α} :
    (after (token expected) part).read text = some (value, rest) ↔
      ∃ middle, text = expected ++ middle ∧ part.read middle = some (value, rest) := by
  rw [read_after_iff]
  constructor
  · rintro ⟨_, middle, taken, later⟩
    exact ⟨middle, read_token_iff.mp taken, later⟩
  · rintro ⟨middle, whole, later⟩
    exact ⟨(), middle, read_token_iff.mpr whole, later⟩

theorem read_before_token_iff {expected : List Char} {part : Reading α} {value : α} :
    (before part (token expected)).read text = some (value, rest) ↔
      part.read text = some (value, expected ++ rest) := by
  rw [read_before_iff]
  constructor
  · rintro ⟨middle, _, taken, later⟩
    rw [taken, read_token_iff.mp later]
  · intro taken
    exact ⟨_, (), taken, read_token_iff.mpr rfl⟩

theorem read_orElse_iff {first second : Reading α} {result : α × List Char} :
    (orElse first second).read text = some result ↔
      first.read text = some result ∨
        first.read text = none ∧ second.read text = some result := by
  unfold orElse
  dsimp only
  cases first.read text <;> simp

/-! ### Parts that take as much as they can -/

def isSpacing (c : Char) : Bool :=
  c == ' ' || c == '\t'

theorem read_after_blanks (part : Reading α) (text : List Char) :
    (after blanks part).read text = part.read (text.dropWhile isSpacing) := by
  have same : (text.dropWhile fun c => c == ' ' || c == '\t') = text.dropWhile isSpacing := rfl
  unfold after andThen blanks
  dsimp only
  rw [same]
  cases part.read (text.dropWhile isSpacing) <;> rfl

theorem of_read_word {first later : Char → Bool} {found : List Char}
    (read : (word first later).read text = some (found, rest)) :
    ∃ c others, found = c :: others ∧ text = found ++ rest ∧ first c = true ∧
      ∀ other ∈ others, later other = true := by
  cases text with
  | nil => cases read
  | cons c text =>
      simp only [word] at read
      split at read
      · rename_i starts
        cases read
        refine ⟨c, text.takeWhile later, rfl, ?_, starts, ?_⟩
        · rw [List.cons_append, List.takeWhile_append_dropWhile]
        · exact List.all_eq_true.mp List.all_takeWhile
      · cases read

/-- A word ends where no character of the later class follows. -/
theorem read_word {first later : Char → Bool} {c : Char} {others : List Char}
    (starts : first c = true) (continues : ∀ other ∈ others, later other = true)
    (ends : rest.takeWhile later = []) :
    (word first later).read (c :: others ++ rest) = some (c :: others, rest) := by
  have dropped : rest.dropWhile later = rest := by
    have whole := List.takeWhile_append_dropWhile (p := later) (l := rest)
    rw [ends, List.nil_append] at whole
    exact whole
  simp only [word, List.cons_append, if_pos starts]
  rw [List.takeWhile_append_of_pos continues, List.dropWhile_append_of_pos continues, ends, dropped,
    List.append_nil]

end Reading

/-! ## Spellings

The rule language without a reader. A line is a list of clauses with commas
between them and spacing around each clause; a clause is a column name, an
operator and a literal with spacing between them. The relations here say which
texts spell which clauses, and nothing about how a text is taken apart. -/

namespace Spelling

/-- Spaces and tabs, perhaps none. -/
def Spacing (text : List Char) : Prop :=
  ∀ c ∈ text, c = ' ' ∨ c = '\t'

def Digits (count : Nat) (text : List Char) : Prop :=
  text.length = count ∧ ∀ c ∈ text, c.isDigit = true

/-- A letter and then letters, digits and underscores. -/
def Name (text : List Char) : Prop :=
  ∃ first others, text = first :: others ∧ first.isAlpha = true ∧
    ∀ c ∈ others, c.isAlpha = true ∨ c.isDigit = true ∨ c = '_'

/-- Digits, and perhaps a point and two more digits. -/
def Numeral (text : List Char) : Prop :=
  ∃ whole fraction, text = whole ++ fraction ∧ whole ≠ [] ∧ (∀ c ∈ whole, c.isDigit = true) ∧
    (fraction = [] ∨ ∃ cents, Digits 2 cents ∧ fraction = '.' :: cents)

/-- What stands inside of quotes, and the text that it means: a character other
than the quote and the backslash means itself, and so does any character behind
a backslash. -/
inductive Inside (quote : Char) : List Char → List Char → Prop where
  | nothing : Inside quote [] []
  | plain {c : Char} {inside value : List Char} (noQuote : c ≠ quote) (noBackslash : c ≠ '\\')
      (later : Inside quote inside value) : Inside quote (c :: inside) (c :: value)
  | escaped {c : Char} {inside value : List Char} (later : Inside quote inside value) :
      Inside quote ('\\' :: c :: inside) (c :: value)

/-- A literal and its entry. A numeral that is too large for a decimal is the
literal of no entry. -/
inductive Literal : List Char → Entry → Prop where
  | date {year month day : List Char} (ofYear : Digits 4 year) (ofMonth : Digits 2 month)
      (ofDay : Digits 2 day) :
      Literal (year ++ '/' :: month ++ '/' :: day)
        (.date ⟨Int32.ofInt (Text.number year), UInt32.ofNat (Text.number month),
          UInt32.ofNat (Text.number day)⟩)
  | dollars {numeral : List Char} {amount : Decimal} (ofNumeral : Numeral numeral)
      (accepted : Decimal.ofText (String.ofList numeral) = .ok amount) :
      Literal ('$' :: numeral) (.dollars (.ofMagnitude amount))
  | quoted {quote : Char} {inside value : List Char} (mark : quote = '"' ∨ quote = '\'')
      (means : Inside quote inside value) :
      Literal (quote :: inside ++ [quote]) (.text (String.ofList value))

/-- What a clause says. A match clause has an operator, an assignment has none. -/
structure Clause where
  column : String
  comparison : Option Comparison
  value : Entry
  deriving DecidableEq

def sign : Option Comparison → List Char
  | some comparison => comparison.symbol.toList
  | none => ['=']

def Spells (text : List Char) (clause : Clause) : Prop :=
  ∃ name first second literal, Name name ∧ Spacing first ∧ Spacing second ∧
    Literal literal clause.value ∧ clause.column = String.ofList name ∧
    text = name ++ first ++ sign clause.comparison ++ second ++ literal

/-- A text spells clauses, each given with the number of characters in front of
it. The text itself stands behind `before` characters. -/
inductive Clauses : Nat → List Char → List (Nat × Clause) → Prop where
  | last {before : Nat} {first text second : List Char} {clause : Clause}
      (ofFirst : Spacing first) (spells : Spells text clause) (ofSecond : Spacing second) :
      Clauses before (first ++ text ++ second) [(before + first.length, clause)]
  | more {before : Nat} {first text second rest : List Char} {clause : Clause}
      {others : List (Nat × Clause)} (ofFirst : Spacing first) (spells : Spells text clause)
      (ofSecond : Spacing second)
      (later : Clauses (before + (first ++ text ++ second).length + 1) rest others) :
      Clauses before (first ++ text ++ second ++ ',' :: rest)
        ((before + first.length, clause) :: others)

/-- The clauses that a whole line spells. -/
def Line (line : List Char) (clauses : List (Nat × Clause)) : Prop :=
  Clauses 0 line clauses

/-! ### What a spelled line means -/

def condition? (number : Nat) : Nat × Clause → Option Condition
  | (before, ⟨column, some comparison, value⟩) =>
      some ⟨column, comparison, value, ⟨number, before + 1⟩⟩
  | _ => none

def assignment? (number : Nat) : Nat × Clause → Option Assignment
  | (before, ⟨column, none, value⟩) => some ⟨column, value, ⟨number, before + 1⟩⟩
  | _ => none

/-- The rule of clauses in the line `number`: its match clauses and its
assignments, both in the order of the line and located by their names. -/
def rule (number : Nat) (clauses : List (Nat × Clause)) : Rule :=
  ⟨number, clauses.filterMap (condition? number), clauses.filterMap (assignment? number)⟩

end Spelling

end Passbook
