/-
Rules as they are written and the grammar that they are read by.
-/

import Passbook.Entry

namespace Passbook

/-! ## Operators

Five compare by order; the sixth searches a text for a pattern and accepts no
ordering. -/

inductive Comparison where
  | equal
  | less
  | atMost
  | greater
  | atLeast
  | contains
  deriving DecidableEq, Repr

namespace Comparison

def symbol : Comparison → String
  | .equal => "=="
  | .less => "<"
  | .atMost => "<="
  | .greater => ">"
  | .atLeast => ">="
  | .contains => "~~"

def ofSymbol? (symbol : String) : Option Comparison :=
  if symbol = "==" then some .equal
  else if symbol = "<" then some .less
  else if symbol = "<=" then some .atMost
  else if symbol = ">" then some .greater
  else if symbol = ">=" then some .atLeast
  else if symbol = "~~" then some .contains
  else none

def accepts : Comparison → Ordering → Bool
  | .equal, ordering => ordering == .eq
  | .less, ordering => ordering == .lt
  | .atMost, ordering => ordering != .gt
  | .greater, ordering => ordering == .gt
  | .atLeast, ordering => ordering != .lt
  | .contains, _ => false

end Comparison

/-! ## Clauses

Rules as they are written: the match clauses that must all hold, and the
assignments that are then made. Each clause knows where its column name stands
in the rules text. -/

/-- A place in a rules text; lines and columns count from one. -/
structure Location where
  line : Nat
  column : Nat
  deriving DecidableEq, Repr

def Location.compare (a b : Location) : Ordering :=
  (Ord.compare a.line b.line).then (Ord.compare a.column b.column)

structure Condition where
  column : String
  comparison : Comparison
  literal : Entry
  location : Location
  deriving DecidableEq

structure Assignment where
  column : String
  value : Entry
  location : Location
  deriving DecidableEq

/-- One line of a rules text, before it is checked against a schema. -/
structure Rule where
  line : Nat
  conditions : List Condition
  assignments : List Assignment
  deriving DecidableEq

/-! ## Constructs

The named constructs of the rule language, and the record of the furthest place
where reading a construct failed. The record is what a message about an
unreadable line is made from. -/

inductive Construct where
  | lineEnd
  | columnName
  | operator
  | year
  | month
  | day
  | date
  | amount
  | dollars
  | doubleQuoted
  | singleQuoted
  | quoted
  | condition
  | assignment
  | rule
  deriving DecidableEq, Repr

namespace Construct

def all : List Construct :=
  [.lineEnd, .columnName, .operator, .year, .month, .day, .date, .amount, .dollars,
    .doubleQuoted, .singleQuoted, .quoted, .condition, .assignment, .rule]

def name : Construct → String
  | .lineEnd => "end of line"
  | .columnName => "column name"
  | .operator => "match operator (==, <=, >=, <, >, ~~)"
  | .year => "4-digit year"
  | .month => "2-digit month"
  | .day => "2-digit day"
  | .date => "date (YYYY/MM/DD)"
  | .amount => "dollar amount"
  | .dollars => "dollars ($12.34)"
  | .doubleQuoted => "inner part of a double-quoted string"
  | .singleQuoted => "inner part of a single-quoted string"
  | .quoted => "quoted string"
  | .condition => "match clause"
  | .assignment => "assignment"
  | .rule => "rule"

end Construct

/-- The constructs that failed at the furthest place where any failed. The
place is known by the number of characters left there. -/
structure Attempts where
  left : Nat
  constructs : List Construct
  deriving DecidableEq, Repr

namespace Attempts

def start (text : List Char) : Attempts :=
  ⟨text.length, []⟩

def countAt (attempts : Attempts) (left : Nat) : Nat :=
  if attempts.left = left then attempts.constructs.length else 0

/-- Takes down that a construct failed which began with `left` characters left.
`before` is the record from when it began, `after` the one that its parts made.
When its parts added exactly one construct at its own start, that one says more
than the construct itself and is kept instead; otherwise the construct replaces
what its parts added there. A place behind the furthest one is not recorded. -/
def fail (before after : Attempts) (construct : Construct) (left : Nat) : Attempts :=
  if after.countAt left = before.countAt left + 1 then after
  else if left < after.left then ⟨left, [construct]⟩
  else if left = after.left then
    ⟨left, after.constructs.take (before.countAt left) ++ [construct]⟩
  else after

def expected (attempts : Attempts) : List Construct :=
  Construct.all.filter fun construct => attempts.constructs.contains construct

end Attempts

/-! ## Readings

Readings recognise the parts of a rule line. A reading either takes
characters off the front of a text and gives a value, or fails; beside that it
says how it changes the record of failed constructs. What is read never depends
on the record. -/

/-- A recogniser of the front of a text. -/
structure Reading (α : Type) where
  read : List Char → Option (α × List Char)
  attempts : List Char → Attempts → Attempts

namespace Reading

variable {α β γ : Type}

def succeed (value : α) : Reading α where
  read text := some (value, text)
  attempts _ record := record

def token (expected : List Char) : Reading Unit where
  read text := if expected.isPrefixOf text then some ((), text.drop expected.length) else none
  attempts _ record := record

def run (inClass : Char → Bool) : Reading (List Char) where
  read text := some (text.takeWhile inClass, text.dropWhile inClass)
  attempts _ record := record

def word (first later : Char → Bool) : Reading (List Char) where
  read
    | [] => none
    | c :: rest =>
        if first c then some (c :: rest.takeWhile later, rest.dropWhile later) else none
  attempts _ record := record

def exactly (count : Nat) (inClass : Char → Bool) : Reading (List Char) where
  read text :=
    let found := text.take count
    if found.length = count ∧ found.all inClass then some (found, text.drop count) else none
  attempts _ record := record

def atEnd : Reading Unit where
  read
    | [] => some ((), [])
    | _ :: _ => none
  attempts _ record := record

def blanks : Reading Unit where
  read text := some ((), text.dropWhile fun c => c == ' ' || c == '\t')
  attempts _ record := record

def map (f : α → β) (part : Reading α) : Reading β where
  read text := (part.read text).map fun (value, rest) => (f value, rest)
  attempts := part.attempts

def andThen (combine : α → β → γ) (first : Reading α) (second : Reading β) : Reading γ where
  read text :=
    match first.read text with
    | none => none
    | some (a, rest) =>
        match second.read rest with
        | none => none
        | some (b, rest) => some (combine a b, rest)
  attempts text record :=
    let record := first.attempts text record
    match first.read text with
    | none => record
    | some (_, rest) => second.attempts rest record

def before (first : Reading α) (second : Reading β) : Reading α :=
  andThen (fun a _ => a) first second

def after (first : Reading α) (second : Reading β) : Reading β :=
  andThen (fun _ b => b) first second

def orElse (first second : Reading α) : Reading α where
  read text :=
    match first.read text with
    | some result => some result
    | none => second.read text
  attempts text record :=
    let record := first.attempts text record
    match first.read text with
    | some _ => record
    | none => second.attempts text record

def optional (default : α) (part : Reading α) : Reading α :=
  orElse part (succeed default)

def readMany (part : Reading α) : Nat → List Char → List α × List Char
  | 0, text => ([], text)
  | fuel + 1, text =>
      match part.read text with
      | none => ([], text)
      | some (value, rest) =>
          let (values, rest) := readMany part fuel rest
          (value :: values, rest)

def attemptMany (part : Reading α) : Nat → List Char → Attempts → Attempts
  | 0, _, record => record
  | fuel + 1, text, record =>
      let record := part.attempts text record
      match part.read text with
      | none => record
      | some (_, rest) => attemptMany part fuel rest record

/-- The part as often as it can be read. Every part read takes a character, so
one round more than there are characters reaches the end. -/
def many (part : Reading α) : Reading (List α) where
  read text := some (part.readMany (text.length + 1) text)
  attempts text record := part.attemptMany (text.length + 1) text record

def marked (part : Reading α) : Reading (Nat × α) where
  read text := (part.read text).map fun (value, rest) => ((text.length, value), rest)
  attempts := part.attempts

/-- A part inside of which no failure is recorded. -/
def sealed (part : Reading α) : Reading α where
  read := part.read
  attempts _ record := record

def named (construct : Construct) (part : Reading α) : Reading α where
  read := part.read
  attempts text record :=
    let inside := part.attempts text record
    match part.read text with
    | some _ => inside
    | none => record.fail inside construct text.length

end Reading

/-! ## Grammar

The grammar of rule lines. A line is a list of clauses with commas between
them; a clause is a column name, an operator and a literal. Spaces and tabs may
stand between these parts, but not inside of them.

A literal is a date of four, two and two digits, a dollar sign with digits and
perhaps two more after a point, or a text in double or single quotes. Inside of
quotes a backslash lets any character stand for itself, the quote and the
backslash among them. -/

inductive LiteralText where
  | date (year month day : List Char)
  | dollars (amount : List Char)
  | quoted (inner : List Char)
  deriving DecidableEq, Repr

structure ClauseText where
  column : Nat × List Char
  comparison : Option Comparison
  literal : Nat × LiteralText
  deriving DecidableEq, Repr

namespace Grammar

open Reading

def isNameLater (c : Char) : Bool :=
  c.isAlpha || c.isDigit || c == '_'

def columnName : Reading (List Char) :=
  named .columnName (sealed (word Char.isAlpha isNameLater))

def symbolOf (comparison : Comparison) : Reading Comparison :=
  (token comparison.symbol.toList).map fun _ => comparison

/-- The operators; a longer one is tried before its own beginning. -/
def operator : Reading Comparison :=
  named .operator
    (orElse (symbolOf .equal) <| orElse (symbolOf .atMost) <| orElse (symbolOf .atLeast) <|
      orElse (symbolOf .less) <| orElse (symbolOf .greater) (symbolOf .contains))

def year : Reading (List Char) :=
  named .year (sealed (exactly 4 Char.isDigit))

def month : Reading (List Char) :=
  named .month (sealed (exactly 2 Char.isDigit))

def day : Reading (List Char) :=
  named .day (sealed (exactly 2 Char.isDigit))

def date : Reading LiteralText :=
  named .date <|
    andThen (fun year rest => LiteralText.date year rest.1 rest.2) year
      (after (token ['/']) (andThen Prod.mk month (after (token ['/']) day)))

def cents : Reading (List Char) :=
  after (token ['.']) ((exactly 2 Char.isDigit).map fun digits => '.' :: digits)

def amount : Reading (List Char) :=
  named .amount <| sealed <|
    andThen (fun whole cents => whole ++ cents) (word Char.isDigit Char.isDigit)
      (optional [] cents)

def dollars : Reading LiteralText :=
  named .dollars (after (token ['$']) (amount.map LiteralText.dollars))

/-- The characters up to the first quote or lone backslash. A backslash takes
the character after it along. -/
def quotedRun (quote : Char) : List Char → List Char × List Char
  | [] => ([], [])
  | [c] => if c = quote ∨ c = '\\' then ([], [c]) else ([c], [])
  | c :: d :: rest =>
      if c = '\\' then
        let (inner, rest) := quotedRun quote rest
        (c :: d :: inner, rest)
      else if c = quote then ([], c :: d :: rest)
      else
        let (inner, rest) := quotedRun quote (d :: rest)
        (c :: inner, rest)

def quotedInner (quote : Char) : Reading (List Char) where
  read text := some (quotedRun quote text)
  attempts _ record := record

def quotedBy (quote : Char) (construct : Construct) : Reading (List Char) :=
  after (token [quote]) (before (named construct (quotedInner quote)) (token [quote]))

def quoted : Reading LiteralText :=
  named .quoted <|
    (orElse (quotedBy '"' .doubleQuoted) (quotedBy '\'' .singleQuoted)).map LiteralText.quoted

def literal : Reading LiteralText :=
  orElse date (orElse dollars quoted)

def condition : Reading ClauseText :=
  named .condition <|
    andThen (fun column rest => ⟨column, some rest.1, rest.2⟩) (marked columnName)
      (after blanks (andThen Prod.mk operator (after blanks (marked literal))))

def assignment : Reading ClauseText :=
  named .assignment <|
    andThen (fun column literal => ⟨column, none, literal⟩) (marked columnName)
      (after blanks (after (token ['=']) (after blanks (marked literal))))

def clause : Reading ClauseText :=
  orElse condition assignment

def furtherClause : Reading ClauseText :=
  after blanks (after (token [',']) (after blanks clause))

def lineEnd : Reading Unit :=
  named .lineEnd atEnd

def rule : Reading (List ClauseText) :=
  named .rule <|
    after blanks <|
      andThen List.cons clause
        (before (many furtherClause) (after blanks lineEnd))

def ofConstruct : Construct → Reading Unit
  | .lineEnd => lineEnd
  | .columnName => columnName.map fun _ => ()
  | .operator => operator.map fun _ => ()
  | .year => year.map fun _ => ()
  | .month => month.map fun _ => ()
  | .day => day.map fun _ => ()
  | .date => date.map fun _ => ()
  | .amount => amount.map fun _ => ()
  | .dollars => dollars.map fun _ => ()
  | .doubleQuoted => (named .doubleQuoted (quotedInner '"')).map fun _ => ()
  | .singleQuoted => (named .singleQuoted (quotedInner '\'')).map fun _ => ()
  | .quoted => quoted.map fun _ => ()
  | .condition => condition.map fun _ => ()
  | .assignment => assignment.map fun _ => ()
  | .rule => rule.map fun _ => ()

def unescape : List Char → List Char
  | [] => []
  | [c] => if c = '\\' then [] else [c]
  | c :: d :: rest => if c = '\\' then d :: unescape rest else c :: unescape (d :: rest)

end Grammar

end Passbook
