/-
Reading rules texts and checking the rules against a schema. Each line is one
rule; blank lines are skipped, though counted, and a line that cannot be read
gives one error and leaves the others alone. Every match clause must name a column
and compare it with a literal of its kind; an assignment to a column must be
allowed and of the column's kind. An assignment to a name that is no column is let
through here and reported where the rules are applied.
-/

import Passbook.Pattern
import Passbook.Rule.Grammar
import Passbook.Store
import Passbook.Text

namespace Passbook

/-! ## Misreadings

The report on a line that is not a rule: where reading it failed, the line with
a mark under that place, and what was expected there. -/

/-- A text that cannot be read: the line and column of the failure within the
text, the line as it is shown, and the constructs expected there. -/
structure Misreading where
  line : Nat
  column : Nat
  shown : List Char
  expected : List Construct
  deriving DecidableEq, Repr

namespace Misreading

def showLineEnd (c : Char) : Char :=
  if c = '\r' then '␍' else if c = '\n' then '␊' else c

/-- The line of a place as it is shown: without its line end, unless the place
is at one, which then is made visible. -/
def shownLine (before after : List Char) : List Char :=
  let line := Text.lineAround before after
  match after with
  | '\r' :: _ | '\n' :: _ => line.map showLineEnd
  | _ => line.filter fun c => c != '\r' && c != '\n'

def ofAttempts (text : List Char) (attempts : Attempts) : Misreading :=
  let offset := text.length - attempts.left
  let before := text.take offset
  let after := text.drop offset
  let (line, column) := Text.place before
  ⟨line, column, shownLine before after, attempts.expected⟩

def enumerate : List Construct → String
  | [] => "unknown parsing error"
  | [only] => "expected " ++ only.name
  | [first, second] => "expected " ++ first.name ++ " or " ++ second.name
  | several =>
      "expected " ++ String.join (several.dropLast.map fun construct => construct.name ++ ", ") ++
        "or " ++ ((several.getLast?.map Construct.name).getD "")

/-- The text of a report. The mark stands under the column; a tab in the line is
a tab in front of the mark, and the margin is as wide as the line number. -/
def message (report : Misreading) : String :=
  let number := Text.digits report.line
  let margin := String.ofList (number.map fun _ => ' ')
  let ahead := (report.shown.take (report.column - 1)).map fun c => if c = '\t' then '\t' else ' '
  String.join
    [margin, "--> ", String.ofList number, ":", toString report.column, "\n",
      margin, " |\n",
      String.ofList number, " | ", String.ofList report.shown, "\n",
      margin, " | ", String.ofList ahead, "^---\n",
      margin, " |\n",
      margin, " = ", enumerate report.expected]

end Misreading

/-! ## Errors

What can be wrong with a line of a rules text. An error stops its own line and
no other. -/

inductive RuleProblem where
  /-- The line does not follow the grammar. -/
  | invalidInput (report : Misreading)
  /-- A literal is no entry. -/
  | invalidLiteral (cause : ValueError)
  | unknownColumn (column : String)
  | typeMismatch (column : String) (expected found : Kind)
  | invalidOperator (column : String) (kind : Kind)
  | invalidPattern
  | notAssignable (column : String)
  deriving DecidableEq

structure RuleError where
  problem : RuleProblem
  location : Location
  deriving DecidableEq

namespace RuleProblem

def isReading : RuleProblem → Bool
  | .invalidInput _ | .invalidLiteral _ => true
  | _ => false

def message : RuleProblem → String
  | .invalidInput report => "Invalid input: " ++ report.message
  | .invalidLiteral cause => "Invalid literal: " ++ cause.message
  | .unknownColumn column => "unknown column `" ++ column ++ "`"
  | .typeMismatch column expected found =>
      "type mismatch: column `" ++ column ++ "` holds " ++ expected.name ++
        " but the literal is " ++ found.name
  | .invalidOperator column kind =>
      "operator `~~` needs a String column, `" ++ column ++ "` holds " ++ kind.name
  | .invalidPattern => "invalid pattern"
  | .notAssignable column => "column `" ++ column ++ "` cannot be assigned by these rules"

end RuleProblem

def RuleError.message (error : RuleError) : String :=
  error.problem.message ++ " at line " ++ toString error.location.line ++ " column " ++
    toString error.location.column

/-! ## Lines -/

namespace LiteralText

def entry : LiteralText → Except ValueError Entry
  | .date year month day =>
      (Date.ofParts (String.ofList year) (String.ofList month) (String.ofList day)).map Entry.date
  | .dollars amount => (Dollars.ofText (String.ofList amount)).map Entry.dollars
  | .quoted inner => .ok (.text (String.ofList (Grammar.unescape inner)))

end LiteralText

namespace Rule

def locate (line : List Char) (number left : Nat) : Location :=
  ⟨number, (Text.place (line.take (line.length - left))).2⟩

def addClause (line : List Char) (clause : ClauseText) (entry : Entry) (rule : Rule) : Rule :=
  let column := String.ofList clause.column.2
  let location := locate line rule.line clause.column.1
  match clause.comparison with
  | some comparison =>
      { rule with conditions := ⟨column, comparison, entry, location⟩ :: rule.conditions }
  | none => { rule with assignments := ⟨column, entry, location⟩ :: rule.assignments }

def ofClauses (line : List Char) (number : Nat) : List ClauseText → Except RuleError Rule
  | [] => .ok ⟨number, [], []⟩
  | clause :: clauses =>
      match clause.literal.2.entry with
      | .error cause => .error ⟨.invalidLiteral cause, locate line number clause.literal.1⟩
      | .ok entry =>
          match ofClauses line number clauses with
          | .error problem => .error problem
          | .ok rule => .ok (rule.addClause line clause entry)

def ofLine (line : List Char) (number : Nat) : Except RuleError Rule :=
  match Grammar.rule.read line with
  | some (clauses, _) => ofClauses line number clauses
  | none =>
      let report := Misreading.ofAttempts line (Grammar.rule.attempts line (Attempts.start line))
      .error ⟨.invalidInput report, ⟨number, report.column⟩⟩

def readLines : Nat → List (List Char) → List (Except RuleError Rule)
  | _, [] => []
  | number, line :: lines =>
      if Text.isAllBlank line then readLines (number + 1) lines
      else ofLine line number :: readLines (number + 1) lines

def ofText (text : String) : List (Except RuleError Rule) :=
  readLines 1 (Text.lines text.toList)

end Rule

namespace Grammar

/-- The front of a text that a construct reads, or the line and column of the
furthest failure. -/
def recognize (construct : Construct) (text : List Char) : Except (Nat × Nat) (List Char) :=
  let reading := ofConstruct construct
  match reading.read text with
  | some (_, rest) => .ok (text.take (text.length - rest.length))
  | none =>
      let report := Misreading.ofAttempts text (reading.attempts text (Attempts.start text))
      .error (report.line, report.column)

end Grammar

/-! ## Rules under a schema -/

inductive Test where
  | compare (comparison : Comparison) (literal : Entry)
  | search (pattern : Pattern)

structure CompiledCondition where
  index : Nat
  test : Test

structure CompiledRule where
  line : Nat
  conditions : List CompiledCondition
  assignments : List (String × Entry)

structure CompiledRules where
  schema : Schema
  rules : List CompiledRule

/-- Checks rules against a schema. `assignable` names the columns that rules
may write; all may be written when it is absent. -/
structure Compiler where
  schema : Schema
  assignable : Option (List String) := none

structure Compilation where
  rules : CompiledRules
  errors : List RuleError

namespace Compiler

def resolve? (compiler : Compiler) (column : String) : Option (Nat × Kind) :=
  match compiler.schema.indexOf? column, compiler.schema.kindOf? column with
  | some index, some kind => some (index, kind)
  | _, _ => none

def test (comparison : Comparison) (literal : Entry) : Except RuleProblem Test :=
  match comparison, literal with
  | .contains, .text pattern =>
      match Pattern.ofText? pattern with
      | some pattern => .ok (.search pattern)
      | none => .error .invalidPattern
  | comparison, literal => .ok (.compare comparison literal)

/-- Checks a match clause: its column, its operator, the kind of its literal,
and its pattern, in this order. -/
def compileCondition (compiler : Compiler) (condition : Condition) :
    Except RuleError CompiledCondition :=
  let failed (problem : RuleProblem) : Except RuleError CompiledCondition :=
    .error ⟨problem, condition.location⟩
  match compiler.resolve? condition.column with
  | none => failed (.unknownColumn condition.column)
  | some (index, kind) =>
      if condition.comparison = .contains ∧ kind ≠ .text then
        failed (.invalidOperator condition.column kind)
      else if condition.literal.kind ≠ kind then
        failed (.typeMismatch condition.column kind condition.literal.kind)
      else
        match test condition.comparison condition.literal with
        | .error problem => failed problem
        | .ok test => .ok ⟨index, test⟩

/-- What is wrong with an assignment, if anything: first whether the column may
be written, then the kind of the value. -/
def assignmentError? (compiler : Compiler) (assignment : Assignment) : Option RuleError :=
  match compiler.schema.kindOf? assignment.column with
  | none => none
  | some kind =>
      if compiler.assignable.all fun allowed => allowed.contains assignment.column then
        if assignment.value.kind ≠ kind then
          some ⟨.typeMismatch assignment.column kind assignment.value.kind, assignment.location⟩
        else none
      else some ⟨.notAssignable assignment.column, assignment.location⟩

def failures {ε α : Type} (results : List (Except ε α)) : List ε :=
  results.filterMap fun result =>
    match result with
    | .error error => some error
    | .ok _ => none

def successes {ε α : Type} (results : List (Except ε α)) : List α :=
  results.filterMap fun result =>
    match result with
    | .error _ => none
    | .ok value => some value

/-- Everything that is wrong with a rule: its match clauses first, then its
assignments. -/
def check (compiler : Compiler) (rule : Rule) : List RuleError :=
  failures (rule.conditions.map compiler.compileCondition) ++
    rule.assignments.filterMap compiler.assignmentError?

def compileRule (compiler : Compiler) (rule : Rule) : Except (List RuleError) CompiledRule :=
  let errors := compiler.check rule
  if errors.isEmpty then
    .ok ⟨rule.line, successes (rule.conditions.map compiler.compileCondition),
      rule.assignments.map fun assignment => (assignment.column, assignment.value)⟩
  else .error errors

/-- Errors in the order of their places; errors at one place keep their order. -/
def inOrder (errors : List RuleError) : List RuleError :=
  errors.mergeSort fun a b => a.location.compare b.location != .gt

/-- Reads all lines of a rules text and then checks and resolves the rules that
were read. What is wrong is left out, and the errors of both stand in the order
of the text. -/
def compile (compiler : Compiler) (text : String) : Compilation :=
  let lines := Rule.ofText text
  let results := (successes lines).map compiler.compileRule
  ⟨⟨compiler.schema, successes results⟩,
    inOrder (failures lines ++ (failures results).flatten)⟩

end Compiler

end Passbook
