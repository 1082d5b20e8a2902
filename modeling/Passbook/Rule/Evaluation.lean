/-
What compiled rules decide for a row, what they report about it, and their
application to every row of a store.
-/

import Passbook.Ordered
import Passbook.Rule.Compiler
import Passbook.Store
import Passbook.Unicode.Property

namespace Passbook

/-! ## Deciding a row

All rules look at the row as it was given. The values that the matching rules
propose for a column are gathered in order, each value once; a single value is
assigned, several are a conflict and leave the column alone. A proposal for a
name that is no column is ignored. -/

namespace CompiledCondition

/-- Whether a test holds of an entry. An entry that cannot be tested fails. -/
def testHolds (test : Test) (entry : Entry) : Bool :=
  match test with
  | .compare comparison literal =>
      match entry.tryCompare literal with
      | .ok ordering => comparison.accepts ordering
      | .error _ => false
  | .search pattern =>
      match entry.search pattern with
      | .ok found => found
      | .error _ => false

def holds (condition : CompiledCondition) (row : Row) : Bool :=
  match row.get? condition.index with
  | some entry => testHolds condition.test entry
  | none => false

end CompiledCondition

def CompiledRule.matchesRow (rule : CompiledRule) (row : Row) : Bool :=
  rule.conditions.all fun condition => condition.holds row

/-- The values proposed for a column, in the order of their first proposal. -/
structure Proposal where
  column : String
  values : List Entry

namespace Proposal

def addValue (values : List Entry) (value : Entry) : List Entry :=
  if values.any fun other => other.sameValue value then values else values ++ [value]

def propose : List Proposal → String × Entry → List Proposal
  | [], (column, value) => [⟨column, [value]⟩]
  | proposal :: proposals, (column, value) =>
      if proposal.column = column then
        { proposal with values := addValue proposal.values value } :: proposals
      else proposal :: propose proposals (column, value)

end Proposal

structure Evaluation where
  /-- The value for each position that is assigned. -/
  assignments : OrderedMap Nat Entry := OrderedMap.empty
  /-- The values of each column that is given more than one. -/
  conflicts : OrderedMap String (List Entry) := OrderedMap.empty
  /-- The names that are assigned but are no columns. -/
  ignored : List String := []
  deriving DecidableEq

namespace Evaluation

def isNoop (evaluation : Evaluation) : Bool :=
  evaluation.assignments.isEmpty

def decide (schema : Schema) (evaluation : Evaluation) (proposal : Proposal) : Evaluation :=
  match proposal.values with
  | [] => evaluation
  | [value] =>
      match schema.indexOf? proposal.column with
      | some index => { evaluation with assignments := evaluation.assignments.insert index value }
      | none => { evaluation with ignored := evaluation.ignored ++ [proposal.column] }
  | values => { evaluation with conflicts := evaluation.conflicts.insert proposal.column values }

end Evaluation

namespace CompiledRules

def matching (rules : CompiledRules) (row : Row) : List CompiledRule :=
  rules.rules.filter fun rule => rule.matchesRow row

def proposals (rules : CompiledRules) (row : Row) : List Proposal :=
  ((rules.matching row).flatMap CompiledRule.assignments).foldl Proposal.propose []

def evaluate (rules : CompiledRules) (row : Row) : Evaluation :=
  (rules.proposals row).foldl (Evaluation.decide rules.schema) {}

end CompiledRules

/-! ## Quoted texts

Texts in double quotes, as messages show them. Quotes, backslashes and the
usual control characters are escaped by a backslash; a character that cannot be
seen alone, because it controls, formats, separates, extends its neighbour, has
no shape or is not assigned, is written by its code in hexadecimal. A blank stays
a blank. Characters are judged by edition 17.0 of the standard. -/

namespace Text.Quoted

/-- The two halfwidth sound marks, which extend the character before them and take
up a place of their own. -/
def isSoundMark (c : Char) : Bool :=
  c == '\uFF9E' || c == '\uFF9F'

def isShown (c : Char) : Bool :=
  if isSoundMark c then true
  else if Unicode.Latest.isGraphemeExtend c || Unicode.isDefaultIgnorable c then false
  else
    match Unicode.Category.of c with
    | .control | .format | .privateUse | .lineSeparator | .paragraphSeparator => false
    | .unassigned => Unicode.Latest.isAssigned c
    | .spaceSeparator => c == ' '
    | _ => true

def escape (c : Char) : List Char :=
  if c = '"' then ['\\', '"']
  else if c = '\\' then ['\\', '\\']
  else if c = '\n' then ['\\', 'n']
  else if c = '\r' then ['\\', 'r']
  else if c = '\t' then ['\\', 't']
  else if c = '\x00' then ['\\', '0']
  else if isShown c then [c]
  else '\\' :: 'u' :: '\x7b' :: (Nat.toDigits 16 c.toNat ++ ['\x7d'])

def quote (text : String) : String :=
  String.ofList ('"' :: (text.toList.flatMap escape ++ ['"']))

end Text.Quoted

/-! ## Diagnostics

What is reported when rules are applied: conflicts, and assignments to names
that are no columns. Neither stops the rules. -/

inductive Diagnostic where
  | conflict (row : Nat) (conflicts : OrderedMap String (List Entry))
  | unknownAssignment (row : Nat) (column : String)
  deriving DecidableEq

namespace Diagnostic

def showValue : Entry → String
  | .text value => Text.Quoted.quote value
  | value => value.toText

def braced (items : List String) : String :=
  "\x7b" ++ ", ".intercalate items ++ "\x7d"

def showConflict (conflict : String × List Entry) : String :=
  conflict.1 ++ ": " ++ braced (conflict.2.map showValue)

def message : Diagnostic → String
  | .conflict _ conflicts => "rules conflict: " ++ braced (conflicts.pairs.map showConflict)
  | .unknownAssignment _ column => "ignoring unknown rule assignment to " ++ column

def ofEvaluation (position : Nat) (evaluation : Evaluation) : List Diagnostic :=
  (if evaluation.conflicts.isEmpty then [] else [.conflict position evaluation.conflicts]) ++
    evaluation.ignored.map (.unknownAssignment position)

end Diagnostic

/-! ## Application

Each row is overwritten at exactly the positions that the rules assign, and
checked against the schema again. -/

structure Application where
  store : Store
  diagnostics : List Diagnostic
  deriving DecidableEq

def Row.overwrite (row : Row) (assignments : OrderedMap Nat Entry) : Row :=
  assignments.pairs.foldl (fun row (index, value) => row.set index value) row

namespace CompiledRules

def applyFrom (rules : CompiledRules) (position : Nat) (done : Application) :
    List Row → Except SchemaError Application
  | [] => .ok done
  | row :: rows =>
      let evaluation := rules.evaluate row
      match done.store.ingest (row.overwrite evaluation.assignments) with
      | .error problem => .error problem
      | .ok store =>
          rules.applyFrom (position + 1)
            ⟨store, done.diagnostics ++ Diagnostic.ofEvaluation position evaluation⟩ rows

/-- Changes every row of a store, which must have the schema of the rules. -/
def apply (rules : CompiledRules) (store : Store) : Except SchemaError Application :=
  if store.schema = rules.schema then
    rules.applyFrom 0 ⟨Store.empty rules.schema, []⟩ store.rows
  else .error .schemaMismatch

end CompiledRules

end Passbook
