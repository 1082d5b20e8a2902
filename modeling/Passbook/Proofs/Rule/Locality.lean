/-
Lines of a rules text are compiled on their own. A line that stands further down
is read, checked and reported as it is, only under another number; so a text that
is put behind whole lines gives what it gives alone, shifted by their number.
-/

import Passbook.Proofs.Rule.Compiling

namespace Passbook

/-! ### Moving down -/

def Location.shifted (lines : Nat) (place : Location) : Location :=
  ⟨place.line + lines, place.column⟩

def RuleError.shifted (lines : Nat) (error : RuleError) : RuleError :=
  ⟨error.problem, error.location.shifted lines⟩

def Condition.shifted (lines : Nat) (condition : Condition) : Condition :=
  { condition with location := condition.location.shifted lines }

def Assignment.shifted (lines : Nat) (assignment : Assignment) : Assignment :=
  { assignment with location := assignment.location.shifted lines }

def CompiledRule.shifted (lines : Nat) (rule : CompiledRule) : CompiledRule :=
  { rule with line := rule.line + lines }

namespace Rule

def shifted (lines : Nat) (rule : Rule) : Rule :=
  ⟨rule.line + lines, rule.conditions.map (Condition.shifted lines),
    rule.assignments.map (Assignment.shifted lines)⟩

def shiftedLine (lines : Nat) : Except RuleError Rule → Except RuleError Rule
  | .error error => .error (error.shifted lines)
  | .ok rule => .ok (rule.shifted lines)

theorem addClause_shifted (line : List Char) (clause : ClauseText) (entry : Entry) (lines : Nat)
    (rule : Rule) :
    addClause line clause entry (rule.shifted lines) =
      (addClause line clause entry rule).shifted lines := by
  unfold addClause
  cases clause.comparison <;> rfl

theorem ofClauses_add (line : List Char) (number lines : Nat) (found : List ClauseText) :
    ofClauses line (number + lines) found = shiftedLine lines (ofClauses line number found) := by
  induction found with
  | nil => rfl
  | cons clause found ih =>
      unfold ofClauses
      rw [ih]
      cases clause.literal.2.entry with
      | error cause => rfl
      | ok entry =>
          cases ofClauses line number found with
          | error problem => rfl
          | ok rule => exact congrArg Except.ok (addClause_shifted line clause entry lines rule)

theorem ofLine_add (line : List Char) (number lines : Nat) :
    ofLine line (number + lines) = shiftedLine lines (ofLine line number) := by
  unfold ofLine
  split
  · exact ofClauses_add line number lines _
  · rfl

theorem readLines_add (number lines : Nat) (texts : List (List Char)) :
    readLines (number + lines) texts = (readLines number texts).map (shiftedLine lines) := by
  induction texts generalizing number with
  | nil => rfl
  | cons text texts ih =>
      have next : number + lines + 1 = number + 1 + lines := by omega
      unfold readLines
      rw [next, ih]
      split
      · rfl
      · rw [List.map_cons, ofLine_add]

theorem readLines_append (number : Nat) (first second : List (List Char)) :
    readLines number (first ++ second) =
      readLines number first ++ readLines (number + first.length) second := by
  induction first generalizing number with
  | nil => rfl
  | cons text first ih =>
      have next : number + 1 + first.length = number + (text :: first).length := by
        rw [List.length_cons]
        omega
      rw [List.cons_append, readLines, readLines, ih, next]
      split <;> rfl

/-- A text behind whole lines is read as it is alone, further down. -/
theorem ofText_append {first : String} (whole : Text.Whole first.toList) (second : String) :
    ofText (first ++ second) =
      ofText first ++ (ofText second).map (shiftedLine (first.toList.count '\n')) := by
  unfold ofText
  rw [String.toList_append, whole.lines_append, readLines_append, whole.length_lines,
    readLines_add]

end Rule

namespace Compiler

variable (compiler : Compiler) (lines : Nat)

theorem compileCondition_shifted (condition : Condition) :
    compiler.compileCondition (condition.shifted lines) =
      (compiler.compileCondition condition).mapError (RuleError.shifted lines) := by
  unfold compileCondition Condition.shifted
  dsimp only
  cases compiler.resolve? condition.column with
  | none => rfl
  | some found =>
      dsimp only
      split
      · rfl
      · split
        · rfl
        · cases test condition.comparison condition.literal <;> rfl

theorem assignmentError?_shifted (assignment : Assignment) :
    compiler.assignmentError? (assignment.shifted lines) =
      (compiler.assignmentError? assignment).map (RuleError.shifted lines) := by
  unfold assignmentError? Assignment.shifted
  dsimp only
  cases compiler.schema.kindOf? assignment.column with
  | none => rfl
  | some kind =>
      dsimp only
      split
      · split <;> rfl
      · rfl

theorem conditions_shifted (conditions : List Condition) :
    failures ((conditions.map (Condition.shifted lines)).map compiler.compileCondition) =
        (failures (conditions.map compiler.compileCondition)).map (RuleError.shifted lines) ∧
      successes ((conditions.map (Condition.shifted lines)).map compiler.compileCondition) =
        successes (conditions.map compiler.compileCondition) := by
  induction conditions with
  | nil => exact ⟨rfl, rfl⟩
  | cons condition conditions ih =>
      obtain ⟨sameErrors, sameTests⟩ := ih
      simp only [List.map_cons]
      rw [compileCondition_shifted]
      cases compiler.compileCondition condition with
      | error error => exact ⟨congrArg (error.shifted lines :: ·) sameErrors, sameTests⟩
      | ok compiled => exact ⟨sameErrors, congrArg (compiled :: ·) sameTests⟩

theorem check_shifted (rule : Rule) :
    compiler.check (rule.shifted lines) = (compiler.check rule).map (RuleError.shifted lines) := by
  unfold check Rule.shifted
  dsimp only
  rw [(compiler.conditions_shifted lines rule.conditions).1, List.map_append, List.filterMap_map,
    List.map_filterMap]
  congr 1
  apply List.filterMap_congr
  intro assignment _
  exact compiler.assignmentError?_shifted lines assignment

theorem inOrder_shifted (errors : List RuleError) :
    inOrder (errors.map (RuleError.shifted lines)) =
      (inOrder errors).map (RuleError.shifted lines) := by
  refine (List.map_mergeSort ?_).symm
  intro a _ b _
  have sameOrder : compare (a.location.line + lines) (b.location.line + lines) =
      compare a.location.line b.location.line := by
    rw [Nat.compare_eq_ite_lt, Nat.compare_eq_ite_lt]
    simp only [Nat.add_lt_add_iff_right]
  unfold Location.compare RuleError.shifted Location.shifted
  rw [sameOrder]

theorem errorsOf_shifted (line : Except RuleError Rule) :
    compiler.errorsOf (Rule.shiftedLine lines line) =
      (compiler.errorsOf line).map (RuleError.shifted lines) := by
  cases line with
  | error error => rfl
  | ok rule =>
      unfold Rule.shiftedLine errorsOf
      dsimp only
      rw [check_shifted, inOrder_shifted]

theorem rulesOf_shifted (line : Except RuleError Rule) :
    compiler.rulesOf (Rule.shiftedLine lines line) =
      (compiler.rulesOf line).map (CompiledRule.shifted lines) := by
  cases line with
  | error error => rfl
  | ok rule =>
      unfold Rule.shiftedLine rulesOf compileRule
      dsimp only
      rw [check_shifted, List.isEmpty_map]
      split
      · unfold Rule.shifted
        dsimp only
        rw [(compiler.conditions_shifted lines rule.conditions).2, List.map_map]
        rfl
      · rfl

/-- Compiling is local to lines. A text behind whole lines gives what it gives
alone, further down. Every line that is not blank gives one rule, or one error
if it cannot be read, or one error for each of its clauses that is not well
typed; and the errors stand in the order of the text. -/
theorem compile_lines (compiler : Compiler) :
    (∀ first second : String, Text.Whole first.toList →
      (compiler.compile (first ++ second)).rules.rules =
          (compiler.compile first).rules.rules ++
            (compiler.compile second).rules.rules.map
              (CompiledRule.shifted (first.toList.count '\n')) ∧
        (compiler.compile (first ++ second)).errors =
          (compiler.compile first).errors ++
            (compiler.compile second).errors.map
              (RuleError.shifted (first.toList.count '\n'))) ∧
      ∀ text : String,
        (compiler.compile text).errors.Pairwise RuleError.Before ∧
          ∀ index line, (Text.lines text.toList)[index]? = some line →
            Text.isAllBlank line = false →
            compiler.LineGives (index + 1) line
              ((compiler.compile text).rules.rules.filter fun rule => rule.line = index + 1)
              ((compiler.compile text).errors.filter
                fun error => error.location.line = index + 1) := by
  constructor
  · intro first second whole
    simp only [compile_eq]
    rw [Rule.ofText_append whole, List.flatMap_append, List.flatMap_append, List.flatMap_map,
      List.flatMap_map, List.map_flatMap, List.map_flatMap]
    simp only [rulesOf_shifted, errorsOf_shifted, and_self]
  · intro text
    have single : ∀ line ∈ Text.lines text.toList, '\n' ∉ line :=
      fun _ member => Text.not_mem_of_mem_lines member
    rw [compile_eq]
    refine ⟨compiler.pairwise_readLines single 1, ?_⟩
    intro index line present filled
    rw [Nat.add_comm index 1]
    exact compiler.lineGives_readLines single 1 present filled

def mistypedText : String :=
  "amount = \"x\", date == \"y\"\n \n"

def mixedText : String :=
  "from == \"a\", to = \"b\"\r\nto b"

theorem compile_lines_mistyped_mixed :
    let compiler : Compiler := ⟨.base, none⟩
    mistypedText.toList.count '\n' = 2 ∧
      (compiler.compile (mistypedText ++ mixedText)).rules.rules =
        (compiler.compile mistypedText).rules.rules ++
          (compiler.compile mixedText).rules.rules.map (CompiledRule.shifted 2) ∧
      (compiler.compile (mistypedText ++ mixedText)).errors =
        (compiler.compile mistypedText).errors ++
          (compiler.compile mixedText).errors.map (RuleError.shifted 2) ∧
      (compiler.compile mixedText).errors.Pairwise RuleError.Before ∧
      compiler.LineGives 2 "to b".toList
        ((compiler.compile mixedText).rules.rules.filter fun rule => rule.line = 1 + 1)
        ((compiler.compile mixedText).errors.filter fun error => error.location.line = 1 + 1) := by
  intro compiler
  have whole : Text.Whole mistypedText.toList :=
    Or.inr ⟨"amount = \"x\", date == \"y\"\n ".toList, by decide +kernel⟩
  have two : mistypedText.toList.count '\n' = 2 := by decide +kernel
  obtain ⟨appended, each⟩ := compile_lines compiler
  have behind := appended mistypedText mixedText whole
  rw [two] at behind
  obtain ⟨ascends, gives⟩ := each mixedText
  exact ⟨two, behind.1, behind.2, ascends, gives 1 _ (by decide +kernel) (by decide +kernel)⟩

end Compiler

end Passbook
