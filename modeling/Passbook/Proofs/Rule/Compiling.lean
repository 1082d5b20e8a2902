/-
Compiling line by line. Reading and checking are separate passes whose errors
are put in order together, but what comes out is what the single lines give, one
after the other: the clauses of a line stand at different places of it, so that
errors have only one order.
-/

import Mathlib.Data.List.Basic
import Passbook.Proofs.Rule.Line
import Passbook.Proofs.Rule.Soundness
import Passbook.Proofs.Text

namespace Passbook

/-! ## Checking one rule

What the checker reports. It finds one error for each clause that is not well
typed, at the place of the clause, and none for the others. Errors at different
places are put in order in one way only. -/

/-! ### Places -/

namespace Location

instance : Std.TransCmp Location.compare :=
  inferInstanceAs (Std.TransCmp
    (compareLex (compareOn Location.line) (compareOn Location.column)))

theorem compare_self (place : Location) : place.compare place = .eq :=
  Std.ReflCmp.compare_self

theorem compare_swap (a b : Location) : a.compare b = (b.compare a).swap :=
  Std.OrientedCmp.eq_swap

theorem eq_of_compare {a b : Location} (same : a.compare b = .eq) : a = b := by
  unfold compare at same
  rw [Ordering.then_eq_eq] at same
  obtain ⟨lines, columns⟩ := same
  obtain ⟨line, column⟩ := a
  obtain ⟨otherLine, otherColumn⟩ := b
  rw [Location.mk.injEq]
  exact ⟨Nat.compare_eq_eq.mp lines, Nat.compare_eq_eq.mp columns⟩

theorem compare_of_line_lt {a b : Location} (above : a.line < b.line) : a.compare b = .lt := by
  unfold compare
  rw [Nat.compare_eq_lt.mpr above]
  rfl

end Location

/-- An error stands before another one: in an earlier line or further left. -/
def RuleError.Before (a b : RuleError) : Prop :=
  a.location.compare b.location = .lt

/-! ### Clauses -/

def Entry.isPattern : Entry → Bool
  | .text pattern => (Pattern.ofText? pattern).isSome
  | _ => false

/-- The column is there, the literal is of its kind, and a search is for a pattern. -/
def Condition.isWellTyped (condition : Condition) (schema : Schema) : Bool :=
  match schema.kindOf? condition.column with
  | none => false
  | some kind =>
      decide (condition.literal.kind = kind) &&
        (condition.comparison != .contains || condition.literal.isPattern)

/-- A column that is there may be written, and the value is of its kind. -/
def Assignment.isWellTyped (assignment : Assignment) (compiler : Compiler) : Bool :=
  match compiler.schema.kindOf? assignment.column with
  | none => true
  | some kind =>
      (compiler.assignable.all fun allowed => allowed.contains assignment.column) &&
        decide (assignment.value.kind = kind)

namespace Compiler

variable {compiler : Compiler}

/-- The places of the clauses that are not well typed, match clauses first. -/
def illTyped (compiler : Compiler) (rule : Rule) : List Location :=
  (rule.conditions.filter fun condition => !condition.isWellTyped compiler.schema).map
      Condition.location ++
    (rule.assignments.filter fun assignment => !assignment.isWellTyped compiler).map
      Assignment.location

@[simp]
theorem successes_ok {ε α : Type} (value : α) (results : List (Except ε α)) :
    successes (.ok value :: results) = value :: successes results :=
  rfl

@[simp]
theorem failures_error {ε α : Type} (error : ε) (results : List (Except ε α)) :
    failures (.error error :: results) = error :: failures results :=
  rfl

@[simp]
theorem failures_ok {ε α : Type} (value : α) (results : List (Except ε α)) :
    failures (.ok value :: results) = failures results :=
  rfl

theorem resolve?_eq (name : String) :
    compiler.resolve? name = none ∧ compiler.schema.kindOf? name = none ∨
      ∃ index kind, compiler.resolve? name = some (index, kind) ∧
        compiler.schema.kindOf? name = some kind := by
  unfold resolve?
  cases position : compiler.schema.indexOf? name with
  | none =>
      refine Or.inl ⟨rfl, ?_⟩
      rw [Schema.kindOf?_eq, position]
      rfl
  | some index =>
      obtain ⟨kind, _, ofName⟩ := Schema.exists_hasColumn position
      refine Or.inr ⟨index, kind, ?_, ofName⟩
      rw [ofName]

private theorem test_cases (comparison : Comparison) (literal : Entry) :
    (comparison = .contains ∧ literal.isPattern = false ∧
        test comparison literal = .error .invalidPattern) ∨
      ((comparison = .contains → literal.kind = .text → literal.isPattern = true) ∧
        ∃ checked, test comparison literal = .ok checked) := by
  unfold test
  split
  · rename_i pattern
    cases found : Pattern.ofText? pattern with
    | none => exact Or.inl ⟨rfl, by rw [Entry.isPattern, found]; rfl, rfl⟩
    | some pattern => exact Or.inr ⟨fun _ _ => by rw [Entry.isPattern, found]; rfl, _, rfl⟩
  · rename_i notText
    refine Or.inr ⟨?_, _, rfl⟩
    intro contains text
    cases literal with
    | date value => cases text
    | text pattern => exact absurd rfl (notText pattern contains)
    | dollars value => cases text

/-- A match clause is resolved when it is well typed and else reported at its place. -/
theorem compileCondition_cases (compiler : Compiler) (condition : Condition) :
    (condition.isWellTyped compiler.schema = true ∧
        ∃ compiled, compiler.compileCondition condition = .ok compiled) ∨
      (condition.isWellTyped compiler.schema = false ∧ ∃ problem,
        compiler.compileCondition condition = .error ⟨problem, condition.location⟩) := by
  unfold Condition.isWellTyped compileCondition
  rcases compiler.resolve?_eq condition.column with ⟨unresolved, absent⟩ |
    ⟨index, kind, resolved, present⟩
  · rw [unresolved, absent]
    exact Or.inr ⟨rfl, _, rfl⟩
  · rw [resolved, present]
    dsimp only
    split
    · rename_i searching
      obtain ⟨contains, notText⟩ := searching
      refine Or.inr ⟨?_, _, rfl⟩
      rw [contains]
      cases condition.literal with
      | date value => simp [Entry.isPattern]
      | text pattern => simp [Entry.kind, Ne.symm notText]
      | dollars value => simp [Entry.isPattern]
    · rename_i searchable
      split
      · rename_i otherKind
        exact Or.inr ⟨by simp [otherKind], _, rfl⟩
      · rename_i sameKind
        have same := Decidable.not_not.mp sameKind
        rcases test_cases condition.comparison condition.literal with
          ⟨contains, noPattern, refused⟩ | ⟨pattern, checked, tested⟩
        · rw [refused]
          exact Or.inr ⟨by simp [contains, noPattern], _, rfl⟩
        · rw [tested]
          refine Or.inl ⟨?_, _, rfl⟩
          by_cases contains : condition.comparison = .contains
          · have text : kind = .text :=
              Decidable.byContradiction fun other => searchable ⟨contains, other⟩
            simp [same, pattern contains (same.trans text)]
          · simp [same, contains]

/-- An assignment is reported at its place when it is not well typed. -/
theorem assignmentError?_cases (compiler : Compiler) (assignment : Assignment) :
    (assignment.isWellTyped compiler = true ∧ compiler.assignmentError? assignment = none) ∨
      (assignment.isWellTyped compiler = false ∧ ∃ problem,
        compiler.assignmentError? assignment = some ⟨problem, assignment.location⟩) := by
  unfold Assignment.isWellTyped assignmentError?
  cases compiler.schema.kindOf? assignment.column with
  | none => exact Or.inl ⟨rfl, rfl⟩
  | some kind =>
      dsimp only
      split
      · rename_i allowed
        rw [allowed, Bool.true_and]
        split
        · rename_i otherKind
          exact Or.inr ⟨decide_eq_false otherKind, _, rfl⟩
        · rename_i sameKind
          exact Or.inl ⟨decide_eq_true (Decidable.not_not.mp sameKind), rfl⟩
      · rename_i refused
        rw [eq_false_of_ne_true refused]
        exact Or.inr ⟨rfl, _, rfl⟩

/-- Where each clause that is not well typed is reported at its place and no
other is, the reports stand at the places of the former. -/
private theorem map_location_filterMap {α : Type} {report : α → Option RuleError}
    {wellTyped : α → Bool} {place : α → Location}
    (reports : ∀ clause, (wellTyped clause = true ∧ report clause = none) ∨
      (wellTyped clause = false ∧ ∃ problem, report clause = some ⟨problem, place clause⟩))
    (clauses : List α) :
    (clauses.filterMap report).map RuleError.location =
      (clauses.filter fun clause => !wellTyped clause).map place := by
  induction clauses with
  | nil => rfl
  | cons clause clauses ih =>
      rw [List.filterMap_cons, List.filter_cons]
      rcases reports clause with ⟨typed, correct⟩ | ⟨ill, problem, found⟩
      · rw [correct, typed]
        exact ih
      · rw [found, ill]
        exact congrArg (place clause :: ·) ih

/-- One error for each clause that is not well typed. -/
theorem map_location_check (rule : Rule) :
    (compiler.check rule).map RuleError.location = compiler.illTyped rule := by
  unfold check illTyped failures
  rw [List.map_append, List.filterMap_map, map_location_filterMap ?_ rule.conditions,
    map_location_filterMap compiler.assignmentError?_cases]
  intro condition
  rw [Function.comp_apply]
  rcases compiler.compileCondition_cases condition with ⟨typed, compiled, resolved⟩ |
    ⟨ill, problem, reported⟩
  · rw [resolved]
    exact Or.inl ⟨typed, rfl⟩
  · rw [reported]
    exact Or.inr ⟨ill, problem, rfl⟩

/-! ### The order of errors -/

theorem perm_inOrder (errors : List RuleError) : (inOrder errors).Perm errors :=
  List.mergeSort_perm _ _

private theorem notAfter_iff {a b : Location} :
    (a.compare b != .gt) = true ↔ (a.compare b).isLE = true := by
  cases a.compare b <;> decide

private theorem pairwise_notAfter (errors : List RuleError) :
    (inOrder errors).Pairwise fun a b => (a.location.compare b.location).isLE = true := by
  refine List.Pairwise.imp notAfter_iff.mp (List.pairwise_mergeSort ?_ ?_ errors)
  · intro a b c first second
    rw [notAfter_iff] at first second ⊢
    exact Std.TransCmp.isLE_trans first second
  · intro a b
    rw [b.location.compare_swap a.location]
    cases a.location.compare b.location <;> decide

theorem nodup_of_pairwise {errors : List RuleError} (ascends : errors.Pairwise RuleError.Before) :
    (errors.map RuleError.location).Nodup := by
  refine List.pairwise_map.mpr (ascends.imp ?_)
  intro a b before same
  unfold RuleError.Before at before
  rw [same, Location.compare_self] at before
  cases before

/-- Errors at different places ascend once they are in order. -/
theorem pairwise_inOrder {errors : List RuleError}
    (nodup : (errors.map RuleError.location).Nodup) :
    (inOrder errors).Pairwise RuleError.Before := by
  have apart : ((inOrder errors).map RuleError.location).Nodup :=
    ((perm_inOrder errors).map RuleError.location).nodup_iff.mpr nodup
  refine ((pairwise_notAfter errors).and (List.pairwise_map.mp apart)).imp ?_
  rintro a b ⟨notAfter, different⟩
  rw [Ordering.isLE_iff_eq_lt_or_eq_eq] at notAfter
  rcases notAfter with before | same
  · exact before
  · exact absurd (Location.eq_of_compare same) different

theorem inOrder_eq_of_perm {errors ascending : List RuleError} (perm : ascending.Perm errors)
    (ascends : ascending.Pairwise RuleError.Before) : inOrder errors = ascending := by
  have nodup : (errors.map RuleError.location).Nodup :=
    (perm.map RuleError.location).nodup_iff.mp (nodup_of_pairwise ascends)
  refine List.Perm.eq_of_pairwise ?_ (pairwise_inOrder nodup) ascends
    ((perm_inOrder errors).trans perm.symm)
  intro a b _ _ before after
  unfold RuleError.Before at before after
  rw [Location.compare_swap, before] at after
  cases after

end Compiler

/-! ## Compiling a text -/

namespace Spelling

theorem Clauses.ascend {before : Nat} {text : List Char} {placed : List (Nat × Clause)}
    (clauses : Clauses before text placed) :
    (placed.Pairwise fun earlier later => earlier.1 < later.1) ∧
      ∀ clause ∈ placed, before ≤ clause.1 := by
  induction clauses with
  | last ofFirst spells ofSecond =>
      refine ⟨List.pairwise_singleton _ _, ?_⟩
      intro clause member
      rw [List.mem_singleton.mp member]
      exact Nat.le_add_right _ _
  | @more before first text second rest clause others ofFirst spells ofSecond later ih =>
      obtain ⟨ascend, behind⟩ := ih
      simp only [List.length_append] at behind
      refine ⟨List.pairwise_cons.mpr ⟨?_, ascend⟩, ?_⟩
      · intro other member
        have farther := behind other member
        dsimp only
        omega
      · intro other member
        rcases List.mem_cons.mp member with rfl | there
        · exact Nat.le_add_right _ _
        · have farther := behind other there
          omega

theorem perm_places (number : Nat) (placed : List (Nat × Clause)) :
    ((rule number placed).conditions.map Condition.location ++
        (rule number placed).assignments.map Assignment.location).Perm
      (placed.map fun clause => ⟨number, clause.1 + 1⟩) := by
  unfold rule
  dsimp only
  induction placed with
  | nil => exact List.Perm.nil
  | cons clause placed ih =>
      obtain ⟨before, column, comparison, value⟩ := clause
      cases comparison with
      | some comparison => exact List.Perm.cons _ ih
      | none => exact List.perm_middle.trans (List.Perm.cons _ ih)

end Spelling

namespace Rule

variable {line : List Char} {number : Nat}

def places (rule : Rule) : List Location :=
  rule.conditions.map Condition.location ++ rule.assignments.map Assignment.location

/-- The clauses of a line that was read stand in this line, at different places. -/
theorem places_of_ofLine (single : '\n' ∉ line) {rule : Rule}
    (read : ofLine line number = .ok rule) :
    rule.line = number ∧ rule.places.Nodup ∧ ∀ place ∈ rule.places, place.line = number := by
  obtain ⟨placed, spelled, rfl⟩ := spells_of_ofLine single read
  have perm := Spelling.perm_places number placed
  refine ⟨rfl, perm.nodup_iff.mpr ?_, ?_⟩
  · refine List.pairwise_map.mpr ((Spelling.Clauses.ascend spelled).1.imp ?_)
    intro earlier later before same
    rw [Location.mk.injEq] at same
    omega
  · intro place member
    obtain ⟨clause, _, rfl⟩ := List.mem_map.mp (perm.subset member)
    rfl

private theorem line_of_ofClauses {found : List ClauseText} {error : RuleError}
    (failed : ofClauses line number found = .error error) : error.location.line = number := by
  induction found with
  | nil => cases failed
  | cons clause found ih =>
      unfold ofClauses at failed
      split at failed
      · cases failed
        rfl
      · split at failed
        · rename_i problem later
          cases failed
          exact ih later
        · cases failed

theorem line_of_ofLine {error : RuleError} (failed : ofLine line number = .error error) :
    error.location.line = number := by
  unfold ofLine at failed
  split at failed
  · exact line_of_ofClauses failed
  · cases failed
    rfl

end Rule

namespace Compiler

variable {compiler : Compiler}

def rulesOf (compiler : Compiler) : Except RuleError Rule → List CompiledRule
  | .error _ => []
  | .ok rule => successes [compiler.compileRule rule]

def errorsOf (compiler : Compiler) : Except RuleError Rule → List RuleError
  | .error error => [error]
  | .ok rule => inOrder (compiler.check rule)

theorem inOrder_nil : inOrder [] = [] :=
  (perm_inOrder []).eq_nil

theorem flatten_failures (rule : Rule) (results : List (Except (List RuleError) CompiledRule)) :
    (failures (compiler.compileRule rule :: results)).flatten =
      compiler.check rule ++ (failures results).flatten := by
  unfold compileRule
  dsimp only
  split
  · rename_i clean
    rw [failures_ok, List.isEmpty_iff.mp clean, List.nil_append]
  · rw [failures_error, List.flatten_cons]

theorem successes_append {ε α : Type} (first second : List (Except ε α)) :
    successes (first ++ second) = successes first ++ successes second :=
  List.filterMap_append

theorem successes_eq_flatMap (lines : List (Except RuleError Rule)) :
    successes ((successes lines).map compiler.compileRule) = lines.flatMap compiler.rulesOf := by
  induction lines with
  | nil => rfl
  | cons line lines ih =>
      rw [List.flatMap_cons, ← ih]
      cases line with
      | error error => rfl
      | ok rule => exact successes_append [compiler.compileRule rule] _

/-- Both passes together find the errors of the single lines. -/
theorem perm_flatMap_errorsOf (lines : List (Except RuleError Rule)) :
    (lines.flatMap compiler.errorsOf).Perm
      (failures lines ++ (failures ((successes lines).map compiler.compileRule)).flatten) := by
  induction lines with
  | nil => exact List.Perm.nil
  | cons line lines ih =>
      rw [List.flatMap_cons]
      cases line with
      | error error => exact List.Perm.cons _ ih
      | ok rule =>
          rw [failures_ok, successes_ok, List.map_cons, flatten_failures]
          exact ((perm_inOrder _).append ih).trans (List.perm_append_comm_assoc _ _ _)

theorem illTyped_sublist (rule : Rule) : (compiler.illTyped rule).Sublist rule.places :=
  (List.filter_sublist.map _).append (List.filter_sublist.map _)

/-- What a line gives: one error if it is no rule, one error for each clause that
is not well typed, and else its rule. -/
inductive LineGives (compiler : Compiler) (number : Nat) (line : List Char) :
    List CompiledRule → List RuleError → Prop where
  | unreadable {error : RuleError} (read : Rule.ofLine line number = .error error)
      (here : error.location.line = number) : LineGives compiler number line [] [error]
  | illTyped {rule : Rule} {errors : List RuleError} (read : Rule.ofLine line number = .ok rule)
      (some : errors ≠ []) (here : ∀ error ∈ errors, error.location.line = number)
      (each : (errors.map RuleError.location).Perm (compiler.illTyped rule)) :
      LineGives compiler number line [] errors
  | compiled {rule : Rule} {compiled : CompiledRule} (read : Rule.ofLine line number = .ok rule)
      (clean : compiler.illTyped rule = []) (accepted : compiler.compileRule rule = .ok compiled)
      (here : compiled.line = number) : LineGives compiler number line [compiled] []

section Line

variable {line : List Char}

theorem lineGives (compiler : Compiler) (single : '\n' ∉ line) (number : Nat) :
    compiler.LineGives number line (compiler.rulesOf (Rule.ofLine line number))
      (compiler.errorsOf (Rule.ofLine line number)) := by
  cases read : Rule.ofLine line number with
  | error error => exact .unreadable read (Rule.line_of_ofLine read)
  | ok rule =>
      obtain ⟨ofLine, _, here⟩ := Rule.places_of_ofLine single read
      have ofCheck := compiler.map_location_check rule
      unfold rulesOf errorsOf
      dsimp only
      cases accepted : compiler.compileRule rule with
      | error errors =>
          have some : compiler.check rule ≠ [] := by
            intro clean
            rw [compileRule_eq_ok_iff.mpr ⟨clean, rfl⟩] at accepted
            cases accepted
          have perm := perm_inOrder (compiler.check rule)
          refine .illTyped read ?_ ?_ (ofCheck ▸ perm.map RuleError.location)
          · intro none
            exact some (none ▸ perm.symm).eq_nil
          · intro error member
            apply here
            apply (compiler.illTyped_sublist rule).subset
            rw [← ofCheck]
            exact List.mem_map_of_mem (perm.subset member)
      | ok compiled =>
          obtain ⟨clean, same⟩ := compileRule_eq_ok_iff.mp accepted
          rw [clean, inOrder_nil]
          refine .compiled read ?_ accepted ?_
          · rw [← ofCheck, clean]
            rfl
          · rw [same]
            exact ofLine

theorem LineGives.lines {number : Nat} {rules : List CompiledRule} {errors : List RuleError}
    (gives : compiler.LineGives number line rules errors) :
    (∀ rule ∈ rules, rule.line = number) ∧ ∀ error ∈ errors, error.location.line = number := by
  cases gives with
  | unreadable read here => exact ⟨by simp, by simpa using here⟩
  | illTyped read some here each => exact ⟨by simp, here⟩
  | compiled read clean accepted here => exact ⟨by simpa using here, by simp⟩

theorem pairwise_errorsOf (compiler : Compiler) (single : '\n' ∉ line) (number : Nat) :
    (compiler.errorsOf (Rule.ofLine line number)).Pairwise RuleError.Before := by
  cases read : Rule.ofLine line number with
  | error error => exact List.pairwise_singleton _ _
  | ok rule =>
      apply pairwise_inOrder
      rw [map_location_check]
      exact (compiler.illTyped_sublist rule).nodup (Rule.places_of_ofLine single read).2.1

end Line

section Lines

variable {texts : List (List Char)}

theorem flatMap_readLines_cons {α : Type} (give : Except RuleError Rule → List α) (number : Nat)
    (text : List Char) (texts : List (List Char)) :
    (Rule.readLines number (text :: texts)).flatMap give =
      (if Text.isAllBlank text then [] else give (Rule.ofLine text number)) ++
        (Rule.readLines (number + 1) texts).flatMap give := by
  rw [Rule.readLines]
  split
  · rfl
  · rw [List.flatMap_cons]

theorem line_le (compiler : Compiler) (single : ∀ text ∈ texts, '\n' ∉ text) (number : Nat) :
    (∀ rule ∈ (Rule.readLines number texts).flatMap compiler.rulesOf, number ≤ rule.line) ∧
      ∀ error ∈ (Rule.readLines number texts).flatMap compiler.errorsOf,
        number ≤ error.location.line := by
  induction texts generalizing number with
  | nil => exact ⟨fun _ absent => (nomatch absent), fun _ absent => (nomatch absent)⟩
  | cons text texts ih =>
      obtain ⟨singleHere, singleLater⟩ := List.forall_mem_cons.mp single
      obtain ⟨rulesHere, errorsHere⟩ := (compiler.lineGives singleHere number).lines
      obtain ⟨rulesLater, errorsLater⟩ := ih singleLater (number + 1)
      rw [flatMap_readLines_cons, flatMap_readLines_cons]
      constructor
      · intro rule member
        rcases List.mem_append.mp member with here | later
        · split at here
          · cases here
          · exact Nat.le_of_eq (rulesHere rule here).symm
        · exact Nat.le_of_succ_le (rulesLater rule later)
      · intro error member
        rcases List.mem_append.mp member with here | later
        · split at here
          · cases here
          · exact Nat.le_of_eq (errorsHere error here).symm
        · exact Nat.le_of_succ_le (errorsLater error later)

theorem pairwise_readLines (compiler : Compiler) (single : ∀ text ∈ texts, '\n' ∉ text)
    (number : Nat) :
    ((Rule.readLines number texts).flatMap compiler.errorsOf).Pairwise RuleError.Before := by
  induction texts generalizing number with
  | nil => exact List.Pairwise.nil
  | cons text texts ih =>
      obtain ⟨singleHere, singleLater⟩ := List.forall_mem_cons.mp single
      have errorsHere := (compiler.lineGives singleHere number).lines.2
      have errorsLater := (compiler.line_le singleLater (number + 1)).2
      rw [flatMap_readLines_cons]
      refine List.pairwise_append.mpr ⟨?_, ih singleLater (number + 1), ?_⟩
      · split
        · exact List.Pairwise.nil
        · exact compiler.pairwise_errorsOf singleHere number
      · intro earlier here later there
        split at here
        · cases here
        · apply Location.compare_of_line_lt
          rw [errorsHere earlier here]
          exact errorsLater later there

private theorem filter_elsewhere {α : Type} {items : List α} {place : α → Nat} {number : Nat}
    (elsewhere : ∀ item ∈ items, place item ≠ number) :
    items.filter (fun item => place item = number) = [] :=
  List.filter_eq_nil_iff.mpr fun item member => by simpa using elsewhere item member

private theorem filter_here {α : Type} {items : List α} {place : α → Nat} {number : Nat}
    (here : ∀ item ∈ items, place item = number) :
    items.filter (fun item => place item = number) = items :=
  List.filter_eq_self.mpr fun item member => decide_eq_true (here item member)

/-- What lines give at the number of one of them is what this line gives. -/
theorem lineGives_readLines (compiler : Compiler) (single : ∀ text ∈ texts, '\n' ∉ text)
    (number : Nat) {index : Nat} {line : List Char} (present : texts[index]? = some line)
    (filled : Text.isAllBlank line = false) :
    compiler.LineGives (number + index) line
      (((Rule.readLines number texts).flatMap compiler.rulesOf).filter
        fun rule => rule.line = number + index)
      (((Rule.readLines number texts).flatMap compiler.errorsOf).filter
        fun error => error.location.line = number + index) := by
  induction texts generalizing number index with
  | nil => cases present
  | cons text texts ih =>
      obtain ⟨singleHere, singleLater⟩ := List.forall_mem_cons.mp single
      have gives := compiler.lineGives singleHere number
      obtain ⟨rulesHere, errorsHere⟩ := gives.lines
      obtain ⟨rulesLater, errorsLater⟩ := compiler.line_le singleLater (number + 1)
      rw [flatMap_readLines_cons, flatMap_readLines_cons, List.filter_append, List.filter_append]
      cases index with
      | zero =>
          cases present
          rw [filled, if_neg Bool.false_ne_true, if_neg Bool.false_ne_true, Nat.add_zero,
            filter_here rulesHere, filter_here errorsHere,
            filter_elsewhere fun rule member => Nat.ne_of_gt (rulesLater rule member),
            filter_elsewhere fun error member => Nat.ne_of_gt (errorsLater error member),
            List.append_nil, List.append_nil]
          exact gives
      | succ index =>
          have later := ih singleLater (number + 1) present
          have sameNumber : number + 1 + index = number + (index + 1) := by omega
          have next : number ≠ number + (index + 1) := by omega
          rw [sameNumber] at later
          have noRules : (if Text.isAllBlank text then [] else
              compiler.rulesOf (Rule.ofLine text number)).filter
                (fun rule => rule.line = number + (index + 1)) = [] := by
            split
            · rfl
            · exact filter_elsewhere fun rule member => rulesHere rule member ▸ next
          have noErrors : (if Text.isAllBlank text then [] else
              compiler.errorsOf (Rule.ofLine text number)).filter
                (fun error => error.location.line = number + (index + 1)) = [] := by
            split
            · rfl
            · exact filter_elsewhere fun error member => errorsHere error member ▸ next
          rw [noRules, noErrors]
          exact later

end Lines

/-- Compiling a text gives what its lines give, in their order. -/
theorem compile_eq (compiler : Compiler) (text : String) :
    compiler.compile text =
      ⟨⟨compiler.schema, (Rule.ofText text).flatMap compiler.rulesOf⟩,
        (Rule.ofText text).flatMap compiler.errorsOf⟩ := by
  have ascends : ((Rule.ofText text).flatMap compiler.errorsOf).Pairwise RuleError.Before :=
    compiler.pairwise_readLines (fun _ member => Text.not_mem_of_mem_lines member) 1
  unfold compile
  dsimp only
  rw [successes_eq_flatMap, inOrder_eq_of_perm (perm_flatMap_errorsOf _) ascends]

end Compiler

end Passbook
