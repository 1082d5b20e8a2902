/-
Passes of rules over a store. A rule feeds another one when it assigns a column
that the other tests. Rules that are not fed by those of an earlier pass match a
rewritten row exactly where they match the row before it. So rules that do not
feed one another change nothing in a second pass, and rules that neither feed
others nor share a column with them may as well be applied together with them.
-/

import Mathlib.Data.List.Forall2
import Passbook.Proofs.Rule.Deciding

namespace Passbook

/-! ### What rules test and assign -/

/-- A match clause looks at the column of a name. -/
def Rule.Tests (rule : Rule) (column : String) : Prop :=
  ∃ condition ∈ rule.conditions, condition.column = column

def Rule.Assigns (rule : Rule) (column : String) : Prop :=
  ∃ assignment ∈ rule.assignments, assignment.column = column

instance (rule : Rule) (column : String) : Decidable (rule.Tests column) :=
  inferInstanceAs (Decidable (∃ condition ∈ rule.conditions, _))

instance (rule : Rule) (column : String) : Decidable (rule.Assigns column) :=
  inferInstanceAs (Decidable (∃ assignment ∈ rule.assignments, _))

/-- Some compiler for the schema accepts the rule and makes the other of it. -/
def Rule.CompilesTo (schema : Schema) (rule : Rule) (compiled : CompiledRule) : Prop :=
  ∃ compiler : Compiler, compiler.schema = schema ∧ compiler.compileRule rule = .ok compiled

def CompiledRule.Tests (rule : CompiledRule) (schema : Schema) (column : String) : Prop :=
  ∃ condition ∈ rule.conditions, schema.indexOf? column = some condition.index

def CompiledRule.Assigns (rule : CompiledRule) (column : String) : Prop :=
  ∃ value, (column, value) ∈ rule.assignments

namespace Rule.CompilesTo

variable {schema : Schema} {rule : Rule} {compiled : CompiledRule} {column : String}

theorem sound (compiles : rule.CompilesTo schema compiled) : compiled.Sound schema := by
  obtain ⟨compiler, rfl, accepted⟩ := compiles
  exact Compiler.sound_of_compileRule accepted

theorem tests (compiles : rule.CompilesTo schema compiled)
    (tested : compiled.Tests schema column) : rule.Tests column := by
  obtain ⟨compiler, rfl, accepted⟩ := compiles
  obtain ⟨_, rfl⟩ := Compiler.compileRule_eq_ok_iff.mp accepted
  obtain ⟨resolved, member, position⟩ := tested
  obtain ⟨condition, written, same⟩ := List.mem_map.mp (Compiler.mem_successes.mp member)
  obtain ⟨_, own, _⟩ := Compiler.hasColumn_of_compileCondition same
  exact ⟨condition, written, Schema.column_unique own.1 position⟩

theorem assigns (compiles : rule.CompilesTo schema compiled)
    (assigned : compiled.Assigns column) : rule.Assigns column := by
  obtain ⟨compiler, rfl, accepted⟩ := compiles
  obtain ⟨_, rfl⟩ := Compiler.compileRule_eq_ok_iff.mp accepted
  obtain ⟨value, member⟩ := assigned
  obtain ⟨assignment, written, same⟩ := List.mem_map.mp member
  exact ⟨assignment, written, congrArg Prod.fst same⟩

theorem of_map_compileRule {compiler : Compiler} {sources : List Rule} {rules : List CompiledRule}
    (accepted : sources.map compiler.compileRule = rules.map .ok) :
    ∀ rule ∈ rules, ∃ source ∈ sources, source.CompilesTo compiler.schema rule := by
  intro rule member
  have made : .ok rule ∈ sources.map compiler.compileRule := by
    rw [accepted]
    exact List.mem_map_of_mem member
  obtain ⟨source, present, own⟩ := List.mem_map.mp made
  exact ⟨source, present, compiler, rfl, own⟩

end Rule.CompilesTo

/-! ### Rows that are rewritten twice -/

/-- Overwriting in two steps is overwriting with what the second step assigns and,
elsewhere, with what the first one does. -/
theorem Row.overwrite_overwrite {first second whole : OrderedMap Nat Entry}
    (ascendFirst : first.Ascending) (ascendSecond : second.Ascending)
    (ascendWhole : whole.Ascending)
    (union : ∀ index, whole.find? index = (second.find? index).or (first.find? index))
    (row : Row) : (row.overwrite first).overwrite second = row.overwrite whole := by
  rw [Row.mk.injEq]
  apply List.ext_getElem?
  intro index
  have inSteps : ((row.overwrite first).overwrite second).get? index =
      ((row.get? index).map fun entry => (first.find? index).getD entry).map
        fun entry => (second.find? index).getD entry := by
    rw [get?_overwrite_eq ascendSecond, get?_overwrite_eq ascendFirst]
  have atOnce : (row.overwrite whole).get? index = _ := get?_overwrite_eq ascendWhole index
  refine inSteps.trans (Eq.trans ?_ atOnce.symm)
  rw [Option.map_map, union]
  refine congrArg (Option.map · (row.get? index)) (funext fun entry => ?_)
  cases second.find? index <;> rfl

namespace CompiledRules

variable {rules writers readers : CompiledRules}

/-- A rule looks at the tested columns alone. -/
theorem matchesRow_congr {rule : CompiledRule} {row other : Row}
    (same : ∀ condition ∈ rule.conditions,
      other.get? condition.index = row.get? condition.index) :
    rule.matchesRow other = rule.matchesRow row := by
  unfold CompiledRule.matchesRow
  rw [Bool.eq_iff_iff, List.all_eq_true, List.all_eq_true]
  refine forall₂_congr fun condition member => ?_
  rw [CompiledCondition.holds, CompiledCondition.holds, same condition member]

/-- No rule of the first list assigns a column that a rule of the second one tests. -/
def Unfed (writers readers : CompiledRules) : Prop :=
  ∀ writer ∈ writers.rules, ∀ reader ∈ readers.rules, ∀ column,
    writer.Assigns column → ¬ reader.Tests writers.schema column

/-- Rules that are not fed match the rewritten row as they match the row before it. -/
theorem matching_rewritten (unfed : Unfed writers readers) (row : Row) :
    readers.matching (writers.rewritten row) = readers.matching row := by
  have assigns : ∀ writer ∈ writers.rules, writer.AssignsOnly
      (writers.rules.flatMap fun writer => writer.assignments.map Prod.fst) writers.schema := by
    intro writer among column value index assigned _
    exact List.mem_flatMap.mpr ⟨writer, among, List.mem_map_of_mem assigned⟩
  refine List.filter_congr fun reader present => matchesRow_congr fun condition member => ?_
  refine get?_rewritten assigns ?_ row
  intro column assigned position
  obtain ⟨writer, among, within⟩ := List.mem_flatMap.mp assigned
  obtain ⟨⟨_, value⟩, pair, rfl⟩ := List.mem_map.mp within
  exact unfed writer among reader present _ ⟨value, pair⟩ ⟨condition, member, position⟩

theorem evaluate_congr {row other : Row} (same : rules.matching other = rules.matching row) :
    rules.evaluate other = rules.evaluate row := by
  unfold evaluate proposals
  rw [same]

theorem evaluate_rewritten (unfed : Unfed rules rules) (row : Row) :
    rules.evaluate (rules.rewritten row) = rules.evaluate row :=
  evaluate_congr (matching_rewritten unfed row)

theorem rewritten_rewritten (unfed : Unfed rules rules) (row : Row) :
    rules.rewritten (rules.rewritten row) = rules.rewritten row := by
  have evaluated := evaluate_rewritten unfed row
  have ascending := (rules.decided row).ascending
  unfold rewritten at evaluated ⊢
  rw [evaluated]
  exact Row.overwrite_overwrite ascending ascending ascending (fun _ => Option.or_self.symm) row

theorem diagnostics_rewritten (unfed : Unfed rules rules) (rows : List Row) :
    rules.diagnostics 0 (rows.map rules.rewritten) = rules.diagnostics 0 rows := by
  unfold diagnostics
  rw [List.zipIdx_map, List.flatMap_map]
  refine List.flatMap_congr fun placed _ => ?_
  exact congrArg (Diagnostic.ofEvaluation placed.2) (evaluate_rewritten unfed placed.1)

end CompiledRules

/-! ### Two lists of rules -/

/-- The conflicts and the ignored names of one decision are those of two others,
which share none. -/
structure Evaluation.Unites (whole first second : Evaluation) : Prop where
  conflicts : ∀ column values, (column, values) ∈ whole.conflicts.pairs ↔
    (column, values) ∈ first.conflicts.pairs ∨ (column, values) ∈ second.conflicts.pairs
  conflictsDisjoint : first.conflicts.keys.Disjoint second.conflicts.keys
  ignored : ∀ column, column ∈ whole.ignored ↔ column ∈ first.ignored ∨ column ∈ second.ignored
  ignoredDisjoint : first.ignored.Disjoint second.ignored

namespace CompiledRules

variable {first second : CompiledRules}

/-- Two lists of rules in one pass, by the schema of the first. -/
def together (first second : CompiledRules) : CompiledRules :=
  ⟨first.schema, first.rules ++ second.rules⟩

/-- No column is assigned by rules of both lists. -/
def ApartIn (first second : CompiledRules) : Prop :=
  ∀ one ∈ first.rules, ∀ other ∈ second.rules, ∀ column,
    one.Assigns column → ¬ other.Assigns column

private theorem valuesOf_eq_nil {rules : CompiledRules} {column : String}
    (unassigned : ∀ rule ∈ rules.rules, ¬ rule.Assigns column) (row : Row) :
    Proposal.valuesOf column (rules.assigned row) = [] := by
  rw [List.eq_nil_iff_forall_not_mem]
  intro value given
  obtain ⟨rule, matching, within⟩ := List.mem_flatMap.mp (Proposal.mem_valuesOf_iff.mp given)
  exact unassigned rule (List.mem_filter.mp matching).1 ⟨value, within⟩

/-- Each column is given what one of the lists gives it, and the other gives it nothing. -/
theorem given_together (apart : ApartIn first second) {row between : Row}
    (unfed : second.matching between = second.matching row) (column : String) :
    ((first.together second).given row column = first.given row column ∧
        second.given between column = []) ∨
      ((first.together second).given row column = second.given between column ∧
        first.given row column = []) := by
  have matching : (first.together second).matching row =
      first.matching row ++ second.matching between := by
    rw [unfed]
    exact List.filter_append _ _
  have assigned : (first.together second).assigned row =
      first.assigned row ++ second.assigned between := by
    rw [assigned, matching, List.flatMap_append]
    rfl
  have values : Proposal.valuesOf column ((first.together second).assigned row) =
      Proposal.valuesOf column (first.assigned row) ++
        Proposal.valuesOf column (second.assigned between) := by
    rw [assigned, Proposal.valuesOf_append]
  by_cases byFirst : ∃ rule ∈ first.rules, rule.Assigns column
  · obtain ⟨rule, present, assigns⟩ := byFirst
    have nothing := valuesOf_eq_nil (fun other among => apart rule present other among column assigns)
      between
    rw [nothing, List.append_nil] at values
    exact Or.inl ⟨congrArg Proposal.distinct values, congrArg Proposal.distinct nothing⟩
  · have nothing := valuesOf_eq_nil
      (fun rule present assigns => byFirst ⟨rule, present, assigns⟩) row
    rw [nothing, List.nil_append] at values
    exact Or.inr ⟨congrArg Proposal.distinct values, congrArg Proposal.distinct nothing⟩

section Together

variable (apart : ApartIn first second) {row between : Row}
  (unfed : second.matching between = second.matching row)

include apart unfed

/-- What holds of the values of a column, but not of none, holds by one of the lists. -/
theorem given_together_iff (holds : List Entry → Prop) (notNone : ¬ holds []) (column : String) :
    holds ((first.together second).given row column) ↔
      holds (first.given row column) ∨ holds (second.given between column) := by
  rcases given_together apart unfed column with ⟨same, nothing⟩ | ⟨same, nothing⟩
  · rw [same, nothing, or_iff_left notNone]
  · rw [same, nothing, or_iff_right notNone]

theorem not_given_both {column : String} (byFirst : first.given row column ≠ []) :
    second.given between column = [] := by
  rcases given_together apart unfed column with ⟨_, nothing⟩ | ⟨_, nothing⟩
  · exact nothing
  · exact absurd nothing byFirst

/-- Of two positions that both lists assign none is the same. -/
theorem find?_assignments_together (sameSchema : second.schema = first.schema) (index : Nat) :
    ((first.together second).evaluate row).assignments.find? index =
      ((second.evaluate between).assignments.find? index).or
        ((first.evaluate row).assignments.find? index) := by
  have single (value : Entry) (column : String) :=
    given_together_iff apart unfed (· = [value]) (List.cons_ne_nil value []).symm column
  have one := (first.decided row).assigned index
  have two := (second.decided between).assigned index
  rw [sameSchema] at two
  apply Option.ext
  intro value
  rw [((first.together second).decided row).assigned, Option.or_eq_some_iff, one, two]
  constructor
  · rintro ⟨column, position, given⟩
    rcases (single value column).mp given with byFirst | bySecond
    · refine Or.inr ⟨?_, column, position, byFirst⟩
      rw [Option.eq_none_iff_forall_ne_some]
      intro other found
      obtain ⟨same, there, bySecond⟩ := (two other).mp found
      rw [Schema.column_unique there position] at bySecond
      have nothing := not_given_both apart unfed (byFirst ▸ List.cons_ne_nil value [])
      rw [nothing] at bySecond
      cases bySecond
    · exact Or.inl ⟨column, position, bySecond⟩
  · rintro (⟨column, position, bySecond⟩ | ⟨_, column, position, byFirst⟩)
    · exact ⟨column, position, (single value column).mpr (Or.inr bySecond)⟩
    · exact ⟨column, position, (single value column).mpr (Or.inl byFirst)⟩

theorem unites_together (sameSchema : second.schema = first.schema) :
    ((first.together second).evaluate row).Unites (first.evaluate row) (second.evaluate between) := by
  have whole := (first.together second).decided row
  have one := first.decided row
  have two := second.decided between
  constructor
  · intro column values
    rw [← OrderedMap.find?_eq_some_iff whole.ascendingConflicts,
      ← OrderedMap.find?_eq_some_iff one.ascendingConflicts,
      ← OrderedMap.find?_eq_some_iff two.ascendingConflicts,
      whole.conflicting, one.conflicting, two.conflicting]
    refine given_together_iff apart unfed (fun given => given = values ∧ 2 ≤ values.length) ?_ column
    rintro ⟨rfl, several⟩
    cases several
  · intro column inFirst inSecond
    simp only [OrderedMap.keys, List.mem_map, Prod.exists, exists_and_right, exists_eq_right]
      at inFirst inSecond
    obtain ⟨values, ofFirst⟩ := inFirst
    obtain ⟨others, ofSecond⟩ := inSecond
    rw [← OrderedMap.find?_eq_some_iff one.ascendingConflicts, one.conflicting] at ofFirst
    rw [← OrderedMap.find?_eq_some_iff two.ascendingConflicts, two.conflicting] at ofSecond
    obtain ⟨rfl, several⟩ := ofFirst
    obtain ⟨rfl, severalToo⟩ := ofSecond
    have nothing := not_given_both apart unfed
      (List.ne_nil_of_length_pos (Nat.lt_of_lt_of_le Nat.zero_lt_two several))
    rw [nothing] at severalToo
    cases severalToo
  · intro column
    rw [whole.ignored, one.ignored, two.ignored, sameSchema, ← and_or_left]
    exact and_congr_right fun _ => given_together_iff apart unfed (fun given => given.length = 1)
      Nat.zero_ne_one column
  · intro column inFirst inSecond
    rw [one.ignored] at inFirst
    rw [two.ignored] at inSecond
    have nothing := not_given_both apart unfed (List.ne_nil_of_length_eq_add_one inFirst.2)
    rw [nothing] at inSecond
    cases inSecond.2

end Together

theorem rewritten_together (apart : ApartIn first second) (unfed : Unfed first second)
    (sameSchema : second.schema = first.schema) (row : Row) :
    (first.together second).rewritten row = second.rewritten (first.rewritten row) := by
  refine (Row.overwrite_overwrite (first.decided row).ascending
    (second.decided (first.rewritten row)).ascending
    ((first.together second).decided row).ascending ?_ row).symm
  exact find?_assignments_together apart (matching_rewritten unfed row) sameSchema

end CompiledRules

/-! ### Passes over a store -/

section Passes

variable {schema : Schema} {sources : List Rule} {rules : List CompiledRule}

private theorem apply_of_compilesTo
    (compiled : ∀ rule ∈ rules, ∃ source ∈ sources, source.CompilesTo schema rule) {store : Store}
    (ofSchema : store.schema = schema) (conform : ∀ row ∈ store.rows, row.Conforms schema) :
    CompiledRules.apply ⟨schema, rules⟩ store =
        .ok ⟨⟨schema, store.rows.map (CompiledRules.rewritten ⟨schema, rules⟩)⟩,
          CompiledRules.diagnostics ⟨schema, rules⟩ 0 store.rows⟩ ∧
      ∀ row ∈ store.rows.map (CompiledRules.rewritten ⟨schema, rules⟩), row.Conforms schema := by
  have sound : ∀ rule ∈ rules, rule.Sound schema := by
    intro rule member
    obtain ⟨_, _, compiles⟩ := compiled rule member
    exact compiles.sound
  refine ⟨CompiledRules.apply_of_sound sound ofSchema (ofSchema ▸ conform), ?_⟩
  exact List.forall_mem_map.mpr fun row member =>
    CompiledRules.conforms_rewritten sound (conform row member)

/-- Rules that test no column of the schema that any of them assigns change
nothing more when they are applied again, and report the same again. -/
theorem CompiledRules.apply_apply
    (compiled : ∀ rule ∈ rules, ∃ source ∈ sources, source.CompilesTo schema rule)
    (unfed : ∀ writer ∈ sources, ∀ reader ∈ sources, ∀ column ∈ schema.names,
      writer.Assigns column → ¬ reader.Tests column)
    {store : Store} (ofSchema : store.schema = schema)
    (conform : ∀ row ∈ store.rows, row.Conforms schema) :
    ∃ once again : Application,
      CompiledRules.apply ⟨schema, rules⟩ store = .ok once ∧
      CompiledRules.apply ⟨schema, rules⟩ once.store = .ok again ∧
      again.store = once.store ∧ again.diagnostics = once.diagnostics := by
  have apart : CompiledRules.Unfed ⟨schema, rules⟩ ⟨schema, rules⟩ := by
    intro writer among reader present column assigns tests
    obtain ⟨one, written, byWriter⟩ := compiled writer among
    obtain ⟨other, read, byReader⟩ := compiled reader present
    have ⟨_, _, position⟩ := tests
    exact unfed one written other read column (Schema.mem_names_iff.mpr ⟨_, position⟩)
      (byWriter.assigns assigns) (byReader.tests tests)
  obtain ⟨first, conformOnce⟩ := apply_of_compilesTo compiled ofSchema conform
  refine ⟨_, _, first, (apply_of_compilesTo compiled rfl conformOnce).1, ?_, ?_⟩
  · rw [Store.mk.injEq]
    refine ⟨rfl, ?_⟩
    dsimp only
    rw [List.map_map]
    exact List.map_congr_left fun row _ => CompiledRules.rewritten_rewritten apart row
  · exact CompiledRules.diagnostics_rewritten apart store.rows

def Rule.payees : List Rule :=
  let dollar : Dollars := .ofMagnitude ((Decimal.make? 1 0).getD .zero)
  [⟨1, [⟨Schema.description, .contains, .text "rent", ⟨1, 1⟩⟩],
      [⟨Schema.destination, .text "landlord", ⟨1, 24⟩⟩, ⟨Schema.bank, .text "Birch", ⟨1, 41⟩⟩,
        ⟨"tag", .text "home", ⟨1, 57⟩⟩]⟩,
    ⟨2, [⟨Schema.amount, .atLeast, .dollars dollar, ⟨2, 1⟩⟩],
      [⟨Schema.destination, .text "agency", ⟨2, 18⟩⟩, ⟨Schema.bank, .text "Birch", ⟨2, 33⟩⟩]⟩]

theorem CompiledRules.apply_apply_payees :
    ∃ rules : List CompiledRule,
      Rule.payees.map (Compiler.compileRule ⟨.base, none⟩) = rules.map .ok ∧
      ∃ once again : Application,
        CompiledRules.apply ⟨.base, rules⟩ Store.rent = .ok once ∧
        CompiledRules.apply ⟨.base, rules⟩ once.store = .ok again ∧
        again.store = once.store ∧ again.diagnostics = once.diagnostics := by
  have accepted : Rule.payees.map (Compiler.compileRule ⟨.base, none⟩) =
      (Compiler.successes (Rule.payees.map (Compiler.compileRule ⟨.base, none⟩))).map .ok := rfl
  exact ⟨_, accepted, CompiledRules.apply_apply (Rule.CompilesTo.of_map_compileRule accepted)
    (by decide) rfl (by decide)⟩

/-- Where no column that the first rules assign is tested or assigned by the
second ones, one pass of all gives what a pass of the first and then one of the
second give, and each row has its conflicts and ignored names from both passes. -/
theorem CompiledRules.apply_append {later : List Rule} {others : List CompiledRule}
    (compiled : ∀ rule ∈ rules, ∃ source ∈ sources, source.CompilesTo schema rule)
    (compiledLater : ∀ rule ∈ others, ∃ source ∈ later, source.CompilesTo schema rule)
    (apart : ∀ writer ∈ sources, ∀ reader ∈ later, ∀ column,
      writer.Assigns column → ¬ reader.Tests column ∧ ¬ reader.Assigns column)
    {store : Store} (ofSchema : store.schema = schema)
    (conform : ∀ row ∈ store.rows, row.Conforms schema) :
    ∃ one two both : Application,
      CompiledRules.apply ⟨schema, rules⟩ store = .ok one ∧
      CompiledRules.apply ⟨schema, others⟩ one.store = .ok two ∧
      CompiledRules.apply ⟨schema, rules ++ others⟩ store = .ok both ∧
      both.store = two.store ∧
      List.Forall₂ (fun row between =>
        (CompiledRules.evaluate ⟨schema, rules ++ others⟩ row).Unites
          (CompiledRules.evaluate ⟨schema, rules⟩ row)
          (CompiledRules.evaluate ⟨schema, others⟩ between)) store.rows one.store.rows := by
  have unfed : CompiledRules.Unfed ⟨schema, rules⟩ ⟨schema, others⟩ := by
    intro writer among reader present column assigns tests
    obtain ⟨one, written, byWriter⟩ := compiled writer among
    obtain ⟨other, read, byReader⟩ := compiledLater reader present
    exact (apart one written other read column (byWriter.assigns assigns)).1 (byReader.tests tests)
  have apartIn : CompiledRules.ApartIn ⟨schema, rules⟩ ⟨schema, others⟩ := by
    intro writer among reader present column assigns assignsToo
    obtain ⟨one, written, byWriter⟩ := compiled writer among
    obtain ⟨other, read, byReader⟩ := compiledLater reader present
    exact (apart one written other read column (byWriter.assigns assigns)).2
      (byReader.assigns assignsToo)
  have compiledBoth : ∀ rule ∈ rules ++ others, ∃ source ∈ sources ++ later,
      source.CompilesTo schema rule := by
    intro rule member
    rcases List.mem_append.mp member with first | second
    · obtain ⟨source, present, compiles⟩ := compiled rule first
      exact ⟨source, List.mem_append_left _ present, compiles⟩
    · obtain ⟨source, present, compiles⟩ := compiledLater rule second
      exact ⟨source, List.mem_append_right _ present, compiles⟩
  obtain ⟨first, conformBetween⟩ := apply_of_compilesTo compiled ofSchema conform
  refine ⟨_, _, _, first, (apply_of_compilesTo compiledLater rfl conformBetween).1,
    (apply_of_compilesTo compiledBoth ofSchema conform).1, ?_, ?_⟩
  · rw [Store.mk.injEq]
    refine ⟨rfl, ?_⟩
    dsimp only
    rw [List.map_map]
    exact List.map_congr_left fun row _ => CompiledRules.rewritten_together apartIn unfed rfl row
  · refine List.forall₂_map_right_iff.mpr (List.forall₂_same.mpr fun row _ => ?_)
    exact CompiledRules.unites_together apartIn (CompiledRules.matching_rewritten unfed row) rfl

def Rule.settling : List Rule :=
  let five : Dollars := .ofMagnitude ((Decimal.make? 5 0).getD .zero)
  [⟨1, [⟨Schema.origin, .equal, .text "checking", ⟨1, 1⟩⟩],
    [⟨Schema.description, .text "paid", ⟨1, 21⟩⟩, ⟨Schema.description, .text "owed", ⟨1, 41⟩⟩,
      ⟨Schema.amount, .dollars five, ⟨1, 61⟩⟩, ⟨"note", .text "settled", ⟨1, 75⟩⟩]⟩]

theorem CompiledRules.apply_append_settling :
    ∃ rules others : List CompiledRule,
      Rule.payees.map (Compiler.compileRule ⟨.base, none⟩) = rules.map .ok ∧
      Rule.settling.map (Compiler.compileRule ⟨.base, none⟩) = others.map .ok ∧
      ∃ one two both : Application,
        CompiledRules.apply ⟨.base, rules⟩ Store.rent = .ok one ∧
        CompiledRules.apply ⟨.base, others⟩ one.store = .ok two ∧
        CompiledRules.apply ⟨.base, rules ++ others⟩ Store.rent = .ok both ∧
        both.store = two.store ∧
        List.Forall₂ (fun row between =>
          (CompiledRules.evaluate ⟨.base, rules ++ others⟩ row).Unites
            (CompiledRules.evaluate ⟨.base, rules⟩ row)
            (CompiledRules.evaluate ⟨.base, others⟩ between)) Store.rent.rows one.store.rows := by
  have accepted : Rule.payees.map (Compiler.compileRule ⟨.base, none⟩) =
      (Compiler.successes (Rule.payees.map (Compiler.compileRule ⟨.base, none⟩))).map .ok := rfl
  have acceptedToo : Rule.settling.map (Compiler.compileRule ⟨.base, none⟩) =
      (Compiler.successes (Rule.settling.map (Compiler.compileRule ⟨.base, none⟩))).map .ok := rfl
  have separate : ∀ writer ∈ Rule.payees, ∀ reader ∈ Rule.settling,
      ∀ assignment ∈ writer.assignments,
        ¬ reader.Tests assignment.column ∧ ¬ reader.Assigns assignment.column := by decide
  refine ⟨_, _, accepted, acceptedToo, CompiledRules.apply_append
    (Rule.CompilesTo.of_map_compileRule accepted) (Rule.CompilesTo.of_map_compileRule acceptedToo)
    ?_ rfl (by decide)⟩
  rintro writer among reader present _ ⟨assignment, written, rfl⟩
  exact separate writer among reader present assignment written

end Passes

end Passbook
