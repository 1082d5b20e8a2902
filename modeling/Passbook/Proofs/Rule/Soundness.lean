/-
Soundness of the rule checker. A rule that passes the check only looks at
columns of the schema, compares entries with literals of their kind, searches
texts alone, and assigns values of the kinds of their columns. So the evaluator
never meets an entry that it cannot test, and applying rules always succeeds
and keeps a store well formed.
-/

import Mathlib.Data.List.Forall2
import Passbook.Proofs.Entry
import Passbook.Proofs.Rule.Evaluation

namespace Passbook

/-- A test fits a column: entries of the column's kind can be tested. -/
def Test.Fits (test : Test) (column : Column) : Prop :=
  match test with
  | .compare comparison literal => comparison ≠ .contains ∧ literal.kind = column.kind
  | .search _ => column.kind = .text

def CompiledCondition.Sound (condition : CompiledCondition) (schema : Schema) : Prop :=
  ∃ column, schema.columns[condition.index]? = some column ∧ condition.test.Fits column

/-- All match clauses fit, and values assigned to a column are of its kind. A
name that is no column may be given any value. -/
structure CompiledRule.Sound (rule : CompiledRule) (schema : Schema) : Prop where
  conditions : ∀ condition ∈ rule.conditions, condition.Sound schema
  assignments : ∀ column value kind, (column, value) ∈ rule.assignments →
    schema.kindOf? column = some kind → value.kind = kind

/-- Testing an entry gives an answer: a comparison of one kind by an operator
that goes by order, or a search of a text. -/
def Test.Answers (test : Test) (entry : Entry) : Prop :=
  match test with
  | .compare comparison literal =>
      comparison ≠ .contains ∧ ∃ ordering, entry.tryCompare literal = .ok ordering
  | .search pattern => entry.kind = .text ∧ ∃ found, entry.search pattern = .ok found

/-- The match clause looks at an entry of the row, and testing it gives an answer. -/
def CompiledCondition.Answers (condition : CompiledCondition) (row : Row) : Prop :=
  ∃ entry, row.get? condition.index = some entry ∧ condition.test.Answers entry

namespace Entry

theorem search_of_text {entry : Entry} (text : entry.kind = .text) (pattern : Pattern) :
    ∃ found, entry.search pattern = .ok found := by
  cases entry with
  | date value => cases text
  | text value => exact ⟨_, rfl⟩
  | dollars value => cases text

end Entry

namespace Compiler

variable {compiler : Compiler}

theorem mem_successes {ε α : Type} {results : List (Except ε α)} {value : α} :
    value ∈ successes results ↔ .ok value ∈ results := by
  unfold successes
  rw [List.mem_filterMap]
  constructor
  · rintro ⟨result, member, found⟩
    cases result with
    | error error => cases found
    | ok other =>
        cases found
        exact member
  · intro member
    exact ⟨_, member, rfl⟩

private theorem resolve?_eq_some {name : String} {index : Nat} {kind : Kind}
    (resolved : compiler.resolve? name = some (index, kind)) :
    compiler.schema.HasColumn index name kind := by
  unfold resolve? at resolved
  split at resolved
  · rename_i position found atName ofName
    cases resolved
    obtain ⟨own, column, same⟩ := Schema.exists_hasColumn atName
    rw [ofName, Option.some.injEq] at same
    rw [same]
    exact column
  · cases resolved

/-- The test of an operator and a literal fits a column of the literal's kind,
unless a search was asked of other entries than texts. -/
private theorem fits_of_test {comparison : Comparison} {literal : Entry} {checked : Test}
    (tested : test comparison literal = .ok checked) {column : Column}
    (searchable : comparison = .contains → column.kind = .text)
    (ofKind : literal.kind = column.kind) : checked.Fits column := by
  unfold test at tested
  split at tested
  · split at tested
    · cases tested
      exact searchable rfl
    · cases tested
  · rename_i notText
    cases tested
    refine ⟨?_, ofKind⟩
    intro contains
    rw [searchable contains] at ofKind
    cases literal with
    | date value => cases ofKind
    | text pattern => exact notText pattern contains rfl
    | dollars value => cases ofKind

theorem hasColumn_of_compileCondition {condition : Condition} {compiled : CompiledCondition}
    (accepted : compiler.compileCondition condition = .ok compiled) :
    ∃ kind, compiler.schema.HasColumn compiled.index condition.column kind ∧
      compiled.test.Fits ⟨condition.column, kind⟩ := by
  unfold compileCondition at accepted
  dsimp only at accepted
  split at accepted
  · cases accepted
  · rename_i index kind resolved
    have column := resolve?_eq_some resolved
    split at accepted
    · cases accepted
    · rename_i searchable
      split at accepted
      · cases accepted
      · rename_i sameKind
        split at accepted
        · cases accepted
        · rename_i checked tested
          cases accepted
          refine ⟨kind, column, fits_of_test tested ?_ (Decidable.not_not.mp sameKind)⟩
          intro contains
          exact Decidable.byContradiction fun otherKind => searchable ⟨contains, otherKind⟩

theorem sound_of_compileCondition {condition : Condition} {compiled : CompiledCondition}
    (accepted : compiler.compileCondition condition = .ok compiled) :
    compiled.Sound compiler.schema := by
  obtain ⟨kind, column, fits⟩ := hasColumn_of_compileCondition accepted
  exact ⟨_, column.2, fits⟩

theorem compileRule_eq_ok_iff {rule : Rule} {compiled : CompiledRule} :
    compiler.compileRule rule = .ok compiled ↔
      compiler.check rule = [] ∧
        compiled = ⟨rule.line, successes (rule.conditions.map compiler.compileCondition),
          rule.assignments.map fun assignment => (assignment.column, assignment.value)⟩ := by
  unfold compileRule
  by_cases clean : compiler.check rule = []
  · simp [clean, eq_comm]
  · simp [clean]

theorem sound_of_compileRule {rule : Rule} {compiled : CompiledRule}
    (accepted : compiler.compileRule rule = .ok compiled) : compiled.Sound compiler.schema := by
  obtain ⟨clean, rfl⟩ := compileRule_eq_ok_iff.mp accepted
  unfold check at clean
  obtain ⟨_, noErrors⟩ := List.append_eq_nil_iff.mp clean
  constructor
  · intro condition member
    obtain ⟨source, _, resolved⟩ := List.mem_map.mp (mem_successes.mp member)
    exact sound_of_compileCondition resolved
  · intro column value kind member ofColumn
    obtain ⟨assignment, present, same⟩ := List.mem_map.mp member
    cases same
    have correct := List.filterMap_eq_nil_iff.mp noErrors assignment present
    unfold assignmentError? at correct
    rw [ofColumn] at correct
    dsimp only at correct
    split at correct
    · split at correct
      · cases correct
      · rename_i sameKind
        exact Decidable.not_not.mp sameKind
    · cases correct

theorem exists_of_compile {text : String} {compiled : CompiledRule}
    (member : compiled ∈ (compiler.compile text).rules.rules) :
    ∃ rule, compiler.compileRule rule = .ok compiled := by
  obtain ⟨rule, _, accepted⟩ := List.mem_map.mp (mem_successes.mp member)
  exact ⟨rule, accepted⟩

theorem sound_of_compile {text : String} :
    ∀ rule ∈ (compiler.compile text).rules.rules, rule.Sound compiler.schema := by
  intro rule member
  obtain ⟨_, accepted⟩ := exists_of_compile member
  exact sound_of_compileRule accepted

end Compiler

theorem Test.Fits.answers {test : Test} {column : Column} (fits : test.Fits column)
    {entry : Entry} (ofKind : entry.kind = column.kind) : test.Answers entry := by
  cases test with
  | compare comparison literal =>
      obtain ⟨ordered, sameKind⟩ := fits
      exact ⟨ordered, Entry.exists_tryCompare_iff.mpr (ofKind.trans sameKind.symm)⟩
  | search pattern =>
      have text : entry.kind = .text := ofKind.trans fits
      exact ⟨text, Entry.search_of_text text pattern⟩

theorem CompiledCondition.Sound.answers {condition : CompiledCondition} {schema : Schema}
    (sound : condition.Sound schema) {row : Row} (conforms : row.Conforms schema) :
    condition.Answers row := by
  obtain ⟨column, present, fits⟩ := sound
  have kinds := conforms.getElem? condition.index
  rw [present, Option.map_some] at kinds
  obtain ⟨entry, found, ofKind⟩ := Option.map_eq_some_iff.mp kinds
  exact ⟨entry, found, fits.answers ofKind⟩

theorem Row.Conforms.overwrite {row : Row} {schema : Schema} (conforms : row.Conforms schema)
    {assignments : OrderedMap Nat Entry}
    (fits : ∀ index value, (index, value) ∈ assignments.pairs →
      ∀ column, schema.columns[index]? = some column → value.kind = column.kind) :
    (row.overwrite assignments).Conforms schema := by
  obtain ⟨pairs⟩ := assignments
  unfold Row.overwrite
  induction pairs generalizing row with
  | nil => exact conforms
  | cons pair pairs ih =>
      obtain ⟨index, value⟩ := pair
      refine ih (conforms.set (fits index value List.mem_cons_self)) ?_
      intro other entry member
      exact fits other entry (List.mem_cons_of_mem _ member)

namespace CompiledRules

variable {rules : CompiledRules}

theorem conforms_rewritten (sound : ∀ rule ∈ rules.rules, rule.Sound rules.schema) {row : Row}
    (conforms : row.Conforms rules.schema) : (rules.rewritten row).Conforms rules.schema := by
  apply conforms.overwrite
  intro index value assigned column present
  obtain ⟨rule, member, _, name, position, within⟩ := mem_assignments assigned
  obtain ⟨kind, hasColumn, ofName⟩ := Schema.exists_hasColumn position
  rw [hasColumn.2, Option.some.injEq] at present
  rw [← present]
  exact (sound rule member).assignments name value kind within ofName

theorem apply_of_sound (sound : ∀ rule ∈ rules.rules, rule.Sound rules.schema) {store : Store}
    (ofSchema : store.schema = rules.schema)
    (conform : ∀ row ∈ store.rows, row.Conforms store.schema) :
    rules.apply store = .ok ⟨⟨rules.schema, store.rows.map rules.rewritten⟩,
      rules.diagnostics 0 store.rows⟩ := by
  refine apply_eq_ok_iff.mpr ⟨ofSchema, ?_, rfl⟩
  intro row member
  have conforms := conform row member
  rw [ofSchema] at conforms
  exact conforms_rewritten sound conforms

end CompiledRules

/-- Rules that the checker accepts never ask the evaluator for what it cannot
answer, and applying them succeeds, keeps the schema and the number of rows, and
leaves only rows of the right kinds. -/
theorem CompiledRules.apply_of_compileRule {compiler : Compiler} {rules : List Rule}
    {compiled : List CompiledRule} {store : Store}
    (accepted : rules.map compiler.compileRule = compiled.map .ok)
    (ofSchema : store.schema = compiler.schema)
    (conform : ∀ row ∈ store.rows, row.Conforms store.schema) :
    (∀ row ∈ store.rows, ∀ rule ∈ compiled, ∀ condition ∈ rule.conditions,
      condition.Answers row) ∧
    ∃ application, CompiledRules.apply ⟨compiler.schema, compiled⟩ store = .ok application ∧
      application.store.schema = compiler.schema ∧
      application.store.rows.length = store.rows.length ∧
      ∀ row ∈ application.store.rows, row.Conforms compiler.schema := by
  have sound : ∀ rule ∈ compiled, rule.Sound compiler.schema := by
    intro rule member
    have present : .ok rule ∈ rules.map compiler.compileRule := by
      rw [accepted]
      exact List.mem_map_of_mem member
    obtain ⟨source, _, own⟩ := List.mem_map.mp present
    exact Compiler.sound_of_compileRule own
  rw [ofSchema] at conform
  constructor
  · intro row inStore rule member condition within
    exact ((sound rule member).conditions condition within).answers (conform row inStore)
  · have applied : CompiledRules.apply ⟨compiler.schema, compiled⟩ store = .ok _ :=
      CompiledRules.apply_of_sound sound ofSchema (by rw [ofSchema]; exact conform)
    refine ⟨_, applied, rfl, List.length_map _, ?_⟩
    intro row member
    obtain ⟨source, inStore, rfl⟩ := List.mem_map.mp member
    have kept : (CompiledRules.rewritten ⟨compiler.schema, compiled⟩ source).Conforms
        compiler.schema := CompiledRules.conforms_rewritten sound (conform source inStore)
    exact kept

def Rule.samples : List Rule :=
  let dollar : Dollars := .ofMagnitude ((Decimal.make? 1 0).getD .zero)
  [⟨1, [⟨Schema.description, .contains, .text "rent", ⟨1, 7⟩⟩,
      ⟨Schema.amount, .atLeast, .dollars dollar, ⟨1, 30⟩⟩],
    [⟨Schema.destination, .text "landlord", ⟨1, 1⟩⟩, ⟨"tag", .text "home", ⟨1, 2⟩⟩]⟩]

def Store.rent : Store :=
  let cents : Dollars := .ofMagnitude ((Decimal.make? 5025 2).getD .zero)
  ⟨.base, [⟨[.text "Acme", .text "checking", .text "unknown", .date ⟨2024, 1, 5⟩,
    .text "rent for may", .dollars cents]⟩]⟩

theorem CompiledRules.apply_of_compileRule_samples :
    ∃ compiled : List CompiledRule,
      Rule.samples.map (Compiler.compileRule ⟨.base, none⟩) = compiled.map .ok ∧
      (∀ row ∈ Store.rent.rows, ∀ rule ∈ compiled, ∀ condition ∈ rule.conditions,
        condition.Answers row) ∧
      ∃ application, CompiledRules.apply ⟨.base, compiled⟩ Store.rent = .ok application ∧
        application.store.schema = .base ∧
        application.store.rows.length = Store.rent.rows.length ∧
        ∀ row ∈ application.store.rows, row.Conforms .base := by
  have accepted : Rule.samples.map (Compiler.compileRule ⟨.base, none⟩) =
      (Compiler.successes (Rule.samples.map (Compiler.compileRule ⟨.base, none⟩))).map .ok := rfl
  exact ⟨_, accepted, CompiledRules.apply_of_compileRule accepted rfl (by decide)⟩

/-! ## Assignable columns

Rules write assignable columns only. An accepted rule may name any column that
the schema lacks, but assigns no column of the schema that is not assignable, so
that all other cells of a row keep their entries. -/

/-- Of the columns of a schema only some are assigned. -/
def CompiledRule.AssignsOnly (rule : CompiledRule) (allowed : List String) (schema : Schema) :
    Prop :=
  ∀ column value index, (column, value) ∈ rule.assignments →
    schema.indexOf? column = some index → column ∈ allowed

/-- Rows of one size with the same entry in every column, except for columns of
some names. -/
structure Row.AgreeOutside (before after : Row) (schema : Schema) (names : List String) :
    Prop where
  sizeEq : after.size = before.size
  get?_eq : ∀ index column, schema.columns[index]? = some column → column.name ∉ names →
    after.get? index = before.get? index

theorem Row.AgreeOutside.field_eq {first second : Store} {before after : Row}
    {names : List String} (agree : before.AgreeOutside after first.schema names)
    (sameSchema : second.schema = first.schema) {name : String} (other : name ∉ names) :
    second.field after name = first.field before name := by
  unfold Store.field Schema.require
  rw [sameSchema, agree.sizeEq]
  cases found : first.schema.indexOf? name with
  | none => rfl
  | some index =>
      obtain ⟨kind, column, _⟩ := Schema.exists_hasColumn found
      dsimp only
      rw [agree.get?_eq index _ column.2 other]

namespace Compiler

variable {compiler : Compiler} {allowed : List String}

theorem assignsOnly_of_compileRule (restricted : compiler.assignable = some allowed)
    {rule : Rule} {compiled : CompiledRule}
    (accepted : compiler.compileRule rule = .ok compiled) :
    compiled.AssignsOnly allowed compiler.schema := by
  obtain ⟨clean, rfl⟩ := compileRule_eq_ok_iff.mp accepted
  unfold check at clean
  obtain ⟨_, noErrors⟩ := List.append_eq_nil_iff.mp clean
  intro column value index member position
  obtain ⟨assignment, present, same⟩ := List.mem_map.mp member
  cases same
  have correct := List.filterMap_eq_nil_iff.mp noErrors assignment present
  obtain ⟨kind, _, ofColumn⟩ := Schema.exists_hasColumn position
  unfold assignmentError? at correct
  rw [ofColumn, restricted, Option.all_some] at correct
  dsimp only at correct
  split at correct
  · rename_i contained
    exact List.contains_iff_mem.mp contained
  · cases correct

theorem assignsOnly_of_compile (restricted : compiler.assignable = some allowed) {text : String} :
    ∀ rule ∈ (compiler.compile text).rules.rules, rule.AssignsOnly allowed compiler.schema := by
  intro rule member
  obtain ⟨_, accepted⟩ := exists_of_compile member
  exact assignsOnly_of_compileRule restricted accepted

end Compiler

namespace CompiledRules

variable {rules : CompiledRules} {allowed : List String}

theorem get?_rewritten
    (assigns : ∀ rule ∈ rules.rules, rule.AssignsOnly allowed rules.schema) {index : Nat}
    (elsewhere : ∀ column ∈ allowed, rules.schema.indexOf? column ≠ some index) (row : Row) :
    (rules.rewritten row).get? index = row.get? index := by
  apply Row.get?_overwrite
  intro assigned
  obtain ⟨⟨position, value⟩, member, rfl⟩ := List.mem_map.mp assigned
  obtain ⟨rule, present, _, column, found, within⟩ := mem_assignments member
  exact elsewhere column (assigns rule present column value position within found) found

theorem agree_rewritten
    (assigns : ∀ rule ∈ rules.rules, rule.AssignsOnly allowed rules.schema) (row : Row) :
    row.AgreeOutside (rules.rewritten row) rules.schema allowed := by
  refine ⟨Row.size_overwrite row _, ?_⟩
  intro index column present other
  apply get?_rewritten assigns
  intro name among found
  obtain ⟨kind, own, _⟩ := Schema.exists_hasColumn found
  rw [own.2, Option.some.injEq] at present
  rw [← present] at other
  exact other among

/-- Applying such rules keeps the rows in their places and all but the
assignable columns. -/
theorem agree_of_apply
    (assigns : ∀ rule ∈ rules.rules, rule.AssignsOnly allowed rules.schema) {store : Store}
    {application : Application} (applied : rules.apply store = .ok application) :
    List.Forall₂ (fun before after => before.AgreeOutside after rules.schema allowed)
      store.rows application.store.rows := by
  obtain ⟨_, _, rfl⟩ := apply_eq_ok_iff.mp applied
  refine List.forall₂_map_right_iff.mpr (List.forall₂_same.mpr ?_)
  intro row _
  exact agree_rewritten assigns row

end CompiledRules

end Passbook
