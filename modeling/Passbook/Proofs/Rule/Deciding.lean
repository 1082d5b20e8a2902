/-
Deciding and rewriting, exactly. The values proposed for a column are those that
the matching rules assign to it, in their order and each value once. They alone
decide what becomes of the column: one value is assigned, or ignored where there
is no such column, and several are a conflict. Applying rules writes the assigned
values into each row, changes nothing else, and reports every row in its turn.
-/

import Passbook.Proofs.Rule.Soundness

namespace Passbook

/-! ## Rules in another order

The order of rules does not matter, nor how often a rule stands in the list.
Rules look at the row as it was given, so the same rules match it and give a
column the same values up to equality. Two lists of such values without
repetitions are equally long, so that the column is assigned, in conflict or
ignored by both lists of rules alike. -/

/-! ### Rows -/

theorem Row.sameEntries_of_getElem? {first second : List Entry}
    (alike : ∀ index : Nat, Option.Rel (fun a b => Entry.sameValue a b = true) first[index]?
      second[index]?) : Row.sameEntries first second = true := by
  induction first generalizing second with
  | nil =>
      cases second with
      | nil => rfl
      | cons entry second => cases alike 0
  | cons entry first ih =>
      cases second with
      | nil => cases alike 0
      | cons other second =>
          have heads : entry.sameValue other = true := by
            cases alike 0 with
            | some same => exact same
          have tails : Row.sameEntries first second = true := ih fun index => alike (index + 1)
          rw [Row.sameEntries, heads, tails]
          rfl

theorem Store.sameRows_map {first second : Row → Row} {rows : List Row}
    (alike : ∀ row ∈ rows, (first row).sameValue (second row) = true) :
    Store.sameRows (rows.map first) (rows.map second) = true := by
  induction rows with
  | nil => rfl
  | cons row rows ih =>
      rw [List.map_cons, List.map_cons, Store.sameRows, alike row List.mem_cons_self,
        ih fun other member => alike other (List.mem_cons_of_mem _ member)]
      rfl

/-! ### Evaluations that are alike -/

/-- The same values up to equality, in any order and number. -/
def Proposal.SameValues (first second : List Entry) : Prop :=
  Covers first second ∧ Covers second first

/-- Equal values are assigned to the same positions, the same columns are in
conflict, each with the same values, and the same names are ignored. -/
structure Evaluation.Alike (first second : Evaluation) : Prop where
  assigned : ∀ index, Option.Rel (fun a b => Entry.sameValue a b = true)
    (first.assignments.find? index) (second.assignments.find? index)
  conflicting : ∀ column, Option.Rel Proposal.SameValues
    (first.conflicts.find? column) (second.conflicts.find? column)
  ignored : ∀ column, column ∈ first.ignored ↔ column ∈ second.ignored

private theorem rel_of_some {α β : Type} {related : α → β → Prop} {first : Option α}
    {second : Option β}
    (onto : ∀ a, first = some a → ∃ b, second = some b ∧ related a b)
    (back : ∀ b, second = some b → ∃ a, first = some a) : Option.Rel related first second := by
  cases first with
  | some a =>
      obtain ⟨b, rfl, holds⟩ := onto a rfl
      exact Option.Rel.some holds
  | none =>
      cases second with
      | none => exact Option.Rel.none
      | some b =>
          obtain ⟨a, absent⟩ := back b rfl
          cases absent

namespace CompiledRules

variable {first second : CompiledRules}

private theorem covers_given (within : ∀ rule ∈ first.rules, rule ∈ second.rules) (row : Row)
    (column : String) :
    Proposal.Covers (second.given row column) (first.given row column) := by
  intro value given
  obtain ⟨rule, present, holds, assigns⟩ := exists_rule_of_mem_given given
  exact exists_given (within rule present) holds assigns

private theorem length_given (same : ∀ rule, rule ∈ first.rules ↔ rule ∈ second.rules) (row : Row)
    (column : String) :
    (first.given row column).length = (second.given row column).length := by
  apply Nat.le_antisymm
  · exact (Proposal.distinct_spec _).1.length_le
      (covers_given (fun rule => (same rule).mp) row column)
  · exact (Proposal.distinct_spec _).1.length_le
      (covers_given (fun rule => (same rule).mpr) row column)

private theorem exists_assigned (ofSchema : first.schema = second.schema)
    (same : ∀ rule, rule ∈ first.rules ↔ rule ∈ second.rules) {row : Row} {index : Nat}
    {value : Entry} (assigned : (first.evaluate row).assignments.find? index = some value) :
    ∃ other, (second.evaluate row).assignments.find? index = some other ∧
      value.sameValue other = true := by
  obtain ⟨column, position, single⟩ := ((first.decided row).assigned index value).mp assigned
  have one : (second.given row column).length = 1 := by
    rw [← length_given same, single]
    rfl
  obtain ⟨other, alone⟩ := List.length_eq_one_iff.mp one
  have given : value ∈ first.given row column := by
    rw [single]
    exact List.mem_singleton_self value
  obtain ⟨own, present, equal⟩ := covers_given (fun rule => (same rule).mp) row column value given
  rw [alone, List.mem_singleton] at present
  refine ⟨other, ?_, present ▸ equal⟩
  exact ((second.decided row).assigned index other).mpr ⟨column, ofSchema ▸ position, alone⟩

private theorem exists_conflict (same : ∀ rule, rule ∈ first.rules ↔ rule ∈ second.rules)
    {row : Row} {column : String} {values : List Entry}
    (conflict : (first.evaluate row).conflicts.find? column = some values) :
    ∃ others, (second.evaluate row).conflicts.find? column = some others ∧
      Proposal.SameValues values others := by
  obtain ⟨rfl, many⟩ := ((first.decided row).conflicting column values).mp conflict
  rw [length_given same] at many
  refine ⟨_, ((second.decided row).conflicting column _).mpr ⟨rfl, many⟩, ?_, ?_⟩
  · exact covers_given (fun rule => (same rule).mpr) row column
  · exact covers_given (fun rule => (same rule).mp) row column

theorem alike_evaluate (ofSchema : first.schema = second.schema)
    (same : ∀ rule, rule ∈ first.rules ↔ rule ∈ second.rules) (row : Row) :
    (first.evaluate row).Alike (second.evaluate row) := by
  have back : ∀ rule, rule ∈ second.rules ↔ rule ∈ first.rules := fun rule => (same rule).symm
  refine ⟨?_, ?_, ?_⟩
  · intro index
    apply rel_of_some fun value assigned => exists_assigned ofSchema same assigned
    intro value assigned
    obtain ⟨own, found, _⟩ := exists_assigned ofSchema.symm back assigned
    exact ⟨own, found⟩
  · intro column
    apply rel_of_some fun values conflict => exists_conflict same conflict
    intro values conflict
    obtain ⟨own, found, _⟩ := exists_conflict back conflict
    exact ⟨own, found⟩
  · intro column
    rw [(first.decided row).ignored, (second.decided row).ignored, ofSchema, length_given same]

theorem sameValue_rewritten (ofSchema : first.schema = second.schema)
    (same : ∀ rule, rule ∈ first.rules ↔ rule ∈ second.rules) (row : Row) :
    (first.rewritten row).sameValue (second.rewritten row) = true := by
  apply Row.sameEntries_of_getElem?
  intro index
  have alike := (alike_evaluate ofSchema same row).assigned index
  have one : (first.rewritten row).get? index = _ :=
    Row.get?_overwrite_eq (first.decided row).ascending index
  have two : (second.rewritten row).get? index = _ :=
    Row.get?_overwrite_eq (second.decided row).ascending index
  unfold Row.get? at one two
  rw [one, two]
  cases row.entries[index]? with
  | none => exact Option.Rel.none
  | some entry =>
      refine Option.Rel.some ?_
      revert alike
      cases (first.evaluate row).assignments.find? index <;>
        cases (second.evaluate row).assignments.find? index
      · exact fun _ => entry.sameValue_refl
      · exact fun absurd => nomatch absurd
      · exact fun absurd => nomatch absurd
      · intro related
        cases related with
        | some equal => exact equal

/-! ### Diagnostics that are alike -/

theorem mem_diagnostics_iff {rules : CompiledRules} {rows : List Row} {diagnostic : Diagnostic} :
    diagnostic ∈ rules.diagnostics 0 rows ↔ ∃ position row, rows[position]? = some row ∧
      diagnostic ∈ Diagnostic.ofEvaluation position (rules.evaluate row) := by
  unfold diagnostics
  rw [List.mem_flatMap]
  constructor
  · rintro ⟨⟨row, position⟩, member, reported⟩
    exact ⟨position, row, List.mem_zipIdx_iff_getElem?.mp member, reported⟩
  · rintro ⟨position, row, present, reported⟩
    exact ⟨(row, position), List.mem_zipIdx_iff_getElem?.mpr present, reported⟩

end CompiledRules

namespace Diagnostic

/-- What is reported of a row on the one side is reported on the other: its
conflicting columns, each with the same values, and its names that are no
columns. -/
structure Within (first second : List Diagnostic) : Prop where
  conflict : ∀ position conflicts, .conflict position conflicts ∈ first →
    ∃ others, .conflict position others ∈ second ∧
      ∀ column, Option.Rel Proposal.SameValues (conflicts.find? column) (others.find? column)
  unknown : ∀ position column,
    .unknownAssignment position column ∈ first → .unknownAssignment position column ∈ second

theorem conflict_mem_ofEvaluation_iff {position index : Nat} {evaluation : Evaluation}
    {conflicts : OrderedMap String (List Entry)} :
    .conflict index conflicts ∈ ofEvaluation position evaluation ↔
      index = position ∧ conflicts = evaluation.conflicts ∧
        evaluation.conflicts.isEmpty = false := by
  unfold ofEvaluation
  cases evaluation.conflicts.isEmpty <;> simp

theorem unknown_mem_ofEvaluation_iff {position index : Nat} {evaluation : Evaluation}
    {column : String} :
    .unknownAssignment index column ∈ ofEvaluation position evaluation ↔
      index = position ∧ column ∈ evaluation.ignored := by
  unfold ofEvaluation
  cases evaluation.conflicts.isEmpty <;> simp [and_comm, eq_comm]

end Diagnostic

theorem CompiledRules.within_diagnostics {first second : CompiledRules}
    (ofSchema : first.schema = second.schema)
    (same : ∀ rule, rule ∈ first.rules ↔ rule ∈ second.rules) (rows : List Row) :
    Diagnostic.Within (first.diagnostics 0 rows) (second.diagnostics 0 rows) := by
  constructor
  · intro index conflicts reported
    obtain ⟨position, row, present, own⟩ := mem_diagnostics_iff.mp reported
    obtain ⟨rfl, rfl, filled⟩ := Diagnostic.conflict_mem_ofEvaluation_iff.mp own
    have alike := (alike_evaluate ofSchema same row).conflicting
    obtain ⟨column, values, found⟩ := OrderedMap.exists_find?_of_not_isEmpty filled
    have filledToo : (second.evaluate row).conflicts.isEmpty = false := by
      have atColumn := alike column
      rw [found] at atColumn
      cases other : (second.evaluate row).conflicts.find? column with
      | none =>
          rw [other] at atColumn
          cases atColumn
      | some others => exact OrderedMap.not_isEmpty_of_find? other
    refine ⟨(second.evaluate row).conflicts, mem_diagnostics_iff.mpr ⟨index, row, present, ?_⟩, alike⟩
    exact Diagnostic.conflict_mem_ofEvaluation_iff.mpr ⟨rfl, rfl, filledToo⟩
  · intro index column reported
    obtain ⟨position, row, present, own⟩ := mem_diagnostics_iff.mp reported
    obtain ⟨rfl, ignored⟩ := Diagnostic.unknown_mem_ofEvaluation_iff.mp own
    refine mem_diagnostics_iff.mpr ⟨index, row, present, ?_⟩
    refine Diagnostic.unknown_mem_ofEvaluation_iff.mpr ⟨rfl, ?_⟩
    exact ((alike_evaluate ofSchema same row).ignored column).mp ignored

/-- Applying the same rules in another order, or with some of them repeated,
gives equal stores, decides every row alike and reports the same. -/
theorem CompiledRules.apply_of_same_rules {schema : Schema} {first second : List CompiledRule}
    {store : Store} (same : ∀ rule, rule ∈ first ↔ rule ∈ second)
    (compiled : ∀ rule ∈ first, ∃ (compiler : Compiler) (source : Rule),
      compiler.schema = schema ∧ compiler.compileRule source = .ok rule)
    (ofSchema : store.schema = schema)
    (conform : ∀ row ∈ store.rows, row.Conforms store.schema) :
    ∃ one two : Application,
      CompiledRules.apply ⟨schema, first⟩ store = .ok one ∧
      CompiledRules.apply ⟨schema, second⟩ store = .ok two ∧
      one.store.sameValue two.store = true ∧
      (∀ row ∈ store.rows, (CompiledRules.evaluate ⟨schema, first⟩ row).Alike
        (CompiledRules.evaluate ⟨schema, second⟩ row)) ∧
      Diagnostic.Within one.diagnostics two.diagnostics ∧
      Diagnostic.Within two.diagnostics one.diagnostics := by
  have sound : ∀ rule ∈ first, rule.Sound schema := by
    intro rule member
    obtain ⟨compiler, source, rfl, accepted⟩ := compiled rule member
    exact Compiler.sound_of_compileRule accepted
  have one : CompiledRules.apply ⟨schema, first⟩ store = .ok _ :=
    apply_of_sound sound ofSchema conform
  have two : CompiledRules.apply ⟨schema, second⟩ store = .ok _ :=
    apply_of_sound (fun rule member => sound rule ((same rule).mpr member)) ofSchema conform
  have oneSchema : (⟨schema, first⟩ : CompiledRules).schema =
      (⟨schema, second⟩ : CompiledRules).schema := rfl
  refine ⟨_, _, one, two, ?_, ?_, ?_, ?_⟩
  · unfold Store.sameValue
    rw [beq_self_eq_true, Bool.true_and]
    apply Store.sameRows_map
    intro row _
    exact sameValue_rewritten oneSchema same row
  · exact fun row _ => alike_evaluate oneSchema same row
  · exact within_diagnostics oneSchema same store.rows
  · exact within_diagnostics oneSchema.symm (fun rule => (same rule).symm) store.rows

def Rule.fiveDollars (line places : Nat) (payer : String) : Rule :=
  let dollar : Dollars := .ofMagnitude ((Decimal.make? 1 0).getD .zero)
  let five : Dollars :=
    .ofMagnitude ((Decimal.make? (5 * Text.powerOfTen places) places).getD .zero)
  ⟨line, [⟨Schema.amount, .atLeast, .dollars dollar, ⟨line, 1⟩⟩],
    [⟨Schema.amount, .dollars five, ⟨line, 15⟩⟩, ⟨Schema.origin, .text payer, ⟨line, 30⟩⟩,
      ⟨"tag", .text "home", ⟨line, 45⟩⟩]⟩

def CompiledRule.fiveDollars (line places : Nat) (payer : String) : CompiledRule :=
  let dollar : Dollars := .ofMagnitude ((Decimal.make? 1 0).getD .zero)
  let five : Dollars :=
    .ofMagnitude ((Decimal.make? (5 * Text.powerOfTen places) places).getD .zero)
  ⟨line, [⟨5, .compare .atLeast (.dollars dollar)⟩],
    [(Schema.amount, .dollars five), (Schema.origin, .text payer), ("tag", .text "home")]⟩

theorem CompiledRules.apply_of_same_rules_repeated :
    let plain := CompiledRule.fiveDollars 1 0 "Acme"
    let cents := CompiledRule.fiveDollars 2 2 "Birch"
    ∃ one two : Application,
      CompiledRules.apply ⟨.base, [plain, cents]⟩ Store.rent = .ok one ∧
      CompiledRules.apply ⟨.base, [cents, plain, cents]⟩ Store.rent = .ok two ∧
      one.store.sameValue two.store = true ∧
      (∀ row ∈ Store.rent.rows, (CompiledRules.evaluate ⟨.base, [plain, cents]⟩ row).Alike
        (CompiledRules.evaluate ⟨.base, [cents, plain, cents]⟩ row)) ∧
      Diagnostic.Within one.diagnostics two.diagnostics ∧
      Diagnostic.Within two.diagnostics one.diagnostics := by
  intro plain cents
  refine CompiledRules.apply_of_same_rules ?_ ?_ rfl (by decide)
  · intro rule
    simp only [List.mem_cons, List.not_mem_nil, or_false]
    tauto
  · intro rule member
    rcases List.mem_cons.mp member with rfl | second
    · exact ⟨⟨.base, none⟩, Rule.fiveDollars 1 0 "Acme", rfl, rfl⟩
    · rw [List.mem_singleton.mp second]
      exact ⟨⟨.base, none⟩, Rule.fiveDollars 2 2 "Birch", rfl, rfl⟩

/-! ## Decisions -/

/-! ### The first of equal items -/

/-- Of items that are equal the first is kept, when each is compared with those
that are kept so far. -/
theorem eraseDupsBy_eq_foldl {α : Type} (same : α → α → Bool) (items : List α) :
    items.eraseDupsBy same = items.foldl
      (fun kept item => if kept.any (same item) then kept else kept ++ [item]) [] := by
  have fromAny (seen : List α) : List.eraseDupsBy.loop same items seen = items.foldl
      (fun kept item => if kept.any (same item) then kept else kept ++ [item]) seen.reverse := by
    induction items generalizing seen with
    | nil => rfl
    | cons item items ih =>
        rw [List.eraseDupsBy.loop, List.foldl_cons, List.any_reverse]
        cases repeated : seen.any (same item) with
        | true => exact ih seen
        | false =>
            refine (ih (item :: seen)).trans ?_
            rw [List.reverse_cons]
            rfl
  exact fromAny []

namespace Proposal

theorem distinct_eq_eraseDupsBy (values : List Entry) :
    distinct values = values.eraseDupsBy Entry.sameValue := by
  have step : addValue = fun kept value =>
      if kept.any value.sameValue then kept else kept ++ [value] := by
    funext kept value
    have comm : (fun other : Entry => other.sameValue value) = value.sameValue :=
      funext fun other => Entry.sameValue_comm other value
    rw [addValue, comm]
  rw [eraseDupsBy_eq_foldl, distinct, step]

theorem columns_foldl (assignments : List (String × Entry)) :
    columns (assignments.foldl propose []) = (assignments.map Prod.fst).eraseDups := by
  have fromAny (proposals : List Proposal) :
      columns (assignments.foldl propose proposals) = (assignments.map Prod.fst).foldl
        (fun kept column => if kept.any (column == ·) then kept else kept ++ [column])
        (columns proposals) := by
    induction assignments generalizing proposals with
    | nil => rfl
    | cons assignment assignments ih =>
        obtain ⟨column, value⟩ := assignment
        rw [List.foldl_cons, ih, columns_propose, List.map_cons, List.foldl_cons]
        simp only [List.any_beq, List.contains_iff_mem]
  rw [List.eraseDups, eraseDupsBy_eq_foldl]
  exact fromAny []

end Proposal

namespace Evaluation

/-- Of the columns in question, those that no position has and one value is
proposed for are ignored, in their order. -/
theorem ignored_foldl (schema : Schema) (proposals : List Proposal) (evaluation : Evaluation) :
    (proposals.foldl (Evaluation.decide schema) evaluation).ignored = evaluation.ignored ++
      (proposals.filter fun proposal =>
        schema.indexOf? proposal.column = none ∧ proposal.values.length = 1).map
          Proposal.column := by
  induction proposals generalizing evaluation with
  | nil => exact (List.append_nil _).symm
  | cons proposal proposals ih =>
      rw [List.foldl_cons, ih, List.filter_cons]
      rcases decide_cases schema evaluation proposal with ⟨none_given, same⟩ |
        ⟨value, index, single, found, same⟩ | ⟨value, single, absent, same⟩ | ⟨several, same⟩
      · simp [same, none_given]
      · simp [same, single, found]
      · simp [same, single, absent]
      · have notOne : proposal.values.length ≠ 1 := by omega
        simp [same, notOne]

end Evaluation

namespace CompiledRules

variable (rules : CompiledRules) (row : Row)

def assigned : List (String × Entry) :=
  (rules.matching row).flatMap CompiledRule.assignments

/-- The values assigned to a column, in their order; of equal ones the first. -/
def proposed (column : String) : List Entry :=
  (Proposal.valuesOf column (rules.assigned row)).eraseDupsBy Entry.sameValue

/-- The evaluation that follows from the proposed values: one value is assigned
to the position of its column, or its column ignored where there is no such
column, and several values are in conflict. -/
structure DecidesExactly (evaluation : Evaluation) : Prop where
  ascendingConflicts : evaluation.conflicts.Ascending
  conflicts : ∀ column values, (column, values) ∈ evaluation.conflicts.pairs ↔
    rules.proposed row column = values ∧ 2 ≤ values.length
  ascendingAssignments : evaluation.assignments.Ascending
  assignments : ∀ index value, (index, value) ∈ evaluation.assignments.pairs ↔
    ∃ column, rules.schema.indexOf? column = some index ∧ rules.proposed row column = [value]
  ignored : evaluation.ignored = ((rules.assigned row).map Prod.fst).eraseDups.filter fun column =>
    rules.schema.indexOf? column = none ∧ (rules.proposed row column).length = 1

theorem given_eq_proposed : rules.given row = rules.proposed row :=
  funext fun _ => Proposal.distinct_eq_eraseDupsBy _

theorem ignored_evaluate : (rules.evaluate row).ignored =
    ((rules.assigned row).map Prod.fst).eraseDups.filter fun column =>
      rules.schema.indexOf? column = none ∧ (rules.proposed row column).length = 1 := by
  have gathered : Proposal.Gathered (rules.assigned row) (rules.proposals row) :=
    Proposal.gathered _
  have alike : ∀ proposal ∈ rules.proposals row,
      proposal.values = rules.proposed row proposal.column := by
    intro proposal member
    rw [gathered.values proposal member, Proposal.distinct_eq_eraseDupsBy]
    rfl
  rw [← Proposal.columns_foldl, Proposal.columns, List.filter_map]
  refine (Evaluation.ignored_foldl rules.schema (rules.proposals row) {}).trans ?_
  refine congrArg (List.map Proposal.column) (List.filter_congr fun proposal member => ?_)
  rw [Function.comp_apply, alike proposal member]

theorem decidesExactly_evaluate : rules.DecidesExactly row (rules.evaluate row) := by
  have decided := rules.decided row
  constructor
  · exact decided.ascendingConflicts
  · intro column values
    rw [← OrderedMap.find?_eq_some_iff decided.ascendingConflicts, ← given_eq_proposed]
    exact decided.conflicting column values
  · exact decided.ascending
  · intro index value
    rw [← OrderedMap.find?_eq_some_iff decided.ascending, ← given_eq_proposed]
    exact decided.assigned index value
  · exact rules.ignored_evaluate row

def written : Row :=
  ⟨row.entries.mapIdx fun index entry =>
    ((rules.evaluate row).assignments.find? index).getD entry⟩

theorem rewritten_eq_written : rules.rewritten = rules.written := by
  funext row
  refine congrArg Row.mk (List.ext_getElem? fun index => ?_)
  rw [List.getElem?_mapIdx]
  exact Row.get?_overwrite_eq (rules.decided row).ascending index

end CompiledRules

/-- Every row is decided by the values proposed for its columns. Where rules
apply, each row is the one before it with the assigned values, and each row in
turn is reported, first its conflicts, if there are any, and then its ignored
columns. -/
theorem CompiledRules.decide_and_apply_exactly (rules : CompiledRules) :
    (∀ row, rules.DecidesExactly row (rules.evaluate row)) ∧
    ∀ store application, rules.apply store = .ok application →
      application.store = ⟨rules.schema, store.rows.map rules.written⟩ ∧
      application.diagnostics = store.rows.zipIdx.flatMap fun placed =>
        (if (rules.evaluate placed.1).conflicts.pairs = [] then []
          else [.conflict placed.2 (rules.evaluate placed.1).conflicts]) ++
        (rules.evaluate placed.1).ignored.map (.unknownAssignment placed.2) := by
  refine ⟨rules.decidesExactly_evaluate, ?_⟩
  intro store application applied
  obtain ⟨_, _, rfl⟩ := apply_eq_ok_iff.mp applied
  refine ⟨by rw [rewritten_eq_written], List.flatMap_congr fun placed _ => ?_⟩
  simp only [Diagnostic.ofEvaluation, OrderedMap.isEmpty, List.isEmpty_iff]

theorem CompiledRules.decide_and_apply_exactly_payers :
    let rules : CompiledRules :=
      ⟨.base, [CompiledRule.fiveDollars 1 0 "Acme", CompiledRule.fiveDollars 2 2 "Birch"]⟩
    let five : Dollars := .ofMagnitude ((Decimal.make? 5 0).getD .zero)
    ∃ application, rules.apply Store.rent = .ok application ∧
      application.store = ⟨.base, Store.rent.rows.map rules.written⟩ ∧
      (Store.rent.rows.map rules.written).map Row.entries =
        Store.rent.rows.map (fun row => row.entries.set 5 (.dollars five)) ∧
      application.diagnostics = [
        .conflict 0 ⟨[(Schema.origin, [.text "Acme", .text "Birch"])]⟩,
        .unknownAssignment 0 "tag"] := by
  intro rules five
  have succeeds : ∃ application, rules.apply Store.rent = .ok application := ⟨_, rfl⟩
  obtain ⟨application, applied⟩ := succeeds
  have exactly := (CompiledRules.decide_and_apply_exactly rules).2 _ _ applied
  exact ⟨application, applied, exactly.1, rfl, exactly.2.trans rfl⟩

end Passbook
