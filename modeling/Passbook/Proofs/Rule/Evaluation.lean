/-
What rules decide for a row, exactly. The proposals for a row hold one entry for
each column that the matching rules assign, with the values given to it, each
once. A column with one value is assigned or, if it is no column of the schema,
ignored; a column with several is in conflict.
-/

import Mathlib.Data.List.Induction
import Passbook.Proofs.Entry
import Passbook.Proofs.Foundations
import Passbook.Proofs.Store
import Passbook.Rule.Evaluation

namespace Passbook

namespace Proposal

/-- The values that assignments give to a column, in their order. -/
def valuesOf (column : String) (assignments : List (String × Entry)) : List Entry :=
  (assignments.filter fun assignment => assignment.1 = column).map Prod.snd

/-- The values without repetitions; of equal ones the first is kept. -/
def distinct (values : List Entry) : List Entry :=
  values.foldl addValue []

theorem mem_valuesOf_iff {column : String} {assignments : List (String × Entry)} {value : Entry} :
    value ∈ valuesOf column assignments ↔ (column, value) ∈ assignments := by
  simp [valuesOf]

theorem valuesOf_append (column : String) (first second : List (String × Entry)) :
    valuesOf column (first ++ second) = valuesOf column first ++ valuesOf column second := by
  simp [valuesOf]

theorem distinct_append_singleton (values : List Entry) (value : Entry) :
    distinct (values ++ [value]) = addValue (distinct values) value := by
  simp [distinct]

theorem mem_of_mem_addValue {values : List Entry} {value other : Entry}
    (member : other ∈ addValue values value) : other ∈ values ∨ other = value := by
  unfold addValue at member
  split at member
  · exact Or.inl member
  · rw [List.mem_append, List.mem_singleton] at member
    exact member

/-- No two of the values are equal. -/
def Apart (values : List Entry) : Prop :=
  values.Pairwise fun earlier later => earlier.sameValue later = false

/-- Every value of the one list is equal to a value of the other. -/
def Covers (values others : List Entry) : Prop :=
  ∀ other ∈ others, ∃ value ∈ values, other.sameValue value = true

theorem Apart.addValue {values : List Entry} (apart : Apart values) (value : Entry) :
    Apart (addValue values value) := by
  unfold Proposal.addValue
  split
  · exact apart
  · rename_i new
    refine List.pairwise_append.mpr ⟨apart, List.pairwise_singleton _ _, ?_⟩
    intro earlier present later here
    rw [List.mem_singleton.mp here]
    exact eq_false_of_ne_true fun same => new (List.any_eq_true.mpr ⟨earlier, present, same⟩)

theorem covers_addValue (values : List Entry) (value : Entry) :
    Covers (addValue values value) (value :: values) := by
  intro other member
  unfold addValue
  split
  · rename_i repeated
    rcases List.mem_cons.mp member with rfl | present
    · obtain ⟨kept, present, same⟩ := List.any_eq_true.mp repeated
      exact ⟨kept, present, Entry.sameValue_symm same⟩
    · exact ⟨other, present, Entry.sameValue_refl other⟩
  · refine ⟨other, ?_, Entry.sameValue_refl other⟩
    rcases List.mem_cons.mp member with rfl | present
    · exact List.mem_append_right _ (List.mem_singleton_self _)
    · exact List.mem_append_left _ present

theorem distinct_spec (values : List Entry) :
    Apart (distinct values) ∧ distinct values ⊆ values ∧ Covers (distinct values) values := by
  induction values using List.reverseRecOn with
  | nil => exact ⟨List.Pairwise.nil, fun _ absent => absent, fun _ absent => nomatch absent⟩
  | append_singleton values value ih =>
      obtain ⟨apart, within, covers⟩ := ih
      rw [distinct_append_singleton]
      refine ⟨apart.addValue value, ?_, ?_⟩
      · intro other member
        rcases mem_of_mem_addValue member with earlier | rfl
        · exact List.mem_append_left _ (within earlier)
        · exact List.mem_append_right _ (List.mem_singleton_self _)
      · intro other member
        have kept := covers_addValue (distinct values) value
        rcases List.mem_append.mp member with earlier | last
        · obtain ⟨own, present, same⟩ := covers other earlier
          obtain ⟨found, there, alike⟩ := kept own (List.mem_cons_of_mem _ present)
          exact ⟨found, there, Entry.sameValue_trans same alike⟩
        · rw [List.mem_singleton.mp last]
          exact kept value List.mem_cons_self

/-- Values that are apart are no more than values that cover them. -/
theorem Apart.length_le {values others : List Entry} (apart : Apart values)
    (covers : Covers others values) : values.length ≤ others.length := by
  induction values generalizing others with
  | nil => exact Nat.zero_le _
  | cons value values ih =>
      obtain ⟨differ, apartTail⟩ := List.pairwise_cons.mp apart
      obtain ⟨other, present, same⟩ := covers value List.mem_cons_self
      obtain ⟨before, behind, rfl⟩ := List.append_of_mem present
      have fewer : Covers (before ++ behind) values := by
        intro later member
        obtain ⟨found, there, alike⟩ := covers later (List.mem_cons_of_mem _ member)
        refine ⟨found, ?_, alike⟩
        rcases List.mem_append.mp there with inFront | inBack
        · exact List.mem_append_left _ inFront
        · rcases List.mem_cons.mp inBack with rfl | last
          · have equal := Entry.sameValue_trans same (Entry.sameValue_symm alike)
            rw [differ later member] at equal
            cases equal
          · exact List.mem_append_right _ last
      have shorter := ih apartTail fewer
      simp only [List.length_append, List.length_cons] at shorter ⊢
      omega

/-! ### Gathering proposals -/

def columns (proposals : List Proposal) : List String :=
  proposals.map Proposal.column

/-- The proposals that assignments make: one for each assigned column, with the
values of the column, each once. -/
structure Gathered (assignments : List (String × Entry)) (proposals : List Proposal) : Prop where
  nodup : (columns proposals).Nodup
  memColumns : ∀ column, column ∈ columns proposals ↔ ∃ value, (column, value) ∈ assignments
  values : ∀ proposal ∈ proposals,
    proposal.values = distinct (valuesOf proposal.column assignments)

theorem columns_propose (proposals : List Proposal) (column : String) (value : Entry) :
    columns (propose proposals (column, value)) =
      if column ∈ columns proposals then columns proposals else columns proposals ++ [column] := by
  unfold columns
  induction proposals with
  | nil => rfl
  | cons proposal proposals ih =>
      unfold propose
      by_cases here : proposal.column = column
      · simp [here]
      · rw [if_neg here, List.map_cons, ih, List.map_cons]
        simp only [List.mem_cons, Ne.symm here, false_or]
        split <;> rfl

/-- After one more assignment a proposal is an earlier one for another column,
the one for this column with the value added, or a new one. -/
theorem mem_propose_cases {proposals : List Proposal} (nodup : (columns proposals).Nodup)
    {column : String} {value : Entry} {proposal : Proposal}
    (member : proposal ∈ propose proposals (column, value)) :
    (proposal ∈ proposals ∧ proposal.column ≠ column) ∨
      (∃ earlier ∈ proposals, earlier.column = column ∧
        proposal = ⟨column, addValue earlier.values value⟩) ∨
      (column ∉ columns proposals ∧ proposal = ⟨column, [value]⟩) := by
  unfold columns at nodup ⊢
  induction proposals with
  | nil => exact Or.inr (Or.inr ⟨List.not_mem_nil, List.mem_singleton.mp member⟩)
  | cons head proposals ih =>
      obtain ⟨fresh, nodupTail⟩ := List.nodup_cons.mp nodup
      unfold propose at member
      split at member
      · rename_i here
        rcases List.mem_cons.mp member with changed | there
        · refine Or.inr (Or.inl ⟨head, List.mem_cons_self, here, ?_⟩)
          rw [changed, ← here]
        · refine Or.inl ⟨List.mem_cons_of_mem _ there, ?_⟩
          intro same
          exact fresh (here.trans same.symm ▸ List.mem_map_of_mem there)
      · rename_i elsewhere
        rcases List.mem_cons.mp member with rfl | there
        · exact Or.inl ⟨List.mem_cons_self, elsewhere⟩
        · rcases ih nodupTail there with ⟨kept, other⟩ | ⟨earlier, present, same, changed⟩ |
            ⟨absent, new⟩
          · exact Or.inl ⟨List.mem_cons_of_mem _ kept, other⟩
          · exact Or.inr (Or.inl ⟨earlier, List.mem_cons_of_mem _ present, same, changed⟩)
          · refine Or.inr (Or.inr ⟨?_, new⟩)
            rw [List.map_cons, List.mem_cons, not_or]
            exact ⟨Ne.symm elsewhere, absent⟩

theorem Gathered.propose {assignments : List (String × Entry)} {proposals : List Proposal}
    (gathered : Gathered assignments proposals) (column : String) (value : Entry) :
    Gathered (assignments ++ [(column, value)]) (propose proposals (column, value)) := by
  have ownValues (other : String) : valuesOf other (assignments ++ [(column, value)]) =
      valuesOf other assignments ++ if column = other then [value] else [] := by
    rw [valuesOf_append]
    by_cases same : column = other <;> simp [valuesOf, same]
  constructor
  · rw [columns_propose]
    split
    · exact gathered.nodup
    · rename_i new
      refine List.nodup_append.mpr ⟨gathered.nodup, List.pairwise_singleton _ _, ?_⟩
      intro earlier present later here same
      rw [List.mem_singleton.mp here] at same
      exact new (same ▸ present)
  · intro other
    have before := gathered.memColumns other
    have last : (∃ given, (other, given) ∈ assignments ++ [(column, value)]) ↔
        (∃ given, (other, given) ∈ assignments) ∨ other = column := by
      simp [exists_or]
    rw [columns_propose, last]
    split
    · rename_i known
      rw [before, iff_self_or]
      rintro rfl
      exact before.mp known
    · rw [List.mem_append, List.mem_singleton, before]
  · intro proposal member
    rcases mem_propose_cases gathered.nodup member with ⟨kept, other⟩ |
      ⟨earlier, present, rfl, rfl⟩ | ⟨absent, rfl⟩
    · rw [ownValues, if_neg (Ne.symm other), List.append_nil]
      exact gathered.values proposal kept
    · rw [ownValues, if_pos rfl, distinct_append_singleton, ← gathered.values earlier present]
    · have nothing : valuesOf column assignments = [] := by
        rw [List.eq_nil_iff_forall_not_mem]
        intro value assigned
        exact absent ((gathered.memColumns column).mpr ⟨value, mem_valuesOf_iff.mp assigned⟩)
      rw [ownValues, if_pos rfl, nothing]
      rfl

theorem Gathered.foldl {done : List (String × Entry)} {proposals : List Proposal}
    (gathered : Gathered done proposals) (assignments : List (String × Entry)) :
    Gathered (done ++ assignments) (assignments.foldl Proposal.propose proposals) := by
  induction assignments generalizing done proposals with
  | nil =>
      rw [List.append_nil]
      exact gathered
  | cons assignment assignments ih =>
      have next := ih (gathered.propose assignment.1 assignment.2)
      rw [List.append_assoc] at next
      exact next

theorem gathered (assignments : List (String × Entry)) :
    Gathered assignments (assignments.foldl propose []) := by
  have none : Gathered [] [] :=
    ⟨List.nodup_nil, fun column => by simp [columns], fun _ absent => nomatch absent⟩
  exact none.foldl assignments

end Proposal

/-! ### Deciding columns -/

structure Evaluation.Decides (schema : Schema) (proposals : List Proposal)
    (evaluation : Evaluation) : Prop where
  ascending : evaluation.assignments.Ascending
  ascendingConflicts : evaluation.conflicts.Ascending
  assigned : ∀ index value, evaluation.assignments.find? index = some value ↔
    ∃ proposal ∈ proposals, schema.indexOf? proposal.column = some index ∧
      proposal.values = [value]
  conflicting : ∀ column values, evaluation.conflicts.find? column = some values ↔
    ∃ proposal ∈ proposals, proposal.column = column ∧ proposal.values = values ∧
      2 ≤ values.length
  ignored : ∀ column, column ∈ evaluation.ignored ↔
    ∃ proposal ∈ proposals, proposal.column = column ∧ proposal.values.length = 1 ∧
      schema.indexOf? column = none

theorem Schema.column_unique {schema : Schema} {first second : String} {index : Nat}
    (one : schema.indexOf? first = some index) (two : schema.indexOf? second = some index) :
    first = second := by
  obtain ⟨_, column, _⟩ := exists_hasColumn one
  obtain ⟨_, other, _⟩ := exists_hasColumn two
  exact column.name_eq other

namespace Evaluation

/-- What one decision does: nothing without a value, one of three things else. -/
theorem decide_cases (schema : Schema) (evaluation : Evaluation) (proposal : Proposal) :
    (proposal.values = [] ∧ evaluation.decide schema proposal = evaluation) ∨
      (∃ value index, proposal.values = [value] ∧
        schema.indexOf? proposal.column = some index ∧ evaluation.decide schema proposal =
          { evaluation with assignments := evaluation.assignments.insert index value }) ∨
      (∃ value, proposal.values = [value] ∧
        schema.indexOf? proposal.column = none ∧ evaluation.decide schema proposal =
          { evaluation with ignored := evaluation.ignored ++ [proposal.column] }) ∨
      (2 ≤ proposal.values.length ∧ evaluation.decide schema proposal =
        { evaluation with
          conflicts := evaluation.conflicts.insert proposal.column proposal.values }) := by
  unfold Evaluation.decide
  rcases proposal.values with _ | ⟨value, _ | ⟨second, rest⟩⟩
  · exact Or.inl ⟨rfl, rfl⟩
  · cases found : schema.indexOf? proposal.column with
    | some index => exact Or.inr (Or.inl ⟨value, index, rfl, rfl, rfl⟩)
    | none => exact Or.inr (Or.inr (Or.inl ⟨value, rfl, rfl, rfl⟩))
  · exact Or.inr (Or.inr (Or.inr ⟨Nat.le_add_left 2 rest.length, rfl⟩))

section OneMore

variable {schema : Schema} {proposals : List Proposal} {evaluation : Evaluation}
  {proposal : Proposal}

private theorem exists_mem_concat (holds : Proposal → Prop) :
    (∃ other ∈ proposals ++ [proposal], holds other) ↔
      (∃ other ∈ proposals, holds other) ∨ holds proposal := by
  simp [or_and_right, exists_or]

private theorem column_ne_of_mem (fresh : proposal.column ∉ Proposal.columns proposals) :
    ∀ other ∈ proposals, other.column ≠ proposal.column := by
  intro other member same
  exact fresh (same ▸ List.mem_map_of_mem member)

theorem Decides.assigned_concat (decides : Decides schema proposals evaluation)
    (other : ¬ ∃ index value, schema.indexOf? proposal.column = some index ∧
      proposal.values = [value]) (index : Nat) (value : Entry) :
    evaluation.assignments.find? index = some value ↔
      ∃ other ∈ proposals ++ [proposal], schema.indexOf? other.column = some index ∧
        other.values = [value] := by
  rw [exists_mem_concat, decides.assigned, iff_self_or]
  intro last
  exact absurd ⟨index, value, last⟩ other

theorem Decides.conflicting_concat (decides : Decides schema proposals evaluation)
    (few : proposal.values.length < 2) (column : String) (values : List Entry) :
    evaluation.conflicts.find? column = some values ↔
      ∃ other ∈ proposals ++ [proposal], other.column = column ∧ other.values = values ∧
        2 ≤ values.length := by
  rw [exists_mem_concat, decides.conflicting, iff_self_or]
  rintro ⟨_, rfl, several⟩
  exact absurd several (Nat.not_le.mpr few)

theorem Decides.ignored_concat (decides : Decides schema proposals evaluation)
    (other : ¬ (proposal.values.length = 1 ∧ schema.indexOf? proposal.column = none))
    (column : String) :
    column ∈ evaluation.ignored ↔
      ∃ other ∈ proposals ++ [proposal], other.column = column ∧ other.values.length = 1 ∧
        schema.indexOf? column = none := by
  rw [exists_mem_concat, decides.ignored, iff_self_or]
  rintro ⟨rfl, last⟩
  exact absurd last other

theorem Decides.concat_empty (decides : Decides schema proposals evaluation)
    (noValue : proposal.values = []) :
    Decides schema (proposals ++ [proposal]) evaluation where
  ascending := decides.ascending
  ascendingConflicts := decides.ascendingConflicts
  assigned := by
    apply decides.assigned_concat
    rintro ⟨_, _, _, single⟩
    rw [noValue] at single
    cases single
  conflicting := by
    apply decides.conflicting_concat
    rw [noValue]
    exact Nat.zero_lt_two
  ignored := by
    apply decides.ignored_concat
    rintro ⟨single, _⟩
    rw [noValue] at single
    cases single

theorem Decides.concat_assigned (decides : Decides schema proposals evaluation)
    (fresh : proposal.column ∉ Proposal.columns proposals) {value : Entry} {index : Nat}
    (single : proposal.values = [value])
    (found : schema.indexOf? proposal.column = some index) :
    Decides schema (proposals ++ [proposal])
      { evaluation with assignments := evaluation.assignments.insert index value } where
  ascending := decides.ascending.insert _ _
  ascendingConflicts := decides.ascendingConflicts
  assigned := by
    intro position given
    rw [exists_mem_concat, OrderedMap.find?_insert, found, single]
    split
    · rename_i here
      subst here
      have notBefore : ¬ ∃ other ∈ proposals,
          schema.indexOf? other.column = some position ∧ other.values = [given] := by
        rintro ⟨other, member, there, _⟩
        exact column_ne_of_mem fresh other member (Schema.column_unique there found)
      rw [or_iff_right notBefore, Option.some.injEq, and_iff_right rfl, List.cons.injEq,
        and_iff_left rfl]
    · rename_i differ
      rw [decides.assigned, iff_self_or]
      rintro ⟨here, _⟩
      exact absurd (Option.some.inj here).symm differ
  conflicting := by
    apply decides.conflicting_concat
    rw [single]
    exact Nat.one_lt_two
  ignored := by
    apply decides.ignored_concat
    rintro ⟨_, absent⟩
    rw [found] at absent
    cases absent

theorem Decides.concat_ignored (decides : Decides schema proposals evaluation) {value : Entry}
    (single : proposal.values = [value]) (absent : schema.indexOf? proposal.column = none) :
    Decides schema (proposals ++ [proposal])
      { evaluation with ignored := evaluation.ignored ++ [proposal.column] } where
  ascending := decides.ascending
  ascendingConflicts := decides.ascendingConflicts
  assigned := by
    apply decides.assigned_concat
    rintro ⟨_, _, found, _⟩
    rw [absent] at found
    cases found
  conflicting := by
    apply decides.conflicting_concat
    rw [single]
    exact Nat.one_lt_two
  ignored := by
    intro column
    rw [exists_mem_concat, List.mem_append, decides.ignored, List.mem_singleton]
    apply or_congr_right
    constructor
    · rintro rfl
      exact ⟨rfl, congrArg List.length single, absent⟩
    · rintro ⟨same, _⟩
      exact same.symm

theorem Decides.concat_conflicting (decides : Decides schema proposals evaluation)
    (fresh : proposal.column ∉ Proposal.columns proposals)
    (many : 2 ≤ proposal.values.length) :
    Decides schema (proposals ++ [proposal])
      { evaluation with
        conflicts := evaluation.conflicts.insert proposal.column proposal.values } where
  ascending := decides.ascending
  ascendingConflicts := decides.ascendingConflicts.insert _ _
  assigned := by
    apply decides.assigned_concat
    rintro ⟨_, _, _, single⟩
    rw [single] at many
    exact absurd many (by simp)
  conflicting := by
    intro column values
    rw [exists_mem_concat, OrderedMap.find?_insert]
    split
    · rename_i here
      subst here
      have notBefore : ¬ ∃ other ∈ proposals, other.column = proposal.column ∧
          other.values = values ∧ 2 ≤ values.length := by
        rintro ⟨other, member, there, _⟩
        exact column_ne_of_mem fresh other member there
      rw [or_iff_right notBefore, Option.some.injEq]
      constructor
      · rintro rfl
        exact ⟨rfl, rfl, many⟩
      · exact fun last => last.2.1
    · rename_i differ
      rw [decides.conflicting, iff_self_or]
      rintro ⟨here, _⟩
      exact absurd here.symm differ
  ignored := by
    apply decides.ignored_concat
    rintro ⟨single, _⟩
    omega

/-- Deciding one more column, which no earlier proposal is for. -/
theorem Decides.decide (decides : Decides schema proposals evaluation)
    (fresh : proposal.column ∉ Proposal.columns proposals) :
    Decides schema (proposals ++ [proposal]) (evaluation.decide schema proposal) := by
  rcases decide_cases schema evaluation proposal with ⟨noValue, same⟩ |
    ⟨only, position, single, found, same⟩ | ⟨only, single, absent, same⟩ | ⟨many, same⟩
  · rw [same]
    exact decides.concat_empty noValue
  · rw [same]
    exact decides.concat_assigned fresh single found
  · rw [same]
    exact decides.concat_ignored single absent
  · rw [same]
    exact decides.concat_conflicting fresh many

end OneMore

theorem decides (schema : Schema) {proposals : List Proposal}
    (nodup : (Proposal.columns proposals).Nodup) :
    Decides schema proposals (proposals.foldl (Evaluation.decide schema) {}) := by
  induction proposals using List.reverseRecOn with
  | nil =>
      refine ⟨OrderedMap.ascending_empty, OrderedMap.ascending_empty, ?_, ?_, ?_⟩
      · intro index value
        simp [OrderedMap.find?, OrderedMap.findIn, OrderedMap.empty]
      · intro column values
        simp [OrderedMap.find?, OrderedMap.findIn, OrderedMap.empty]
      · intro column
        simp
  | append_singleton proposals proposal ih =>
      unfold Proposal.columns at nodup
      rw [List.map_append, List.nodup_append] at nodup
      obtain ⟨earlier, _, apart⟩ := nodup
      rw [List.foldl_append]
      refine (ih earlier).decide ?_
      intro present
      exact apart _ present _ (List.mem_map_of_mem (List.mem_singleton_self proposal)) rfl

end Evaluation

/-! ### What rules decide -/

namespace CompiledRules

/-- The values that the rules matching a row give to a column, each once. -/
def given (rules : CompiledRules) (row : Row) (column : String) : List Entry :=
  Proposal.distinct
    (Proposal.valuesOf column ((rules.matching row).flatMap CompiledRule.assignments))

theorem exists_rule_of_mem_given {rules : CompiledRules} {row : Row} {column : String}
    {value : Entry} (given : value ∈ rules.given row column) :
    ∃ rule ∈ rules.rules, rule.matchesRow row = true ∧ (column, value) ∈ rule.assignments := by
  have assigned := Proposal.mem_valuesOf_iff.mp ((Proposal.distinct_spec _).2.1 given)
  obtain ⟨rule, matching, within⟩ := List.mem_flatMap.mp assigned
  obtain ⟨present, holds⟩ := List.mem_filter.mp matching
  exact ⟨rule, present, holds, within⟩

theorem exists_given {rules : CompiledRules} {row : Row} {rule : CompiledRule}
    (present : rule ∈ rules.rules) (holds : rule.matchesRow row = true) {column : String}
    {value : Entry} (within : (column, value) ∈ rule.assignments) :
    ∃ own ∈ rules.given row column, value.sameValue own = true := by
  have matching : rule ∈ rules.matching row := List.mem_filter.mpr ⟨present, holds⟩
  exact (Proposal.distinct_spec _).2.2 value
    (Proposal.mem_valuesOf_iff.mpr (List.mem_flatMap.mpr ⟨rule, matching, within⟩))

/-- Rules give a row the one value given to a column, report a column that is
given several, and ignore a single value for a name that is no column. -/
structure Decided (rules : CompiledRules) (row : Row) (evaluation : Evaluation) : Prop where
  ascending : evaluation.assignments.Ascending
  ascendingConflicts : evaluation.conflicts.Ascending
  assigned : ∀ index value, evaluation.assignments.find? index = some value ↔
    ∃ column, rules.schema.indexOf? column = some index ∧ rules.given row column = [value]
  conflicting : ∀ column values, evaluation.conflicts.find? column = some values ↔
    rules.given row column = values ∧ 2 ≤ values.length
  ignored : ∀ column, column ∈ evaluation.ignored ↔
    rules.schema.indexOf? column = none ∧ (rules.given row column).length = 1

/-- A column that is given something has one proposal, for just that. -/
theorem exists_proposal {rules : CompiledRules} {row : Row}
    (gathered : Proposal.Gathered ((rules.matching row).flatMap CompiledRule.assignments)
      (rules.proposals row)) {column : String} (some : rules.given row column ≠ []) :
    ∃ proposal ∈ rules.proposals row, proposal.column = column ∧
      proposal.values = rules.given row column := by
  obtain ⟨value, present⟩ := List.exists_mem_of_ne_nil _ some
  have assigned := Proposal.mem_valuesOf_iff.mp ((Proposal.distinct_spec _).2.1 present)
  obtain ⟨proposal, member, rfl⟩ :=
    List.mem_map.mp ((gathered.memColumns column).mpr ⟨value, assigned⟩)
  exact ⟨proposal, member, rfl, gathered.values proposal member⟩

theorem decided (rules : CompiledRules) (row : Row) : rules.Decided row (rules.evaluate row) := by
  have gathered : Proposal.Gathered ((rules.matching row).flatMap CompiledRule.assignments)
      (rules.proposals row) := Proposal.gathered _
  have decides := Evaluation.decides rules.schema gathered.nodup
  refine ⟨decides.ascending, decides.ascendingConflicts, ?_, ?_, ?_⟩
  · intro index value
    refine (decides.assigned index value).trans ⟨?_, ?_⟩
    · rintro ⟨proposal, member, found, single⟩
      exact ⟨proposal.column, found, (gathered.values proposal member).symm.trans single⟩
    · rintro ⟨column, found, single⟩
      obtain ⟨proposal, member, rfl, same⟩ :=
        exists_proposal gathered (single ▸ List.cons_ne_nil _ _)
      exact ⟨proposal, member, found, same.trans single⟩
  · intro column values
    refine (decides.conflicting column values).trans ⟨?_, ?_⟩
    · rintro ⟨proposal, member, rfl, same, many⟩
      exact ⟨(gathered.values proposal member).symm.trans same, many⟩
    · rintro ⟨rfl, many⟩
      obtain ⟨proposal, member, rfl, same⟩ := exists_proposal gathered
        (List.ne_nil_of_length_pos (Nat.lt_of_lt_of_le Nat.zero_lt_two many))
      exact ⟨proposal, member, rfl, same, many⟩
  · intro column
    refine (decides.ignored column).trans ⟨?_, ?_⟩
    · rintro ⟨proposal, member, rfl, single, absent⟩
      exact ⟨absent, (congrArg List.length (gathered.values proposal member)).symm.trans single⟩
    · rintro ⟨absent, single⟩
      obtain ⟨proposal, member, rfl, same⟩ :=
        exists_proposal gathered (List.ne_nil_of_length_eq_add_one single)
      exact ⟨proposal, member, rfl, (congrArg List.length same).trans single, absent⟩

theorem find?_assignments_iff (rules : CompiledRules) (row : Row) {column : String} {index : Nat}
    (found : rules.schema.indexOf? column = some index) (value : Entry) :
    (rules.evaluate row).assignments.find? index = some value ↔
      rules.given row column = [value] := by
  rw [(rules.decided row).assigned]
  constructor
  · rintro ⟨name, there, single⟩
    rw [Schema.column_unique found there]
    exact single
  · intro single
    exact ⟨column, found, single⟩

end CompiledRules

/-! ## Applying rules

A value is assigned to a position when it is the one value that the matching
rules give to the column there. Applying rewrites every row by its own
assignments and succeeds exactly when all rewritten rows fit the schema. -/

/-! ### Rows that are overwritten -/

namespace Row

theorem size_overwrite (row : Row) (assignments : OrderedMap Nat Entry) :
    (row.overwrite assignments).size = row.size := by
  obtain ⟨pairs⟩ := assignments
  unfold Row.overwrite
  dsimp only
  induction pairs generalizing row with
  | nil => rfl
  | cons pair pairs ih =>
      rw [List.foldl_cons, ih]
      exact List.length_set

theorem get?_overwrite {row : Row} {assignments : OrderedMap Nat Entry} {index : Nat}
    (elsewhere : index ∉ assignments.keys) :
    (row.overwrite assignments).get? index = row.get? index := by
  obtain ⟨pairs⟩ := assignments
  unfold Row.overwrite
  unfold OrderedMap.keys at elsewhere
  dsimp only at elsewhere ⊢
  induction pairs generalizing row with
  | nil => rfl
  | cons pair pairs ih =>
      rw [List.map_cons, List.mem_cons, not_or] at elsewhere
      obtain ⟨differ, others⟩ := elsewhere
      rw [List.foldl_cons, ih others]
      exact List.getElem?_set_ne (Ne.symm differ)

theorem get?_overwrite_of_mem {row : Row} {assignments : OrderedMap Nat Entry} {index : Nat}
    {value : Entry} (nodup : assignments.keys.Nodup) (member : (index, value) ∈ assignments.pairs) :
    (row.overwrite assignments).get? index = (row.get? index).map fun _ => value := by
  obtain ⟨pairs⟩ := assignments
  unfold OrderedMap.keys at nodup
  dsimp only at nodup member
  induction pairs generalizing row with
  | nil => cases member
  | cons pair pairs ih =>
      rw [List.map_cons, List.nodup_cons] at nodup
      obtain ⟨fresh, others⟩ := nodup
      rcases List.mem_cons.mp member with rfl | later
      · have kept : ((row.set index value).overwrite ⟨pairs⟩).get? index =
            (row.set index value).get? index := get?_overwrite fresh
        exact kept.trans List.getElem?_set_self'
      · have differ : pair.1 ≠ index := by
          rintro rfl
          exact fresh (List.mem_map.mpr ⟨(pair.1, value), later, rfl⟩)
        have written : ((row.set pair.1 pair.2).overwrite ⟨pairs⟩).get? index =
            ((row.set pair.1 pair.2).get? index).map fun _ => value := ih others later
        have kept : (row.set pair.1 pair.2).get? index = row.get? index :=
          List.getElem?_set_ne differ
        rw [kept] at written
        exact written

theorem get?_overwrite_eq {row : Row} {assignments : OrderedMap Nat Entry}
    (ascending : assignments.Ascending) (index : Nat) :
    (row.overwrite assignments).get? index =
      (row.get? index).map fun entry => (assignments.find? index).getD entry := by
  cases found : assignments.find? index with
  | some value =>
      exact get?_overwrite_of_mem ascending.nodup_keys
        ((OrderedMap.find?_eq_some_iff ascending).mp found)
  | none =>
      have absent : index ∉ assignments.keys := by
        intro present
        obtain ⟨⟨_, value⟩, member, rfl⟩ := List.mem_map.mp present
        rw [(OrderedMap.find?_eq_some_iff ascending).mpr member] at found
        cases found
      rw [get?_overwrite absent]
      exact Option.map_id'.symm

end Row

/-! ### Stores that are rewritten -/

namespace CompiledRules

theorem mem_assignments {rules : CompiledRules} {row : Row} {index : Nat} {value : Entry}
    (assigned : (index, value) ∈ (rules.evaluate row).assignments.pairs) :
    ∃ rule ∈ rules.rules, rule.matchesRow row = true ∧ ∃ column,
      rules.schema.indexOf? column = some index ∧ (column, value) ∈ rule.assignments := by
  have decided := rules.decided row
  have found := (OrderedMap.find?_eq_some_iff decided.ascending).mpr assigned
  obtain ⟨column, position, single⟩ := (decided.assigned index value).mp found
  have given : value ∈ rules.given row column := by
    rw [single]
    exact List.mem_singleton_self value
  obtain ⟨rule, present, holds, within⟩ := exists_rule_of_mem_given given
  exact ⟨rule, present, holds, column, position, within⟩

def rewritten (rules : CompiledRules) (row : Row) : Row :=
  row.overwrite (rules.evaluate row).assignments

def diagnostics (rules : CompiledRules) (position : Nat) (rows : List Row) : List Diagnostic :=
  (rows.zipIdx position).flatMap fun (row, index) =>
    Diagnostic.ofEvaluation index (rules.evaluate row)

theorem applyFrom_eq_ok_iff {rules : CompiledRules} {position : Nat} {done result : Application}
    {rows : List Row} :
    rules.applyFrom position done rows = .ok result ↔
      (∀ row ∈ rows, (rules.rewritten row).Conforms done.store.schema) ∧
        result = ⟨⟨done.store.schema, done.store.rows ++ rows.map rules.rewritten⟩,
          done.diagnostics ++ rules.diagnostics position rows⟩ := by
  induction rows generalizing position done with
  | nil => simp [applyFrom, diagnostics, eq_comm]
  | cons row rows ih =>
      rw [applyFrom, ← rewritten]
      cases taken : done.store.ingest (rules.rewritten row) with
      | error problem =>
          have refused : ¬ (rules.rewritten row).Conforms done.store.schema :=
            Outcome.not_of_error taken fun conforms =>
              ⟨_, Store.ingest_eq_ok_iff.mpr ⟨conforms, rfl⟩⟩
          simp [refused]
      | ok store =>
          obtain ⟨conforms, rfl⟩ := Store.ingest_eq_ok_iff.mp taken
          simp [ih, conforms, diagnostics]

/-- Rules apply exactly when the rewritten rows fit, and rewrite every row in
its place. -/
theorem apply_eq_ok_iff {rules : CompiledRules} {store : Store} {result : Application} :
    rules.apply store = .ok result ↔
      store.schema = rules.schema ∧
        (∀ row ∈ store.rows, (rules.rewritten row).Conforms rules.schema) ∧
        result = ⟨⟨rules.schema, store.rows.map rules.rewritten⟩,
          rules.diagnostics 0 store.rows⟩ := by
  unfold apply
  by_cases same : store.schema = rules.schema
  · rw [if_pos same, applyFrom_eq_ok_iff, and_iff_right same]
    rfl
  · rw [if_neg same]
    exact iff_of_false nofun fun both => same both.1

end CompiledRules

end Passbook
