/-
The stages of a run. Sources are parsed in order, up to the first that cannot
be parsed. A run goes through exactly when all its stages do. Of these a rule
pass always does over rows that fit its schema, whatever the rules, and writes
none but the assignable columns.
-/

import Passbook.Pipeline
import Passbook.Proofs.Rule.Soundness
import Passbook.Proofs.Store

namespace Passbook

/-! ## Rules for the last column

Rules that write the last column of a widened row. They leave the row as it was
before, and its last cell gets the one text that the matching rules propose; it
keeps its default when they propose none or several. -/

theorem Entry.eq_of_sameValue_text {entry : Entry} {text : String}
    (same : entry.sameValue (.text text) = true) : entry = .text text := by
  cases entry with
  | text value => exact congrArg Entry.text (eq_of_beq same)
  | date value => cases same
  | dollars value => cases same

theorem Entry.exists_text_of_kind {entry : Entry} (ofKind : entry.kind = .text) :
    ∃ text, entry = .text text := by
  cases entry with
  | text value => exact ⟨value, rfl⟩
  | date value => cases ofKind
  | dollars value => cases ofKind

namespace Row

theorem get?_extended_self (row : Row) (entry : Entry) :
    (row.extended entry).get? row.size = some entry :=
  List.getElem?_concat_length

/-- A row that differs from a widened one in the last cell only is widened by
another entry. -/
theorem eq_extended {row changed : Row} {entry last : Entry}
    (kept : ∀ index, index ≠ row.size → changed.get? index = (row.extended entry).get? index)
    (atEnd : changed.get? row.size = some last) : changed = row.extended last := by
  rw [Row.mk.injEq]
  apply List.ext_getElem?
  intro index
  by_cases same : index = row.size
  · rw [same]
    exact atEnd.trans (row.get?_extended_self last).symm
  · refine (kept index same).trans ?_
    unfold extended get?
    dsimp only
    rw [List.getElem?_append, List.getElem?_append]
    split
    · rfl
    · rename_i behind
      have beyond : 1 ≤ index - row.entries.length := by
        unfold size at same
        omega
      rw [List.getElem?_eq_none beyond, List.getElem?_eq_none beyond]

end Row

namespace CompiledRules

variable {rules : CompiledRules} {row : Row} {column : String}

/-- A rule that matches a row proposes a value for a column. -/
def Proposes (rules : CompiledRules) (row : Row) (column : String) (value : Entry) : Prop :=
  ∃ rule ∈ rules.rules, rule.matchesRow row = true ∧ (column, value) ∈ rule.assignments

/-- Just one text is given when it is proposed and nothing else is. -/
theorem given_eq_text_iff {text : String} :
    rules.given row column = [.text text] ↔
      ∀ value, rules.Proposes row column value ↔ value = .text text := by
  constructor
  · intro single value
    constructor
    · rintro ⟨rule, present, holds, within⟩
      obtain ⟨own, given, same⟩ := exists_given present holds within
      rw [single, List.mem_singleton] at given
      rw [given] at same
      exact Entry.eq_of_sameValue_text same
    · rintro rfl
      exact exists_rule_of_mem_given (single ▸ List.mem_singleton_self _)
  · intro only
    have same : ∀ value ∈ rules.given row column, value = .text text := by
      intro value given
      exact (only value).mp (exists_rule_of_mem_given given)
    obtain ⟨rule, present, holds, within⟩ := (only (.text text)).mpr rfl
    obtain ⟨own, given, _⟩ := exists_given present holds within
    have apart : Proposal.Apart (rules.given row column) := (Proposal.distinct_spec _).1
    rcases values : rules.given row column with _ | ⟨first, _ | ⟨second, others⟩⟩
    · rw [values] at given
      cases given
    · rw [values] at same
      rw [same first List.mem_cons_self]
    · rw [values] at same apart
      have differ := (List.pairwise_cons.mp apart).1 second List.mem_cons_self
      rw [same first List.mem_cons_self,
        same second (List.mem_cons_of_mem _ List.mem_cons_self), Entry.sameValue_refl] at differ
      cases differ

/-- The text that a column ends with: what is proposed, if just one text is, and
its default else. -/
def Settles (rules : CompiledRules) (row : Row) (column default text : String) : Prop :=
  (∀ only, (∀ value, rules.Proposes row column value ↔ value = .text only) → text = only) ∧
    ((∀ only, ¬ ∀ value, rules.Proposes row column value ↔ value = .text only) → text = default)

theorem rewritten_extended_eq (assigns : ∀ rule ∈ rules.rules, rule.AssignsOnly [column] rules.schema)
    (last : rules.schema.indexOf? column = some row.size) {default entry : Entry}
    (written : ((rules.evaluate (row.extended default)).assignments.find? row.size).getD default =
      entry) :
    rules.rewritten (row.extended default) = row.extended entry := by
  have kept (index : Nat) (elsewhere : index ≠ row.size) :
      (rules.rewritten (row.extended default)).get? index = (row.extended default).get? index := by
    apply get?_rewritten assigns
    intro name among found
    rw [List.mem_singleton.mp among, last, Option.some.injEq] at found
    exact elsewhere found.symm
  refine Row.eq_extended kept ?_
  rw [rewritten, Row.get?_overwrite_eq (rules.decided _).ascending, row.get?_extended_self,
    Option.map_some, written]

theorem settles_of_none {wide : Row} {column default : String}
    (undecided : ∀ text, rules.given wide column ≠ [.text text]) :
    rules.Settles wide column default default := by
  refine ⟨?_, fun _ => rfl⟩
  intro only proposed
  exact absurd (given_eq_text_iff.mpr proposed) (undecided only)

theorem settles_of_given {wide : Row} {column default text : String}
    (single : rules.given wide column = [.text text]) :
    rules.Settles wide column default text := by
  refine ⟨?_, ?_⟩
  · intro only proposed
    have given := given_eq_text_iff.mpr proposed
    rw [single] at given
    cases given
    rfl
  · intro undecided
    exact absurd (given_eq_text_iff.mp single) (undecided text)

theorem rewritten_extended (sound : ∀ rule ∈ rules.rules, rule.Sound rules.schema)
    (assigns : ∀ rule ∈ rules.rules, rule.AssignsOnly [column] rules.schema)
    (last : rules.schema.HasColumn row.size column .text) (default : String) :
    ∃ text, rules.rewritten (row.extended (.text default)) = row.extended (.text text) ∧
      rules.Settles (row.extended (.text default)) column default text := by
  have assigned := rules.find?_assignments_iff (row.extended (.text default)) last.1
  cases found : (rules.evaluate (row.extended (.text default))).assignments.find? row.size with
  | none =>
      refine ⟨default, rewritten_extended_eq assigns last.1 (by rw [found, Option.getD_none]),
        settles_of_none ?_⟩
      intro text single
      rw [(assigned _).mpr single] at found
      cases found
  | some value =>
      have single := (assigned value).mp found
      obtain ⟨rule, present, _, within⟩ :=
        exists_rule_of_mem_given (single ▸ List.mem_singleton_self value)
      obtain ⟨text, rfl⟩ := Entry.exists_text_of_kind
        ((sound rule present).assignments column value .text within last.kindOf?)
      exact ⟨text, rewritten_extended_eq assigns last.1 (by rw [found, Option.getD_some]),
        settles_of_given single⟩

/-- Applied to a widened store, such rules settle the new column of every row. -/
theorem apply_widened (sound : ∀ rule ∈ rules.rules, rule.Sound rules.schema)
    (assigns : ∀ rule ∈ rules.rules, rule.AssignsOnly [column] rules.schema) {schema : Schema}
    (wider : rules.schema = ⟨schema.columns ++ [⟨column, .text⟩]⟩)
    (last : rules.schema.HasColumn schema.size column .text) {rows : List Row}
    (conform : ∀ row ∈ rows, row.Conforms schema) (default : String) :
    ∃ application, rules.apply
        ⟨rules.schema, rows.map fun row => row.extended (.text default)⟩ = .ok application ∧
      List.Forall₂ (fun before after => ∃ text, after = before.extended (.text text) ∧
        rules.Settles (before.extended (.text default)) column default text)
        rows application.store.rows := by
  have fit : ∀ row ∈ rows.map fun row => row.extended (.text default),
      row.Conforms rules.schema := by
    rw [wider]
    exact Store.conform_extended column (.text default) conform
  refine ⟨_, apply_of_sound sound rfl fit, ?_⟩
  rw [List.map_map]
  refine List.forall₂_map_right_iff.mpr (List.forall₂_same.mpr ?_)
  intro row member
  rw [← (conform row member).size_eq] at last
  exact rewritten_extended sound assigns last default

end CompiledRules

/-! ## Stages -/

namespace Fetched

def Parses (fetched : Fetched) : Prop :=
  (∃ store, fetched.source.parseTransactions fetched.raw = .ok store) ∧
    ∃ accounts, fetched.source.parseAccounts fetched.raw = .ok accounts

def Fails (fetched : Fetched) (error : SourceError) : Prop :=
  fetched.source.parseTransactions fetched.raw = .error error ∨
    (∃ store, fetched.source.parseTransactions fetched.raw = .ok store) ∧
      fetched.source.parseAccounts fetched.raw = .error error

theorem Parses.not_fails {fetched : Fetched} (parses : fetched.Parses) (error : SourceError) :
    ¬ fetched.Fails error := by
  obtain ⟨⟨store, transactions⟩, accounts, owned⟩ := parses
  rintro (failed | ⟨_, failed⟩)
  · rw [transactions] at failed
    cases failed
  · rw [owned] at failed
    cases failed

end Fetched

namespace Pipeline

/-- One source cannot be parsed, and all before it can. -/
def StopsAt (sources : List Fetched) (error : SourceError) : Prop :=
  ∃ before fetched after, sources = before ++ fetched :: after ∧
    (∀ earlier ∈ before, earlier.Parses) ∧ fetched.Fails error

private theorem stopsAt_cons_iff {fetched : Fetched} {rest : List Fetched}
    {error : SourceError} :
    StopsAt (fetched :: rest) error ↔
      fetched.Fails error ∨ fetched.Parses ∧ StopsAt rest error :=
  Outcome.exists_first_cons_iff

theorem gather_eq_error_iff {sources : List Fetched} {error : SourceError} :
    gather sources = .error error ↔ StopsAt sources error := by
  induction sources with
  | nil =>
      refine iff_of_false nofun ?_
      rintro ⟨before, fetched, after, split, _⟩
      cases before <;> cases split
  | cons fetched rest ih =>
      rw [stopsAt_cons_iff, gather, Fetched.Fails, Fetched.Parses]
      cases transactions : fetched.source.parseTransactions fetched.raw with
      | error problem => simp
      | ok store =>
          cases accounts : fetched.source.parseAccounts fetched.raw with
          | error problem => simp
          | ok owned =>
              cases others : gather rest with
              | error problem => simp [← ih, others]
              | ok gathered => simp [← ih, others]

private theorem exists_related {α β : Type} {related : α → β → Prop} {first : List α}
    {second : List β} (all : List.Forall₂ related first second) :
    ∀ item ∈ first, ∃ other ∈ second, related item other := by
  induction all with
  | nil => exact fun _ absent => (nomatch absent)
  | @cons head own first second here _ ih =>
      refine List.forall_mem_cons.mpr ⟨⟨own, List.mem_cons_self, here⟩, ?_⟩
      intro item member
      obtain ⟨other, present, there⟩ := ih item member
      exact ⟨other, List.mem_cons_of_mem _ present, there⟩

theorem gather_eq_ok_iff {sources : List Fetched} {stores : List Store}
    {owned : List (String × List String)} :
    gather sources = .ok (stores, owned) ↔
      List.Forall₂ (fun fetched store =>
        fetched.source.parseTransactions fetched.raw = .ok store) sources stores ∧
      List.Forall₂ (fun fetched entry => ∃ accounts,
        fetched.source.parseAccounts fetched.raw = .ok accounts ∧
          entry = (fetched.source.name, accounts.members)) sources owned := by
  induction sources generalizing stores owned with
  | nil => simp [gather, eq_comm]
  | cons fetched rest ih =>
      rw [gather, List.forall₂_cons_left_iff, List.forall₂_cons_left_iff]
      cases transactions : fetched.source.parseTransactions fetched.raw with
      | error problem => simp
      | ok store =>
          cases accounts : fetched.source.parseAccounts fetched.raw with
          | error problem => simp
          | ok own =>
              cases others : gather rest with
              | error problem =>
                  refine iff_of_false nofun ?_
                  rintro ⟨⟨_, stores, _, parsed, _⟩, _, owned, _, listed, _⟩
                  rw [ih.mpr ⟨parsed, listed⟩] at others
                  cases others
              | ok gathered =>
                  obtain ⟨otherStores, otherOwned⟩ := gathered
                  have both := ih.mp others
                  constructor
                  · intro same
                    cases same
                    exact ⟨⟨store, otherStores, rfl, both.1, rfl⟩,
                      _, otherOwned, ⟨own, rfl, rfl⟩, both.2, rfl⟩
                  · rintro ⟨⟨_, stores, same, parsed, rfl⟩, _, owned, ⟨_, found, rfl⟩, listed, rfl⟩
                    rw [ih.mpr ⟨parsed, listed⟩] at others
                    cases others
                    cases same
                    cases found
                    rfl

theorem exists_gather {sources : List Fetched} (parse : ∀ fetched ∈ sources, fetched.Parses) :
    ∃ stores owned, gather sources = .ok (stores, owned) := by
  cases gathered : gather sources with
  | ok both => exact ⟨both.1, both.2, rfl⟩
  | error problem =>
      obtain ⟨before, failing, after, rfl, _, fails⟩ := gather_eq_error_iff.mp gathered
      exact absurd fails ((parse failing (by simp)).not_fails problem)

theorem parses_of_gather {sources : List Fetched} {stores : List Store}
    {owned : List (String × List String)} (gathered : gather sources = .ok (stores, owned)) :
    ∀ fetched ∈ sources, fetched.Parses := by
  obtain ⟨parsed, listed⟩ := gather_eq_ok_iff.mp gathered
  intro fetched member
  obtain ⟨store, _, transactions⟩ := exists_related parsed fetched member
  obtain ⟨_, _, accounts, found, _⟩ := exists_related listed fetched member
  exact ⟨⟨store, transactions⟩, accounts, found⟩

theorem mem_stores_iff {sources : List Fetched} {stores : List Store}
    {owned : List (String × List String)} (gathered : gather sources = .ok (stores, owned))
    {store : Store} :
    store ∈ stores ↔
      ∃ fetched ∈ sources, fetched.source.parseTransactions fetched.raw = .ok store := by
  obtain ⟨parsed, _⟩ := gather_eq_ok_iff.mp gathered
  constructor
  · intro member
    exact exists_related parsed.flip store member
  · rintro ⟨fetched, member, transactions⟩
    obtain ⟨other, present, found⟩ := exists_related parsed fetched member
    rw [transactions, Except.ok.injEq] at found
    rw [found]
    exact present

/-! ### Rule passes -/

theorem exists_rulePass (compiler : Compiler) (rules : Option String) {store : Store}
    (ofSchema : store.schema = compiler.schema)
    (conform : ∀ row ∈ store.rows, row.Conforms store.schema) :
    ∃ after report, rulePass compiler rules store = .ok (after, report) ∧
      after.schema = store.schema ∧ ∀ row ∈ after.rows, row.Conforms after.schema := by
  cases rules with
  | none => exact ⟨store, {}, rfl, rfl, conform⟩
  | some text =>
      have sound : ∀ rule ∈ (compiler.compile text).rules.rules, rule.Sound compiler.schema :=
        Compiler.sound_of_compile
      have applies : (compiler.compile text).rules.apply store = .ok _ :=
        CompiledRules.apply_of_sound sound ofSchema conform
      refine ⟨_, _, by rw [rulePass, applies], ofSchema.symm, ?_⟩
      intro row member
      obtain ⟨source, present, rfl⟩ := List.mem_map.mp member
      rw [ofSchema] at conform
      exact CompiledRules.conforms_rewritten sound (conform source present)

/-- A rule pass keeps the rows in their places, and all but the assignable
columns. -/
theorem agree_of_rulePass {compiler : Compiler} {allowed : List String}
    (restricted : compiler.assignable = some allowed) {rules : Option String}
    {before after : Store} {report : PassReport}
    (passed : rulePass compiler rules before = .ok (after, report)) :
    after.schema = before.schema ∧
      List.Forall₂ (fun row changed => row.AgreeOutside changed before.schema allowed)
        before.rows after.rows := by
  cases rules with
  | none =>
      cases passed
      refine ⟨rfl, List.forall₂_same.mpr ?_⟩
      intro row _
      exact ⟨rfl, fun _ _ _ _ => rfl⟩
  | some text =>
      unfold rulePass at passed
      dsimp only at passed
      split at passed
      · cases passed
      · rename_i application applied
        cases passed
        have agree :=
          CompiledRules.agree_of_apply (Compiler.assignsOnly_of_compile restricted) applied
        obtain ⟨ofSchema, _, same⟩ := CompiledRules.apply_eq_ok_iff.mp applied
        rw [ofSchema]
        exact ⟨congrArg (Store.schema ∘ Application.store) same, agree⟩

/-! ### Whole runs -/

theorem widen_base {store : Store} (base : store.schema = Schema.base) (category : String) :
    store.widen Schema.category (.text category) =
      .ok ⟨Schema.categorized, store.rows.map fun row => row.extended (.text category)⟩ := by
  unfold Store.widen
  rw [base]
  rfl

/-- The stores that the stages of a run make, each out of the one before. -/
structure Stages (pipeline : Pipeline) (stores : List Store)
    (owned : List (String × List String)) (widened : Store) (out : PipelineOutput) : Prop where
  gathered : gather pipeline.sources = .ok (stores, owned)
  banks : out.banks = BankAccounts.ofList owned
  joined : Store.concat Schema.base stores = .ok out.ingested
  cleaned : rulePass ⟨Schema.base, some firstPassColumns⟩ pipeline.firstPassRules out.ingested =
    .ok (out.cleaned, out.firstPass)
  reconciled : out.cleaned.deduplicate out.banks = .ok out.deduplicated
  wider : out.deduplicated.widen Schema.category (.text pipeline.defaultCategory) = .ok widened
  categorized : rulePass ⟨Schema.categorized, some categoryColumns⟩ pipeline.categoryRules
    widened = .ok (out.categorized, out.categories)

theorem run_eq_ok_iff {pipeline : Pipeline} {out : PipelineOutput} :
    pipeline.run = .ok out ↔
      ∃ stores owned widened, pipeline.Stages stores owned widened out := by
  constructor
  · intro ran
    unfold run at ran
    dsimp only at ran
    split at ran
    · cases ran
    · rename_i stores owned gathered
      split at ran
      · cases ran
      · rename_i ingested joined
        split at ran
        · cases ran
        · rename_i cleaned firstPass passed
          split at ran
          · cases ran
          · rename_i deduplicated reconciled
            split at ran
            · cases ran
            · rename_i widened wider
              split at ran
              · cases ran
              · rename_i categorized categories given
                cases ran
                exact ⟨stores, owned, widened, gathered, rfl, joined, passed, reconciled, wider,
                  given⟩
  · rintro ⟨stores, owned, widened, stages⟩
    have reconciled := stages.reconciled
    rw [stages.banks] at reconciled
    unfold run
    simp only [stages.gathered, stages.joined, stages.cleaned, reconciled, stages.wider,
      stages.categorized]
    rw [← stages.banks]

end Pipeline

end Passbook
