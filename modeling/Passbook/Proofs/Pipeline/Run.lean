/-
Runs of a pipeline: which ones stop, which balances they end with, and what they
write into the rows.
-/

import Mathlib.Algebra.Order.BigOperators.Group.List
import Passbook.Proofs.Pipeline.Gathering
import Passbook.Proofs.Pipeline.Stages
import Passbook.Proofs.Reconcile.Reconciled
import Passbook.Proofs.Source.Static

namespace Passbook

/-! ## Balances

Widening adds a cell behind all others and the category rules write that cell
alone, so the final store moves what the reconciled one moves. With sources that
do not contradict each other a run succeeds, and every account ends with the
balance that its own source gives it, which is the reported one where the source
reports a balance. -/

namespace Store

private theorem filterMap_eq_of_forall₂ {α β : Type} {read : α → Option β} {first second : List α}
    (alike : List.Forall₂ (fun a b => read b = read a) first second) :
    second.filterMap read = first.filterMap read := by
  induction alike with
  | nil => rfl
  | cons same _ ih => rw [List.filterMap_cons, List.filterMap_cons, same, ih]

private theorem same_movements {store after : Store} (base : store.schema = Schema.base)
    (widened : after.schema = Schema.categorized)
    (kept : List.Forall₂ (fun row changed => ∀ index < 6, changed.get? index = row.get? index)
      store.rows after.rows) :
    after.movements = store.movements ∧ after.amounts = store.amounts := by
  obtain ⟨schema, others⟩ := after
  obtain ⟨own, rows⟩ := store
  change own = Schema.base at base
  change schema = Schema.categorized at widened
  subst base widened
  constructor
  · change others.filterMap (Movement.ofRow? 1 2 5) = rows.filterMap (Movement.ofRow? 1 2 5)
    apply filterMap_eq_of_forall₂
    refine kept.imp ?_
    intro row changed same
    rw [Movement.ofRow?, same 5 (by decide), same 2 (by decide), same 1 (by decide)]
    rfl
  · change (others.filterMap fun row => row.get? 5).map Movement.amountOf =
      (rows.filterMap fun row => row.get? 5).map Movement.amountOf
    congr 1
    apply filterMap_eq_of_forall₂
    exact kept.imp fun row changed same => same 5 (by decide)

end Store

namespace Pipeline

private theorem exists_other_column {index : Nat} (below : index < 6) :
    ∃ column, Schema.categorized.columns[index]? = some column ∧
      column.name ∉ categoryColumns := by
  have named : ∀ index < 6, (Schema.categorized.columns[index]?).any
      (fun column => decide (column.name ∉ categoryColumns)) = true := by
    decide
  obtain ⟨column, present, other⟩ := (Option.any_eq_true _ _).mp (named index below)
  exact ⟨column, present, of_decide_eq_true other⟩

/-- Widening by the category and the category pass keep what a store moves. -/
theorem categorize_keeps (rules : Option String) (category : String) {store : Store}
    (base : store.schema = Schema.base)
    (conform : ∀ row ∈ store.rows, row.Conforms store.schema) :
    ∃ widened after report, store.widen Schema.category (.text category) = .ok widened ∧
      rulePass ⟨Schema.categorized, some categoryColumns⟩ rules widened = .ok (after, report) ∧
      after.schema = Schema.categorized ∧ (∀ row ∈ after.rows, row.Conforms after.schema) ∧
      after.movements = store.movements ∧ after.amounts = store.amounts := by
  rw [base] at conform
  let widened : Store :=
    ⟨Schema.categorized, store.rows.map fun row => row.extended (.text category)⟩
  have fit : ∀ row ∈ widened.rows, row.Conforms widened.schema :=
    Store.conform_extended Schema.category (.text category) conform
  obtain ⟨after, report, passed, sameSchema, finalFit⟩ :=
    exists_rulePass ⟨Schema.categorized, some categoryColumns⟩ rules rfl fit
  obtain ⟨_, agree⟩ := agree_of_rulePass rfl passed
  refine ⟨widened, after, report, widen_base base category, passed, sameSchema, finalFit, ?_⟩
  refine Store.same_movements base sameSchema ?_
  have kept := (List.forall₂_and_left _ _).mpr ⟨conform, List.forall₂_map_left_iff.mp agree⟩
  refine kept.imp ?_
  rintro row changed ⟨conforms, agrees⟩ index below
  have size : row.entries.length = 6 := conforms.size_eq
  obtain ⟨column, present, other⟩ := exists_other_column below
  rw [agrees.get?_eq index column present other]
  exact List.getElem?_append_left (by omega)

/-- A run over sources that do not contradict each other succeeds for any
category rules and any default category. In the final store every account has
the balance that it has in the store of its own source, and the balance that
its source reports, if it reports one. -/
theorem balance_run {fetches : List StaticFetch} (consistent : StaticFetch.Consistent fetches)
    (categoryRules : Option String) (defaultCategory : String) :
    ∃ out, run ⟨fetches.map StaticFetch.fetched, none, categoryRules, defaultCategory⟩ = .ok out ∧
      ∀ fetch ∈ fetches, ∀ account ∈ fetch.accounts, ∃ balance own,
        out.categorized.balance account = .ok balance ∧
          fetch.store.balance account = .ok own ∧ balance.sameValue own = true ∧
          ∀ text, fetch.payload.balances.find? account = some text →
            ∃ reported, StaticPayload.statedBalance? text = some reported ∧
              balance.sameValue reported = true := by
  have conform : ∀ row ∈ (StaticFetch.ingested fetches).rows,
      row.Conforms (StaticFetch.ingested fetches).schema := consistent.conform
  obtain ⟨reports, read⟩ := Report.exists_ofRows? StaticFetch.baseColumns_of_base conform
  obtain ⟨deduplicated, reconciled, schema, conformAfter, sums⟩ := Store.deduplicate_of_vouched
    (BankAccounts.wellFormed_ofList (StaticFetch.owned fetches)) consistent.exclusive
    consistent.unmarked conform StaticFetch.baseColumns_of_base read (consistent.vouched read)
  obtain ⟨summable, nets⟩ := sums 2 consistent.summable
  obtain ⟨widened, categorized, categories, widen, passed, finalSchema, finalConform,
    sameMovements, sameAmounts⟩ :=
      categorize_keeps categoryRules defaultCategory schema conformAfter
  refine ⟨⟨StaticFetch.ingested fetches, StaticFetch.ingested fetches, deduplicated, categorized,
    BankAccounts.ofList (StaticFetch.owned fetches), {}, categories⟩, ?_, ?_⟩
  · apply run_eq_ok_iff.mpr
    exact ⟨_, _, widened,
      { gathered := StaticFetch.gather_fetched fetches
        banks := rfl
        joined := consistent.concat
        cleaned := rfl
        reconciled := reconciled
        wider := widen
        categorized := passed }⟩
  · intro fetch member account listed
    have finalColumns : ∀ name ∈ Store.movementColumns, name ∈ categorized.schema.names := by
      rw [finalSchema]
      decide
    rw [← sameAmounts] at summable
    obtain ⟨balance, computed, denotes⟩ :=
      Store.balance_denotes finalConform finalColumns summable account
    obtain ⟨own, ownComputed, ownDenotes⟩ := consistent.exists_balance member account
    have total : categorized.net 2 account = fetch.store.net 2 account := by
      rw [Store.net, sameMovements]
      exact (nets fetch.name account ((consistent.owns_iff member).mpr listed)).trans
        (consistent.sum_ownNet read member listed)
    rw [total] at denotes
    refine ⟨balance, own, computed, ownComputed, (denotes.sameValue_iff ownDenotes).mpr rfl, ?_⟩
    intro text found
    obtain ⟨reported, stated, reportedDenotes⟩ := consistent.exists_reported member found
    exact ⟨reported, stated, (denotes.sameValue_iff reportedDenotes).mpr rfl⟩

end Pipeline

/-- A bank that reports a transfer to another bank and a balance that needs a
correction. -/
def StaticFetch.acme : StaticFetch :=
  let payload : StaticPayload :=
    ⟨["checking", "joint"], [⟨"checking", "savings", "2024/01/05", "transfer", "5.00"⟩],
      ⟨[("checking", "$20")]⟩, none⟩
  let sent : Dollars := .ofMagnitude ((Decimal.make? 500 2).getD .zero)
  let correction : Dollars := .ofMagnitude ((Decimal.make? 2500 2).getD .zero)
  { source := .ofPayload "Acme" payload
    raw := payload.encode
    payload := payload
    store := ⟨.base, [.base "Acme" "checking" "savings" ⟨2024, 1, 5⟩ "transfer" sent,
      .base "Acme" "Universe" "checking" ⟨2024, 1, 5⟩ "Balance correction" correction]⟩
    decoded := by decide +kernel
    parsed := by decide +kernel }

def StaticFetch.birch : StaticFetch :=
  let payload : StaticPayload :=
    ⟨["savings"], [⟨"checking", "savings", "2024/01/05", "from Acme", "$5"⟩], ⟨[]⟩, none⟩
  let received : Dollars := .ofMagnitude ((Decimal.make? 5 0).getD .zero)
  { source := .ofPayload "Birch" payload
    raw := payload.encode
    payload := payload
    store := ⟨.base, [.base "Birch" "checking" "savings" ⟨2024, 1, 5⟩ "from Acme" received]⟩
    decoded := by decide +kernel
    parsed := by decide +kernel }

theorem Pipeline.balance_run_acme_birch :
    ∃ out, Pipeline.run ⟨[StaticFetch.acme, StaticFetch.birch].map StaticFetch.fetched, none,
        some "from == \"checking\", category = \"Transfer\"", "Unknown"⟩ = .ok out ∧
      ∀ fetch ∈ [StaticFetch.acme, StaticFetch.birch], ∀ account ∈ fetch.accounts,
        ∃ balance own, out.categorized.balance account = .ok balance ∧
          fetch.store.balance account = .ok own ∧ balance.sameValue own = true ∧
          ∀ text, fetch.payload.balances.find? account = some text →
            ∃ reported, StaticPayload.statedBalance? text = some reported ∧
              balance.sameValue reported = true := by
  have consistent : StaticFetch.Consistent [StaticFetch.acme, StaticFetch.birch] :=
    { namesNodup := by decide +kernel
      accountsDisjoint := by decide +kernel
      accountsOrdinary := by decide +kernel
      ownTransactions := by decide +kernel
      ownBalances := by decide +kernel
      statedCents := by decide +kernel
      statedTotal := by decide +kernel }
  exact Pipeline.balance_run consistent _ _

/-! ## Written columns

Rules write into assignable columns and nowhere else. The check is made on the
names in a rules text, the writing goes by position, and in between stands the
schema, which has a name at one position only. -/

namespace Pipeline

/-- A compiled rules text can be applied to every store of rows that fit its
schema. Whenever it is applied it keeps the rows and their order, and each row
keeps its entries outside the assignable columns. So a run leaves banks, dates
and amounts as they were ingested, row by row, whatever the first rules. -/
theorem writes_within_assignable :
    (∀ (compiler : Compiler) (allowed : List String) (text : String) (store : Store),
      compiler.assignable = some allowed → store.schema = compiler.schema →
      ((∀ row ∈ store.rows, row.Conforms store.schema) →
        ∃ application, (compiler.compile text).rules.apply store = .ok application) ∧
      ∀ application, (compiler.compile text).rules.apply store = .ok application →
        application.store.schema = store.schema ∧
        List.Forall₂ (fun before after => before.AgreeOutside after store.schema allowed)
          store.rows application.store.rows) ∧
    ∀ (pipeline : Pipeline) (out : PipelineOutput), pipeline.run = .ok out →
      List.Forall₂ (fun before after => ∀ name ∈ [Schema.bank, Schema.date, Schema.amount],
          out.cleaned.field after name = out.ingested.field before name)
        out.ingested.rows out.cleaned.rows := by
  constructor
  · intro compiler allowed text store restricted ofSchema
    constructor
    · intro conform
      exact ⟨_, CompiledRules.apply_of_sound Compiler.sound_of_compile ofSchema conform⟩
    · intro application applied
      have agree :=
        CompiledRules.agree_of_apply (Compiler.assignsOnly_of_compile restricted) applied
      obtain ⟨_, _, same⟩ := CompiledRules.apply_eq_ok_iff.mp applied
      rw [ofSchema]
      exact ⟨congrArg (Store.schema ∘ Application.store) same, agree⟩
  · intro pipeline out ran
    obtain ⟨_, _, _, stages⟩ := run_eq_ok_iff.mp ran
    obtain ⟨sameSchema, agree⟩ := agree_of_rulePass rfl stages.cleaned
    refine agree.imp ?_
    intro before after kept name member
    have other : name ∉ firstPassColumns := by
      revert name
      decide
    exact kept.field_eq sameSchema other

def rentRules : String :=
  "description ~~ \"rent\", to = \"landlord\"\nto = \"x\", amount = $5\nto"

def openingRules : String :=
  "from == \"Universe\", from = \"opening\"\ndate = 2024/01/06"

theorem writes_within_assignable_rent :
    (∃ application, (Compiler.compile ⟨.base, some [Schema.destination]⟩ rentRules).rules.apply
        Store.rent = .ok application ∧ application.store.schema = Store.rent.schema ∧
        List.Forall₂ (fun before after =>
          before.AgreeOutside after Store.rent.schema [Schema.destination])
          Store.rent.rows application.store.rows) ∧
    ∃ out, run ⟨[StaticFetch.acme, StaticFetch.birch].map StaticFetch.fetched,
        some openingRules, none, "Unknown"⟩ = .ok out ∧
      List.Forall₂ (fun before after => ∀ name ∈ [Schema.bank, Schema.date, Schema.amount],
          out.cleaned.field after name = out.ingested.field before name)
        out.ingested.rows out.cleaned.rows := by
  obtain ⟨applies, runs⟩ := writes_within_assignable
  constructor
  · obtain ⟨succeeds, keeps⟩ :=
      applies ⟨.base, some [Schema.destination]⟩ _ rentRules Store.rent rfl rfl
    obtain ⟨application, applied⟩ := succeeds (by decide)
    exact ⟨application, applied, keeps application applied⟩
  · cases ran : run ⟨[StaticFetch.acme, StaticFetch.birch].map StaticFetch.fetched,
        some openingRules, none, "Unknown"⟩ with
    | error problem =>
        have succeeds : (run ⟨[StaticFetch.acme, StaticFetch.birch].map StaticFetch.fetched,
            some openingRules, none, "Unknown"⟩).isOk = true := by
          decide +kernel
        rw [ran] at succeeds
        cases succeeds
    | ok out => exact ⟨out, rfl, runs _ out ran⟩

end Pipeline

/-! ## Stopped runs

What can stop a run, and what a run that is not stopped ends with. The rules
texts cannot stop it, for rules that are no good are left out; only sources and
reconciling can. Of the categorized rows everything but the category is settled
by then, and the category is what the category rules agree on. -/

namespace Pipeline

def firstPassCompiler : Compiler :=
  ⟨Schema.base, some firstPassColumns⟩

def categoryCompiler : Compiler :=
  ⟨Schema.categorized, some categoryColumns⟩

/-- Of the category rules that are accepted one matches a row and gives it a
category. -/
def Proposes (pipeline : Pipeline) (row : Row) (value : Entry) : Prop :=
  ∃ text, pipeline.categoryRules = some text ∧
    (categoryCompiler.compile text).rules.Proposes row Schema.category value

/-- The category of a row: what is proposed, if just one category is, and the
default else. -/
def IsCategory (pipeline : Pipeline) (row : Row) (category : String) : Prop :=
  (∀ only, (∀ value, pipeline.Proposes row value ↔ value = .text only) → category = only) ∧
    ((∀ only, ¬ ∀ value, pipeline.Proposes row value ↔ value = .text only) →
      category = pipeline.defaultCategory)

/-- The errors that stop a run: of the first source that cannot be parsed, of
stores with other columns, or of transfers that are refused. -/
inductive Stopped (pipeline : Pipeline) : PipelineError → Prop where
  | source {error : SourceError} (first : StopsAt pipeline.sources error) :
      Stopped pipeline (.source error)
  | schema {fetched : Fetched} {store : Store}
      (parse : ∀ fetched ∈ pipeline.sources, fetched.Parses) (member : fetched ∈ pipeline.sources)
      (parsed : fetched.source.parseTransactions fetched.raw = .ok store)
      (differs : store.schema ≠ Schema.base) : Stopped pipeline (.schema .schemaMismatch)
  | dedup {stores : List Store} {owned : List (String × List String)} {ingested cleaned : Store}
      {report : PassReport} {error : DedupError}
      (gathered : gather pipeline.sources = .ok (stores, owned))
      (joined : Store.concat Schema.base stores = .ok ingested)
      (passed : rulePass firstPassCompiler pipeline.firstPassRules ingested = .ok (cleaned, report))
      (refused : cleaned.deduplicate (BankAccounts.ofList owned) = .error error)
      (ofTransfers : error.IsRefusal) : Stopped pipeline (.dedup error)

section Passes

variable {pipeline : Pipeline}

/-- Every store that a source parses to has rows that fit it. -/
def SourcesConform (sources : List Fetched) : Prop :=
  ∀ fetched ∈ sources, ∀ store, fetched.source.parseTransactions fetched.raw = .ok store →
    ∀ row ∈ store.rows, row.Conforms store.schema

theorem SourcesConform.concat {sources : List Fetched} (conform : SourcesConform sources)
    {stores : List Store} {owned : List (String × List String)} {ingested : Store}
    (gathered : gather sources = .ok (stores, owned))
    (joined : Store.concat Schema.base stores = .ok ingested) :
    ingested.schema = Schema.base ∧ ∀ row ∈ ingested.rows, row.Conforms ingested.schema := by
  obtain ⟨ofSchema, rfl⟩ := Store.concat_eq_ok_iff.mp joined
  refine ⟨rfl, Store.conform_flatMap ofSchema ?_⟩
  intro store member
  obtain ⟨fetched, present, parsed⟩ := (mem_stores_iff gathered).mp member
  exact conform fetched present store parsed

theorem sourcesConform_of_static {sources : List Fetched}
    (static : ∀ fetched ∈ sources, ∃ source : StaticSource, fetched.source = source.toSource) :
    SourcesConform sources := by
  intro fetched member store parsed
  obtain ⟨source, same⟩ := static fetched member
  rw [same] at parsed
  exact (StaticSource.wellFormed_of_parseTransactions parsed).2

theorem categorize_rows (pipeline : Pipeline) {rows : List Row}
    (conform : ∀ row ∈ rows, row.Conforms Schema.base) :
    ∃ after report, rulePass categoryCompiler pipeline.categoryRules
        ⟨Schema.categorized, rows.map fun row => row.extended (.text pipeline.defaultCategory)⟩ =
          .ok (after, report) ∧
      List.Forall₂ (fun before after => ∃ category, after = before.extended (.text category) ∧
        pipeline.IsCategory (before.extended (.text pipeline.defaultCategory)) category)
        rows after.rows := by
  cases given : pipeline.categoryRules with
  | none =>
      refine ⟨_, {}, rfl, List.forall₂_map_right_iff.mpr (List.forall₂_same.mpr ?_)⟩
      intro row _
      refine ⟨pipeline.defaultCategory, rfl, ?_, fun _ => rfl⟩
      intro only proposed
      obtain ⟨text, present, _⟩ := (proposed (.text only)).mpr rfl
      rw [given] at present
      cases present
  | some text =>
      have sound : ∀ rule ∈ (categoryCompiler.compile text).rules.rules,
          rule.Sound Schema.categorized := Compiler.sound_of_compile
      have assigns : ∀ rule ∈ (categoryCompiler.compile text).rules.rules,
          rule.AssignsOnly [Schema.category] Schema.categorized :=
        Compiler.assignsOnly_of_compile rfl
      obtain ⟨application, applied, settled⟩ := CompiledRules.apply_widened sound assigns rfl
        ⟨rfl, rfl⟩ conform pipeline.defaultCategory
      have applies : (categoryCompiler.compile text).rules.apply
          ⟨Schema.categorized, rows.map fun row => row.extended (.text pipeline.defaultCategory)⟩ =
            .ok application := applied
      refine ⟨_, _, by rw [rulePass, applies], settled.imp ?_⟩
      rintro before after ⟨category, written, settles⟩
      have proposes (row : Row) (value : Entry) : pipeline.Proposes row value ↔
          (categoryCompiler.compile text).rules.Proposes row Schema.category value := by
        unfold Proposes
        rw [given]
        simp
      refine ⟨category, written, ?_⟩
      unfold IsCategory
      simp only [proposes]
      exact settles

/-- The stages behind the sources fail in reconciling alone. -/
theorem exists_stages {sources : List Fetched} (conform : SourcesConform sources)
    {stores : List Store} {owned : List (String × List String)} {ingested : Store}
    (gathered : gather sources = .ok (stores, owned))
    (joined : Store.concat Schema.base stores = .ok ingested) (pipeline : Pipeline) :
    ∃ cleaned firstPass, rulePass firstPassCompiler pipeline.firstPassRules ingested =
        .ok (cleaned, firstPass) ∧
      (∀ banks error, cleaned.deduplicate banks = .error error → error.IsRefusal) ∧
      ∀ banks deduplicated, cleaned.deduplicate banks = .ok deduplicated →
        ∃ widened categorized categories,
          deduplicated.widen Schema.category (.text pipeline.defaultCategory) = .ok widened ∧
          rulePass categoryCompiler pipeline.categoryRules widened =
            .ok (categorized, categories) ∧
          List.Forall₂ (fun before after => ∃ category,
              after = before.extended (.text category) ∧
                pipeline.IsCategory (before.extended (.text pipeline.defaultCategory)) category)
            deduplicated.rows categorized.rows := by
  obtain ⟨ofBase, fit⟩ := conform.concat gathered joined
  obtain ⟨cleaned, firstPass, passed, sameSchema, cleanFit⟩ :=
    exists_rulePass firstPassCompiler pipeline.firstPassRules ofBase fit
  have base : cleaned.schema = Schema.base := sameSchema.trans ofBase
  refine ⟨cleaned, firstPass, passed, ?_, ?_⟩
  · intro banks error failed
    have present : StaticFetch.baseColumns.Of cleaned.schema := by
      rw [base]
      exact StaticFetch.baseColumns_of_base
    exact Store.isRefusal_of_deduplicate present cleanFit failed
  · intro banks deduplicated succeeded
    have wellFormed : cleaned.WellFormed := ⟨base ▸ Schema.base_wellFormed, cleanFit⟩
    obtain ⟨kept, _, finalFit⟩ := wellFormed.deduplicate succeeded
    have finalBase : deduplicated.schema = Schema.base := kept.trans base
    rw [finalBase] at finalFit
    obtain ⟨categorized, categories, categorizes, settled⟩ := categorize_rows pipeline finalFit
    exact ⟨_, categorized, categories, widen_base finalBase pipeline.defaultCategory, categorizes,
      settled⟩

theorem stopped_of_run_eq_error (conform : SourcesConform pipeline.sources)
    {problem : PipelineError} (failed : pipeline.run = .error problem) :
    pipeline.Stopped problem := by
  unfold run at failed
  dsimp only at failed
  split at failed
  · rename_i error gathered
    cases failed
    exact .source (gather_eq_error_iff.mp gathered)
  · rename_i stores owned gathered
    split at failed
    · rename_i mismatch joined
      cases failed
      obtain ⟨⟨store, member, differs⟩, rfl⟩ := Store.concat_eq_error_iff.mp joined
      obtain ⟨fetched, present, parsed⟩ := (mem_stores_iff gathered).mp member
      exact .schema (parses_of_gather gathered) present parsed differs
    · rename_i ingested joined
      obtain ⟨cleaned, firstPass, passed, refusal, later⟩ :=
        exists_stages conform gathered joined pipeline
      unfold firstPassCompiler at passed
      rw [passed] at failed
      dsimp only at failed
      split at failed
      · rename_i error refused
        cases failed
        exact .dedup gathered joined passed refused (refusal _ error refused)
      · rename_i deduplicated succeeded
        obtain ⟨widened, categorized, categories, wider, given, _⟩ := later _ _ succeeded
        unfold categoryCompiler at given
        rw [wider] at failed
        dsimp only at failed
        rw [given] at failed
        cases failed

theorem Stopped.run_eq_error {problem : PipelineError} (stopped : pipeline.Stopped problem) :
    pipeline.run = .error problem := by
  unfold run
  cases stopped with
  | source first =>
      rw [gather_eq_error_iff.mpr first]
  | @schema fetched store parse member parsed differs =>
      obtain ⟨stores, owned, gathered⟩ := exists_gather parse
      have mismatch : Store.concat Schema.base stores = .error .schemaMismatch :=
        Store.concat_eq_error_iff.mpr
          ⟨⟨store, (mem_stores_iff gathered).mpr ⟨fetched, member, parsed⟩, differs⟩, rfl⟩
      rw [gathered]
      dsimp only
      rw [mismatch]
  | dedup gathered joined passed refused ofTransfers =>
      unfold firstPassCompiler at passed
      rw [gathered]
      dsimp only
      rw [joined]
      dsimp only
      rw [passed]
      dsimp only
      rw [refused]

end Passes

/-- A run stops with the error of the first source that cannot be parsed, with a
mismatch of columns when all can, or with a refusal of reconciling. The rule
passes and the widening always go through. A run that goes through ends with the
reconciled rows, each with a category behind it: the one that the accepted
category rules propose, if it is just one, and the default else. -/
theorem run_stops_or_categorizes (pipeline : Pipeline)
    (conform : SourcesConform pipeline.sources) :
    (∀ problem, pipeline.run = .error problem ↔ pipeline.Stopped problem) ∧
    (∀ stores owned ingested, gather pipeline.sources = .ok (stores, owned) →
      Store.concat Schema.base stores = .ok ingested →
      ∃ cleaned firstPass, rulePass firstPassCompiler pipeline.firstPassRules ingested =
          .ok (cleaned, firstPass) ∧
        ∀ deduplicated, cleaned.deduplicate (BankAccounts.ofList owned) = .ok deduplicated →
          ∃ widened categorized categories,
            deduplicated.widen Schema.category (.text pipeline.defaultCategory) = .ok widened ∧
            rulePass categoryCompiler pipeline.categoryRules widened =
              .ok (categorized, categories)) ∧
    ∀ out, pipeline.run = .ok out →
      List.Forall₂ (fun before after => ∃ category, after = before.extended (.text category) ∧
          pipeline.IsCategory (before.extended (.text pipeline.defaultCategory)) category)
        out.deduplicated.rows out.categorized.rows := by
  refine ⟨?_, ?_, ?_⟩
  · intro problem
    exact ⟨stopped_of_run_eq_error conform, Stopped.run_eq_error⟩
  · intro stores owned ingested gathered joined
    obtain ⟨cleaned, firstPass, passed, _, later⟩ :=
      exists_stages conform gathered joined pipeline
    refine ⟨cleaned, firstPass, passed, ?_⟩
    intro deduplicated succeeded
    obtain ⟨widened, categorized, categories, wider, given, _⟩ := later _ deduplicated succeeded
    exact ⟨widened, categorized, categories, wider, given⟩
  · intro out ran
    obtain ⟨stores, owned, widened, stages⟩ := run_eq_ok_iff.mp ran
    obtain ⟨cleaned, firstPass, passed, _, later⟩ :=
      exists_stages conform stages.gathered stages.joined pipeline
    have same := passed.symm.trans stages.cleaned
    cases same
    obtain ⟨_, categorized, categories, wider, given, settled⟩ := later _ _ stages.reconciled
    rw [stages.wider] at wider
    cases wider
    have final := given.symm.trans stages.categorized
    cases final
    exact settled

/-- First rules that are no good, a category for one of the rows, and two
categories for the other, which so keeps the default. -/
def acmeBirch : Pipeline :=
  { sources := [StaticFetch.acme, StaticFetch.birch].map StaticFetch.fetched
    firstPassRules := some "amount = $1\nfrom"
    categoryRules := some
      "to == \"savings\", category = \"Savings\"\nfrom == \"Universe\", category = \"Opening\"\nto == \"checking\", category = \"Income\""
    defaultCategory := "Unknown" }

theorem run_stops_or_categorizes_acme_birch :
    ∃ out, acmeBirch.run = .ok out ∧ (∀ problem, ¬ acmeBirch.Stopped problem) ∧
      List.Forall₂ (fun before after => ∃ category, after = before.extended (.text category) ∧
          acmeBirch.IsCategory (before.extended (.text "Unknown")) category)
        out.deduplicated.rows out.categorized.rows ∧
      out.categorized.rows.map (fun row => row.entries.getLast?) =
        [some (.text "Savings"), some (.text "Unknown")] := by
  have conform : SourcesConform acmeBirch.sources := by
    apply sourcesConform_of_static
    intro fetched member
    obtain ⟨fetch, _, rfl⟩ := List.mem_map.mp member
    exact ⟨fetch.source, rfl⟩
  have categories : acmeBirch.run.toOption.map
      (fun out => out.categorized.rows.map (fun row => row.entries.getLast?)) =
        some [some (.text "Savings"), some (.text "Unknown")] := by
    decide +kernel
  obtain ⟨stops, _, categorizes⟩ := run_stops_or_categorizes acmeBirch conform
  cases ran : acmeBirch.run with
  | error problem =>
      rw [ran] at categories
      cases categories
  | ok out =>
      rw [ran] at categories
      refine ⟨out, rfl, ?_, categorizes out ran, Option.some.inj categories⟩
      intro problem stopped
      rw [(stops problem).mpr stopped] at ran
      cases ran

end Pipeline

end Passbook
