/-
Reconciling a store that was widened. The base columns stand where they stood
and every report has one more cell behind those that reconciling looks at.
Reports are grouped and settled by the same cells as before, and fused and
marked rows carry the last cell along. So it makes no difference whether a store
is reconciled before it is widened or after, nor for what is refused.
-/

import Passbook.Proofs.Reconcile.Rearranging
import Passbook.Proofs.Reconcile.Reconciled
import Passbook.Proofs.Store

namespace Passbook

/-! ### Schemas with one more column -/

namespace Schema

variable {schema : Schema} {name other : String}

def extended (schema : Schema) (column : Column) : Schema :=
  ⟨schema.columns ++ [column]⟩

theorem indexOf?_extended (differ : other ≠ name) (kind : Kind) :
    (schema.extended ⟨name, kind⟩).indexOf? other = schema.indexOf? other := by
  have elsewhere : (name == other) = false := beq_false_of_ne (Ne.symm differ)
  unfold indexOf? extended
  rw [List.findIdx?_append, List.findIdx?_singleton]
  simp only [elsewhere, Bool.false_eq_true, if_false, Option.map_none, Option.or_none]

theorem kindOf?_extended (differ : other ≠ name) (kind : Kind) :
    (schema.extended ⟨name, kind⟩).kindOf? other = schema.kindOf? other := by
  have elsewhere : (name == other) = false := beq_false_of_ne (Ne.symm differ)
  unfold kindOf? extended
  rw [List.find?_append, List.find?_cons]
  simp only [elsewhere, List.find?_nil, Option.or_none]

theorem requireKind_extended (differ : other ≠ name) (kind expected : Kind) :
    (schema.extended ⟨name, kind⟩).requireKind other expected =
      schema.requireKind other expected := by
  unfold requireKind require
  rw [indexOf?_extended differ, kindOf?_extended differ]

theorem withColumn_eq_ok (wellFormed : schema.WellFormed) (new : name ∉ schema.names)
    (kind : Kind) : schema.withColumn name kind = .ok (schema.extended ⟨name, kind⟩) := by
  refine ofColumns_eq_ok_iff.mpr ⟨?_, rfl⟩
  rw [List.map_append, List.map_singleton, List.nodup_append]
  refine ⟨wellFormed, List.pairwise_singleton _ _, ?_⟩
  intro earlier present last here same
  rw [same, List.mem_singleton.mp here] at present
  exact new present

end Schema

/-- The base columns are where they were, or what is wrong with them still is. -/
theorem ReportColumns.ofSchema_extended {schema : Schema} {name : String}
    (notBase : name ∉ Schema.base.names) (kind : Kind) :
    ofSchema (schema.extended ⟨name, kind⟩) = ofSchema schema := by
  have kept : ∀ other ∈ Schema.base.names, ∀ expected,
      (schema.extended ⟨name, kind⟩).requireKind other expected =
        schema.requireKind other expected := by
    intro other base expected
    have differ : other ≠ name := fun same => notBase (same ▸ base)
    exact Schema.requireKind_extended differ kind expected
  simp only [Schema.base, Schema.names, List.map_cons, List.forall_mem_cons] at kept
  obtain ⟨bank, origin, destination, date, description, amount, _⟩ := kept
  unfold ofSchema
  rw [bank, origin, destination, date, description, amount]

/-! ### Rows and reports with one more cell -/

namespace Row

variable {row : Row} {index : Nat}

theorem get?_extended {present : Entry} (found : row.get? index = some present) (last : Entry) :
    (row.extended last).get? index = some present := by
  obtain ⟨within, _⟩ := List.getElem?_eq_some_iff.mp found
  rw [← found]
  exact List.getElem?_append_left within

theorem lt_size_of_get? {present : Entry} (found : row.get? index = some present) :
    index < row.size :=
  (List.getElem?_eq_some_iff.mp found).1

theorem size_set (entry : Entry) : (row.set index entry).size = row.size :=
  List.length_set

theorem set_extended (within : index < row.size) (entry last : Entry) :
    (row.extended last).set index entry = (row.set index entry).extended last := by
  unfold Row.set extended
  rw [List.set_append_left _ _ within]

theorem set_set_extended {other : Nat} (within : index < row.size) (withinToo : other < row.size)
    (one two last : Entry) : ((row.extended last).set index one).set other two =
      ((row.set index one).set other two).extended last := by
  rw [set_extended within, set_extended (by rw [size_set]; exact withinToo)]

end Row

namespace Report

variable {columns : ReportColumns} {last : Entry}

def extended (last : Entry) (report : Report) : Report :=
  { report with row := report.row.extended last }

theorem ofRow?_extended {row : Row} {report : Report}
    (read : ofRow? columns row = some report) (last : Entry) :
    ofRow? columns (row.extended last) = some (report.extended last) := by
  obtain ⟨rfl, atBank, atOrigin, atDestination, atDate, atDescription, atAmount⟩ :=
    ofRow?_eq_some_iff.mp read
  exact ofRow?_eq_some_iff.mpr ⟨rfl, Row.get?_extended atBank last,
    Row.get?_extended atOrigin last, Row.get?_extended atDestination last,
    Row.get?_extended atDate last, Row.get?_extended atDescription last,
    Row.get?_extended atAmount last⟩

theorem ofRows?_extended {rows : List Row} {reports : List Report}
    (read : ofRows? columns rows = some reports) (last : Entry) :
    ofRows? columns (rows.map fun row => row.extended last) =
      some (reports.map (extended last)) := by
  obtain ⟨rfl, allRead⟩ := ofRows?_eq_some_iff.mp read
  refine ofRows?_eq_some_iff.mpr ⟨?_, List.forall_mem_map.mpr ?_⟩
  · rw [List.map_map, List.map_map]
    rfl
  · exact fun report member => ofRow?_extended (allRead report member) last

end Report

namespace Deduplication

variable {columns : ReportColumns} {banks : BankAccounts}

theorem fuse_extended {a : Report} (read : a.IsRead columns) (b : Report) (last : Entry) :
    fuse columns (a.extended last) (b.extended last) = (fuse columns a b).extended last := by
  obtain ⟨_, atBank, _, _, _, atDescription, _⟩ := Report.ofRow?_eq_some_iff.mp read
  exact Row.set_set_extended (Row.lt_size_of_get? atBank) (Row.lt_size_of_get? atDescription)
    (.text (fusedBank a.bankName b.bankName)) (fusedDescription a.description b.description) last

theorem unmatch_extended {report : Report} (read : report.IsRead columns)
    (owned : OrderedSet String) (last : Entry) :
    unmatch columns owned (report.extended last) = (unmatch columns owned report).extended last := by
  obtain ⟨_, _, atOrigin, atDestination, _, _, _⟩ := Report.ofRow?_eq_some_iff.mp read
  exact Row.set_set_extended (Row.lt_size_of_get? atOrigin) (Row.lt_size_of_get? atDestination)
    (vouched owned report.origin) (vouched owned report.destination) last

/-! ### Grouping -/

def extendedReports (last : Entry) (entry : String × List Report) : String × List Report :=
  (entry.1, entry.2.map (Report.extended last))

def Transfer.extended (last : Entry) (transfer : Transfer) : Transfer :=
  ⟨transfer.first.extended last, transfer.byBank.map (extendedReports last)⟩

theorem addToBank_extended (last : Entry) (report : Report)
    (byBank : List (String × List Report)) :
    addToBank (report.extended last) (byBank.map (extendedReports last)) =
      (addToBank report byBank).map (extendedReports last) := by
  induction byBank with
  | nil => rfl
  | cons entry rest ih =>
      obtain ⟨bank, reports⟩ := entry
      have named : (report.extended last).bankName = report.bankName := rfl
      rw [List.map_cons, extendedReports, addToBank, addToBank, named]
      split
      · rw [List.map_cons, extendedReports, List.map_append]
        rfl
      · rw [ih]
        rfl

theorem addReport_extended (last : Entry) (transfers : List Transfer) (report : Report) :
    addReport (transfers.map (Transfer.extended last)) (report.extended last) =
      (addReport transfers report).map (Transfer.extended last) := by
  induction transfers with
  | nil => rfl
  | cons transfer rest ih =>
      have same : (transfer.extended last).first.sameTransfer (report.extended last) =
          transfer.first.sameTransfer report := rfl
      rw [List.map_cons, addReport, addReport, same]
      split
      · have added := addToBank_extended last report transfer.byBank
        rw [List.map_cons]
        unfold Transfer.extended
        rw [added]
      · rw [ih]
        rfl

theorem transfers_extended (last : Entry) (reports : List Report) :
    transfers (reports.map (Report.extended last)) =
      (transfers reports).map (Transfer.extended last) := by
  have fromAny (before : List Transfer) :
      (reports.map (Report.extended last)).foldl addReport (before.map (Transfer.extended last)) =
        (reports.foldl addReport before).map (Transfer.extended last) := by
    induction reports generalizing before with
    | nil => rfl
    | cons report reports ih =>
        rw [List.map_cons, List.foldl_cons, List.foldl_cons, addReport_extended]
        exact ih _
  exact fromAny []

/-! ### Settling -/

theorem unmatchedAll_extended (last : Entry) {reports : List Report}
    (read : ∀ report ∈ reports, report.IsRead columns) :
    unmatchedAll columns banks (reports.map (Report.extended last)) =
      (unmatchedAll columns banks reports).map (List.map fun row => row.extended last) := by
  induction reports with
  | nil => rfl
  | cons report reports ih =>
      obtain ⟨own, others⟩ := List.forall_mem_cons.mp read
      have named : (report.extended last).bankName = report.bankName := rfl
      rw [List.map_cons, unmatchedAll, unmatchedAll, unmatched, unmatched, named, ih others]
      cases banks.accounts? report.bankName with
      | none => rfl
      | some owned =>
          dsimp only
          rw [unmatch_extended own]
          cases unmatchedAll columns banks reports <;> rfl

theorem pair_extended (last : Entry) {first second : List Report}
    (read : ∀ report ∈ first ++ second, report.IsRead columns) :
    pair columns banks (first.map (Report.extended last)) (second.map (Report.extended last)) =
      (pair columns banks first second).map (List.map fun row => row.extended last) := by
  induction first generalizing second with
  | nil => cases second <;> exact unmatchedAll_extended last read
  | cons a as ih =>
      cases second with
      | nil =>
          rw [List.append_nil] at read
          exact unmatchedAll_extended last read
      | cons b bs =>
          obtain ⟨own, others⟩ := List.forall_mem_cons.mp read
          have rest : ∀ report ∈ as ++ bs, report.IsRead columns := by
            intro report member
            rcases List.mem_append.mp member with inFirst | inSecond
            · exact others report (List.mem_append_left _ inFirst)
            · exact others report (List.mem_append_right _ (List.mem_cons_of_mem _ inSecond))
          rw [List.map_cons, List.map_cons, pair, pair, ih rest, fuse_extended own]
          cases pair columns banks as bs <;> rfl

theorem settle_extended (last : Entry) {transfer : Transfer}
    (read : ∀ report ∈ transfer.reports, report.IsRead columns) :
    settle columns banks (transfer.extended last) =
      (settle columns banks transfer).map (List.map fun row => row.extended last) := by
  obtain ⟨first, byBank⟩ := transfer
  match byBank, read with
  | [], _ => rfl
  | [(bank, reports)], read => exact pair_extended last read
  | [(bank, reports), (other, others)], read =>
      apply pair_extended last
      intro report member
      apply read report
      rw [Transfer.reports, List.flatMap_cons, List.flatMap_singleton]
      exact member
  | one :: two :: three :: more, _ =>
      have named : ((one :: two :: three :: more).map (extendedReports last)).map Prod.fst =
          (one :: two :: three :: more).map Prod.fst := by
        rw [List.map_map]
        rfl
      exact congrArg (fun names => Except.error (DedupError.ambiguousTransfer first.origin
        first.destination first.date first.amount names)) named

/-- Reports with one more cell are settled to rows with that cell, or refused
for the same reason. -/
theorem settleAll_extended (last : Entry) {transfers : List Transfer}
    (read : ∀ transfer ∈ transfers, ∀ report ∈ transfer.reports, report.IsRead columns) :
    settleAll columns banks (transfers.map (Transfer.extended last)) =
      (settleAll columns banks transfers).map (List.map fun row => row.extended last) := by
  induction transfers with
  | nil => rfl
  | cons transfer rest ih =>
      obtain ⟨own, others⟩ := List.forall_mem_cons.mp read
      rw [List.map_cons, settleAll, settleAll, settle_extended last own, ih others]
      cases settle columns banks transfer with
      | error problem => rfl
      | ok rows =>
          cases settleAll columns banks rest with
          | error problem => rfl
          | ok more =>
              exact congrArg Except.ok (List.map_append.symm)

theorem internal_extended (last : Entry) (reports : List Report) :
    internal banks (reports.map (Report.extended last)) =
      (internal banks reports).map (Report.extended last) :=
  List.filter_map

theorem external_extended (last : Entry) (reports : List Report) :
    external banks (reports.map (Report.extended last)) =
      (external banks reports).map (Report.extended last) :=
  List.filter_map

end Deduplication

namespace Store

open Deduplication

def extended (store : Store) (name : String) (last : Entry) : Store :=
  ⟨store.schema.extended ⟨name, last.kind⟩, store.rows.map fun row => row.extended last⟩

theorem widen_eq_ok {store : Store} (wellFormed : store.schema.WellFormed) {name : String}
    (new : name ∉ store.schema.names) (last : Entry) :
    store.widen name last = .ok (store.extended name last) := by
  unfold widen
  rw [Schema.withColumn_eq_ok wellFormed new]
  rfl

theorem deduplicate_extended {store : Store}
    (conform : ∀ row ∈ store.rows, row.Conforms store.schema) (banks : BankAccounts)
    {name : String} (notBase : name ∉ Schema.base.names) (last : Entry) :
    (store.extended name last).deduplicate banks =
      (store.deduplicate banks).map fun out => out.extended name last := by
  have sameColumns : ReportColumns.ofSchema (store.extended name last).schema =
      ReportColumns.ofSchema store.schema := ReportColumns.ofSchema_extended notBase last.kind
  cases atColumns : ReportColumns.ofSchema store.schema with
  | error problem =>
      rw [atColumns] at sameColumns
      unfold Store.deduplicate
      rw [atColumns, sameColumns]
      rfl
  | ok columns =>
      rw [atColumns] at sameColumns
      have present := ReportColumns.ofSchema_eq_ok_iff.mp atColumns
      have presentAfter := ReportColumns.ofSchema_eq_ok_iff.mp sameColumns
      obtain ⟨reports, read⟩ := Report.exists_ofRows? present conform
      have readAfter := Report.ofRows?_extended read last
      have conformAfter := conform_extended name last conform
      have grouped : ∀ transfer ∈ transfers (internal banks reports),
          ∀ report ∈ transfer.reports, report.IsRead columns := by
        intro transfer member report inside
        have among := (List.mem_filter.mp (mem_of_mem_transfers member inside)).1
        exact (Report.of_mem_ofRows? read among).2
      rw [deduplicate_of_conform presentAfter readAfter conformAfter,
        deduplicate_of_conform present read conform, internal_extended, external_extended,
        transfers_extended, settleAll_extended last grouped]
      cases Deduplication.settleAll columns banks (transfers (internal banks reports)) with
      | error problem => rfl
      | ok rows =>
          have whole : rows.map (fun row => row.extended last) ++
              ((external banks reports).map (Report.extended last)).map Report.row =
                (rows ++ (external banks reports).map Report.row).map
                  fun row => row.extended last := by
            rw [List.map_append, List.map_map, List.map_map]
            rfl
          exact congrArg (fun made => Except.ok (Store.mk _ made)) whole

/-- It is the same to widen a store and reconcile it, and to reconcile it and
widen the result; and what is refused before is refused after for the same
reason. -/
theorem deduplicate_widen {store : Store} (wellFormed : store.WellFormed) (banks : BankAccounts)
    (name : String) (default : Entry) (new : name ∉ store.schema.names)
    (notBase : name ∉ Schema.base.names) :
    ∃ wide, store.widen name default = .ok wide ∧
      (∀ out, store.deduplicate banks = .ok out →
        ∃ wideOut, out.widen name default = .ok wideOut ∧
          wide.deduplicate banks = .ok wideOut) ∧
      ∀ problem, store.deduplicate banks = .error problem →
        wide.deduplicate banks = .error problem := by
  have commutes := deduplicate_extended wellFormed.2 banks notBase default
  refine ⟨_, widen_eq_ok wellFormed.1 new default, ?_, ?_⟩
  · intro out succeeded
    obtain ⟨sameSchema, _⟩ := wellFormed.deduplicate succeeded
    refine ⟨out.extended name default, ?_, ?_⟩
    · apply widen_eq_ok <;> rw [sameSchema]
      · exact wellFormed.1
      · exact new
    · rw [commutes, succeeded]
      rfl
  · intro problem failed
    rw [commutes, failed]
    rfl

theorem deduplicate_widen_reportsInOrder :
    let store := Store.reportsInOrder [0, 1, 2, 3, 4]
    let onlyAcme := BankAccounts.ofList [("Acme", ["checking", "savings"])]
    ∃ wide out wideOut, store.widen "note" (.text "-") = .ok wide ∧
      store.deduplicate .acmeBirch = .ok out ∧ out.widen "note" (.text "-") = .ok wideOut ∧
      wide.deduplicate .acmeBirch = .ok wideOut ∧
      store.deduplicate onlyAcme = .error (.unknownBank "Birch") ∧
      wide.deduplicate onlyAcme = .error (.unknownBank "Birch") := by
  intro store onlyAcme
  have wellFormed : store.WellFormed := ⟨Schema.base_wellFormed, by decide⟩
  have reconciled : ∃ out, store.deduplicate .acmeBirch = .ok out := ⟨_, rfl⟩
  have refused : store.deduplicate onlyAcme = .error (.unknownBank "Birch") := rfl
  obtain ⟨out, succeeded⟩ := reconciled
  obtain ⟨wide, widened, commutes, _⟩ :=
    deduplicate_widen wellFormed .acmeBirch "note" (.text "-") (by decide) (by decide)
  obtain ⟨other, again, _, refuses⟩ :=
    deduplicate_widen wellFormed onlyAcme "note" (.text "-") (by decide) (by decide)
  rw [widened, Except.ok.injEq] at again
  obtain ⟨wideOut, after, result⟩ := commutes out succeeded
  exact ⟨wide, out, wideOut, widened, succeeded, after, result, refused,
    again ▸ refuses _ refused⟩

end Store

end Passbook
