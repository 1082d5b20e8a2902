/-
Reconciling does not depend on how reports of different transfers stand among
each other. Rows may be put in another order as long as the reports of each
transfer between known accounts stay in theirs: then each transfer is made of
the same reports in the same order, it is settled as before, and the result has
the same rows.
-/

import Passbook.Proofs.Reconcile.Reconciled
import Passbook.Proofs.Reconcile.Transfers

namespace Passbook

namespace Row

/-- The rows of the one list in another order, in which related rows come as
they did: each row is placed with the position that it had. -/
def Rearranged (related : Row → Row → Bool) (before after : List Row) : Prop :=
  ∃ placed : List (Row × Nat), placed.map Prod.fst = after ∧ placed.Perm before.zipIdx ∧
    placed.Pairwise fun earlier later =>
      related earlier.1 later.1 = true → earlier.2 < later.2

def sameTransfer (schema : Schema) (banks : BankAccounts) (a b : Row) : Bool :=
  match ReportColumns.ofSchema schema with
  | .error _ => false
  | .ok columns =>
      match Report.ofRow? columns a, Report.ofRow? columns b with
      | some first, some second =>
          first.isInternal banks.allAccounts && second.isInternal banks.allAccounts &&
            first.sameTransfer second
      | _, _ => false

private theorem pairwise_zipIdx (rows : List Row) (position : Nat) :
    (rows.zipIdx position).Pairwise fun earlier later => earlier.2 < later.2 := by
  induction rows generalizing position with
  | nil => exact List.Pairwise.nil
  | cons row rows ih =>
      refine List.pairwise_cons.mpr ⟨?_, ih (position + 1)⟩
      intro later member
      exact List.le_snd_of_mem_zipIdx member

theorem Rearranged.perm {related : Row → Row → Bool} {before after : List Row}
    (rearranged : Rearranged related before after) : after.Perm before := by
  obtain ⟨placed, rfl, perm, _⟩ := rearranged
  have rows := perm.map Prod.fst
  rw [List.zipIdx_map_fst] at rows
  exact rows

/-- Rows that are all related to one another stand in the same order as before. -/
theorem Rearranged.filter_eq {related : Row → Row → Bool} {before after : List Row}
    (rearranged : Rearranged related before after) {chosen : Row → Bool}
    (alike : ∀ a b, chosen a = true → chosen b = true → related a b = true) :
    after.filter chosen = before.filter chosen := by
  obtain ⟨placed, rfl, perm, ordered⟩ := rearranged
  have ascends : (placed.filter fun row => chosen row.1).Pairwise
      fun earlier later => earlier.2 < later.2 := by
    refine (List.pairwise_filter.mpr ?_)
    refine ordered.imp ?_
    intro earlier later before first second
    exact before (alike _ _ first second)
  have ascended : (before.zipIdx.filter fun row => chosen row.1).Pairwise
      fun earlier later => earlier.2 < later.2 :=
    (pairwise_zipIdx before 0).filter _
  have same : (placed.filter fun row => chosen row.1) =
      before.zipIdx.filter fun row => chosen row.1 := by
    refine (perm.filter _).eq_of_pairwise ?_ ascends ascended
    intro earlier later _ _ below above
    omega
  have rows := congrArg (List.map Prod.fst) same
  have drop (pairs : List (Row × Nat)) : (pairs.filter fun row => chosen row.1).map Prod.fst =
      (pairs.map Prod.fst).filter chosen := List.filter_map.symm
  rw [drop, drop, List.zipIdx_map_fst] at rows
  exact rows

end Row

namespace Report

theorem ofRows?_eq_filterMap_iff {columns : ReportColumns} {rows : List Row}
    {reports : List Report} :
    ofRows? columns rows = some reports ↔
      (∀ row ∈ rows, ∃ report, ofRow? columns row = some report) ∧
        reports = rows.filterMap (ofRow? columns) := by
  induction rows generalizing reports with
  | nil => simp [ofRows?, eq_comm]
  | cons row rows ih =>
      rw [ofRows?, List.forall_mem_cons]
      cases atRow : ofRow? columns row with
      | none => simp
      | some report =>
          rw [List.filterMap_cons_some atRow]
          cases atRows : ofRows? columns rows with
          | none =>
              have unread : ¬ ∀ row ∈ rows, ∃ report, ofRow? columns row = some report := by
                intro readable
                rw [ih.mpr ⟨readable, rfl⟩] at atRows
                cases atRows
              simp [unread]
          | some others =>
              obtain ⟨readable, rfl⟩ := ih.mp atRows
              simp only [Option.some.injEq]
              exact ⟨fun same => ⟨⟨⟨report, rfl⟩, readable⟩, same.symm⟩, fun both => both.2.symm⟩

def inClass (columns : ReportColumns) (banks : BankAccounts) (report : Report) (row : Row) : Bool :=
  (ofRow? columns row).any fun other =>
    other.isInternal banks.allAccounts && report.sameTransfer other

theorem inClass_iff {columns : ReportColumns} {banks : BankAccounts} {report : Report}
    {row : Row} :
    inClass columns banks report row = true ↔ ∃ other, ofRow? columns row = some other ∧
      other.isInternal banks.allAccounts = true ∧ report.sameTransfer other = true := by
  unfold inClass
  simp only [Option.any_eq_true, Bool.and_eq_true]

theorem sameTransfer_of_inClass {schema : Schema} {columns : ReportColumns}
    (atColumns : ReportColumns.ofSchema schema = .ok columns) {banks : BankAccounts}
    {report : Report} {a b : Row} (ofA : inClass columns banks report a = true)
    (ofB : inClass columns banks report b = true) :
    Row.sameTransfer schema banks a b = true := by
  obtain ⟨first, atA, firstInternal, sameFirst⟩ := inClass_iff.mp ofA
  obtain ⟨second, atB, secondInternal, sameSecond⟩ := inClass_iff.mp ofB
  have same : first.sameTransfer second = true :=
    sameTransfer_trans (sameTransfer_symm sameFirst) sameSecond
  simp only [Row.sameTransfer, atColumns, atA, atB, firstInternal, secondInternal, same,
    Bool.and_true]

end Report

namespace Deduplication

theorem filter_internal {columns : ReportColumns} {banks : BankAccounts} (rows : List Row)
    (report : Report) :
    (internal banks (rows.filterMap (Report.ofRow? columns))).filter report.sameTransfer =
      (rows.filter (report.inClass columns banks)).filterMap (Report.ofRow? columns) := by
  unfold internal
  rw [List.filter_filter, List.filter_filterMap, List.filterMap_filter]
  apply List.filterMap_congr
  intro row _
  unfold Report.inClass
  cases Report.ofRow? columns row with
  | none => rfl
  | some other =>
      rw [Option.filter_some, Option.any_some, Bool.and_comm]

end Deduplication

namespace Store

open Deduplication

/-- Stores with the same rows, in which the reports of each internal transfer
stand in the same order. -/
structure SameClasses (banks : BankAccounts) (before after : Store) : Prop where
  schema : after.schema = before.schema
  perm : after.rows.Perm before.rows
  classes : ∀ columns, ReportColumns.ofSchema before.schema = .ok columns →
    ∀ report : Report, after.rows.filter (report.inClass columns banks) =
      before.rows.filter (report.inClass columns banks)

theorem SameClasses.symm {banks : BankAccounts} {before after : Store}
    (same : SameClasses banks before after) : SameClasses banks after before := by
  refine ⟨same.schema.symm, same.perm.symm, ?_⟩
  intro columns atColumns report
  rw [same.schema] at atColumns
  exact (same.classes columns atColumns report).symm

theorem sameClasses_of_rearranged {banks : BankAccounts} {before after : Store}
    (schema : after.schema = before.schema)
    (rearranged : Row.Rearranged (Row.sameTransfer before.schema banks) before.rows after.rows) :
    SameClasses banks before after := by
  refine ⟨schema, rearranged.perm, ?_⟩
  intro columns atColumns report
  exact rearranged.filter_eq fun a b => Report.sameTransfer_of_inClass atColumns

/-- The reports read from such stores are the same, class by class in order. -/
theorem SameClasses.reports {banks : BankAccounts} {before after : Store}
    (same : SameClasses banks before after) {columns : ReportColumns}
    (present : columns.Of before.schema) {reports : List Report}
    (read : Report.ofRows? columns before.rows = some reports) :
    ∃ others, Report.ofRows? columns after.rows = some others ∧ others.Perm reports ∧
      ∀ report : Report, (internal banks others).filter report.sameTransfer =
        (internal banks reports).filter report.sameTransfer := by
  obtain ⟨readable, rfl⟩ := Report.ofRows?_eq_filterMap_iff.mp read
  refine ⟨_, Report.ofRows?_eq_filterMap_iff.mpr ⟨?_, rfl⟩, same.perm.filterMap _, ?_⟩
  · intro row member
    exact readable row (same.perm.mem_iff.mp member)
  · intro report
    rw [filter_internal, filter_internal,
      same.classes columns (ReportColumns.ofSchema_eq_ok_iff.mpr present)]

theorem SameClasses.deduplicate {banks : BankAccounts} {before after out : Store}
    (same : SameClasses banks before after) (succeeded : before.deduplicate banks = .ok out) :
    ∃ other, after.deduplicate banks = .ok other ∧ other.schema = out.schema ∧
      other.rows.Perm out.rows := by
  obtain ⟨columns, reports, present, read, paired, possible, conform, rfl⟩ :=
    deduplicate_eq_ok_iff.mp succeeded
  obtain ⟨others, readAfter, perm, classes⟩ := same.reports present read
  have grouped : (transfers (internal banks others)).Perm (transfers (internal banks reports)) :=
    perm_transfers_of_classes classes
  have settled : (settlements banks others).Perm (settlements banks reports) :=
    grouped.flatMap_right _
  have whole : (reconciled columns banks others).Perm (reconciled columns banks reports) :=
    (settled.map _).append (perm.filter _)
  refine ⟨⟨after.schema, (reconciled columns banks others).map Report.row⟩, ?_, same.schema,
    whole.map _⟩
  refine deduplicate_eq_ok_iff.mpr ⟨columns, others, ?_, readAfter, ?_, ?_, ?_, rfl⟩
  · rw [same.schema]
    exact present
  · intro transfer member
    exact paired transfer (grouped.mem_iff.mp member)
  · intro settlement member
    exact possible settlement (settled.mem_iff.mp member)
  · intro report member
    rw [same.schema]
    exact conform report (whole.mem_iff.mp member)

/-- Rows in another order that keeps the reports of each internal transfer in
theirs are reconciled if the rows before are, and to the same rows. -/
theorem deduplicate_rearranged {banks : BankAccounts} {before after : Store}
    (schema : after.schema = before.schema)
    (rearranged : Row.Rearranged (Row.sameTransfer before.schema banks) before.rows after.rows) :
    ((∃ out, before.deduplicate banks = .ok out) ↔ ∃ out, after.deduplicate banks = .ok out) ∧
      ∀ out other, before.deduplicate banks = .ok out → after.deduplicate banks = .ok other →
        other.schema = out.schema ∧ other.rows.Perm out.rows := by
  have same := sameClasses_of_rearranged schema rearranged
  refine ⟨⟨?_, ?_⟩, ?_⟩
  · rintro ⟨out, succeeded⟩
    obtain ⟨other, after, _⟩ := same.deduplicate succeeded
    exact ⟨other, after⟩
  · rintro ⟨out, succeeded⟩
    obtain ⟨other, before, _⟩ := same.symm.deduplicate succeeded
    exact ⟨other, before⟩
  · intro out other first second
    obtain ⟨result, again, sameSchema, perm⟩ := same.deduplicate first
    rw [second, Except.ok.injEq] at again
    rw [again]
    exact ⟨sameSchema, perm⟩

end Store

def BankAccounts.acmeBirch : BankAccounts :=
  .ofList [("Acme", ["checking"]), ("Birch", ["savings"])]

def Store.reportsInOrder (positions : List Nat) : Store :=
  let row (bank origin destination description : String) (amount : Nat) : Row :=
    ⟨[.text bank, .text origin, .text destination, .date ⟨2024, 1, 5⟩, .text description,
      .dollars (.ofMagnitude ((Decimal.make? amount 2).getD .zero))]⟩
  let reports := [row "Acme" "checking" "savings" "sent" 500,
    row "Birch" "savings" "checking" "sent back" 200,
    row "Birch" "checking" "savings" "received" 500,
    row "Acme" "employer" "checking" "salary" 3000,
    row "Acme" "checking" "savings" "sent again" 500]
  ⟨.base, positions.filterMap fun position => reports[position]?⟩

theorem Store.deduplicate_rearranged_apart :
    let before := Store.reportsInOrder [0, 1, 2, 3, 4]
    let after := Store.reportsInOrder [3, 0, 2, 4, 1]
    Row.Rearranged (Row.sameTransfer .base .acmeBirch) before.rows after.rows ∧
      ∃ out other, before.deduplicate .acmeBirch = .ok out ∧
        after.deduplicate .acmeBirch = .ok other ∧ other.schema = out.schema ∧
        other.rows.Perm out.rows := by
  intro before after
  have rearranged : Row.Rearranged (Row.sameTransfer .base .acmeBirch) before.rows after.rows :=
    ⟨after.rows.zip [3, 0, 2, 4, 1], by decide +kernel, by decide +kernel, by decide +kernel⟩
  obtain ⟨succeeds, alike⟩ :=
    Store.deduplicate_rearranged (show after.schema = before.schema from rfl) rearranged
  have reconciled : ∃ out, before.deduplicate .acmeBirch = .ok out := ⟨_, rfl⟩
  obtain ⟨out, first⟩ := reconciled
  obtain ⟨other, second⟩ := succeeds.mp ⟨out, first⟩
  exact ⟨rearranged, out, other, first, second, alike out other first second⟩

end Passbook
