/-
The result of reconciling as a whole: the settlements of all transfers between
known accounts, and then the external reports as they were. What is conserved
row by row is conserved in total.
-/

import Mathlib.Algebra.Order.BigOperators.Group.List
import Passbook.Proofs.Reconcile.Reports
import Passbook.Proofs.Reconcile.Transfers

namespace Passbook

/-! ## Settlements

What becomes of the reports of a transfer. Reconciling succeeds exactly when no
transfer is reported by three banks and the bank of every report without a
partner is known; the result then has one row for each pair and for each report
left alone. A quantity that each of these rows takes over from its reports, and
that external rows keep, has the same total before and after. -/

namespace Deduplication

/-- What a row of the result is made of: two reports of one transfer, or one
report without a partner. -/
inductive Settlement where
  | fused (a b : Report)
  | alone (report : Report)

namespace Settlement

def sources : Settlement → List Report
  | .fused a b => [a, b]
  | .alone report => [report]

def result (columns : ReportColumns) (banks : BankAccounts) : Settlement → Report
  | .fused a b => Report.fused columns a b
  | .alone report =>
      Report.marked columns ((banks.accounts? report.bankName).getD OrderedSet.empty) report

/-- Only the bank of a report without a partner has to be known. -/
def Possible (banks : BankAccounts) : Settlement → Prop
  | .fused _ _ => True
  | .alone report => ∃ owned, banks.accounts? report.bankName = some owned

end Settlement

def pairing : List Report → List Report → List Settlement
  | a :: as, b :: bs => .fused a b :: pairing as bs
  | as, [] => as.map .alone
  | [], bs => bs.map .alone

theorem pairing_nil_left (reports : List Report) :
    pairing [] reports = reports.map Settlement.alone := by
  cases reports <;> rfl

theorem pairing_nil_right (reports : List Report) :
    pairing reports [] = reports.map Settlement.alone := by
  cases reports <;> rfl

def Transfer.settlements (transfer : Transfer) : List Settlement :=
  match transfer.byBank with
  | [(_, reports)] => pairing reports []
  | [(_, first), (_, second)] => pairing first second
  | _ => []

section Pairing

variable {columns : ReportColumns} {banks : BankAccounts}

theorem unmatchedAll_eq_ok_iff {reports : List Report} {rows : List Row} :
    unmatchedAll columns banks reports = .ok rows ↔
      (∀ settlement ∈ reports.map Settlement.alone, settlement.Possible banks) ∧
        rows = (reports.map Settlement.alone).map
          fun settlement => (settlement.result columns banks).row := by
  induction reports generalizing rows with
  | nil => simp [unmatchedAll, eq_comm]
  | cons report reports ih =>
      rw [unmatchedAll, unmatched]
      cases known : banks.accounts? report.bankName with
      | none => simp [Settlement.Possible, known]
      | some owned =>
          cases others : unmatchedAll columns banks reports with
          | error problem =>
              have impossible : ¬ ∀ settlement ∈ reports.map Settlement.alone,
                  settlement.Possible banks :=
                Outcome.not_of_error others fun possible => ⟨_, ih.mpr ⟨possible, rfl⟩⟩
              simp only [List.map_cons, List.forall_mem_cons, impossible, and_false, false_and]
              exact iff_of_false nofun id
          | ok rest =>
              obtain ⟨possible, same⟩ := ih.mp others
              simp only [List.map_cons, List.forall_mem_cons, Except.ok.injEq]
              rw [← same]
              have row : (Settlement.result columns banks (.alone report)).row =
                  unmatch columns owned report := by
                rw [Settlement.result, known]
                rfl
              rw [row, eq_comm]
              exact (and_iff_right ⟨⟨owned, known⟩, possible⟩).symm

theorem pair_eq_ok_iff {first second : List Report} {rows : List Row} :
    pair columns banks first second = .ok rows ↔
      (∀ settlement ∈ pairing first second, settlement.Possible banks) ∧
        rows = (pairing first second).map
          fun settlement => (settlement.result columns banks).row := by
  induction first generalizing second rows with
  | nil =>
      cases second with
      | nil => exact unmatchedAll_eq_ok_iff
      | cons b bs => exact unmatchedAll_eq_ok_iff
  | cons a as ih =>
      cases second with
      | nil => exact unmatchedAll_eq_ok_iff
      | cons b bs =>
          rw [pair, pairing]
          simp only [List.map_cons, List.forall_mem_cons]
          cases others : pair columns banks as bs with
          | error problem =>
              have impossible : ¬ ∀ settlement ∈ pairing as bs, settlement.Possible banks :=
                Outcome.not_of_error others fun possible => ⟨_, ih.mpr ⟨possible, rfl⟩⟩
              simp [impossible]
          | ok rest =>
              obtain ⟨possible, same⟩ := ih.mp others
              rw [← same, Except.ok.injEq, eq_comm]
              exact (and_iff_right ⟨trivial, possible⟩).symm

theorem settle_eq_ok_iff {transfer : Transfer} {rows : List Row} :
    settle columns banks transfer = .ok rows ↔
      transfer.byBank.length ≤ 2 ∧
        (∀ settlement ∈ transfer.settlements, settlement.Possible banks) ∧
        rows = transfer.settlements.map fun settlement => (settlement.result columns banks).row := by
  obtain ⟨report, byBank⟩ := transfer
  match byBank with
  | [] => simp [settle, Transfer.settlements, eq_comm]
  | [(bank, reports)] =>
      simp only [settle, Transfer.settlements, pair_eq_ok_iff]
      simp
  | [(bank, first), (other, second)] =>
      simp only [settle, Transfer.settlements, pair_eq_ok_iff]
      simp
  | first :: second :: third :: more => simp [settle]

/-- Reconciling gives a row for each settlement, or fails because of a transfer
that three banks report or a report alone whose bank is unknown. -/
theorem settleAll_eq_ok_iff {transfers : List Transfer} {rows : List Row} :
    settleAll columns banks transfers = .ok rows ↔
      (∀ transfer ∈ transfers, transfer.byBank.length ≤ 2) ∧
        (∀ settlement ∈ transfers.flatMap Transfer.settlements, settlement.Possible banks) ∧
        rows = (transfers.flatMap Transfer.settlements).map
          fun settlement => (settlement.result columns banks).row := by
  induction transfers generalizing rows with
  | nil => simp [settleAll, eq_comm]
  | cons transfer rest ih =>
      rw [settleAll, List.flatMap_cons, List.map_append, List.forall_mem_cons, List.forall_mem_append]
      cases own : settle columns banks transfer with
      | error problem =>
          have refused : ¬ (transfer.byBank.length ≤ 2 ∧
              ∀ settlement ∈ transfer.settlements, settlement.Possible banks) :=
            Outcome.not_of_error own fun both => ⟨_, settle_eq_ok_iff.mpr ⟨both.1, both.2, rfl⟩⟩
          refine iff_of_false nofun ?_
          rintro ⟨⟨few, _⟩, ⟨possible, _⟩, _⟩
          exact refused ⟨few, possible⟩
      | ok ownRows =>
          obtain ⟨few, possible, sameOwn⟩ := settle_eq_ok_iff.mp own
          cases others : settleAll columns banks rest with
          | error problem =>
              have refused : ¬ ((∀ other ∈ rest, other.byBank.length ≤ 2) ∧
                  ∀ settlement ∈ rest.flatMap Transfer.settlements, settlement.Possible banks) :=
                Outcome.not_of_error others fun both => ⟨_, ih.mpr ⟨both.1, both.2, rfl⟩⟩
              refine iff_of_false nofun ?_
              rintro ⟨⟨_, fewOthers⟩, ⟨_, possibleOthers⟩, _⟩
              exact refused ⟨fewOthers, possibleOthers⟩
          | ok otherRows =>
              obtain ⟨fewOthers, possibleOthers, sameOthers⟩ := ih.mp others
              rw [← sameOwn, ← sameOthers, Except.ok.injEq, eq_comm]
              exact ⟨fun same => ⟨⟨few, fewOthers⟩, ⟨possible, possibleOthers⟩, same⟩,
                fun both => both.2.2⟩

end Pairing

theorem perm_pairing (first second : List Report) :
    ((pairing first second).flatMap Settlement.sources).Perm (first ++ second) := by
  have alone (reports : List Report) :
      (reports.map Settlement.alone).flatMap Settlement.sources = reports := by
    rw [List.flatMap_map]
    exact List.flatMap_singleton' reports
  induction first generalizing second with
  | nil => rw [pairing_nil_left, alone, List.nil_append]
  | cons a as ih =>
      cases second with
      | nil => rw [pairing_nil_right, alone, List.append_nil]
      | cons b bs =>
          rw [pairing, List.flatMap_cons]
          exact ((ih bs).cons b |>.trans List.perm_middle.symm).cons a

theorem perm_settlements {transfer : Transfer} (few : transfer.byBank.length ≤ 2) :
    (transfer.settlements.flatMap Settlement.sources).Perm transfer.reports := by
  obtain ⟨report, byBank⟩ := transfer
  match byBank, few with
  | [], _ => exact List.Perm.refl _
  | [(bank, reports)], _ => exact perm_pairing reports []
  | [(bank, first), (other, second)], _ =>
      have both := perm_pairing first second
      rw [← List.append_nil (first ++ second), List.append_assoc] at both
      exact both

private theorem mem_pairing {first second : List Report} {a b : Report}
    (member : .fused a b ∈ pairing first second) : a ∈ first ∧ b ∈ second := by
  induction first generalizing second with
  | nil => cases second <;> simp [pairing] at member
  | cons head as ih =>
      cases second with
      | nil => simp [pairing] at member
      | cons other bs =>
          rw [pairing] at member
          rcases List.mem_cons.mp member with here | there
          · cases here
            exact ⟨List.mem_cons_self, List.mem_cons_self⟩
          · obtain ⟨inFirst, inSecond⟩ := ih there
            exact ⟨List.mem_cons_of_mem _ inFirst, List.mem_cons_of_mem _ inSecond⟩

/-- Two reports that are fused are of the transfer, one of its first bank and one
of its second. -/
theorem Transfer.Coherent.banks_of_fused {transfer : Transfer} (coherent : transfer.Coherent)
    {a b : Report} (member : .fused a b ∈ transfer.settlements) :
    transfer.banks = [a.bankName, b.bankName] ∧ transfer.first.sameTransfer a = true ∧
      transfer.first.sameTransfer b = true := by
  obtain ⟨report, byBank⟩ := transfer
  match byBank with
  | [] => cases member
  | [(bank, reports)] =>
      obtain ⟨_, impossible⟩ := mem_pairing member
      cases impossible
  | [(bank, first), (other, second)] =>
      obtain ⟨inFirst, inSecond⟩ := mem_pairing member
      have ofA := coherent.bankNameEq (bank, first) (by simp) a inFirst
      have ofB := coherent.bankNameEq (other, second) (by simp) b inSecond
      refine ⟨?_, coherent.same a (by simp [Transfer.reports, inFirst]),
        coherent.same b (by simp [Transfer.reports, inSecond])⟩
      rw [ofA, ofB]
      rfl
  | first :: second :: third :: more => cases member

/-- Two reports are fused only when two banks make them of one transfer. -/
theorem Transfer.Coherent.of_fused {transfer : Transfer} (coherent : transfer.Coherent)
    {a b : Report} (member : .fused a b ∈ transfer.settlements) :
    a.bankName ≠ b.bankName ∧ a.sameTransfer b = true := by
  obtain ⟨banks, sameA, sameB⟩ := coherent.banks_of_fused member
  have nodup := coherent.banksNodup
  rw [banks, List.nodup_cons, List.mem_singleton] at nodup
  exact ⟨nodup.1, Report.sameTransfer_trans (Report.sameTransfer_symm sameA) sameB⟩

end Deduplication

/-! ## Reconciled rows -/

namespace Deduplication

def internal (banks : BankAccounts) (reports : List Report) : List Report :=
  reports.filter fun report => report.isInternal banks.allAccounts

def external (banks : BankAccounts) (reports : List Report) : List Report :=
  reports.filter fun report => !report.isInternal banks.allAccounts

def settlements (banks : BankAccounts) (reports : List Report) : List Settlement :=
  (transfers (internal banks reports)).flatMap Transfer.settlements

/-- No transfer between known accounts is reported by three banks. -/
def Paired (banks : BankAccounts) (reports : List Report) : Prop :=
  ∀ transfer ∈ transfers (internal banks reports), transfer.byBank.length ≤ 2

/-- The reports of the rows of the result. -/
def reconciled (columns : ReportColumns) (banks : BankAccounts) (reports : List Report) :
    List Report :=
  (settlements banks reports).map (Settlement.result columns banks) ++ external banks reports

theorem perm_sources {banks : BankAccounts} {reports : List Report}
    (paired : Paired banks reports) :
    ((settlements banks reports).flatMap Settlement.sources).Perm (internal banks reports) := by
  unfold settlements
  rw [List.flatMap_assoc]
  exact (List.Perm.flatMap_left _ fun transfer member =>
    perm_settlements (paired transfer member)).trans (perm_transfers _)

theorem mem_of_mem_sources {banks : BankAccounts} {reports : List Report}
    (paired : Paired banks reports) {settlement : Settlement}
    (member : settlement ∈ settlements banks reports) {report : Report}
    (source : report ∈ settlement.sources) :
    report ∈ reports ∧ report.isInternal banks.allAccounts = true := by
  have present : report ∈ internal banks reports :=
    (perm_sources paired).mem_iff.mp (List.mem_flatMap.mpr ⟨settlement, member, source⟩)
  exact List.mem_filter.mp present

theorem of_fused {banks : BankAccounts} {reports : List Report} {a b : Report}
    (member : .fused a b ∈ settlements banks reports) :
    a.bankName ≠ b.bankName ∧ a.sameTransfer b = true := by
  obtain ⟨transfer, grouped, settled⟩ := List.mem_flatMap.mp member
  exact (coherent_transfers grouped).of_fused settled

theorem isRead_result {columns : ReportColumns} {schema : Schema} (present : columns.Of schema)
    {banks : BankAccounts} {settlement : Settlement}
    (read : ∀ report ∈ settlement.sources, report.IsRead columns) :
    (settlement.result columns banks).IsRead columns := by
  cases settlement with
  | fused a b => exact Report.isRead_fused present (read a List.mem_cons_self) b
  | alone report => exact Report.isRead_marked present (read report List.mem_cons_self) _

theorem ofRows?_reconciled {columns : ReportColumns} {schema : Schema}
    (present : columns.Of schema) {banks : BankAccounts} {rows : List Row}
    {reports : List Report} (paired : Paired banks reports)
    (read : Report.ofRows? columns rows = some reports) :
    Report.ofRows? columns ((reconciled columns banks reports).map Report.row) =
      some (reconciled columns banks reports) := by
  obtain ⟨_, allRead⟩ := Report.ofRows?_eq_some_iff.mp read
  refine Report.ofRows?_eq_some_iff.mpr ⟨rfl, ?_⟩
  intro report member
  rcases List.mem_append.mp member with inside | outside
  · obtain ⟨settlement, settled, rfl⟩ := List.mem_map.mp inside
    apply isRead_result present
    intro source fromHere
    exact allRead source (mem_of_mem_sources paired settled fromHere).1
  · exact allRead report (List.mem_filter.mp outside).1

theorem conforms_reconciled {columns : ReportColumns} {schema : Schema}
    (present : columns.Of schema) {banks : BankAccounts} {reports : List Report}
    (paired : Paired banks reports) {rows : List Row}
    (read : Report.ofRows? columns rows = some reports)
    (conform : ∀ row ∈ rows, row.Conforms schema) :
    ∀ report ∈ reconciled columns banks reports, report.row.Conforms schema := by
  have conforms (report : Report) (member : report ∈ reports) : report.row.Conforms schema :=
    conform report.row (Report.of_mem_ofRows? read member).1
  have typed (report : Report) (member : report ∈ reports) : report.Typed :=
    Report.typed_of_conforms present (Report.of_mem_ofRows? read member).2 (conforms report member)
  intro report member
  rcases List.mem_append.mp member with inside | outside
  · obtain ⟨settlement, settled, rfl⟩ := List.mem_map.mp inside
    cases settlement with
    | fused a b =>
        have source := (mem_of_mem_sources paired settled List.mem_cons_self).1
        exact Report.conforms_fused present (typed a source) (conforms a source) b
    | alone report =>
        have source := (mem_of_mem_sources paired settled List.mem_cons_self).1
        exact Report.conforms_marked present (typed report source) (conforms report source) _
  · exact conforms report (List.mem_filter.mp outside).1

theorem sum_sources {M : Type} [AddCommMonoid M] {banks : BankAccounts} {reports : List Report}
    (paired : Paired banks reports) (value : Report → M) :
    ((settlements banks reports).map fun settlement => (settlement.sources.map value).sum).sum +
      ((external banks reports).map value).sum = (reports.map value).sum := by
  have inside : ((settlements banks reports).map fun settlement =>
      (settlement.sources.map value).sum).sum = ((internal banks reports).map value).sum := by
    rw [← ((perm_sources paired).map value).sum_eq, List.map_flatMap, List.flatMap_def,
      List.sum_flatten, List.map_map]
    rfl
  have split : (internal banks reports ++ external banks reports).Perm reports :=
    List.filter_append_perm _ reports
  rw [inside, ← List.sum_append, ← List.map_append]
  exact (split.map value).sum_eq

theorem sum_map_reconciled {M : Type} [AddCommMonoid M] {columns : ReportColumns}
    {banks : BankAccounts} {reports : List Report} (value : Report → M) :
    ((reconciled columns banks reports).map value).sum =
      ((settlements banks reports).map fun settlement =>
        value (settlement.result columns banks)).sum +
          ((external banks reports).map value).sum := by
  unfold reconciled
  rw [List.map_append, List.sum_append, List.map_map]
  rfl

/-- What every row of the result takes over from its reports, and external rows
keep, has the same total before and after. -/
theorem sum_reconciled {M : Type} [AddCommMonoid M] {columns : ReportColumns}
    {banks : BankAccounts} {reports : List Report} {before after : Report → M}
    (paired : Paired banks reports)
    (settled : ∀ settlement ∈ settlements banks reports,
      after (settlement.result columns banks) = (settlement.sources.map before).sum)
    (kept : ∀ report ∈ external banks reports, after report = before report) :
    ((reconciled columns banks reports).map after).sum = (reports.map before).sum := by
  rw [sum_map_reconciled, ← sum_sources paired, List.map_congr_left settled,
    List.map_congr_left kept]

theorem sum_reconciled_le {columns : ReportColumns} {banks : BankAccounts}
    {reports : List Report} {value : Report → Nat} (paired : Paired banks reports)
    (settled : ∀ settlement ∈ settlements banks reports,
      value (settlement.result columns banks) ≤ (settlement.sources.map value).sum) :
    ((reconciled columns banks reports).map value).sum ≤ (reports.map value).sum := by
  rw [sum_map_reconciled, ← sum_sources paired]
  exact Nat.add_le_add_right (List.sum_le_sum settled) _

end Deduplication

namespace Store

open Deduplication

theorem deduplicate_of_read {store : Store} {banks : BankAccounts}
    {columns : ReportColumns} {reports : List Report} (present : columns.Of store.schema)
    (read : Report.ofRows? columns store.rows = some reports) :
    store.deduplicate banks =
      match Deduplication.settleAll columns banks (transfers (internal banks reports)) with
      | .error problem => .error problem
      | .ok rows =>
          match (Store.empty store.schema).ingestAll
              (rows ++ (external banks reports).map Report.row) with
          | .error problem => .error (.schema problem)
          | .ok result => .ok result := by
  unfold Store.deduplicate
  rw [ReportColumns.ofSchema_eq_ok_iff.mpr present]
  simp only [read]
  rfl

private theorem deduplicate_of_read_eq_ok_iff {store out : Store} {banks : BankAccounts}
    {columns : ReportColumns} {reports : List Report} (present : columns.Of store.schema)
    (read : Report.ofRows? columns store.rows = some reports) :
    store.deduplicate banks = .ok out ↔ Paired banks reports ∧
      (∀ settlement ∈ settlements banks reports, settlement.Possible banks) ∧
      (∀ report ∈ reconciled columns banks reports, report.row.Conforms store.schema) ∧
      out = ⟨store.schema, (reconciled columns banks reports).map Report.row⟩ := by
  have whole : (settlements banks reports).map
      (fun settlement => (settlement.result columns banks).row) ++
        (external banks reports).map Report.row =
          (reconciled columns banks reports).map Report.row := by
    rw [reconciled, List.map_append, List.map_map]
    rfl
  rw [deduplicate_of_read present read]
  constructor
  · intro deduplicated
    cases settled : Deduplication.settleAll columns banks (transfers (internal banks reports)) with
    | error problem =>
        rw [settled] at deduplicated
        cases deduplicated
    | ok rows =>
        obtain ⟨paired, possible, same⟩ := settleAll_eq_ok_iff.mp settled
        rw [settled] at deduplicated
        dsimp only at deduplicated
        rw [same] at deduplicated
        unfold settlements at whole
        rw [whole] at deduplicated
        split at deduplicated
        · cases deduplicated
        · rename_i result taken
          cases deduplicated
          obtain ⟨conform, rfl⟩ := ingestAll_eq_ok_iff.mp taken
          exact ⟨paired, possible, List.forall_mem_map.mp conform, rfl⟩
  · rintro ⟨paired, possible, conform, rfl⟩
    have settled : Deduplication.settleAll columns banks (transfers (internal banks reports)) = .ok _ :=
      settleAll_eq_ok_iff.mpr ⟨paired, possible, rfl⟩
    have taken : (Store.empty store.schema).ingestAll
        ((reconciled columns banks reports).map Report.row) =
          .ok ⟨store.schema, (reconciled columns banks reports).map Report.row⟩ :=
      ingestAll_eq_ok_iff.mpr ⟨List.forall_mem_map.mpr conform, rfl⟩
    rw [← whole] at taken
    rw [settled, ← whole]
    dsimp only
    unfold settlements at taken ⊢
    rw [taken]

/-- Reconciling succeeds exactly when every report is paired or has a known
bank and the new rows fit the schema, and gives the reconciled rows. -/
theorem deduplicate_eq_ok_iff {store out : Store} {banks : BankAccounts} :
    store.deduplicate banks = .ok out ↔
      ∃ columns reports, columns.Of store.schema ∧
        Report.ofRows? columns store.rows = some reports ∧ Paired banks reports ∧
        (∀ settlement ∈ settlements banks reports, settlement.Possible banks) ∧
        (∀ report ∈ reconciled columns banks reports, report.row.Conforms store.schema) ∧
        out = ⟨store.schema, (reconciled columns banks reports).map Report.row⟩ := by
  constructor
  · intro deduplicated
    have succeeded := deduplicated
    unfold Store.deduplicate at succeeded
    split at succeeded
    · cases succeeded
    · rename_i columns atColumns
      split at succeeded
      · cases succeeded
      · rename_i reports read
        have present := ReportColumns.ofSchema_eq_ok_iff.mp atColumns
        exact ⟨columns, reports, present, read,
          (deduplicate_of_read_eq_ok_iff present read).mp deduplicated⟩
  · rintro ⟨columns, reports, present, read, rest⟩
    exact (deduplicate_of_read_eq_ok_iff present read).mpr rest

/-- Over rows that fit, nothing but the transfers decides what reconciling gives. -/
theorem deduplicate_of_conform {store : Store} {banks : BankAccounts} {columns : ReportColumns}
    {reports : List Report} (present : columns.Of store.schema)
    (read : Report.ofRows? columns store.rows = some reports)
    (conform : ∀ row ∈ store.rows, row.Conforms store.schema) :
    store.deduplicate banks =
      (Deduplication.settleAll columns banks (transfers (internal banks reports))).map
        fun rows => ⟨store.schema, rows ++ (external banks reports).map Report.row⟩ := by
  cases settled : Deduplication.settleAll columns banks (transfers (internal banks reports)) with
  | error problem =>
      rw [deduplicate_of_read present read, settled]
      rfl
  | ok rows =>
      obtain ⟨paired, possible, rfl⟩ := settleAll_eq_ok_iff.mp settled
      have fit := conforms_reconciled present paired read conform
      refine (deduplicate_of_read_eq_ok_iff present read).mpr ⟨paired, possible, fit, ?_⟩
      rw [reconciled, List.map_append, List.map_map]
      rfl

end Store

/-! ## Refusals

What reconciling can fail for. Rows that fit their schema have every cell that
it looks at, and the rows that it makes of them fit again. So it fails for a
schema without the base columns, and else only for the transfers themselves:
one that three banks report, or a report alone whose bank is unknown. -/

/-- The error is about the transfers, not about the store they stand in. -/
def DedupError.IsRefusal : DedupError → Prop
  | .ambiguousTransfer .. | .unknownBank _ => True
  | .schema _ | .fault _ => False

namespace Deduplication

variable {columns : ReportColumns} {banks : BankAccounts} {error : DedupError}

def isUnknown (banks : BankAccounts) (report : Report) : Bool :=
  (banks.accounts? report.bankName).isNone

theorem unmatchedAll_eq_error_iff {reports : List Report} :
    unmatchedAll columns banks reports = .error error ↔
      ∃ report, reports.find? (isUnknown banks) = some report ∧
        error = .unknownBank report.bankName := by
  induction reports with
  | nil => simp [unmatchedAll]
  | cons report reports ih =>
      rw [unmatchedAll, unmatched, List.find?_cons, isUnknown]
      cases known : banks.accounts? report.bankName with
      | none => simp [eq_comm]
      | some owned =>
          dsimp only [Option.isNone_some]
          rw [← ih]
          cases unmatchedAll columns banks reports with
          | error problem => rfl
          | ok rows => simp

def leftOver {α : Type} (first second : List α) : List α :=
  first.drop second.length ++ second.drop first.length

/-- Pairing refuses what is left over of the longer list. -/
theorem pair_eq_error_iff {first second : List Report} :
    pair columns banks first second = .error error ↔
      unmatchedAll columns banks (leftOver first second) = .error error := by
  unfold leftOver
  induction first generalizing second with
  | nil => cases second <;> exact Iff.rfl
  | cons a as ih =>
      cases second with
      | nil =>
          rw [List.drop_nil, List.append_nil]
          exact Iff.rfl
      | cons b bs =>
          rw [pair, List.length_cons, List.length_cons, List.drop_succ_cons, List.drop_succ_cons,
            ← ih]
          cases pair columns banks as bs with
          | error problem => rfl
          | ok rows => simp

theorem settle_of_many {transfer : Transfer} (many : 3 ≤ transfer.byBank.length) :
    settle columns banks transfer = .error (.ambiguousTransfer transfer.first.origin
      transfer.first.destination transfer.first.date transfer.first.amount transfer.banks) := by
  obtain ⟨report, byBank⟩ := transfer
  match byBank, many with
  | _ :: _ :: _ :: _, _ => rfl

/-- Transfers are refused for the first one that cannot be settled. -/
theorem settleAll_eq_error_iff {transfers : List Transfer} :
    settleAll columns banks transfers = .error error ↔
      ∃ before transfer after, transfers = before ++ transfer :: after ∧
        (∀ earlier ∈ before, ∃ rows, settle columns banks earlier = .ok rows) ∧
        settle columns banks transfer = .error error := by
  induction transfers with
  | nil => simp [settleAll]
  | cons transfer rest ih =>
      rw [Outcome.exists_first_cons_iff, ← ih, settleAll]
      cases own : settle columns banks transfer with
      | error problem => simp
      | ok rows => cases settleAll columns banks rest <;> simp

theorem exists_error_iff {transfers : List Transfer} :
    (∃ error, settleAll columns banks transfers = .error error) ↔
      ∃ transfer ∈ transfers, ∃ error, settle columns banks transfer = .error error := by
  constructor
  · rintro ⟨error, failed⟩
    obtain ⟨before, transfer, after, rfl, _, own⟩ := settleAll_eq_error_iff.mp failed
    exact ⟨transfer, List.mem_append_right _ List.mem_cons_self, error, own⟩
  · rintro ⟨transfer, member, error, failed⟩
    cases settled : settleAll columns banks transfers with
    | error problem => exact ⟨problem, rfl⟩
    | ok rows =>
        obtain ⟨few, possible, _⟩ := settleAll_eq_ok_iff.mp settled
        have own : settle columns banks transfer = .ok _ := settle_eq_ok_iff.mpr
          ⟨few transfer member, fun settlement among =>
            possible settlement (List.mem_flatMap.mpr ⟨transfer, member, among⟩), rfl⟩
        rw [failed] at own
        cases own

theorem isRefusal_of_unmatchedAll {reports : List Report}
    (failed : unmatchedAll columns banks reports = .error error) : error.IsRefusal := by
  obtain ⟨_, _, rfl⟩ := unmatchedAll_eq_error_iff.mp failed
  trivial

theorem isRefusal_of_settle {transfer : Transfer}
    (failed : settle columns banks transfer = .error error) : error.IsRefusal := by
  obtain ⟨report, byBank⟩ := transfer
  match byBank, failed with
  | [(_, _)], failed => exact isRefusal_of_unmatchedAll (pair_eq_error_iff.mp failed)
  | [(_, _), (_, _)], failed => exact isRefusal_of_unmatchedAll (pair_eq_error_iff.mp failed)
  | _ :: _ :: _ :: _, failed =>
      cases failed
      trivial

theorem isRefusal_of_settleAll {transfers : List Transfer}
    (failed : settleAll columns banks transfers = .error error) : error.IsRefusal := by
  obtain ⟨_, _, _, _, _, own⟩ := settleAll_eq_error_iff.mp failed
  exact isRefusal_of_settle own

end Deduplication

namespace Store

open Deduplication

/-- Over rows that fit and columns that are there, reconciling fails for the
transfers alone. -/
theorem isRefusal_of_deduplicate {store : Store} {columns : ReportColumns}
    (present : columns.Of store.schema)
    (conform : ∀ row ∈ store.rows, row.Conforms store.schema) {banks : BankAccounts}
    {error : DedupError} (failed : store.deduplicate banks = .error error) :
    error.IsRefusal := by
  obtain ⟨reports, read⟩ := Report.exists_ofRows? present conform
  rw [deduplicate_of_conform present read conform] at failed
  cases settled : Deduplication.settleAll columns banks
      (transfers (internal banks reports)) with
  | error problem =>
      rw [settled] at failed
      cases failed
      exact isRefusal_of_settleAll settled
  | ok rows =>
      rw [settled] at failed
      cases failed

theorem WellFormed.deduplicate {store out : Store} (wellFormed : store.WellFormed)
    {banks : BankAccounts} (succeeded : store.deduplicate banks = .ok out) :
    out.schema = store.schema ∧ out.WellFormed := by
  obtain ⟨columns, reports, _, _, _, _, fit, rfl⟩ := deduplicate_eq_ok_iff.mp succeeded
  exact ⟨rfl, wellFormed.1, List.forall_mem_map.mpr fit⟩

end Store

end Passbook
