/-
Reconciling what was reconciled. A fused row still is between two known accounts,
but no bank has the name that it bears; a marked row no longer is; and a row that
was alone without being marked is as before, and its bank owns both endpoints.
So all rows of a transfer have one bank now, and none of them are fused again.
The second run is refused for the first fused row. If there is none, it puts the
rows of each transfer together, and a third run finds them so.
-/

import Passbook.Proofs.Reconcile.FirstRefusal
import Passbook.Proofs.Reconcile.Ownership

namespace Passbook

open Deduplication

/-- The bank of a report owns both its endpoints. -/
def Report.IsOwn (banks : BankAccounts) (report : Report) : Prop :=
  banks.owns report.bankName (Report.textOf report.origin) = true ∧
    banks.owns report.bankName (Report.textOf report.destination) = true

namespace Row

theorem set_of_get? {row : Row} {index : Nat} {entry : Entry}
    (present : row.get? index = some entry) : row.set index entry = row := by
  obtain ⟨within, rfl⟩ := List.getElem?_eq_some_iff.mp present
  unfold set
  rw [List.set_getElem_self]

end Row

/-! ### Transfers that one bank reports -/

namespace Deduplication

/-- Reports of one transfer come from one bank. -/
def OneBank (reports : List Report) : Prop :=
  ∀ a ∈ reports, ∀ b ∈ reports, a.sameTransfer b = true → a.bankName = b.bankName

/-- The reports transfer by transfer. -/
def byTransfer (reports : List Report) : List Report :=
  (transfers reports).flatMap Transfer.reports

theorem perm_byTransfer (reports : List Report) : (byTransfer reports).Perm reports :=
  perm_transfers reports

private theorem filter_append_of_apart {α : Type} {chosen : α → Bool} {front back : List α}
    (inFront : ∀ item ∈ front, chosen item = true) (inBack : ∀ item ∈ back, chosen item = false) :
    (front ++ back).filter chosen = front ∧
      ((front ++ back).filter fun item => !chosen item) = back := by
  have noneOfBack : back.filter chosen = [] :=
    List.filter_eq_nil_iff.mpr fun item member => ne_true_of_eq_false (inBack item member)
  have noneOfFront : (front.filter fun item => !chosen item) = [] :=
    List.filter_eq_nil_iff.mpr fun item member => by rw [inFront item member]; decide
  have allOfBack : (back.filter fun item => !chosen item) = back :=
    List.filter_eq_self.mpr fun item member => by rw [inBack item member]; rfl
  rw [List.filter_append, List.filter_append, List.filter_eq_self.mpr inFront, noneOfBack,
    noneOfFront, allOfBack, List.append_nil, List.nil_append]
  exact ⟨rfl, rfl⟩

section OneBank

variable {columns : ReportColumns} {banks : BankAccounts} {reports : List Report}

theorem OneBank.subset (one : OneBank reports) {others : List Report} (among : others ⊆ reports) :
    OneBank others :=
  fun a inA b inB same => one a (among inA) b (among inB) same

/-- The transfer of the first report has all reports of its class, by one bank. -/
theorem OneBank.byBank_eq {first : Report} (one : OneBank (first :: reports)) :
    (Transfer.collect first (reports.filter first.sameTransfer)).byBank =
      [(first.bankName, first :: reports.filter first.sameTransfer)] := by
  have own : ∀ report ∈ reports.filter first.sameTransfer, isBy first.bankName report = true := by
    intro report member
    obtain ⟨present, same⟩ := List.mem_filter.mp member
    exact beq_iff_eq.mpr
      (one first List.mem_cons_self report (List.mem_cons_of_mem _ present) same)
  have noOther : (reports.filter first.sameTransfer).filter
      (fun report => !isBy first.bankName report) = [] :=
    List.filter_eq_nil_iff.mpr fun report member => by rw [own report member]; decide
  rw [byBank_collect, groupByBank_cons, List.filter_eq_self.mpr own, noOther]
  rfl

theorem OneBank.byTransfer_cons {first : Report} (one : OneBank (first :: reports)) :
    byTransfer (first :: reports) = first :: reports.filter first.sameTransfer ++
      byTransfer (reports.filter fun report => !first.sameTransfer report) := by
  rw [byTransfer, transfers_cons, List.flatMap_cons, Transfer.reports, one.byBank_eq,
    List.flatMap_singleton]
  rfl

theorem OneBank.rest {first : Report} (one : OneBank (first :: reports)) :
    OneBank (reports.filter fun report => !first.sameTransfer report) :=
  one.subset fun _ member => List.mem_cons_of_mem _ (List.mem_filter.mp member).1

/-- Reports that stand transfer by transfer stay where they are. -/
theorem OneBank.byTransfer_byTransfer (one : OneBank reports) :
    byTransfer (byTransfer reports) = byTransfer reports := by
  induction reports using induct_classes with
  | none => rfl
  | next first reports again =>
      have grouped : OneBank (byTransfer (first :: reports)) :=
        one.subset (perm_byTransfer _).subset
      rw [one.byTransfer_cons] at grouped ⊢
      rw [List.cons_append] at grouped ⊢
      have same : ∀ report ∈ reports.filter first.sameTransfer,
          first.sameTransfer report = true :=
        fun _ member => (List.mem_filter.mp member).2
      have apart : ∀ report ∈ byTransfer (reports.filter fun report => !first.sameTransfer report),
          first.sameTransfer report = false := by
        intro report member
        exact (Bool.not_eq_true' _).mp (List.mem_filter.mp ((perm_byTransfer _).subset member)).2
      obtain ⟨together, left⟩ := filter_append_of_apart same apart
      rw [grouped.byTransfer_cons, together, left, again one.rest]
      rfl

private theorem settle_of_one {first : Report} (one : OneBank (first :: reports)) :
    settle columns banks (Transfer.collect first (reports.filter first.sameTransfer)) =
      unmatchedAll columns banks (first :: reports.filter first.sameTransfer) := by
  unfold settle
  rw [one.byBank_eq]
  rfl

theorem OneBank.settleAll_of_kept (one : OneBank reports)
    (kept : ∀ report ∈ reports, (Settlement.alone report).Possible banks ∧
      (Settlement.alone report).result columns banks = report) :
    settleAll columns banks (transfers reports) = .ok ((byTransfer reports).map Report.row) := by
  induction reports using induct_classes with
  | none => rfl
  | next first reports later =>
      obtain ⟨here, others⟩ := List.forall_mem_cons.mp kept
      have ofClass : ∀ report ∈ first :: reports.filter first.sameTransfer,
          (Settlement.alone report).Possible banks ∧
            (Settlement.alone report).result columns banks = report :=
        List.forall_mem_cons.mpr
          ⟨here, fun report member => others report (List.mem_filter.mp member).1⟩
      have own : unmatchedAll columns banks (first :: reports.filter first.sameTransfer) =
          .ok ((first :: reports.filter first.sameTransfer).map Report.row) := by
        refine unmatchedAll_eq_ok_iff.mpr
          ⟨List.forall_mem_map.mpr fun report member => (ofClass report member).1, ?_⟩
        rw [List.map_map]
        exact List.map_congr_left fun report member =>
          congrArg Report.row (ofClass report member).2.symm
      have rest := later one.rest fun report member => others report (List.mem_filter.mp member).1
      rw [transfers_cons, settleAll, settle_of_one one, own, rest, one.byTransfer_cons,
        List.map_append]

theorem OneBank.settleAll_of_unknown (one : OneBank reports) {report : Report}
    (found : reports.find? (isUnknown banks) = some report) :
    settleAll columns banks (transfers reports) = .error (.unknownBank report.bankName) := by
  induction reports using induct_classes with
  | none => cases found
  | next first reports later =>
      rw [transfers_cons, settleAll, settle_of_one one]
      by_cases unknown : isUnknown banks first = true
      · rw [List.find?_cons_of_pos unknown, Option.some.injEq] at found
        subst found
        have refused : unmatchedAll columns banks (first :: reports.filter first.sameTransfer) =
            .error (.unknownBank first.bankName) :=
          unmatchedAll_eq_error_iff.mpr ⟨first, List.find?_cons_of_pos unknown, rfl⟩
        rw [refused]
      · have known : ∀ other ∈ reports, first.sameTransfer other = true →
            ¬ isUnknown banks other = true := by
          intro other member same
          have sameBank := one first List.mem_cons_self other (List.mem_cons_of_mem _ member) same
          rw [isUnknown, ← sameBank]
          exact unknown
        have foundLater : (reports.filter fun other => !first.sameTransfer other).find?
            (isUnknown banks) = some report := by
          rw [List.find?_cons_of_neg unknown, ← List.head?_filter] at found
          rw [← List.head?_filter, ← found, List.filter_filter]
          refine congrArg List.head? (List.filter_congr fun other member => ?_)
          cases same : first.sameTransfer other with
          | false => exact Bool.and_true _
          | true => rw [eq_false_of_ne_true (known other member same)]; rfl
        cases settled : unmatchedAll columns banks (first :: reports.filter first.sameTransfer) with
        | error problem =>
            obtain ⟨other, isFirst, _⟩ := unmatchedAll_eq_error_iff.mp settled
            rw [List.find?_cons_of_neg unknown] at isFirst
            obtain ⟨member, same⟩ := List.mem_filter.mp (List.mem_of_find?_eq_some isFirst)
            exact absurd (List.find?_some isFirst) (known other member same)
        | ok rows => rw [later one.rest foundLater]

end OneBank

/-- Putting the reports of each transfer together mixes none with external ones. -/
theorem filter_byTransfer_append (banks : BankAccounts) (reports : List Report) :
    internal banks (byTransfer (internal banks reports) ++ external banks reports) =
        byTransfer (internal banks reports) ∧
      external banks (byTransfer (internal banks reports) ++ external banks reports) =
        external banks reports :=
  filter_append_of_apart
    (fun _ member => (List.mem_filter.mp ((perm_byTransfer _).subset member)).2)
    (fun _ member => (Bool.not_eq_true' _).mp (List.mem_filter.mp member).2)

/-! ### Reports of banks that own both endpoints -/

section Own

variable {columns : ReportColumns} {banks : BankAccounts} {report : Report}

theorem possible_of_isOwn (own : report.IsOwn banks) :
    (Settlement.alone report).Possible banks :=
  BankAccounts.exists_accounts? own.1

private theorem vouched_eq_self {endpoint : Entry}
    (owns : banks.owns report.bankName (Report.textOf endpoint) = true) :
    vouched ((banks.accounts? report.bankName).getD OrderedSet.empty) endpoint = endpoint := by
  rw [vouched, BankAccounts.contains_getD, if_pos owns]

theorem result_of_isOwn (read : report.IsRead columns) (own : report.IsOwn banks) :
    (Settlement.alone report).result columns banks = report := by
  obtain ⟨_, _, atOrigin, atDestination, _⟩ := Report.ofRow?_eq_some_iff.mp read
  obtain ⟨row, bank, origin, destination, date, description, amount⟩ := report
  simp only [Settlement.result, Report.marked, Report.withOrigin, Report.withDestination,
    vouched_eq_self own.1, vouched_eq_self own.2, Row.set_of_get? atOrigin,
    Row.set_of_get? atDestination]

/-- A report that was marked is between known accounts only where its bank owns them. -/
theorem isOwn_of_isInternal_result (unmarked : banks.Unmarked)
    (inside : ((Settlement.alone report).result columns banks).isInternal banks.allAccounts = true) :
    report.IsOwn banks := by
  have owned {endpoint : Entry} (known : banks.allAccounts.contains (Report.textOf
      (vouched ((banks.accounts? report.bankName).getD OrderedSet.empty) endpoint)) = true) :
      banks.owns report.bankName (Report.textOf endpoint) = true := by
    have plain := unmarked _
      ((OrderedSet.contains_iff_mem (OrderedSet.ascending_ofList _)).mp known)
    obtain ⟨same, contained⟩ := (Report.textOf_vouched_iff _ endpoint plain).mp rfl
    rw [← same, BankAccounts.contains_getD] at contained
    exact contained
  obtain ⟨origin, destination⟩ := Bool.and_eq_true_iff.mp inside
  exact ⟨owned origin, owned destination⟩

theorem bankName_eq_of_isOwn (exclusive : banks.Exclusive) {other : Report}
    (own : report.IsOwn banks) (vouched : other.Vouched banks)
    (same : report.sameTransfer other = true) : report.bankName = other.bankName := by
  obtain ⟨origin, destination, _⟩ := Report.sameTransfer_iff.mp same
  obtain ⟨ownsOrigin, ownsDestination⟩ := own
  rw [Report.textOf_eq_of_sameValue origin] at ownsOrigin
  rw [Report.textOf_eq_of_sameValue destination] at ownsDestination
  rcases vouched with owns | owns
  · exact exclusive _ _ _ ownsOrigin owns
  · exact exclusive _ _ _ ownsDestination owns

theorem oneBank_of_isOwn (exclusive : banks.Exclusive) {reports : List Report}
    (own : ∀ report ∈ reports, report.IsOwn banks) : OneBank reports :=
  fun a inA b inB same => bankName_eq_of_isOwn exclusive (own a inA) (Or.inl (own b inB).1) same

end Own

/-! ### The reports of a result -/

namespace Settlement

def isFused : Settlement → Bool
  | .fused _ _ => true
  | .alone _ => false

end Settlement

def fusions (columns : ReportColumns) (banks : BankAccounts) (reports : List Report) :
    List Report :=
  ((settlements banks reports).filter Settlement.isFused).map (Settlement.result columns banks)

theorem plus_mem_fusedBank (a b : String) : '+' ∈ (fusedBank a b).toList := by
  rw [fusedBank, String.toList_append, String.toList_append]
  exact List.mem_append_left _ (List.mem_append_right _ (by decide))

section Again

variable {columns : ReportColumns} {banks : BankAccounts} {reports : List Report}

section Vouched

variable (exclusive : banks.Exclusive) (unmarked : banks.Unmarked)
  (read : ∀ report ∈ reports, report.IsRead columns)
  (vouched : ∀ report ∈ reports, report.Vouched banks)

include exclusive unmarked read vouched

/-- A report of the result that is between known accounts is fused, or it is one
from before whose bank owns both endpoints. -/
theorem fused_or_isOwn {report : Report}
    (member : report ∈ internal banks (reconciled columns banks reports)) :
    (∃ a b, .fused a b ∈ settlements banks reports ∧ report = Report.fused columns a b) ∨
      report ∈ reports ∧ report.IsOwn banks := by
  obtain ⟨present, inside⟩ := List.mem_filter.mp member
  rcases List.mem_append.mp present with settled | outside
  · obtain ⟨settlement, here, rfl⟩ := List.mem_map.mp settled
    cases settlement with
    | fused a b => exact Or.inl ⟨a, b, here, rfl⟩
    | alone before =>
        have own := isOwn_of_isInternal_result unmarked inside
        have inReports := (mem_of_mem_sources (paired_of_vouched exclusive vouched) here
          List.mem_cons_self).1
        rw [result_of_isOwn (read before inReports) own]
        exact Or.inr ⟨inReports, own⟩
  · have notInside := (List.mem_filter.mp outside).2
    rw [inside] at notInside
    cases notInside

theorem oneBank_reconciled : OneBank (internal banks (reconciled columns banks reports)) := by
  have paired := paired_of_vouched exclusive vouched
  have noOwner {a b report : Report} (fused : .fused a b ∈ settlements banks reports)
      (own : report.IsOwn banks) : ¬ report.sameTransfer (Report.fused columns a b) = true := by
    intro same
    obtain ⟨differ, both⟩ := of_fused fused
    have vouchedA := vouched a (mem_of_mem_sources paired fused List.mem_cons_self).1
    have vouchedB := vouched b
      (mem_of_mem_sources paired fused (List.mem_cons_of_mem _ List.mem_cons_self)).1
    have ownsA := bankName_eq_of_isOwn exclusive own vouchedA same
    have ownsB := bankName_eq_of_isOwn exclusive own vouchedB (Report.sameTransfer_trans same both)
    exact differ (ownsA.symm.trans ownsB)
  intro first inFirst second inSecond same
  rcases fused_or_isOwn exclusive unmarked read vouched inFirst with
    ⟨a, b, fused, rfl⟩ | ⟨_, own⟩ <;>
    rcases fused_or_isOwn exclusive unmarked read vouched inSecond with
      ⟨c, d, alsoFused, rfl⟩ | ⟨present, alsoOwn⟩
  · rw [Report.bankName_fused, Report.bankName_fused]
    obtain ⟨transfer, grouped, settled⟩ := List.mem_flatMap.mp fused
    obtain ⟨other, alsoGrouped, alsoSettled⟩ := List.mem_flatMap.mp alsoFused
    obtain ⟨banksHere, sameA, _⟩ := (coherent_transfers grouped).banks_of_fused settled
    obtain ⟨banksThere, sameC, _⟩ := (coherent_transfers alsoGrouped).banks_of_fused alsoSettled
    have oneTransfer : transfer.first.sameTransfer other.first = true :=
      Report.sameTransfer_trans (Report.sameTransfer_trans sameA same)
        (Report.sameTransfer_symm sameC)
    rw [eq_of_sameTransfer grouped alsoGrouped oneTransfer, banksThere] at banksHere
    rw [List.cons.injEq, List.cons.injEq] at banksHere
    rw [banksHere.1, banksHere.2.1]
  · exact absurd (Report.sameTransfer_symm same) (noOwner fused alsoOwn)
  · exact absurd same (noOwner alsoFused own)
  · exact bankName_eq_of_isOwn exclusive own (Or.inl alsoOwn.1) same

/-- Without fused reports, all transfers of the result are within one bank. -/
theorem isOwn_of_fusions_eq_nil (none : fusions columns banks reports = []) :
    ∀ report ∈ internal banks (reconciled columns banks reports), report.IsOwn banks := by
  intro report member
  rcases fused_or_isOwn exclusive unmarked read vouched member with ⟨a, b, fused, _⟩ | ⟨_, own⟩
  · rw [fusions, List.map_eq_nil_iff, List.filter_eq_nil_iff] at none
    exact absurd rfl (none _ fused)
  · exact own

end Vouched

section Known

variable (paired : Paired banks reports) (vouched : ∀ report ∈ reports, report.Vouched banks)

include paired vouched

/-- What holds of fused reports, and of no report of a known bank, picks the fused
ones out of the result. -/
theorem filter_reconciled {chosen : Report → Bool}
    (ofFused : ∀ a b, .fused a b ∈ settlements banks reports →
      chosen (Report.fused columns a b) = true)
    (notKnown : ∀ report, isUnknown banks report = false → chosen report = false) :
    (reconciled columns banks reports).filter chosen = fusions columns banks reports := by
  have known {report : Report} (member : report ∈ reports) : isUnknown banks report = false := by
    obtain ⟨owned, present⟩ := (vouched report member).exists_accounts?
    rw [isUnknown, present]
    rfl
  have none : (external banks reports).filter chosen = [] :=
    List.filter_eq_nil_iff.mpr fun report member =>
      ne_true_of_eq_false (notKnown report (known (List.mem_filter.mp member).1))
  rw [reconciled, List.filter_append, none, List.append_nil, List.filter_map, fusions]
  refine congrArg (List.map _) (List.filter_congr fun settlement member => ?_)
  cases settlement with
  | fused a b => exact ofFused a b member
  | alone report =>
      have before : isUnknown banks report = false :=
        known (mem_of_mem_sources paired member List.mem_cons_self).1
      exact notKnown ((Settlement.alone report).result columns banks) before

variable (wellFormed : banks.WellFormed) (plain : ∀ bank ∈ banks.names, '+' ∉ bank.toList)

include wellFormed plain

/-- The reports of the result with joined banks are the fused ones. -/
theorem filter_plus_reconciled :
    (reconciled columns banks reports).filter
        (fun report => decide ('+' ∈ report.bankName.toList)) =
      fusions columns banks reports := by
  apply filter_reconciled paired vouched
  · intro a b _
    exact decide_eq_true (plus_mem_fusedBank _ _)
  · intro report known
    obtain ⟨owned, present⟩ := Option.isSome_iff_exists.mp (Option.isNone_eq_false_iff.mp known)
    exact decide_eq_false (plain _ (wellFormed.mem_names present))

/-- The reports that a second run asks the accounts for in vain are the fused ones. -/
theorem filter_isUnknown_reconciled :
    (internal banks (reconciled columns banks reports)).filter (isUnknown banks) =
      fusions columns banks reports := by
  rw [internal, List.filter_filter]
  apply filter_reconciled paired vouched
  · intro a b fused
    have inside : (Report.fused columns a b).isInternal banks.allAccounts = true :=
      (mem_of_mem_sources paired fused List.mem_cons_self).2
    rw [inside, Bool.and_true, isUnknown]
    cases known : banks.accounts? (Report.fused columns a b).bankName with
    | none => rfl
    | some owned => exact absurd (plus_mem_fusedBank _ _) (plain _ (wellFormed.mem_names known))
  · intro report known
    rw [known, Bool.false_and]

end Known

end Again

end Deduplication

/-! ### Fused rows -/

namespace Pairing

section Rows

variable (schema : Schema)

def fusedOf (rows : List Row) : List Row :=
  match rows with
  | [] => []
  | first :: _ =>
      List.zipWith (fusedRow schema) (rows.filter (ofSameBank schema first))
        (rows.filter fun row => !ofSameBank schema first row)

def fusedRows (banks : BankAccounts) (rows : List Row) : List Row :=
  (classes schema (rows.filter (isInternal schema banks))).flatMap (fusedOf schema)

/-- The bank cell of the row has the plus that joins two banks. -/
def isJoined (row : Row) : Bool :=
  decide ('+' ∈ (textIn schema row Schema.bank).toList)

end Rows

variable {schema : Schema} {columns : ReportColumns} {banks : BankAccounts}

private theorem zipWith_fusedRow (present : columns.Of schema) {first second : List Report}
    (readFirst : ∀ report ∈ first, report.IsRead columns)
    (readSecond : ∀ report ∈ second, report.IsRead columns) :
    List.zipWith (fusedRow schema) (first.map Report.row) (second.map Report.row) =
      ((pairing first second).filter Settlement.isFused).map
        fun settlement => (settlement.result columns banks).row := by
  have noneAlone (reports : List Report) :
      (reports.map Settlement.alone).filter Settlement.isFused = [] :=
    List.filter_eq_nil_iff.mpr (List.forall_mem_map.mpr fun _ _ fused => nomatch fused)
  induction first generalizing second with
  | nil =>
      rw [pairing_nil_left, noneAlone, List.map_nil, List.zipWith_nil_left]
      rfl
  | cons a first ih =>
      cases second with
      | nil =>
          rw [pairing_nil_right, noneAlone, List.map_nil, List.zipWith_nil_right]
          rfl
      | cons b second =>
          obtain ⟨readA, readFirst⟩ := List.forall_mem_cons.mp readFirst
          obtain ⟨readB, readSecond⟩ := List.forall_mem_cons.mp readSecond
          rw [List.map_cons, List.map_cons, List.zipWith_cons_cons, ih readFirst readSecond,
            fusedRow_eq present readA readB]
          rfl

theorem fusedOf_eq (present : columns.Of schema) {first : Report} {others : List Report}
    (read : ∀ report ∈ first :: others, report.IsRead columns)
    (few : (Transfer.collect first others).byBank.length ≤ 2) :
    fusedOf schema ((first :: others).map Report.row) =
      ((Transfer.collect first others).settlements.filter Settlement.isFused).map
        fun settlement => (settlement.result columns banks).row := by
  obtain ⟨ofFirst, ofOther⟩ := filter_ofSameBank present read
  have fused : fusedOf schema ((first :: others).map Report.row) =
      List.zipWith (fusedRow schema)
        (((first :: others).map Report.row).filter (ofSameBank schema first.row))
        (((first :: others).map Report.row).filter fun row => !ofSameBank schema first.row row) :=
    rfl
  rw [fused, ofFirst, ofOther, Transfer.settlements_collect few]
  obtain ⟨readFirst, readOthers⟩ := List.forall_mem_cons.mp read
  refine zipWith_fusedRow present (List.forall_mem_cons.mpr ⟨readFirst, ?_⟩) ?_
  · exact fun report member => readOthers report (List.mem_filter.mp member).1
  · exact fun report member => readOthers report (List.mem_filter.mp member).1

theorem fusedRows_eq (present : columns.Of schema) {rows : List Row} {reports : List Report}
    (read : Report.ofRows? columns rows = some reports) (paired : Paired banks reports) :
    fusedRows schema banks rows = (fusions columns banks reports).map Report.row := by
  obtain ⟨_, allRead⟩ := Report.ofRows?_eq_some_iff.mp read
  obtain ⟨groups, ofTransfers, ofClasses, readAll⟩ :=
    exists_groups present fun report (member : report ∈ internal banks reports) =>
      allRead report (List.mem_filter.mp member).1
  unfold Paired at paired
  rw [fusedRows, filter_isInternal present read, ofClasses, fusions, settlements]
  rw [ofTransfers] at paired ⊢
  rw [List.flatMap_map, List.flatMap_map, List.filter_flatMap, List.map_map, List.map_flatMap]
  refine List.flatMap_congr fun group member => ?_
  exact fusedOf_eq present (readAll group member) (paired _ (List.mem_map_of_mem member))

end Pairing

/-! ### Second and third runs -/

namespace Store

variable {store : Store} {banks : BankAccounts} {columns : ReportColumns} {reports : List Report}

/-- Where each transfer has one bank, reconciling is refused for the first unknown one. -/
theorem deduplicate_of_unknown (present : columns.Of store.schema)
    (conform : ∀ row ∈ store.rows, row.Conforms store.schema)
    (read : Report.ofRows? columns store.rows = some reports)
    (one : OneBank (internal banks reports)) {report : Report}
    (found : (internal banks reports).find? (isUnknown banks) = some report) :
    store.deduplicate banks = .error (.unknownBank report.bankName) := by
  rw [deduplicate_of_conform present read conform, one.settleAll_of_unknown found]
  rfl

section Own

variable (exclusive : banks.Exclusive) (present : columns.Of store.schema)
  (conform : ∀ row ∈ store.rows, row.Conforms store.schema)
  (read : Report.ofRows? columns store.rows = some reports)
  (own : ∀ report ∈ internal banks reports, report.IsOwn banks)

include exclusive present conform read own

/-- Where all transfers are within one bank, reconciling puts the reports of each
together and changes none. -/
theorem deduplicate_of_isOwn : store.deduplicate banks = .ok ⟨store.schema,
    (byTransfer (internal banks reports) ++ external banks reports).map Report.row⟩ := by
  have settled : Deduplication.settleAll columns banks (transfers (internal banks reports)) =
      .ok ((byTransfer (internal banks reports)).map Report.row) := by
    refine (oneBank_of_isOwn exclusive own).settleAll_of_kept fun report member => ?_
    have isRead := (Report.of_mem_ofRows? read (List.mem_filter.mp member).1).2
    exact ⟨possible_of_isOwn (own report member), result_of_isOwn isRead (own report member)⟩
  rw [deduplicate_of_conform present read conform, settled, List.map_append]
  rfl

theorem exists_deduplicate_of_isOwn : ∃ again, store.deduplicate banks = .ok again ∧
    again.schema = store.schema ∧ again.rows.Perm store.rows ∧
      again.deduplicate banks = .ok again := by
  obtain ⟨rows, allRead⟩ := Report.ofRows?_eq_some_iff.mp read
  have sorted : (byTransfer (internal banks reports) ++ external banks reports).Perm reports :=
    ((perm_byTransfer _).append_right _).trans (List.filter_append_perm _ _)
  have permRows := sorted.map Report.row
  rw [rows] at permRows
  refine ⟨_, deduplicate_of_isOwn exclusive present conform read own, rfl, permRows, ?_⟩
  obtain ⟨sameInside, sameOutside⟩ := filter_byTransfer_append banks reports
  have grouped := (oneBank_of_isOwn exclusive own).byTransfer_byTransfer
  have ownAgain : ∀ report ∈ byTransfer (internal banks reports), report.IsOwn banks :=
    fun report member => own report ((perm_byTransfer _).subset member)
  rw [← sameInside] at ownAgain
  have readAgain := Report.ofRows?_eq_some_iff.mpr
    ⟨rfl, fun report member => allRead report (sorted.subset member)⟩
  have conformAgain : ∀ row ∈ (byTransfer (internal banks reports) ++
      external banks reports).map Report.row, row.Conforms store.schema :=
    fun row member => conform row (permRows.subset member)
  have stays : (Store.mk store.schema ((byTransfer (internal banks reports) ++
      external banks reports).map Report.row)).deduplicate banks = .ok _ :=
    deduplicate_of_isOwn exclusive present conformAgain readAgain ownAgain
  rw [sameInside, sameOutside, grouped] at stays
  exact stays

end Own

end Store

/-- A second run fuses nothing again. If the first run fused no rows, the second
puts them in another order at most, and a third keeps that order. Else the second
is refused for the first fused row. The banks of the rows before have no plus, for
they own accounts, so that the fused rows are those whose bank cell has one. -/
theorem Store.deduplicate_deduplicate {store : Store} {banks : BankAccounts}
    (wellFormed : banks.WellFormed) (exclusive : banks.Exclusive) (unmarked : banks.Unmarked)
    (plainNames : ∀ bank ∈ banks.names, '+' ∉ bank.toList) (storeWellFormed : store.WellFormed)
    (base : Schema.base.columns ⊆ store.schema.columns) (vouched : store.Vouched banks) :
    ∃ out, store.deduplicate banks = .ok out ∧ out.schema = store.schema ∧
      let fused := Pairing.fusedRows store.schema banks store.rows
      out.rows.filter (Pairing.isJoined store.schema) = fused ∧
      (fused = [] → ∃ second, out.deduplicate banks = .ok second ∧
        second.schema = out.schema ∧ second.rows.Perm out.rows ∧
          second.deduplicate banks = .ok second) ∧
      ∀ first others, fused = first :: others → out.deduplicate banks =
        .error (.unknownBank (Pairing.textIn store.schema first Schema.bank)) := by
  obtain ⟨columns, present⟩ := ReportColumns.exists_of storeWellFormed.1 base
  obtain ⟨reports, read⟩ := Report.exists_ofRows? present storeWellFormed.2
  obtain ⟨_, allRead⟩ := Report.ofRows?_eq_some_iff.mp read
  have vouchedReports := vouched.of_reports present read
  have paired := paired_of_vouched exclusive vouchedReports
  have conformResult := conforms_reconciled present paired read storeWellFormed.2
  obtain ⟨out, rows, sameSchema⟩ : ∃ out : Store,
      out.rows = (reconciled columns banks reports).map Report.row ∧ out.schema = store.schema :=
    ⟨⟨_, _⟩, rfl, rfl⟩
  have result : out = ⟨store.schema, (reconciled columns banks reports).map Report.row⟩ := by
    rw [← rows, ← sameSchema]
  have presentAfter : columns.Of out.schema := sameSchema ▸ present
  have readAfter : Report.ofRows? columns out.rows = some (reconciled columns banks reports) :=
    rows ▸ ofRows?_reconciled present paired read
  have conformAfter : ∀ row ∈ out.rows, row.Conforms out.schema := by
    rw [rows, sameSchema]
    exact List.forall_mem_map.mpr conformResult
  have shown (report : Report) (member : report ∈ reconciled columns banks reports) :
      Pairing.Shows store.schema report :=
    Pairing.shows_of_isRead present (Report.of_mem_ofRows? readAfter member).2
  have fusedRows := Pairing.fusedRows_eq present read paired
  refine ⟨out, deduplicate_eq_ok_iff.mpr ⟨columns, reports, present, read, paired,
    possible_of_vouched paired vouchedReports, conformResult, result⟩, sameSchema, ?_, ?_, ?_⟩
  · rw [rows, fusedRows, ← filter_plus_reconciled paired vouchedReports wellFormed plainNames]
    refine Pairing.filter_map_row fun report member => ?_
    rw [Pairing.isJoined, Pairing.textIn_of_cell? (shown report member).bank]
    rfl
  · intro none
    rw [fusedRows, List.map_eq_nil_iff] at none
    exact exists_deduplicate_of_isOwn exclusive presentAfter conformAfter readAfter
      (isOwn_of_fusions_eq_nil exclusive unmarked allRead vouchedReports none)
  · intro first others front
    rw [fusedRows] at front
    obtain ⟨report, rest, fused, rfl, _⟩ := List.map_eq_cons_iff.mp front
    have found : (internal banks (reconciled columns banks reports)).find? (isUnknown banks) =
        some report := by
      rw [← List.head?_filter,
        filter_isUnknown_reconciled paired vouchedReports wellFormed plainNames, fused]
      rfl
    have member := (List.mem_filter.mp (List.mem_of_find?_eq_some found)).1
    rw [Pairing.textIn_of_cell? (shown report member).bank]
    exact deduplicate_of_unknown presentAfter conformAfter readAfter
      (oneBank_reconciled exclusive unmarked allRead vouchedReports) found

/-- A report of Acme alone is marked; those after it are within Acme, and the last
is of the same transfer as one before. -/
def Store.withinAcme : Store :=
  let row (origin destination : String) (amount : Nat) : Row :=
    ⟨[.text "Acme", .text origin, .text destination, .date ⟨2024, 1, 5⟩, .text "transfer",
      .dollars (.ofMagnitude ((Decimal.make? amount 2).getD .zero))]⟩
  ⟨.base, [row "checking" "savings" 500, row "checking" "joint" 500, row "joint" "checking" 200,
    row "checking" "joint" 500]⟩

theorem Store.deduplicate_deduplicate_apart :
    (∃ out, Store.vouchedReports.deduplicate .apart = .ok out ∧
      out.deduplicate .apart = .error (.unknownBank "Acme + Birch")) ∧
    ∃ out second, Store.withinAcme.deduplicate .apart = .ok out ∧
      out.deduplicate .apart = .ok second ∧ second.rows.Perm out.rows ∧ second ≠ out ∧
      second.deduplicate .apart = .ok second := by
  have banksWellFormed : BankAccounts.apart.WellFormed := BankAccounts.wellFormed_ofList _
  have exclusive : BankAccounts.apart.Exclusive := BankAccounts.exclusive_ofList (by decide)
  have unmarked : BankAccounts.apart.Unmarked := by decide +kernel
  have plainNames : ∀ bank ∈ BankAccounts.apart.names, '+' ∉ bank.toList := by decide +kernel
  constructor
  · have vouched : Store.vouchedReports.Vouched .apart := by
      intro row member
      simp only [Store.vouchedReports, List.mem_cons, List.not_mem_nil, or_false] at member
      rcases member with rfl | rfl | rfl | rfl | rfl | rfl
      all_goals exact ⟨_, _, _, rfl, rfl, rfl, by decide +kernel⟩
    have wellFormed : Store.vouchedReports.WellFormed := ⟨Schema.base_wellFormed, by decide⟩
    obtain ⟨out, succeeded, _, _, _, refused⟩ := Store.deduplicate_deduplicate
      banksWellFormed exclusive unmarked plainNames wellFormed
      (List.Subset.refl _) vouched
    exact ⟨out, succeeded, refused _ _ rfl⟩
  · have vouched : Store.withinAcme.Vouched .apart := by
      intro row member
      simp only [Store.withinAcme, List.mem_cons, List.not_mem_nil, or_false] at member
      rcases member with rfl | rfl | rfl | rfl
      all_goals exact ⟨_, _, _, rfl, rfl, rfl, by decide +kernel⟩
    have wellFormed : Store.withinAcme.WellFormed := ⟨Schema.base_wellFormed, by decide⟩
    obtain ⟨out, succeeded, _, _, again, _⟩ := Store.deduplicate_deduplicate
      banksWellFormed exclusive unmarked plainNames wellFormed
      (List.Subset.refl _) vouched
    obtain ⟨second, repeated, _, perm, stays⟩ := again rfl
    refine ⟨out, second, succeeded, repeated, perm, ?_, stays⟩
    rintro rfl
    have moves : ((Store.withinAcme.deduplicate .apart).bind fun out => out.deduplicate .apart) ≠
        Store.withinAcme.deduplicate .apart := by decide +kernel
    rw [succeeded] at moves
    exact moves repeated

end Passbook
