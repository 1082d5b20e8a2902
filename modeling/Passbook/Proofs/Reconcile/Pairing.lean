/-
Pairing said row by row, without grouping. The rows between two known accounts
fall into classes of equal endpoints, date and amount. Within a class the n-th
row of the bank that reports first belongs to the n-th row of the other bank.
Two such rows become one, and a row alone is marked at the endpoints that its
bank does not own; all other rows come last, as they were. Reconciling gives
exactly these rows, so that none is lost and none is counted twice.
-/

import Passbook.Proofs.Reconcile.Rearranging
import Passbook.Proofs.Reconcile.Reports

namespace Passbook

/-! ### Rows by the names of their columns -/

namespace Pairing

section Rows

variable (schema : Schema) (banks : BankAccounts)

/-- The entry of a row in the column of a name. -/
def cell? (row : Row) (name : String) : Option Entry :=
  (schema.indexOf? name).bind row.get?

def textIn (row : Row) (name : String) : String :=
  ((cell? schema row name).bind Entry.text?).getD ""

def sameIn (a b : Row) (name : String) : Bool :=
  (cell? schema a name).any fun entry => (cell? schema b name).any entry.sameValue

def isInternal (row : Row) : Bool :=
  [Schema.origin, Schema.destination].all fun name =>
    banks.allAccounts.contains (textIn schema row name)

def sameClass (a b : Row) : Bool :=
  [Schema.origin, Schema.destination, Schema.date, Schema.amount].all (sameIn schema a b)

def classes (rows : List Row) : List (List Row) :=
  (rows.eraseDupsBy (sameClass schema)).map fun first => rows.filter (sameClass schema first)

/-- The first row with both banks, and with both descriptions if they differ. -/
def fusedRow (a b : Row) : Row :=
  let both (name : String) : Entry :=
    .text (textIn schema a name ++ " + " ++ textIn schema b name)
  ⟨a.entries.mapIdx fun index entry =>
    if schema.indexOf? Schema.bank = some index then both Schema.bank
    else if schema.indexOf? Schema.description = some index then
      if sameIn schema a b Schema.description then entry else both Schema.description
    else entry⟩

/-- The row with a mark before each endpoint that its bank does not own. -/
def markedRow (row : Row) : Row :=
  ⟨row.entries.mapIdx fun index entry =>
    if schema.indexOf? Schema.origin = some index ∨
        schema.indexOf? Schema.destination = some index then
      let account := entry.text?.getD ""
      if banks.owns (textIn schema row Schema.bank) account then entry
      else .text ("unmatched: " ++ account)
    else entry⟩

def settledRow? : Option Row → Option Row → Option Row
  | some a, some b => some (fusedRow schema a b)
  | some a, none => some (markedRow schema banks a)
  | none, some b => some (markedRow schema banks b)
  | none, none => none

def settledRows (first second : List Row) : List Row :=
  (List.range (max first.length second.length)).filterMap fun index =>
    settledRow? schema banks first[index]? second[index]?

def ofSameBank (a b : Row) : Bool :=
  textIn schema a Schema.bank == textIn schema b Schema.bank

/-- The rows of a class settled: those of the bank of its first row with all others. -/
def settledClass (rows : List Row) : List Row :=
  match rows with
  | [] => []
  | first :: _ =>
      settledRows schema banks (rows.filter (ofSameBank schema first))
        (rows.filter fun row => !ofSameBank schema first row)

def reconciledRows (rows : List Row) : List Row :=
  (classes schema (rows.filter (isInternal schema banks))).flatMap (settledClass schema banks) ++
    rows.filter fun row => !isInternal schema banks row

end Rows

/-! ### Classes -/

section Classes

variable {schema : Schema}

theorem sameIn_iff {a b : Row} {name : String} :
    sameIn schema a b name = true ↔ ∃ entry, cell? schema a name = some entry ∧
      ∃ other, cell? schema b name = some other ∧ entry.sameValue other = true := by
  simp only [sameIn, Option.any_eq_true]

theorem sameIn_symm {a b : Row} {name : String} (same : sameIn schema a b name = true) :
    sameIn schema b a name = true := by
  obtain ⟨entry, inA, other, inB, equal⟩ := sameIn_iff.mp same
  exact sameIn_iff.mpr ⟨other, inB, entry, inA, Entry.sameValue_symm equal⟩

theorem sameIn_trans {a b c : Row} {name : String} (one : sameIn schema a b name = true)
    (two : sameIn schema b c name = true) : sameIn schema a c name = true := by
  obtain ⟨entry, inA, other, inB, first⟩ := sameIn_iff.mp one
  obtain ⟨again, inBToo, last, inC, second⟩ := sameIn_iff.mp two
  rw [inB, Option.some.injEq] at inBToo
  subst inBToo
  exact sameIn_iff.mpr ⟨entry, inA, last, inC, Entry.sameValue_trans first second⟩

theorem sameClass_symm {a b : Row} (same : sameClass schema a b = true) :
    sameClass schema b a = true :=
  List.all_eq_true.mpr fun name member => sameIn_symm (List.all_eq_true.mp same name member)

theorem sameClass_trans {a b c : Row} (one : sameClass schema a b = true)
    (two : sameClass schema b c = true) : sameClass schema a c = true :=
  List.all_eq_true.mpr fun name member =>
    sameIn_trans (List.all_eq_true.mp one name member) (List.all_eq_true.mp two name member)

private theorem mem_of_mem_eraseDupsBy {same : Row → Row → Bool} {rows : List Row} {row : Row}
    (member : row ∈ rows.eraseDupsBy same) : row ∈ rows := by
  have fromAny (seen : List Row) (kept : row ∈ List.eraseDupsBy.loop same rows seen) :
      row ∈ rows ∨ row ∈ seen := by
    clear member
    induction rows generalizing seen with
    | nil => exact Or.inr (List.mem_reverse.mp kept)
    | cons first rows ih =>
        rw [List.eraseDupsBy.loop] at kept
        rw [List.mem_cons]
        split at kept
        · exact (ih seen kept).imp_left Or.inr
        · rcases ih _ kept with later | earlier
          · exact Or.inl (Or.inr later)
          · exact (List.mem_cons.mp earlier).imp_left Or.inl
  exact (fromAny [] member).resolve_right List.not_mem_nil

theorem classes_cons {first : Row} (self : sameClass schema first first = true) (rows : List Row) :
    classes schema (first :: rows) =
      (first :: rows.filter (sameClass schema first)) ::
        classes schema (rows.filter fun row => !sameClass schema first row) := by
  have left : (rows.filter fun row => decide (sameClass schema row first = false)) =
      rows.filter fun row => !sameClass schema first row := by
    apply List.filter_congr
    intro row _
    cases same : sameClass schema first row with
    | true => rw [sameClass_symm same]; rfl
    | false =>
        have apart : sameClass schema row first = false :=
          eq_false_of_ne_true fun there => by
            rw [sameClass_symm there] at same
            cases same
        rw [apart]
        rfl
  unfold classes
  rw [List.eraseDupsBy_cons, List.map_cons, List.filter_cons_of_pos self, left, List.cons.injEq]
  refine ⟨rfl, List.map_congr_left ?_⟩
  intro other member
  have remains := (List.mem_filter.mp (mem_of_mem_eraseDupsBy member)).2
  have apart : sameClass schema first other = false := (Bool.not_eq_true' _).mp remains
  have differ {row : Row} (inClass : sameClass schema other row = true) :
      sameClass schema first row = false := by
    refine eq_false_of_ne_true fun inFirst => ?_
    rw [sameClass_trans inFirst (sameClass_symm inClass)] at apart
    cases apart
  have notFirst : ¬ sameClass schema other first = true := by
    intro inClass
    rw [differ inClass] at self
    cases self
  rw [List.filter_cons_of_neg notFirst, List.filter_filter]
  apply List.filter_congr
  intro row _
  cases inClass : sameClass schema other row with
  | false => rfl
  | true => rw [differ inClass]; rfl

end Classes

/-! ### Rows of reports -/

section Reports

variable {schema : Schema} {columns : ReportColumns} {banks : BankAccounts} {a b report : Report}

theorem cell?_of_hasColumn {index : Nat} {name : String} {kind : Kind}
    (column : schema.HasColumn index name kind) (row : Row) :
    cell? schema row name = row.get? index := by
  rw [cell?, column.1, Option.bind_some]

theorem textIn_of_cell? {row : Row} {name : String} {entry : Entry}
    (cell : cell? schema row name = some entry) :
    textIn schema row name = Report.textOf entry := by
  rw [textIn, cell]
  rfl

theorem sameIn_of_cell? {first second : Row} {name : String} {entry other : Entry}
    (inFirst : cell? schema first name = some entry)
    (inSecond : cell? schema second name = some other) :
    sameIn schema first second name = entry.sameValue other := by
  rw [sameIn, inFirst, inSecond, Option.any_some, Option.any_some]

structure Shows (schema : Schema) (report : Report) : Prop where
  bank : cell? schema report.row Schema.bank = some report.bank
  origin : cell? schema report.row Schema.origin = some report.origin
  destination : cell? schema report.row Schema.destination = some report.destination
  date : cell? schema report.row Schema.date = some report.date
  description : cell? schema report.row Schema.description = some report.description
  amount : cell? schema report.row Schema.amount = some report.amount

theorem shows_of_isRead (present : columns.Of schema) (read : report.IsRead columns) :
    Shows schema report := by
  obtain ⟨_, atBank, atOrigin, atDestination, atDate, atDescription, atAmount⟩ :=
    Report.ofRow?_eq_some_iff.mp read
  exact ⟨(cell?_of_hasColumn present.bank _).trans atBank,
    (cell?_of_hasColumn present.origin _).trans atOrigin,
    (cell?_of_hasColumn present.destination _).trans atDestination,
    (cell?_of_hasColumn present.date _).trans atDate,
    (cell?_of_hasColumn present.description _).trans atDescription,
    (cell?_of_hasColumn present.amount _).trans atAmount⟩

theorem Shows.isInternal (shown : Shows schema report) :
    isInternal schema banks report.row = report.isInternal banks.allAccounts := by
  simp only [Pairing.isInternal, List.all_cons, List.all_nil, Bool.and_true,
    textIn_of_cell? shown.origin, textIn_of_cell? shown.destination]
  rfl

theorem Shows.sameClass (ofA : Shows schema a) (ofB : Shows schema b) :
    sameClass schema a.row b.row = a.sameTransfer b := by
  simp only [Pairing.sameClass, List.all_cons, List.all_nil, Bool.and_true,
    sameIn_of_cell? ofA.origin ofB.origin, sameIn_of_cell? ofA.destination ofB.destination,
    sameIn_of_cell? ofA.date ofB.date, sameIn_of_cell? ofA.amount ofB.amount,
    Report.sameTransfer, Bool.and_assoc]

theorem Shows.ofSameBank (ofA : Shows schema a) (ofB : Shows schema b) :
    ofSameBank schema a.row b.row = Deduplication.isBy a.bankName b := by
  rw [Pairing.ofSameBank, textIn_of_cell? ofA.bank, textIn_of_cell? ofB.bank]
  rfl

/-- Replacing the cells at two positions, said cell by cell. -/
private theorem set_set_eq {first second : Nat} (apart : first ≠ second) (row : Row)
    (one two : Entry) :
    (row.set first one).set second two = ⟨row.entries.mapIdx fun index entry =>
      if first = index then one else if second = index then two else entry⟩ := by
  unfold Row.set
  rw [Row.mk.injEq]
  apply List.ext_getElem?
  intro index
  rw [List.getElem?_set', List.getElem?_set', List.getElem?_mapIdx]
  by_cases atFirst : first = index
  · have notSecond : ¬ second = index := fun same => apart (atFirst.trans same.symm)
    simp only [atFirst, notSecond, if_true, if_false]
    rfl
  · by_cases atSecond : second = index
    · simp only [atFirst, atSecond, if_true, if_false]
      rfl
    · simp only [atFirst, atSecond, if_false, Option.map_id']

/-- The row that two reports make has the cells of the first, but for the bank
and the description. -/
theorem fusedRow_eq (present : columns.Of schema) (read : a.IsRead columns)
    (other : b.IsRead columns) : fusedRow schema a.row b.row = (Report.fused columns a b).row := by
  have ofA := shows_of_isRead present read
  have ofB := shows_of_isRead present other
  obtain ⟨_, _, _, _, _, atDescription, _⟩ := Report.ofRow?_eq_some_iff.mp read
  have apart := present.bank.index_ne present.description (by decide)
  have cells := set_set_eq apart a.row (.text (Deduplication.fusedBank a.bankName b.bankName))
    (Deduplication.fusedDescription a.description b.description)
  refine Eq.trans ?_ cells.symm
  unfold fusedRow
  rw [Row.mk.injEq, List.mapIdx_eq_mapIdx_iff]
  intro index within
  simp only [present.bank.1, present.description.1, Option.some.injEq,
    sameIn_of_cell? ofA.description ofB.description, textIn_of_cell? ofA.bank,
    textIn_of_cell? ofB.bank, textIn_of_cell? ofA.description, textIn_of_cell? ofB.description]
  by_cases atBank : columns.bank = index
  · rw [if_pos atBank, if_pos atBank]
    rfl
  · rw [if_neg atBank, if_neg atBank]
    by_cases here : columns.description = index
    · subst here
      have own : a.row.entries[columns.description] = a.description :=
        Option.some.inj ((List.getElem?_eq_getElem within).symm.trans atDescription)
      rw [if_pos rfl, if_pos rfl, own]
      rfl
    · rw [if_neg here, if_neg here]

theorem markedRow_eq (present : columns.Of schema) (read : report.IsRead columns) :
    markedRow schema banks report.row =
      ((Deduplication.Settlement.alone report).result columns banks).row := by
  have shown := shows_of_isRead present read
  obtain ⟨_, _, atOrigin, atDestination, _, _, _⟩ := Report.ofRow?_eq_some_iff.mp read
  have apart := present.origin.index_ne present.destination (by decide)
  have vouched (endpoint : Entry) :
      Deduplication.vouched ((banks.accounts? report.bankName).getD OrderedSet.empty) endpoint =
        if banks.owns report.bankName (Report.textOf endpoint) then endpoint
        else .text ("unmatched: " ++ Report.textOf endpoint) := by
    rw [Deduplication.vouched, BankAccounts.contains_getD]
    rfl
  refine Eq.trans ?_ (set_set_eq apart report.row _ _).symm
  unfold markedRow
  rw [Row.mk.injEq, List.mapIdx_eq_mapIdx_iff]
  intro index within
  simp only [present.origin.1, present.destination.1, Option.some.injEq, vouched,
    textIn_of_cell? shown.bank]
  have cell := (List.getElem?_eq_getElem within).symm
  by_cases here : columns.origin = index
  · subst here
    rw [if_pos (Or.inl rfl), if_pos rfl, Option.some.inj (cell.trans atOrigin)]
    rfl
  · rw [if_neg here]
    by_cases there : columns.destination = index
    · subst there
      rw [if_pos (Or.inr rfl), if_pos rfl, Option.some.inj (cell.trans atDestination)]
      rfl
    · rw [if_neg there, if_neg (not_or.mpr ⟨here, there⟩)]

end Reports

/-! ### Settling position by position -/

section Settling

variable {schema : Schema} {banks : BankAccounts}

theorem settledRows_cons (a b : Row) (first second : List Row) :
    settledRows schema banks (a :: first) (b :: second) =
      fusedRow schema a b :: settledRows schema banks first second := by
  have front : settledRow? schema banks (a :: first)[0]? (b :: second)[0]? =
      some (fusedRow schema a b) := rfl
  unfold settledRows
  rw [List.length_cons, List.length_cons, Nat.succ_max_succ, List.range_succ_eq_map,
    List.filterMap_cons, front, List.filterMap_map]
  rfl

private theorem filterMap_range (settle : Option Row → Option Row) {change : Row → Row}
    (changes : ∀ row, settle (some row) = some (change row)) (rows : List Row) :
    ((List.range rows.length).filterMap fun index => settle rows[index]?) = rows.map change := by
  induction rows with
  | nil => rfl
  | cons row rows ih =>
      have front : settle (row :: rows)[0]? = some (change row) := changes row
      rw [List.length_cons, List.range_succ_eq_map, List.filterMap_cons, front,
        List.filterMap_map, List.map_cons, ← ih]
      rfl

theorem settledRows_nil_right (rows : List Row) :
    settledRows schema banks rows [] = rows.map (markedRow schema banks) := by
  unfold settledRows
  rw [List.length_nil, Nat.max_zero]
  exact filterMap_range (fun row => settledRow? schema banks row none) (fun _ => rfl) rows

theorem settledRows_nil_left (rows : List Row) :
    settledRows schema banks [] rows = rows.map (markedRow schema banks) := by
  unfold settledRows
  rw [List.length_nil, Nat.zero_max]
  exact filterMap_range (settledRow? schema banks none) (fun _ => rfl) rows

variable {columns : ReportColumns}

private theorem map_markedRow (present : columns.Of schema) {reports : List Report}
    (read : ∀ report ∈ reports, report.IsRead columns) :
    (reports.map Report.row).map (markedRow schema banks) =
      (reports.map Deduplication.Settlement.alone).map
        fun settlement => (settlement.result columns banks).row := by
  rw [List.map_map, List.map_map]
  exact List.map_congr_left fun report member => markedRow_eq present (read report member)

theorem settledRows_eq (present : columns.Of schema) {first second : List Report}
    (readFirst : ∀ report ∈ first, report.IsRead columns)
    (readSecond : ∀ report ∈ second, report.IsRead columns) :
    settledRows schema banks (first.map Report.row) (second.map Report.row) =
      (Deduplication.pairing first second).map
        fun settlement => (settlement.result columns banks).row := by
  induction first generalizing second with
  | nil =>
      rw [List.map_nil, settledRows_nil_left, map_markedRow present readSecond,
        Deduplication.pairing_nil_left]
  | cons a first ih =>
      cases second with
      | nil =>
          rw [List.map_nil, settledRows_nil_right, map_markedRow present readFirst,
            Deduplication.pairing_nil_right]
      | cons b second =>
          obtain ⟨readA, readFirst⟩ := List.forall_mem_cons.mp readFirst
          obtain ⟨readB, readSecond⟩ := List.forall_mem_cons.mp readSecond
          rw [List.map_cons, List.map_cons, settledRows_cons, ih readFirst readSecond,
            fusedRow_eq present readA readB]
          rfl

end Settling

end Pairing

namespace Deduplication

/-- A transfer that two banks report, at most, pairs the reports of its first
bank with all others. -/
theorem Transfer.settlements_collect {first : Report} {others : List Report}
    (few : (Transfer.collect first others).byBank.length ≤ 2) :
    (Transfer.collect first others).settlements =
      pairing (first :: others.filter (isBy first.bankName))
        (others.filter fun report => !isBy first.bankName report) := by
  unfold Transfer.settlements
  obtain ⟨_, _, ⟨none, byBank⟩ | byBank⟩ := Transfer.byBank_collect_of_few few
  · rw [byBank, none]
  · rw [byBank]

end Deduplication

namespace Pairing

open Deduplication

section Transfers

variable {schema : Schema} {columns : ReportColumns} {banks : BankAccounts}

theorem filter_map_row {chosen : Row → Bool} {taken : Report → Bool}
    {reports : List Report} (same : ∀ report ∈ reports, chosen report.row = taken report) :
    (reports.map Report.row).filter chosen = (reports.filter taken).map Report.row := by
  rw [List.filter_map]
  exact congrArg (List.map Report.row) (List.filter_congr same)

theorem filter_isInternal (present : columns.Of schema) {rows : List Row} {reports : List Report}
    (read : Report.ofRows? columns rows = some reports) :
    rows.filter (isInternal schema banks) = (internal banks reports).map Report.row := by
  obtain ⟨rfl, allRead⟩ := Report.ofRows?_eq_some_iff.mp read
  exact filter_map_row fun report member =>
    (shows_of_isRead present (allRead report member)).isInternal

theorem filter_ofSameBank (present : columns.Of schema) {first : Report} {others : List Report}
    (read : ∀ report ∈ first :: others, report.IsRead columns) :
    ((first :: others).map Report.row).filter (ofSameBank schema first.row) =
        (first :: others.filter (isBy first.bankName)).map Report.row ∧
      (((first :: others).map Report.row).filter fun row => !ofSameBank schema first.row row) =
        (others.filter fun report => !isBy first.bankName report).map Report.row := by
  have shown : ∀ report ∈ first :: others, Shows schema report :=
    fun report member => shows_of_isRead present (read report member)
  have sameBank : ∀ report ∈ first :: others,
      ofSameBank schema first.row report.row = isBy first.bankName report :=
    fun report member => (shown first List.mem_cons_self).ofSameBank (shown report member)
  have own : isBy first.bankName first = true := beq_self_eq_true first.bankName
  have ofFirst := filter_map_row sameBank
  have ofOther : ((first :: others).map Report.row).filter
      (fun row => !ofSameBank schema first.row row) =
        ((first :: others).filter fun report => !isBy first.bankName report).map Report.row :=
    filter_map_row fun report member => by rw [sameBank report member]
  rw [List.filter_cons_of_pos own] at ofFirst
  rw [List.filter_cons_of_neg (by rw [own]; decide)] at ofOther
  exact ⟨ofFirst, ofOther⟩

theorem settledClass_eq (present : columns.Of schema) {first : Report} {others : List Report}
    (read : ∀ report ∈ first :: others, report.IsRead columns)
    (few : (Transfer.collect first others).byBank.length ≤ 2) :
    settledClass schema banks ((first :: others).map Report.row) =
      (Transfer.collect first others).settlements.map
        fun settlement => (settlement.result columns banks).row := by
  obtain ⟨ofFirst, ofOther⟩ := filter_ofSameBank present read
  have settled : settledClass schema banks ((first :: others).map Report.row) =
      settledRows schema banks
        (((first :: others).map Report.row).filter (ofSameBank schema first.row))
        (((first :: others).map Report.row).filter fun row => !ofSameBank schema first.row row) :=
    rfl
  rw [settled, ofFirst, ofOther, Transfer.settlements_collect few]
  obtain ⟨readFirst, readOthers⟩ := List.forall_mem_cons.mp read
  refine settledRows_eq present (List.forall_mem_cons.mpr ⟨readFirst, ?_⟩) ?_
  · exact fun report member => readOthers report (List.mem_filter.mp member).1
  · exact fun report member => readOthers report (List.mem_filter.mp member).1

/-- The classes of the rows of some reports: that of the first report, and those
of the reports that are left. -/
private theorem classes_map_cons (present : columns.Of schema) {report : Report}
    {reports : List Report} (read : ∀ other ∈ report :: reports, other.IsRead columns) :
    classes schema ((report :: reports).map Report.row) =
      (report :: reports.filter report.sameTransfer).map Report.row ::
        classes schema ((reports.filter fun other => !report.sameTransfer other).map Report.row) := by
  have shown : ∀ other ∈ report :: reports, Shows schema other :=
    fun other member => shows_of_isRead present (read other member)
  have sameClass : ∀ other ∈ report :: reports,
      sameClass schema report.row other.row = report.sameTransfer other :=
    fun other member => (shown report List.mem_cons_self).sameClass (shown other member)
  have self := (sameClass report List.mem_cons_self).trans report.sameTransfer_refl
  have inClass := fun other member => sameClass other (List.mem_cons_of_mem _ member)
  rw [List.map_cons, classes_cons self, filter_map_row inClass, List.map_cons]
  refine congrArg (List.cons _) (congrArg (classes schema) (filter_map_row ?_))
  intro other member
  rw [inClass other member]

theorem exists_groups (present : columns.Of schema) {reports : List Report}
    (read : ∀ report ∈ reports, report.IsRead columns) :
    ∃ groups : List (Report × List Report),
      transfers reports = groups.map (fun group => Transfer.collect group.1 group.2) ∧
      classes schema (reports.map Report.row) =
        groups.map (fun group => (group.1 :: group.2).map Report.row) ∧
      ∀ group ∈ groups, ∀ report ∈ group.1 :: group.2, report.IsRead columns := by
  induction reports using induct_classes with
  | none => exact ⟨[], rfl, rfl, fun _ absent => nomatch absent⟩
  | next report reports left =>
      obtain ⟨readHere, readOthers⟩ := List.forall_mem_cons.mp read
      obtain ⟨groups, ofTransfers, ofClasses, readAll⟩ :=
        left fun other member => readOthers other (List.mem_filter.mp member).1
      refine ⟨(report, reports.filter report.sameTransfer) :: groups, ?_, ?_, ?_⟩
      · rw [transfers_cons, ofTransfers, List.map_cons]
      · rw [classes_map_cons present read, ofClasses]
        rfl
      · refine List.forall_mem_cons.mpr ⟨List.forall_mem_cons.mpr ⟨readHere, ?_⟩, readAll⟩
        exact fun other member => readOthers other (List.mem_filter.mp member).1

/-- The classes of rows are settled as the transfers of their reports are. -/
theorem flatMap_settledClass (present : columns.Of schema) {reports : List Report}
    (read : ∀ report ∈ reports, report.IsRead columns)
    (few : ∀ transfer ∈ transfers reports, transfer.byBank.length ≤ 2) :
    (classes schema (reports.map Report.row)).flatMap (settledClass schema banks) =
      ((transfers reports).flatMap Transfer.settlements).map
        fun settlement => (settlement.result columns banks).row := by
  obtain ⟨groups, ofTransfers, ofClasses, readAll⟩ := exists_groups present read
  rw [ofTransfers] at few ⊢
  rw [ofClasses, List.flatMap_map, List.flatMap_map, List.map_flatMap]
  refine List.flatMap_congr fun group member => ?_
  exact settledClass_eq present (readAll group member) (few _ (List.mem_map_of_mem member))

/-- The rows of a class come from two banks, at most. -/
theorem banks_of_mem_classes (present : columns.Of schema) {reports : List Report}
    (read : ∀ report ∈ reports, report.IsRead columns)
    (few : ∀ transfer ∈ transfers reports, transfer.byBank.length ≤ 2) :
    ∀ members ∈ classes schema (reports.map Report.row), ∃ first other,
      ∀ row ∈ members, textIn schema row Schema.bank ∈ [first, other] := by
  obtain ⟨groups, ofTransfers, ofClasses, readAll⟩ := exists_groups present read
  rw [ofTransfers] at few
  rw [ofClasses]
  refine List.forall_mem_map.mpr fun group member => ?_
  obtain ⟨other, named⟩ := Transfer.banks_collect (few _ (List.mem_map_of_mem member))
  refine ⟨group.1.bankName, other, List.forall_mem_map.mpr fun report inClass => ?_⟩
  rw [textIn_of_cell? (shows_of_isRead present (readAll group member report inClass)).bank]
  exact named report inClass

end Transfers

end Pairing

/-- What reconciling gives is the pairing of the rows class by class, and the
rows of each class come from two banks, at most. -/
theorem Store.deduplicate_eq_reconciledRows {store out : Store} {banks : BankAccounts}
    (succeeded : store.deduplicate banks = .ok out) :
    out = ⟨store.schema, Pairing.reconciledRows store.schema banks store.rows⟩ ∧
      ∀ members ∈ Pairing.classes store.schema
          (store.rows.filter (Pairing.isInternal store.schema banks)),
        ∃ first other, ∀ row ∈ members,
          Pairing.textIn store.schema row Schema.bank ∈ [first, other] := by
  obtain ⟨columns, reports, present, read, paired, _, _, rfl⟩ := deduplicate_eq_ok_iff.mp succeeded
  obtain ⟨rows, allRead⟩ := Report.ofRows?_eq_some_iff.mp read
  have shown : ∀ report ∈ reports, Pairing.isInternal store.schema banks report.row =
      report.isInternal banks.allAccounts :=
    fun report member => (Pairing.shows_of_isRead present (allRead report member)).isInternal
  have readInside : ∀ report ∈ Deduplication.internal banks reports, report.IsRead columns :=
    fun report member => allRead report (List.mem_filter.mp member).1
  have inside : store.rows.filter (Pairing.isInternal store.schema banks) =
      (Deduplication.internal banks reports).map Report.row := by
    rw [← rows]
    exact Pairing.filter_map_row shown
  have outside : (store.rows.filter fun row => !Pairing.isInternal store.schema banks row) =
      (Deduplication.external banks reports).map Report.row := by
    rw [← rows]
    exact Pairing.filter_map_row fun report member => by rw [shown report member]
  rw [inside]
  refine ⟨?_, Pairing.banks_of_mem_classes present readInside paired⟩
  rw [Pairing.reconciledRows, inside, outside,
    Pairing.flatMap_settledClass present readInside paired, Deduplication.reconciled,
    List.map_append, List.map_map]
  rfl

theorem Store.deduplicate_eq_reconciledRows_reportsInOrder :
    let store := Store.reportsInOrder [0, 1, 2, 3, 4]
    ∃ out, store.deduplicate .acmeBirch = .ok out ∧
      out = ⟨.base, Pairing.reconciledRows .base .acmeBirch store.rows⟩ ∧
      ∀ members ∈ Pairing.classes .base (store.rows.filter (Pairing.isInternal .base .acmeBirch)),
        ∃ first other, ∀ row ∈ members, Pairing.textIn .base row Schema.bank ∈ [first, other] := by
  intro store
  have reconciled : ∃ out, store.deduplicate .acmeBirch = .ok out := ⟨_, rfl⟩
  obtain ⟨out, succeeded⟩ := reconciled
  exact ⟨out, succeeded, Store.deduplicate_eq_reconciledRows succeeded⟩

end Passbook
