/-
Reports and the rows that they are read from. The columns of a schema stand at
different positions, so replacing one cell of a row leaves the others as they
are: a fused or an unmatched row reads as the report with exactly the replaced
cells changed.
-/

import Mathlib.Algebra.Order.BigOperators.Group.List
import Passbook.Proofs.Entry
import Passbook.Proofs.Foundations
import Passbook.Proofs.Store
import Passbook.Proofs.Store.Balance
import Passbook.Reconcile.Deduplication

namespace Passbook

/-! ## Accounts of banks

Who owns which account. Maps of bank accounts keep banks and accounts in
ascending order whatever is added to them, so that reading a map tells exactly
who owns what, and the known accounts are those that some bank owns. -/

namespace BankAccounts

/-- The banks ascend, and so do the accounts of each. -/
structure WellFormed (banks : BankAccounts) : Prop where
  banksAscend : banks.owned.Ascending
  accountsAscend : ∀ bank owned, banks.accounts? bank = some owned → owned.Ascending

def owns (banks : BankAccounts) (bank account : String) : Bool :=
  (banks.accounts? bank).any fun owned => owned.contains account

/-- No account belongs to two banks. -/
def Exclusive (banks : BankAccounts) : Prop :=
  ∀ bank other account, banks.owns bank account = true → banks.owns other account = true →
    bank = other

theorem owns_of_accounts? {banks : BankAccounts} {bank : String} {owned : OrderedSet String}
    (present : banks.accounts? bank = some owned) (account : String) :
    banks.owns bank account = owned.contains account := by
  rw [owns, present, Option.any_some]

theorem contains_getD {banks : BankAccounts} (bank account : String) :
    ((banks.accounts? bank).getD OrderedSet.empty).contains account = banks.owns bank account := by
  unfold owns
  cases banks.accounts? bank <;> rfl

theorem exists_accounts? {banks : BankAccounts} {bank account : String}
    (owns : banks.owns bank account = true) : ∃ owned, banks.accounts? bank = some owned := by
  cases present : banks.accounts? bank with
  | none =>
      rw [BankAccounts.owns, present] at owns
      cases owns
  | some owned => exact ⟨owned, rfl⟩

theorem WellFormed.accounts?_eq_some_iff {banks : BankAccounts} (wellFormed : banks.WellFormed)
    {bank : String} {owned : OrderedSet String} :
    banks.accounts? bank = some owned ↔ (bank, owned) ∈ banks.owned.pairs :=
  OrderedMap.find?_eq_some_iff wellFormed.banksAscend

theorem WellFormed.mem_names {banks : BankAccounts} (wellFormed : banks.WellFormed)
    {bank : String} {owned : OrderedSet String} (present : banks.accounts? bank = some owned) :
    bank ∈ banks.names :=
  List.mem_map_of_mem (wellFormed.accounts?_eq_some_iff.mp present)

theorem WellFormed.names_nodup {banks : BankAccounts} (wellFormed : banks.WellFormed) :
    banks.names.Nodup :=
  wellFormed.banksAscend.nodup_keys

theorem WellFormed.mem_allAccounts_iff {banks : BankAccounts} (wellFormed : banks.WellFormed)
    {account : String} :
    account ∈ banks.allAccounts.members ↔ ∃ bank, banks.owns bank account = true := by
  unfold allAccounts OrderedMap.values
  rw [OrderedSet.mem_ofList, List.mem_flatMap]
  constructor
  · rintro ⟨owned, present, member⟩
    obtain ⟨⟨bank, _⟩, inPairs, rfl⟩ := List.mem_map.mp present
    have found := wellFormed.accounts?_eq_some_iff.mpr inPairs
    refine ⟨bank, ?_⟩
    rw [owns_of_accounts? found]
    exact (OrderedSet.contains_iff_mem (wellFormed.accountsAscend _ _ found)).mpr member
  · rintro ⟨bank, owns⟩
    obtain ⟨owned, found⟩ := exists_accounts? owns
    rw [owns_of_accounts? found] at owns
    exact ⟨owned, List.mem_map_of_mem (wellFormed.accounts?_eq_some_iff.mp found),
      (OrderedSet.contains_iff_mem (wellFormed.accountsAscend _ _ found)).mp owns⟩

theorem WellFormed.contains_allAccounts_iff {banks : BankAccounts}
    (wellFormed : banks.WellFormed) {account : String} :
    banks.allAccounts.contains account = true ↔ ∃ bank, banks.owns bank account = true := by
  rw [← wellFormed.mem_allAccounts_iff]
  exact OrderedSet.contains_iff_mem (OrderedSet.ascending_ofList _)

theorem wellFormed_empty : empty.WellFormed where
  banksAscend := OrderedMap.ascending_empty
  accountsAscend := fun _ _ absent => nomatch absent

theorem accounts?_insert (banks : BankAccounts) (bank other : String) (accounts : List String) :
    (banks.insert bank accounts).accounts? other =
      if other = bank then
        some (((banks.accounts? bank).getD OrderedSet.empty).insertAll accounts)
      else banks.accounts? other :=
  OrderedMap.find?_alter banks.owned bank other _

private theorem WellFormed.ascending_getD {banks : BankAccounts} (wellFormed : banks.WellFormed)
    (bank : String) : ((banks.accounts? bank).getD OrderedSet.empty).Ascending := by
  cases found : banks.accounts? bank with
  | none => exact OrderedSet.ascending_empty
  | some owned => exact wellFormed.accountsAscend bank owned found

theorem WellFormed.insert {banks : BankAccounts} (wellFormed : banks.WellFormed) (bank : String)
    (accounts : List String) : (banks.insert bank accounts).WellFormed where
  banksAscend := wellFormed.banksAscend.alter bank _
  accountsAscend := by
    intro other owned found
    rw [accounts?_insert] at found
    split at found
    · cases found
      exact (wellFormed.ascending_getD bank).insertAll accounts
    · exact wellFormed.accountsAscend other owned found

theorem WellFormed.owns_insert_iff {banks : BankAccounts} (wellFormed : banks.WellFormed)
    {bank other account : String} {accounts : List String} :
    (banks.insert bank accounts).owns other account = true ↔
      (other = bank ∧ account ∈ accounts) ∨ banks.owns other account = true := by
  have ascending := wellFormed.ascending_getD bank
  unfold owns
  rw [accounts?_insert]
  by_cases same : other = bank
  · subst same
    rw [if_pos rfl, Option.any_some, OrderedSet.contains_iff_mem (ascending.insertAll accounts),
      OrderedSet.mem_insertAll, and_iff_right rfl, ← OrderedSet.contains_iff_mem ascending]
    cases banks.accounts? other <;> rfl
  · rw [if_neg same]
    simp [same]

private theorem foldl_insert {banks : BankAccounts} (wellFormed : banks.WellFormed)
    (entries : List (String × List String)) :
    (entries.foldl (fun banks entry => banks.insert entry.1 entry.2) banks).WellFormed ∧
      ∀ bank account,
        (entries.foldl (fun banks entry => banks.insert entry.1 entry.2) banks).owns bank account =
          true ↔
        (∃ entry ∈ entries, bank = entry.1 ∧ account ∈ entry.2) ∨ banks.owns bank account = true := by
  induction entries generalizing banks with
  | nil => exact ⟨wellFormed, fun bank account => by simp⟩
  | cons entry entries ih =>
      obtain ⟨kept, owners⟩ := ih (wellFormed.insert entry.1 entry.2)
      refine ⟨kept, fun bank account => ?_⟩
      rw [List.foldl_cons, owners, wellFormed.owns_insert_iff]
      simp only [List.mem_cons, exists_eq_or_imp]
      rw [or_assoc, or_left_comm]

theorem wellFormed_ofList (entries : List (String × List String)) : (ofList entries).WellFormed :=
  (foldl_insert wellFormed_empty entries).1

theorem owns_ofList_iff {entries : List (String × List String)} {bank account : String} :
    (ofList entries).owns bank account = true ↔
      ∃ entry ∈ entries, bank = entry.1 ∧ account ∈ entry.2 := by
  have owners := (foldl_insert wellFormed_empty entries).2 bank account
  have nobody : ¬ empty.owns bank account = true := nofun
  rw [or_iff_left nobody] at owners
  exact owners

theorem exclusive_ofList {entries : List (String × List String)}
    (disjoint : entries.Pairwise fun first second => ∀ account ∈ first.2, account ∉ second.2) :
    (ofList entries).Exclusive := by
  have sameBank : ∀ ⦃entry⦄, entry ∈ entries → ∀ ⦃second⦄, second ∈ entries →
      ∀ account, account ∈ entry.2 → account ∈ second.2 → entry.1 = second.1 := by
    refine List.Pairwise.forall_of_forall_of_flip (fun _ _ _ _ _ => rfl) ?_ ?_
    · refine disjoint.imp ?_
      intro first later apart name inFirst inLater
      exact absurd inLater (apart name inFirst)
    · refine disjoint.imp ?_
      intro first later apart name inLater inFirst
      exact absurd inLater (apart name inFirst)
  intro bank other account owns ownsOther
  obtain ⟨entry, member, rfl, inEntry⟩ := owns_ofList_iff.mp owns
  obtain ⟨second, present, rfl, inSecond⟩ := owns_ofList_iff.mp ownsOther
  exact sameBank member present account inEntry inSecond

end BankAccounts

/-! ## Reports of a store -/

open Deduplication

structure ReportColumns.Of (columns : ReportColumns) (schema : Schema) : Prop where
  bank : schema.HasColumn columns.bank Schema.bank .text
  origin : schema.HasColumn columns.origin Schema.origin .text
  destination : schema.HasColumn columns.destination Schema.destination .text
  date : schema.HasColumn columns.date Schema.date .date
  description : schema.HasColumn columns.description Schema.description .text
  amount : schema.HasColumn columns.amount Schema.amount .dollars

namespace ReportColumns

theorem Of.movementColumns {columns : ReportColumns} {schema : Schema}
    (present : columns.Of schema) : ∀ name ∈ Store.movementColumns, name ∈ schema.names := by
  intro name member
  simp only [Store.movementColumns, List.mem_cons, List.not_mem_nil, or_false] at member
  rcases member with rfl | rfl | rfl
  · exact Schema.mem_names_iff.mpr ⟨_, present.origin.1⟩
  · exact Schema.mem_names_iff.mpr ⟨_, present.destination.1⟩
  · exact Schema.mem_names_iff.mpr ⟨_, present.amount.1⟩

theorem ofSchema_eq_ok_iff {schema : Schema} {columns : ReportColumns} :
    ofSchema schema = .ok columns ↔ columns.Of schema := by
  unfold ofSchema
  simp only [Outcome.bind_eq_ok_iff, Schema.requireKind_eq_ok_iff]
  constructor
  · rintro ⟨bank, atBank, origin, atOrigin, destination, atDestination, date, atDate, description,
      atDescription, amount, atAmount, same⟩
    cases same
    exact ⟨atBank, atOrigin, atDestination, atDate, atDescription, atAmount⟩
  · intro present
    exact ⟨_, present.bank, _, present.origin, _, present.destination, _, present.date, _,
      present.description, _, present.amount, rfl⟩

theorem exists_of {schema : Schema} (wellFormed : schema.WellFormed)
    (base : Schema.base.columns ⊆ schema.columns) :
    ∃ columns : ReportColumns, columns.Of schema := by
  have found {name : String} {kind : Kind} (member : ⟨name, kind⟩ ∈ Schema.base.columns) :
      ∃ index, schema.HasColumn index name kind :=
    wellFormed.exists_hasColumn_of_mem (base member)
  obtain ⟨bank, atBank⟩ : ∃ index, schema.HasColumn index Schema.bank .text := found (by decide)
  obtain ⟨origin, atOrigin⟩ : ∃ index, schema.HasColumn index Schema.origin .text :=
    found (by decide)
  obtain ⟨destination, atDestination⟩ : ∃ index, schema.HasColumn index Schema.destination .text :=
    found (by decide)
  obtain ⟨date, atDate⟩ : ∃ index, schema.HasColumn index Schema.date .date := found (by decide)
  obtain ⟨description, atDescription⟩ : ∃ index, schema.HasColumn index Schema.description .text :=
    found (by decide)
  obtain ⟨amount, atAmount⟩ : ∃ index, schema.HasColumn index Schema.amount .dollars :=
    found (by decide)
  exact ⟨⟨bank, origin, destination, date, description, amount⟩,
    ⟨atBank, atOrigin, atDestination, atDate, atDescription, atAmount⟩⟩

end ReportColumns

namespace Row

theorem get?_set_self {row : Row} {index : Nat} {present : Entry}
    (within : row.get? index = some present) (entry : Entry) :
    (row.set index entry).get? index = some entry := by
  obtain ⟨bound, _⟩ := List.getElem?_eq_some_iff.mp within
  exact List.getElem?_set_self bound

/-- Replacing the cell of one column leaves the cell of another. -/
theorem get?_set_of_hasColumn {schema : Schema} {row : Row} {index position : Nat}
    {name other : String} {kind otherKind : Kind} {cell : Entry}
    (changed : schema.HasColumn index name kind)
    (kept : schema.HasColumn position other otherKind) (differ : name ≠ other)
    (atPosition : row.get? position = some cell) (entry : Entry) :
    (row.set index entry).get? position = some cell := by
  rw [← atPosition]
  exact List.getElem?_set_ne (changed.index_ne kept differ)

end Row

namespace Report

def IsRead (columns : ReportColumns) (report : Report) : Prop :=
  ofRow? columns report.row = some report

theorem ofRow?_eq_some_iff {columns : ReportColumns} {row : Row} {report : Report} :
    ofRow? columns row = some report ↔
      report.row = row ∧ row.get? columns.bank = some report.bank ∧
        row.get? columns.origin = some report.origin ∧
        row.get? columns.destination = some report.destination ∧
        row.get? columns.date = some report.date ∧
        row.get? columns.description = some report.description ∧
        row.get? columns.amount = some report.amount := by
  obtain ⟨own, bank, origin, destination, date, description, amount⟩ := report
  unfold ofRow?
  simp only [Option.bind_eq_bind, Option.bind_eq_some_iff, Option.pure_def, Option.some.injEq,
    Report.mk.injEq]
  constructor
  · rintro ⟨_, atBank, _, atOrigin, _, atDestination, _, atDate, _, atDescription, _, atAmount,
      rfl, rfl, rfl, rfl, rfl, rfl, rfl⟩
    exact ⟨rfl, atBank, atOrigin, atDestination, atDate, atDescription, atAmount⟩
  · rintro ⟨rfl, atBank, atOrigin, atDestination, atDate, atDescription, atAmount⟩
    exact ⟨bank, atBank, origin, atOrigin, destination, atDestination, date, atDate, description,
      atDescription, amount, atAmount, rfl, rfl, rfl, rfl, rfl, rfl, rfl⟩

theorem isRead_of_ofRow? {columns : ReportColumns} {row : Row} {report : Report}
    (read : ofRow? columns row = some report) : report.IsRead columns := by
  obtain ⟨rfl, _⟩ := ofRow?_eq_some_iff.mp read
  exact read

theorem ofRows?_eq_some_iff {columns : ReportColumns} {rows : List Row} {reports : List Report} :
    ofRows? columns rows = some reports ↔
      reports.map Report.row = rows ∧ ∀ report ∈ reports, report.IsRead columns := by
  induction rows generalizing reports with
  | nil => cases reports <;> simp [ofRows?]
  | cons row rows ih =>
      unfold ofRows?
      cases reports with
      | nil =>
          cases ofRow? columns row <;> cases ofRows? columns rows <;> simp
      | cons report reports =>
          constructor
          · intro read
            split at read
            · rename_i first others atRow atRows
              cases read
              obtain ⟨same, allRead⟩ := ih.mp atRows
              have own := (ofRow?_eq_some_iff.mp atRow).1
              refine ⟨by rw [List.map_cons, own, same], ?_⟩
              intro report member
              rcases List.mem_cons.mp member with here | there
              · rw [here]
                exact isRead_of_ofRow? atRow
              · exact allRead report there
            · cases read
          · rintro ⟨same, allRead⟩
            rw [List.map_cons, List.cons.injEq] at same
            obtain ⟨rfl, rest⟩ := same
            have atRow : ofRow? columns report.row = some report :=
              allRead report List.mem_cons_self
            have atRows := ih.mpr
              ⟨rest, fun other member => allRead other (List.mem_cons_of_mem _ member)⟩
            rw [atRow, atRows]

theorem of_mem_ofRows? {columns : ReportColumns} {rows : List Row} {reports : List Report}
    (read : ofRows? columns rows = some reports) {report : Report} (member : report ∈ reports) :
    report.row ∈ rows ∧ report.IsRead columns := by
  obtain ⟨same, allRead⟩ := ofRows?_eq_some_iff.mp read
  rw [← same]
  exact ⟨List.mem_map_of_mem member, allRead report member⟩

theorem exists_of_conforms {columns : ReportColumns} {schema : Schema} {row : Row}
    (present : columns.Of schema) (conforms : row.Conforms schema) :
    ∃ report, ofRow? columns row = some report := by
  obtain ⟨bank, atBank, _⟩ := conforms.get? present.bank
  obtain ⟨origin, atOrigin, _⟩ := conforms.get? present.origin
  obtain ⟨destination, atDestination, _⟩ := conforms.get? present.destination
  obtain ⟨date, atDate, _⟩ := conforms.get? present.date
  obtain ⟨description, atDescription, _⟩ := conforms.get? present.description
  obtain ⟨amount, atAmount, _⟩ := conforms.get? present.amount
  exact ⟨⟨row, bank, origin, destination, date, description, amount⟩,
    ofRow?_eq_some_iff.mpr
      ⟨rfl, atBank, atOrigin, atDestination, atDate, atDescription, atAmount⟩⟩

theorem exists_ofRows? {columns : ReportColumns} {schema : Schema} {rows : List Row}
    (present : columns.Of schema) (conform : ∀ row ∈ rows, row.Conforms schema) :
    ∃ reports, ofRows? columns rows = some reports := by
  induction rows with
  | nil => exact ⟨[], rfl⟩
  | cons row rows ih =>
      obtain ⟨report, atRow⟩ := exists_of_conforms present (conform row List.mem_cons_self)
      obtain ⟨reports, atRows⟩ := ih fun other member => conform other (List.mem_cons_of_mem _ member)
      exact ⟨report :: reports, by rw [ofRows?, atRow, atRows]⟩

def withBank (columns : ReportColumns) (report : Report) (entry : Entry) : Report :=
  { report with row := report.row.set columns.bank entry, bank := entry }

def withOrigin (columns : ReportColumns) (report : Report) (entry : Entry) : Report :=
  { report with row := report.row.set columns.origin entry, origin := entry }

def withDestination (columns : ReportColumns) (report : Report) (entry : Entry) : Report :=
  { report with row := report.row.set columns.destination entry, destination := entry }

def withDescription (columns : ReportColumns) (report : Report) (entry : Entry) : Report :=
  { report with row := report.row.set columns.description entry, description := entry }

section Replacing

variable {columns : ReportColumns} {schema : Schema} {report : Report}

theorem IsRead.withBank (read : report.IsRead columns) (present : columns.Of schema)
    (entry : Entry) : (report.withBank columns entry).IsRead columns := by
  obtain ⟨_, atBank, atOrigin, atDestination, atDate, atDescription, atAmount⟩ :=
    ofRow?_eq_some_iff.mp read
  refine ofRow?_eq_some_iff.mpr ⟨rfl, Row.get?_set_self atBank entry, ?_, ?_, ?_, ?_, ?_⟩
  · exact Row.get?_set_of_hasColumn present.bank present.origin (by decide) atOrigin entry
  · exact Row.get?_set_of_hasColumn present.bank present.destination (by decide) atDestination entry
  · exact Row.get?_set_of_hasColumn present.bank present.date (by decide) atDate entry
  · exact Row.get?_set_of_hasColumn present.bank present.description (by decide) atDescription entry
  · exact Row.get?_set_of_hasColumn present.bank present.amount (by decide) atAmount entry

theorem IsRead.withOrigin (read : report.IsRead columns) (present : columns.Of schema)
    (entry : Entry) : (report.withOrigin columns entry).IsRead columns := by
  obtain ⟨_, atBank, atOrigin, atDestination, atDate, atDescription, atAmount⟩ :=
    ofRow?_eq_some_iff.mp read
  refine ofRow?_eq_some_iff.mpr ⟨rfl, ?_, Row.get?_set_self atOrigin entry, ?_, ?_, ?_, ?_⟩
  · exact Row.get?_set_of_hasColumn present.origin present.bank (by decide) atBank entry
  · exact Row.get?_set_of_hasColumn present.origin present.destination (by decide) atDestination
      entry
  · exact Row.get?_set_of_hasColumn present.origin present.date (by decide) atDate entry
  · exact Row.get?_set_of_hasColumn present.origin present.description (by decide) atDescription
      entry
  · exact Row.get?_set_of_hasColumn present.origin present.amount (by decide) atAmount entry

theorem IsRead.withDestination (read : report.IsRead columns) (present : columns.Of schema)
    (entry : Entry) : (report.withDestination columns entry).IsRead columns := by
  obtain ⟨_, atBank, atOrigin, atDestination, atDate, atDescription, atAmount⟩ :=
    ofRow?_eq_some_iff.mp read
  refine ofRow?_eq_some_iff.mpr ⟨rfl, ?_, ?_, Row.get?_set_self atDestination entry, ?_, ?_, ?_⟩
  · exact Row.get?_set_of_hasColumn present.destination present.bank (by decide) atBank entry
  · exact Row.get?_set_of_hasColumn present.destination present.origin (by decide) atOrigin entry
  · exact Row.get?_set_of_hasColumn present.destination present.date (by decide) atDate entry
  · exact Row.get?_set_of_hasColumn present.destination present.description (by decide)
      atDescription entry
  · exact Row.get?_set_of_hasColumn present.destination present.amount (by decide) atAmount entry

theorem IsRead.withDescription (read : report.IsRead columns) (present : columns.Of schema)
    (entry : Entry) : (report.withDescription columns entry).IsRead columns := by
  obtain ⟨_, atBank, atOrigin, atDestination, atDate, atDescription, atAmount⟩ :=
    ofRow?_eq_some_iff.mp read
  refine ofRow?_eq_some_iff.mpr ⟨rfl, ?_, ?_, ?_, ?_, Row.get?_set_self atDescription entry, ?_⟩
  · exact Row.get?_set_of_hasColumn present.description present.bank (by decide) atBank entry
  · exact Row.get?_set_of_hasColumn present.description present.origin (by decide) atOrigin entry
  · exact Row.get?_set_of_hasColumn present.description present.destination (by decide)
      atDestination entry
  · exact Row.get?_set_of_hasColumn present.description present.date (by decide) atDate entry
  · exact Row.get?_set_of_hasColumn present.description present.amount (by decide) atAmount entry

end Replacing

def fused (columns : ReportColumns) (a b : Report) : Report :=
  (a.withBank columns (.text (fusedBank a.bankName b.bankName))).withDescription columns
    (fusedDescription a.description b.description)

def marked (columns : ReportColumns) (owned : OrderedSet String) (report : Report) : Report :=
  (report.withOrigin columns (vouched owned report.origin)).withDestination columns
    (vouched owned report.destination)

theorem isRead_fused {columns : ReportColumns} {schema : Schema} (present : columns.Of schema)
    {a : Report} (read : a.IsRead columns) (b : Report) : (fused columns a b).IsRead columns :=
  (read.withBank present _).withDescription present _

theorem isRead_marked {columns : ReportColumns} {schema : Schema} (present : columns.Of schema)
    {report : Report} (read : report.IsRead columns) (owned : OrderedSet String) :
    (marked columns owned report).IsRead columns :=
  (read.withOrigin present _).withDestination present _

/-- The kinds of the cells that conforming rows have in the base columns. -/
structure Typed (report : Report) : Prop where
  bank : report.bank.kind = .text
  origin : report.origin.kind = .text
  destination : report.destination.kind = .text
  description : report.description.kind = .text
  amount : report.amount.kind = .dollars

theorem typed_of_conforms {columns : ReportColumns} {schema : Schema} {report : Report}
    (present : columns.Of schema) (read : report.IsRead columns)
    (conforms : report.row.Conforms schema) : report.Typed := by
  obtain ⟨_, atBank, atOrigin, atDestination, _, atDescription, atAmount⟩ :=
    ofRow?_eq_some_iff.mp read
  have kindAt {index : Nat} {name : String} {kind : Kind} {entry : Entry}
      (column : schema.HasColumn index name kind) (cell : report.row.get? index = some entry) :
      entry.kind = kind := by
    obtain ⟨found, atIndex, ofKind⟩ := conforms.get? column
    rw [atIndex, Option.some.injEq] at cell
    rw [← cell]
    exact ofKind
  exact ⟨kindAt present.bank atBank, kindAt present.origin atOrigin,
    kindAt present.destination atDestination, kindAt present.description atDescription,
    kindAt present.amount atAmount⟩

theorem conforms_fused {columns : ReportColumns} {schema : Schema} {a : Report}
    (present : columns.Of schema) (typed : a.Typed) (conforms : a.row.Conforms schema)
    (b : Report) : (fused columns a b).row.Conforms schema := by
  have description : (fusedDescription a.description b.description).kind = .text := by
    unfold fusedDescription
    split
    · exact typed.description
    · rfl
  exact (conforms.set_of_hasColumn present.bank rfl).set_of_hasColumn present.description description

theorem conforms_marked {columns : ReportColumns} {schema : Schema} {report : Report}
    (present : columns.Of schema) (typed : report.Typed) (conforms : report.row.Conforms schema)
    (owned : OrderedSet String) : (marked columns owned report).row.Conforms schema := by
  have kind {endpoint : Entry} (text : endpoint.kind = .text) :
      (vouched owned endpoint).kind = .text := by
    unfold vouched
    split
    · exact text
    · rfl
  exact (conforms.set_of_hasColumn present.origin (kind typed.origin)).set_of_hasColumn
    present.destination (kind typed.destination)

theorem text?_eq_some_textOf {entry : Entry} (text : entry.kind = .text) :
    entry.text? = some (textOf entry) := by
  cases entry with
  | date value => cases text
  | text value => rfl
  | dollars value => cases text

theorem textOf_eq_of_sameValue {a b : Entry} (same : a.sameValue b = true) :
    textOf a = textOf b := by
  rw [textOf, textOf, Entry.text?_eq_of_sameValue same]

/-- What a report moves, where an endpoint that is no text counts as empty. -/
def movement (report : Report) : Movement :=
  ⟨some (textOf report.origin), some (textOf report.destination),
    Movement.amountOf report.amount⟩

theorem movement_of_typed {columns : ReportColumns} {report : Report}
    (read : report.IsRead columns) (typed : report.Typed) :
    Movement.ofRow? columns.origin columns.destination columns.amount report.row =
      some report.movement := by
  obtain ⟨_, _, atOrigin, atDestination, _, _, atAmount⟩ := ofRow?_eq_some_iff.mp read
  simp only [Movement.ofRow?, atAmount, atDestination, atOrigin, movement,
    text?_eq_some_textOf typed.origin, text?_eq_some_textOf typed.destination]

end Report

namespace Store

theorem amounts_eq_of_reports {store : Store} {columns : ReportColumns} {reports : List Report}
    (present : columns.Of store.schema)
    (read : Report.ofRows? columns store.rows = some reports) :
    store.amounts = reports.map fun report => report.movement.amount := by
  obtain ⟨rows, allRead⟩ := Report.ofRows?_eq_some_iff.mp read
  unfold amounts cells
  simp only [present.amount.1]
  rw [← rows, List.filterMap_map, List.map_filterMap, ← List.filterMap_eq_map]
  apply List.filterMap_congr
  intro report member
  obtain ⟨_, _, _, _, _, _, atAmount⟩ := Report.ofRow?_eq_some_iff.mp (allRead report member)
  rw [Function.comp_apply, atAmount]
  rfl

theorem movements_eq_of_reports {store : Store} {columns : ReportColumns} {reports : List Report}
    (present : columns.Of store.schema)
    (read : Report.ofRows? columns store.rows = some reports)
    (typed : ∀ report ∈ reports, report.Typed) :
    store.movements = reports.map Report.movement := by
  obtain ⟨rows, allRead⟩ := Report.ofRows?_eq_some_iff.mp read
  unfold movements
  simp only [present.origin.1, present.destination.1, present.amount.1]
  rw [← rows, List.filterMap_map, ← List.filterMap_eq_map]
  apply List.filterMap_congr
  intro report member
  exact Report.movement_of_typed (allRead report member) (typed report member)

end Store

end Passbook
