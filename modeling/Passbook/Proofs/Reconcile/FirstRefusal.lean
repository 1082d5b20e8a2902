/-
What reconciling is refused for, said on rows. A class is refused when three
banks report it, and else when a row has no partner and the bank of that row is
unknown. The error tells of the first such class in the order of first rows.
Rows that have a partner are never asked for their banks' accounts, and the rows
that are made always fit the schema.
-/

import Passbook.Proofs.Reconcile.Pairing
import Passbook.Proofs.Reconcile.Reconciled

namespace Passbook

namespace Pairing

section Refused

variable (schema : Schema) (banks : BankAccounts)

def reporters (rows : List Row) : List String :=
  (rows.map fun row => textIn schema row Schema.bank).eraseDups

/-- The rows of a class that have no partner: the n-th row of a bank when the other
bank has no n-th row. -/
def unpaired (rows : List Row) : List Row :=
  match rows with
  | [] => []
  | first :: _ =>
      Deduplication.leftOver (rows.filter (ofSameBank schema first))
        (rows.filter fun row => !ofSameBank schema first row)

/-- The class has three banks, or a row without a partner whose bank is unknown. -/
def IsRefused (rows : List Row) : Prop :=
  3 ≤ (reporters schema rows).length ∨
    ∃ row ∈ unpaired schema rows, banks.accounts? (textIn schema row Schema.bank) = none

/-- The error for a class that is refused. It has the transfer and all banks when
there are three, and the bank of the first row without a partner else. -/
inductive Refuses (rows : List Row) : DedupError → Prop
  | ambiguous {first : Row} {others : List Row} {origin destination date amount : Entry}
      (front : rows = first :: others) (many : 3 ≤ (reporters schema rows).length)
      (atOrigin : cell? schema first Schema.origin = some origin)
      (atDestination : cell? schema first Schema.destination = some destination)
      (atDate : cell? schema first Schema.date = some date)
      (atAmount : cell? schema first Schema.amount = some amount) :
      Refuses rows (.ambiguousTransfer origin destination date amount (reporters schema rows))
  | unknown {row : Row} {others : List Row} (few : (reporters schema rows).length ≤ 2)
      (front : unpaired schema rows = row :: others)
      (absent : banks.accounts? (textIn schema row Schema.bank) = none) :
      Refuses rows (.unknownBank (textIn schema row Schema.bank))

end Refused

open Deduplication

section Settling

variable {schema : Schema} {banks : BankAccounts} {columns : ReportColumns} {first : Report}
  {others : List Report}

private theorem reporters_eq (present : columns.Of schema)
    (read : ∀ report ∈ first :: others, report.IsRead columns) :
    reporters schema ((first :: others).map Report.row) =
      (Transfer.collect first others).banks := by
  rw [Transfer.banks_collect_eq, reporters, List.map_map]
  refine congrArg List.eraseDups (List.map_congr_left fun report member => ?_)
  exact textIn_of_cell? (shows_of_isRead present (read report member)).bank

private def alone (first : Report) (others : List Report) : List Report :=
  leftOver (first :: others.filter (isBy first.bankName))
    (others.filter fun report => !isBy first.bankName report)

private theorem unpaired_eq (present : columns.Of schema)
    (read : ∀ report ∈ first :: others, report.IsRead columns) :
    unpaired schema ((first :: others).map Report.row) = (alone first others).map Report.row := by
  obtain ⟨ofFirst, ofOther⟩ := filter_ofSameBank present read
  have split : unpaired schema ((first :: others).map Report.row) =
      leftOver (((first :: others).map Report.row).filter (ofSameBank schema first.row))
        (((first :: others).map Report.row).filter
          fun row => !ofSameBank schema first.row row) := rfl
  rw [split, ofFirst, ofOther, alone, leftOver, leftOver, List.map_append, List.map_drop,
    List.map_drop, List.length_map, List.length_map]

private theorem alone_subset : alone first others ⊆ first :: others := by
  intro report member
  rcases List.mem_append.mp member with ofOwn | ofRest
  · rcases List.mem_cons.mp (List.mem_of_mem_drop ofOwn) with rfl | later
    · exact List.mem_cons_self
    · exact List.mem_cons_of_mem _ (List.mem_filter.mp later).1
  · exact List.mem_cons_of_mem _ (List.mem_filter.mp (List.mem_of_mem_drop ofRest)).1

private theorem exists_bank_of_alone
    (few : (Transfer.collect first others).byBank.length ≤ 2) :
    ∃ bank, ∀ report ∈ alone first others, report.bankName = bank := by
  obtain ⟨other, named, _⟩ := Transfer.byBank_collect_of_few few
  unfold alone leftOver
  have byFirst : ∀ report ∈ first :: others.filter (isBy first.bankName),
      report.bankName = first.bankName := by
    refine List.forall_mem_cons.mpr ⟨rfl, fun report member => ?_⟩
    exact (eq_of_beq (List.mem_filter.mp member).2).symm
  generalize (others.filter fun report => !isBy first.bankName report) = rest at named ⊢
  generalize first :: others.filter (isBy first.bankName) = own at byFirst ⊢
  rcases Nat.le_total rest.length own.length with fewer | more
  · refine ⟨first.bankName, fun report member => ?_⟩
    rw [List.drop_eq_nil_of_le fewer, List.append_nil] at member
    exact byFirst report (List.mem_of_mem_drop member)
  · refine ⟨other, fun report member => ?_⟩
    rw [List.drop_eq_nil_of_le more, List.nil_append] at member
    exact named report (List.mem_of_mem_drop member)

/-- A transfer of two banks is refused when what is left over has an unknown bank. -/
private theorem settle_eq_error_iff_of_few
    (few : (Transfer.collect first others).byBank.length ≤ 2) {error : DedupError} :
    settle columns banks (Transfer.collect first others) = .error error ↔
      ∃ report rest, alone first others = report :: rest ∧
        banks.accounts? report.bankName = none ∧ error = .unknownBank report.bankName := by
  have paired : settle columns banks (Transfer.collect first others) =
      pair columns banks (first :: others.filter (isBy first.bankName))
        (others.filter fun report => !isBy first.bankName report) := by
    unfold settle
    obtain ⟨_, _, ⟨none, byBank⟩ | byBank⟩ := Transfer.byBank_collect_of_few few
    · rw [byBank, none]
    · rw [byBank]
  obtain ⟨bank, own⟩ := exists_bank_of_alone few
  rw [paired, pair_eq_error_iff, unmatchedAll_eq_error_iff, ← alone]
  constructor
  · rintro ⟨report, found, rfl⟩
    have unknown : isUnknown banks report = true := List.find?_some found
    have absent := Option.isNone_iff_eq_none.mp unknown
    cases left : alone first others with
    | nil =>
        rw [left] at found
        cases found
    | cons front rest =>
        have same : report.bankName = front.bankName :=
          (own report (List.mem_of_find?_eq_some found)).trans
            (own front (left ▸ List.mem_cons_self)).symm
        rw [same] at absent ⊢
        exact ⟨front, rest, rfl, absent, rfl⟩
  · rintro ⟨report, rest, left, absent, rfl⟩
    refine ⟨report, ?_, rfl⟩
    rw [left, List.find?_cons_of_pos]
    exact Option.isNone_iff_eq_none.mpr absent

section Classes

variable (present : columns.Of schema) (read : ∀ report ∈ first :: others, report.IsRead columns)

include present read

private theorem length_reporters :
    (reporters schema ((first :: others).map Report.row)).length =
      (Transfer.collect first others).byBank.length := by
  rw [reporters_eq present read, Transfer.banks, List.length_map]

/-- A class is refused with the errors with which its transfer cannot be settled. -/
private theorem settle_eq_error_iff_refuses {error : DedupError} :
    settle columns banks (Transfer.collect first others) = .error error ↔
      Refuses schema banks ((first :: others).map Report.row) error := by
  have bankOf (report : Report) (member : report ∈ alone first others) :
      textIn schema report.row Schema.bank = report.bankName :=
    textIn_of_cell? (shows_of_isRead present (read report (alone_subset member))).bank
  have length := length_reporters present read
  rcases Nat.lt_or_ge (Transfer.collect first others).byBank.length 3 with few | many
  · rw [settle_eq_error_iff_of_few (Nat.le_of_lt_succ few)]
    constructor
    · rintro ⟨report, rest, left, absent, rfl⟩
      have named := bankOf report (left ▸ List.mem_cons_self)
      rw [← named] at absent ⊢
      have front := unpaired_eq present read
      rw [left, List.map_cons] at front
      exact .unknown (by omega) front absent
    · intro refused
      cases refused with
      | ambiguous _ three => omega
      | unknown _ front absent =>
          rw [unpaired_eq present read] at front
          obtain ⟨report, rest, left, rfl, rfl⟩ := List.map_eq_cons_iff.mp front
          have named := bankOf report (left ▸ List.mem_cons_self)
          rw [named] at absent ⊢
          exact ⟨report, rest, left, absent, rfl⟩
  · rw [settle_of_many many, Except.error.injEq, ← reporters_eq present read]
    have shown := shows_of_isRead present (read first List.mem_cons_self)
    constructor
    · rintro rfl
      exact .ambiguous rfl (by omega) shown.origin shown.destination shown.date shown.amount
    · intro refused
      cases refused with
      | ambiguous front _ atOrigin atDestination atDate atAmount =>
          cases front
          cases shown.origin.symm.trans atOrigin
          cases shown.destination.symm.trans atDestination
          cases shown.date.symm.trans atDate
          cases shown.amount.symm.trans atAmount
          rfl
      | unknown two => omega

private theorem isRefused_iff : IsRefused schema banks ((first :: others).map Report.row) ↔
    ∃ error, settle columns banks (Transfer.collect first others) = .error error := by
  have length := length_reporters present read
  rcases Nat.lt_or_ge (Transfer.collect first others).byBank.length 3 with few | many
  · have few := Nat.le_of_lt_succ few
    obtain ⟨bank, own⟩ := exists_bank_of_alone few
    have bankOf (report : Report) (member : report ∈ alone first others) :
        textIn schema report.row Schema.bank = bank :=
      (textIn_of_cell? (shows_of_isRead present (read report (alone_subset member))).bank).trans
        (own report member)
    simp only [IsRefused, settle_eq_error_iff_of_few few, unpaired_eq present read]
    constructor
    · rintro (three | ⟨row, member, absent⟩)
      · omega
      · obtain ⟨report, isAlone, rfl⟩ := List.mem_map.mp member
        rw [bankOf report isAlone] at absent
        obtain ⟨front, rest, left⟩ := List.exists_cons_of_ne_nil (List.ne_nil_of_mem isAlone)
        refine ⟨_, front, rest, left, ?_, rfl⟩
        rw [own front (left ▸ List.mem_cons_self)]
        exact absent
    · rintro ⟨_, report, rest, left, absent, _⟩
      have isAlone : report ∈ alone first others := left ▸ List.mem_cons_self
      refine Or.inr ⟨report.row, List.mem_map_of_mem isAlone, ?_⟩
      rw [bankOf report isAlone, ← own report isAlone]
      exact absent
  · exact iff_of_true (Or.inl (by omega)) ⟨_, settle_of_many many⟩

end Classes

private theorem exists_split_map {α β : Type} {change : α → β} {items : List α}
    {before after : β → Prop} :
    (∃ front item back, items.map change = front ++ item :: back ∧
        (∀ earlier ∈ front, before earlier) ∧ after item) ↔
      ∃ front item back, items = front ++ item :: back ∧
        (∀ earlier ∈ front, before (change earlier)) ∧ after (change item) := by
  constructor
  · rintro ⟨_, _, _, same, earlier, here⟩
    obtain ⟨front, rest, rfl, rfl, tail⟩ := List.map_eq_append_iff.mp same
    obtain ⟨item, back, rfl, rfl, rfl⟩ := List.map_eq_cons_iff.mp tail
    exact ⟨front, item, back, rfl, List.forall_mem_map.mp earlier, here⟩
  · rintro ⟨front, item, back, rfl, earlier, here⟩
    refine ⟨front.map change, change item, back.map change, ?_, ?_, here⟩
    · rw [List.map_append, List.map_cons]
    · exact List.forall_mem_map.mpr earlier

theorem settleAll_eq_error_iff_refuses (present : columns.Of schema) {reports : List Report}
    (read : ∀ report ∈ reports, report.IsRead columns) {error : DedupError} :
    settleAll columns banks (transfers reports) = .error error ↔
      ∃ before members after,
        classes schema (reports.map Report.row) = before ++ members :: after ∧
        (∀ earlier ∈ before, ¬ IsRefused schema banks earlier) ∧
        Refuses schema banks members error := by
  obtain ⟨groups, ofTransfers, ofClasses, readAll⟩ := exists_groups present read
  rw [settleAll_eq_error_iff, ofTransfers, ofClasses, exists_split_map, exists_split_map]
  refine exists₃_congr fun front group back => and_congr_right fun split => and_congr ?_ ?_
  · refine forall₂_congr fun earlier member => ?_
    have among : earlier ∈ groups := split ▸ List.mem_append_left _ member
    rw [isRefused_iff present (readAll earlier among)]
    cases settle columns banks (Transfer.collect earlier.1 earlier.2) <;> simp
  · have among : group ∈ groups := split ▸ List.mem_append_right _ List.mem_cons_self
    exact settle_eq_error_iff_refuses present (readAll group among)

theorem exists_settleAll_eq_error_iff (present : columns.Of schema) {reports : List Report}
    (read : ∀ report ∈ reports, report.IsRead columns) :
    (∃ error, settleAll columns banks (transfers reports) = .error error) ↔
      ∃ members ∈ classes schema (reports.map Report.row), IsRefused schema banks members := by
  obtain ⟨groups, ofTransfers, ofClasses, readAll⟩ := exists_groups present read
  rw [exists_error_iff, ofTransfers, ofClasses]
  simp only [List.mem_map, exists_exists_and_eq_and]
  refine exists_congr fun group => and_congr_right fun among => ?_
  exact (isRefused_iff present (readAll group among)).symm

end Settling

end Pairing

/-- Over the base columns reconciling fails exactly when some class is refused, and
with the error for the first such class; no row that it makes is unfit. -/
theorem Store.deduplicate_eq_error_iff {store : Store} {banks : BankAccounts}
    (wellFormed : store.WellFormed) (base : Schema.base.columns ⊆ store.schema.columns) :
    let classes := Pairing.classes store.schema
      (store.rows.filter (Pairing.isInternal store.schema banks))
    ((∃ error, store.deduplicate banks = .error error) ↔
        ∃ members ∈ classes, Pairing.IsRefused store.schema banks members) ∧
      (∀ error, store.deduplicate banks = .error error ↔
        ∃ before members after, classes = before ++ members :: after ∧
          (∀ earlier ∈ before, ¬ Pairing.IsRefused store.schema banks earlier) ∧
          Pairing.Refuses store.schema banks members error) ∧
      ∀ problem, store.deduplicate banks ≠ .error (.schema problem) := by
  intro classes
  obtain ⟨columns, present⟩ := ReportColumns.exists_of wellFormed.1 base
  obtain ⟨reports, read⟩ := Report.exists_ofRows? present wellFormed.2
  have inside : store.rows.filter (Pairing.isInternal store.schema banks) =
      (Deduplication.internal banks reports).map Report.row :=
    Pairing.filter_isInternal present read
  have readInside : ∀ report ∈ Deduplication.internal banks reports, report.IsRead columns :=
    fun report member => (Report.of_mem_ofRows? read (List.mem_filter.mp member).1).2
  have failure (error : DedupError) : store.deduplicate banks = .error error ↔
      Deduplication.settleAll columns banks
        (Deduplication.transfers (Deduplication.internal banks reports)) = .error error := by
    rw [deduplicate_of_conform present read wellFormed.2]
    cases Deduplication.settleAll columns banks
      (Deduplication.transfers (Deduplication.internal banks reports)) <;> simp [Except.map]
  refine ⟨?_, ?_, ?_⟩
  · simp only [classes, failure, inside]
    exact Pairing.exists_settleAll_eq_error_iff present readInside
  · intro error
    simp only [classes, failure, inside]
    exact Pairing.settleAll_eq_error_iff_refuses present readInside
  · intro problem failed
    exact isRefusal_of_deduplicate present wellFormed.2 failed

/-- Zeta has no accounts. Its report of the first transfer is paired with one of
Acme, but of the second transfer it has the only one; three banks report the last. -/
def Store.reportsOfZeta : Store :=
  let row (bank origin destination : String) (amount : Nat) : Row :=
    ⟨[.text bank, .text origin, .text destination, .date ⟨2024, 1, 5⟩, .text "transfer",
      .dollars (.ofMagnitude ((Decimal.make? amount 2).getD .zero))]⟩
  ⟨.base, [row "Zeta" "checking" "savings" 500, row "Acme" "checking" "savings" 500,
    row "Zeta" "savings" "checking" 200, row "Acme" "checking" "savings" 900,
    row "Birch" "checking" "savings" 900, row "Zeta" "checking" "savings" 900]⟩

theorem Store.deduplicate_eq_error_iff_zeta :
    let store := Store.reportsOfZeta
    let classes := Pairing.classes .base (store.rows.filter (Pairing.isInternal .base .acmeBirch))
    (∃ members ∈ classes, Pairing.IsRefused .base .acmeBirch members) ∧
      (∃ before members after, classes = before ++ members :: after ∧
        (∀ earlier ∈ before, ¬ Pairing.IsRefused .base .acmeBirch earlier) ∧
        Pairing.Refuses .base .acmeBirch members (.unknownBank "Zeta")) ∧
      ∀ problem, store.deduplicate .acmeBirch ≠ .error (.schema problem) := by
  intro store classes
  have wellFormed : store.WellFormed := ⟨Schema.base_wellFormed, by decide⟩
  have failed : store.deduplicate .acmeBirch = .error (.unknownBank "Zeta") := rfl
  obtain ⟨fails, first, noSchema⟩ : ((∃ error, store.deduplicate .acmeBirch = .error error) ↔
        ∃ members ∈ classes, Pairing.IsRefused .base .acmeBirch members) ∧
      (∀ error, store.deduplicate .acmeBirch = .error error ↔
        ∃ before members after, classes = before ++ members :: after ∧
          (∀ earlier ∈ before, ¬ Pairing.IsRefused .base .acmeBirch earlier) ∧
          Pairing.Refuses .base .acmeBirch members error) ∧
      ∀ problem, store.deduplicate .acmeBirch ≠ .error (.schema problem) :=
    Store.deduplicate_eq_error_iff wellFormed (List.Subset.refl _)
  exact ⟨fails.mp ⟨_, failed⟩, (first _).mp failed, noSchema⟩

end Passbook
