/-
Conservation of flows. Fusing two reports of a transfer counts it once for each
of their banks, as before; marking an endpoint touches no account of the bank
that reports it. So every account of the banks keeps its net flow, although
rows were fused, renamed and reordered.
-/

import Mathlib.Algebra.Order.BigOperators.Group.List
import Passbook.Proofs.Reconcile.Flows
import Passbook.Proofs.Reconcile.Reconciled

namespace Passbook

open Deduplication

/-- No bank cell looks like the cell of a fused row. -/
def Store.PlainBanks (store : Store) : Prop :=
  ∀ cell ∈ store.cells Schema.bank, '+' ∉ (Report.textOf cell).toList

instance (store : Store) : Decidable store.PlainBanks :=
  inferInstanceAs (Decidable (∀ cell ∈ store.cells Schema.bank, _))

/-- No account looks like a marked endpoint. -/
def BankAccounts.Unmarked (banks : BankAccounts) : Prop :=
  ∀ account ∈ banks.allAccounts.members, ¬ unmatchedMark.toList <+: account.toList

instance (banks : BankAccounts) : Decidable banks.Unmarked :=
  inferInstanceAs (Decidable (∀ account ∈ banks.allAccounts.members, _))

theorem Store.PlainBanks.plain {store : Store} (plain : store.PlainBanks)
    {columns : ReportColumns} {reports : List Report} (present : columns.Of store.schema)
    (read : Report.ofRows? columns store.rows = some reports) :
    ∀ report ∈ reports, Flows.Plain report := by
  intro report member
  obtain ⟨inRows, isRead⟩ := Report.of_mem_ofRows? read member
  obtain ⟨_, atBank, _⟩ := Report.ofRow?_eq_some_iff.mp isRead
  apply plain report.bank
  unfold Store.cells
  simp only [present.bank.1]
  exact List.mem_filterMap.mpr ⟨report.row, inRows, atBank⟩

theorem BankAccounts.Unmarked.not_marked {banks : BankAccounts} (unmarked : banks.Unmarked)
    (wellFormed : banks.WellFormed) {bank account : String}
    (owns : banks.owns bank account = true) : ¬ unmatchedMark.toList <+: account.toList :=
  unmarked account (wellFormed.mem_allAccounts_iff.mpr ⟨bank, owns⟩)

namespace Report

private theorem coefficientAt_amountOf {a b : Entry} (same : a.sameValue b = true) {places : Nat}
    (first : (Movement.amountOf a).scale ≤ places) (second : (Movement.amountOf b).scale ≤ places) :
    (Movement.amountOf a).coefficientAt places = (Movement.amountOf b).coefficientAt places := by
  cases a <;> cases b <;> try cases same
  case dollars.dollars paid received =>
    exact (Decimal.sameValue_iff_coefficientAt first second).mp same
  all_goals rfl

section SameTransfer

variable {a b : Report} {places : Nat}

theorem net_eq_of_sameTransfer (same : a.sameTransfer b = true)
    (first : a.movement.amount.scale ≤ places) (second : b.movement.amount.scale ≤ places)
    (account : String) : a.net places account = b.net places account := by
  obtain ⟨origin, destination, _, amount⟩ := sameTransfer_iff.mp same
  have weight : a.movement.amount.coefficientAt places = b.movement.amount.coefficientAt places :=
    coefficientAt_amountOf amount first second
  have from_eq : a.movement.origin = b.movement.origin :=
    congrArg some (textOf_eq_of_sameValue origin)
  have to_eq : a.movement.destination = b.movement.destination :=
    congrArg some (textOf_eq_of_sameValue destination)
  rw [net, net, Movement.net, Movement.net, from_eq, to_eq, weight]

theorem size_eq_of_sameTransfer (same : a.sameTransfer b = true)
    (first : a.movement.amount.scale ≤ places) (second : b.movement.amount.scale ≤ places) :
    a.size places = b.size places := by
  obtain ⟨_, _, _, amount⟩ := sameTransfer_iff.mp same
  exact congrArg Int.natAbs (coefficientAt_amountOf amount first second)

end SameTransfer

theorem bankName_fused (columns : ReportColumns) (a b : Report) :
    (fused columns a b).bankName = fusedBank a.bankName b.bankName :=
  rfl

/-- A vouched endpoint is an account that has no mark exactly when the bank owns
the account and the endpoint was it before. -/
theorem textOf_vouched_iff (owned : OrderedSet String) (endpoint : Entry) {account : String}
    (unmarked : ¬ unmatchedMark.toList <+: account.toList) :
    textOf (vouched owned endpoint) = account ↔
      textOf endpoint = account ∧ owned.contains account = true := by
  unfold vouched
  split
  · rename_i contained
    constructor
    · intro same
      exact ⟨same, same ▸ contained⟩
    · exact And.left
  · rename_i missing
    constructor
    · intro same
      exfalso
      apply unmarked
      rw [← same]
      refine ⟨(textOf endpoint).toList, ?_⟩
      exact String.toList_append.symm
    · rintro ⟨same, contained⟩
      rw [same] at missing
      exact absurd contained missing

theorem net_marked (columns : ReportColumns) {owned : OrderedSet String} (report : Report)
    (places : Nat) {account : String} (unmarked : ¬ unmatchedMark.toList <+: account.toList) :
    (marked columns owned report).net places account =
      if owned.contains account then report.net places account else 0 := by
  have atOrigin := textOf_vouched_iff owned report.origin unmarked
  have atDestination := textOf_vouched_iff owned report.destination unmarked
  unfold net Movement.net
  change (if some (textOf (vouched owned report.destination)) = some account then
      report.movement.amount.coefficientAt places else 0) -
    (if some (textOf (vouched owned report.origin)) = some account then
      report.movement.amount.coefficientAt places else 0) = _
  simp only [Option.some.injEq, atOrigin, atDestination, movement]
  by_cases contained : owned.contains account = true
  · simp only [contained, and_true, if_true]
  · simp only [contained, and_false, if_false, Int.sub_self, Bool.false_eq_true]

end Report

section Totals

variable {columns : ReportColumns} {banks : BankAccounts} {reports : List Report}

theorem Flows.totalOf_eq_sum {M : Type} [AddCommMonoid M] (bank : String) (reports : List Report)
    (value : Report → M) :
    Flows.totalOf bank reports value = (reports.map fun report =>
      if (Flows.reporters report.bankName).contains bank then value report else 0).sum := by
  unfold Flows.totalOf Flows.reportsOf
  rw [List.sum_map_ite]
  simp

private theorem totalOf_reconciled {M : Type} [AddCommMonoid M] {value : Report → M} {bank : String}
    (paired : Paired banks reports) (plain : ∀ report ∈ reports, Flows.Plain report)
    (fused : ∀ a ∈ reports, ∀ b ∈ reports, a.sameTransfer b = true →
      value (Report.fused columns a b) = value a ∧ value a = value b)
    (marked : ∀ report, report.bankName = bank →
      value (Settlement.result columns banks (.alone report)) = value report) :
    Flows.totalOf bank (reconciled columns banks reports) value =
      Flows.totalOf bank reports value := by
  rw [Flows.totalOf_eq_sum, Flows.totalOf_eq_sum]
  refine sum_reconciled paired ?_ fun _ _ => rfl
  intro settlement member
  have source : ∀ report ∈ settlement.sources, report ∈ reports :=
    fun report fromHere => (mem_of_mem_sources paired member fromHere).1
  cases settlement with
  | fused a b =>
      have inA := source a List.mem_cons_self
      have inB := source b (List.mem_cons_of_mem _ List.mem_cons_self)
      obtain ⟨differ, same⟩ := of_fused member
      obtain ⟨taken, both⟩ := fused a inA b inB same
      rw [Settlement.result, Settlement.sources, List.map_cons, List.map_singleton, List.sum_cons,
        List.sum_singleton, Report.bankName_fused,
        Flows.reporters_fusedBank (plain a inA) (plain b inB),
        Flows.reporters_of_plain (plain a inA), Flows.reporters_of_plain (plain b inB), taken,
        ← both]
      by_cases first : bank = a.bankName
      · subst first
        simp [differ]
      · simp [first]
  | alone report =>
      have sameBank : (Settlement.result columns banks (.alone report)).bankName =
          report.bankName := rfl
      rw [Settlement.sources, List.map_singleton, List.sum_singleton, sameBank,
        Flows.reporters_of_plain (plain report (source report List.mem_cons_self))]
      by_cases own : report.bankName = bank
      · rw [marked report own]
      · have other : ¬ [report.bankName].contains bank = true := by
          rw [List.contains_iff_mem, List.mem_singleton]
          exact Ne.symm own
        rw [if_neg other, if_neg other]

/-- What the owners of an account report has one total before and after, if it
is the same for the reports of a transfer and marking keeps it for an owner. -/
theorem total_reconciled {M : Type} [AddCommMonoid M] {value : Report → M} {account : String}
    (wellFormed : banks.WellFormed) (paired : Paired banks reports)
    (plain : ∀ report ∈ reports, Flows.Plain report)
    (fused : ∀ a ∈ reports, ∀ b ∈ reports, a.sameTransfer b = true →
      value (Report.fused columns a b) = value a ∧ value a = value b)
    (marked : ∀ report owned, banks.accounts? report.bankName = some owned →
      owned.contains account = true → value (Report.marked columns owned report) = value report) :
    Flows.total banks.owned.pairs account (reconciled columns banks reports) value =
      Flows.total banks.owned.pairs account reports value := by
  unfold Flows.total
  congr 1
  apply List.map_congr_left
  rintro ⟨bank, accounts⟩ present
  have known := wellFormed.accounts?_eq_some_iff.mpr present
  by_cases contained : accounts.contains account = true
  · rw [if_pos contained, if_pos contained]
    apply totalOf_reconciled paired plain fused
    intro report own
    change report.bankName = bank at own
    rw [← own] at known
    rw [Settlement.result, known, Option.getD_some]
    exact marked report accounts known contained
  · rw [if_neg contained, if_neg contained]

variable {places : Nat}

theorem total_net_reconciled (wellFormed : banks.WellFormed) (unmarked : banks.Unmarked)
    (paired : Paired banks reports) (plain : ∀ report ∈ reports, Flows.Plain report)
    (within : ∀ report ∈ reports, report.movement.amount.scale ≤ places) (account : String) :
    Flows.total banks.owned.pairs account (reconciled columns banks reports)
        (Report.net places account) =
      Flows.total banks.owned.pairs account reports (Report.net places account) := by
  apply total_reconciled wellFormed paired plain
  · intro a inA b inB same
    exact ⟨rfl, Report.net_eq_of_sameTransfer same (within a inA) (within b inB) account⟩
  · intro report owned known contained
    have owns : banks.owns report.bankName account = true := by
      rw [BankAccounts.owns_of_accounts? known]
      exact contained
    rw [Report.net_marked columns report places (unmarked.not_marked wellFormed owns),
      if_pos contained]

theorem total_size_reconciled (wellFormed : banks.WellFormed) (paired : Paired banks reports)
    (plain : ∀ report ∈ reports, Flows.Plain report)
    (within : ∀ report ∈ reports, report.movement.amount.scale ≤ places) (account : String) :
    Flows.total banks.owned.pairs account (reconciled columns banks reports)
        (Report.size places) =
      Flows.total banks.owned.pairs account reports (Report.size places) := by
  apply total_reconciled wellFormed paired plain
  · intro a inA b inB same
    exact ⟨rfl, Report.size_eq_of_sameTransfer same (within a inA) (within b inB)⟩
  · intro report owned _ _
    rfl

theorem scale_le_reconciled (paired : Paired banks reports)
    (within : ∀ report ∈ reports, report.movement.amount.scale ≤ places) :
    ∀ report ∈ reconciled columns banks reports, report.movement.amount.scale ≤ places := by
  intro report member
  rcases List.mem_append.mp member with inside | outside
  · obtain ⟨settlement, settled, rfl⟩ := List.mem_map.mp inside
    cases settlement with
    | fused a b => exact within a (mem_of_mem_sources paired settled List.mem_cons_self).1
    | alone report =>
        exact within report (mem_of_mem_sources paired settled List.mem_cons_self).1
  · exact within report (List.mem_filter.mp outside).1

end Totals

namespace Flows

def sameValue (first second : Flows) : Bool :=
  OrderedMap.sameBy Decimal.sameValue first.pairs second.pairs

theorem Tracks.sameValue {first second : Flows} {places : Nat} {ledger : String → Option Int}
    (tracks : first.Tracks places ledger) (other : second.Tracks places ledger) :
    first.sameValue second = true := by
  refine OrderedMap.sameBy_of_find? _ _ tracks.ascending other.ascending ?_
  intro account
  change Option.Rel _ (first.find? account) (second.find? account)
  cases inFirst : first.find? account with
  | none =>
      have unlisted := tracks.of_find?_eq_none inFirst
      cases inSecond : second.find? account with
      | none => exact Option.Rel.none
      | some flow =>
          obtain ⟨value, listed, _⟩ := other.of_find?_eq_some inSecond
          rw [unlisted] at listed
          cases listed
  | some flow =>
      obtain ⟨value, listed, denotes⟩ := tracks.of_find?_eq_some inFirst
      cases inSecond : second.find? account with
      | none =>
          rw [other.of_find?_eq_none inSecond] at listed
          cases listed
      | some present =>
          obtain ⟨same, alike, presentDenotes⟩ := other.of_find?_eq_some inSecond
          rw [listed, Option.some.injEq] at alike
          exact Option.Rel.some ((denotes.sameValue_iff presentDenotes).mpr alike)

end Flows

/-- Reconciling keeps the net flow of every account of the banks, whatever it
fuses, marks and reorders, as long as no sum overflows. -/
theorem Store.accountFlows_deduplicate {store out : Store} {banks : BankAccounts} {places : Nat}
    (wellFormed : banks.WellFormed) (deduplicated : store.deduplicate banks = .ok out)
    (plainBanks : store.PlainBanks) (unmarked : banks.Unmarked)
    (summable : Decimal.Summable places store.amounts) :
    ∃ before after, store.accountFlows banks = .ok before ∧ out.accountFlows banks = .ok after ∧
      before.sameValue after = true := by
  obtain ⟨columns, reports, present, read, paired, _, _, result⟩ :=
    deduplicate_eq_ok_iff.mp deduplicated
  have plain := plainBanks.plain present read
  obtain ⟨within, bounded⟩ := summable.of_reports present read
  have room : ∀ account, Flows.total banks.owned.pairs account reports (Report.size places) <
      Decimal.coefficientBound := by
    intro account
    exact Nat.lt_of_le_of_lt (wellFormed.total_size_le plain account places) bounded
  obtain ⟨before, atStart, tracksBefore⟩ := accountFlows_tracks present read wellFormed within room
  have presentAfter : columns.Of out.schema := by
    rw [result]
    exact present
  have readAfter : Report.ofRows? columns out.rows = some (reconciled columns banks reports) := by
    rw [result]
    exact ofRows?_reconciled present paired read
  have roomAfter : ∀ account, Flows.total banks.owned.pairs account
      (reconciled columns banks reports) (Report.size places) < Decimal.coefficientBound := by
    intro account
    rw [total_size_reconciled wellFormed paired plain within]
    exact room account
  obtain ⟨after, atEnd, tracksAfter⟩ :=
    accountFlows_tracks presentAfter readAfter wellFormed (scale_le_reconciled paired within)
      roomAfter
  refine ⟨before, after, atStart, atEnd, tracksBefore.sameValue (tracksAfter.congr ?_)⟩
  intro account
  rw [total_net_reconciled wellFormed unmarked paired plain within]

def BankAccounts.sharing : BankAccounts :=
  .ofList [("Acme", ["checking", "joint"]), ("Birch", ["savings", "joint"])]

/-- Reports of these banks: one transfer that both report, with different
places, and again the same one from one bank alone; one to the shared account;
and one from outside. -/
def Store.shared : Store :=
  let row (bank origin destination : String) (amount : Dollars) : Row :=
    ⟨[.text bank, .text origin, .text destination, .date ⟨2024, 1, 5⟩, .text "transfer",
      .dollars amount]⟩
  let dollar : Dollars := .ofMagnitude ((Decimal.make? 1 0).getD .zero)
  let cents : Dollars := .ofMagnitude ((Decimal.make? 100 2).getD .zero)
  ⟨.base, [row "Acme" "checking" "savings" dollar, row "Birch" "checking" "savings" cents,
    row "Acme" "checking" "savings" dollar, row "Birch" "savings" "joint" dollar,
    row "Birch" "employer" "savings" cents]⟩

theorem Store.accountFlows_deduplicate_shared :
    ∃ out before after, Store.shared.deduplicate .sharing = .ok out ∧
      Store.shared.accountFlows .sharing = .ok before ∧ out.accountFlows .sharing = .ok after ∧
      before.sameValue after = true := by
  have succeeds : (Store.shared.deduplicate .sharing).toOption.isSome = true := by decide +kernel
  cases deduplicated : Store.shared.deduplicate .sharing with
  | error problem =>
      rw [deduplicated] at succeeds
      cases succeeds
  | ok out =>
      have summable : Decimal.Summable 2 Store.shared.amounts :=
        ⟨by decide +kernel, by decide +kernel⟩
      obtain ⟨before, after, flows⟩ := Store.accountFlows_deduplicate
        (BankAccounts.wellFormed_ofList _) deduplicated (by decide +kernel) (by decide +kernel)
        summable
      exact ⟨out, before, after, rfl, flows⟩

end Passbook
