/-
Balances after reconciling. Suppose that no account has two banks and every
bank reports only transfers that touch an account of its own. Then no transfer
has a third bank and no bank is unknown, so that reconciling succeeds; and each
row of the result moves at an account exactly what the one bank that owns it
reported. The plain balance of an account, over all rows, is then its net flow.
-/

import Mathlib.Algebra.Order.BigOperators.Group.List
import Passbook.Proofs.Reconcile.Conservation

namespace Passbook

open Deduplication

def Report.Vouched (banks : BankAccounts) (report : Report) : Prop :=
  banks.owns report.bankName (Report.textOf report.origin) = true ∨
    banks.owns report.bankName (Report.textOf report.destination) = true

theorem Report.Vouched.exists_accounts? {banks : BankAccounts} {report : Report}
    (vouched : report.Vouched banks) : ∃ owned, banks.accounts? report.bankName = some owned := by
  rcases vouched with owns | owns
  · exact BankAccounts.exists_accounts? owns
  · exact BankAccounts.exists_accounts? owns

namespace BankAccounts

variable {banks : BankAccounts}

/-- Of two banks that each own one of two accounts, exactly one owns either. -/
theorem Exclusive.owns_iff_not (exclusive : banks.Exclusive) {first second a b : String}
    (differ : first ≠ second) (ofFirst : banks.owns first a = true ∨ banks.owns first b = true)
    (ofSecond : banks.owns second a = true ∨ banks.owns second b = true) {account : String}
    (endpoint : account = a ∨ account = b) :
    banks.owns first account = true ↔ ¬ banks.owns second account = true := by
  constructor
  · intro owns other
    exact differ (exclusive first second account owns other)
  · intro missing
    rcases endpoint with rfl | rfl
    · rcases ofFirst with owns | owns
      · exact owns
      · have other := ofSecond.resolve_left missing
        exact absurd (exclusive first second b owns other) differ
    · rcases ofFirst with owns | owns
      · have other := ofSecond.resolve_right missing
        exact absurd (exclusive first second a owns other) differ
      · exact owns

theorem Exclusive.not_three (exclusive : banks.Exclusive) {first second third a b : String}
    (ofFirst : banks.owns first a = true ∨ banks.owns first b = true)
    (ofSecond : banks.owns second a = true ∨ banks.owns second b = true)
    (ofThird : banks.owns third a = true ∨ banks.owns third b = true) :
    first = second ∨ first = third ∨ second = third := by
  by_cases apart : first = second
  · exact Or.inl apart
  · refine Or.inr ?_
    have sides {account : String} (endpoint : account = a ∨ account = b) :=
      exclusive.owns_iff_not apart ofFirst ofSecond endpoint
    rcases ofThird with owns | owns
    · by_cases own : banks.owns first a = true
      · exact Or.inl (exclusive first third a own owns)
      · have other : banks.owns second a = true := by
          by_contra missing
          exact own ((sides (Or.inl rfl)).mpr missing)
        exact Or.inr (exclusive second third a other owns)
    · by_cases own : banks.owns first b = true
      · exact Or.inl (exclusive first third b own owns)
      · have other : banks.owns second b = true := by
          by_contra missing
          exact own ((sides (Or.inr rfl)).mpr missing)
        exact Or.inr (exclusive second third b other owns)

end BankAccounts

namespace Deduplication

variable {columns : ReportColumns} {banks : BankAccounts} {reports : List Report}

private theorem owns_of_transfer (vouched : ∀ report ∈ reports, report.Vouched banks)
    {transfer : Transfer} (member : transfer ∈ transfers (internal banks reports))
    {entry : String × List Report} (present : entry ∈ transfer.byBank) :
    banks.owns entry.1 (Report.textOf transfer.first.origin) = true ∨
      banks.owns entry.1 (Report.textOf transfer.first.destination) = true := by
  have coherent := coherent_transfers member
  obtain ⟨report, inEntry⟩ := List.exists_mem_of_ne_nil _ (coherent.reported entry present)
  have inTransfer : report ∈ transfer.reports := List.mem_flatMap.mpr ⟨entry, present, inEntry⟩
  obtain ⟨origin, destination, _⟩ := Report.sameTransfer_iff.mp (coherent.same report inTransfer)
  have inReports := (List.mem_filter.mp (mem_of_mem_transfers member inTransfer)).1
  have owns := vouched report inReports
  unfold Report.Vouched at owns
  rw [coherent.bankNameEq entry present report inEntry, ← Report.textOf_eq_of_sameValue origin,
    ← Report.textOf_eq_of_sameValue destination] at owns
  exact owns

theorem paired_of_vouched (exclusive : banks.Exclusive)
    (vouched : ∀ report ∈ reports, report.Vouched banks) : Paired banks reports := by
  intro transfer member
  have coherent := coherent_transfers member
  have owns (entry : String × List Report) (present : entry ∈ transfer.byBank) :=
    owns_of_transfer vouched member present
  obtain ⟨report, byBank⟩ := transfer
  match byBank with
  | [] => exact Nat.zero_le 2
  | [_] => exact Nat.le_succ 1
  | [_, _] => exact Nat.le_refl 2
  | first :: second :: third :: others =>
      exfalso
      have nodup := coherent.banksNodup
      simp only [Transfer.banks, List.map_cons, List.nodup_cons, List.mem_cons, not_or] at nodup
      obtain ⟨⟨notSecond, notThird, _⟩, ⟨apart, _⟩, _⟩ := nodup
      rcases exclusive.not_three (owns first (by simp)) (owns second (by simp))
        (owns third (by simp)) with same | same | same
      · exact notSecond same
      · exact notThird same
      · exact apart same

theorem possible_of_vouched (paired : Paired banks reports)
    (vouched : ∀ report ∈ reports, report.Vouched banks) :
    ∀ settlement ∈ settlements banks reports, settlement.Possible banks := by
  intro settlement member
  cases settlement with
  | fused a b => exact trivial
  | alone report =>
      exact (vouched report (mem_of_mem_sources paired member List.mem_cons_self).1).exists_accounts?

end Deduplication

namespace Report

theorem net_eq_zero {report : Report} {account : String} (places : Nat)
    (elsewhere : ¬ (account = textOf report.origin ∨ account = textOf report.destination)) :
    report.net places account = 0 := by
  obtain ⟨notOrigin, notDestination⟩ := not_or.mp elsewhere
  unfold net Movement.net movement
  simp only [Option.some.injEq]
  rw [if_neg (Ne.symm notDestination), if_neg (Ne.symm notOrigin), Int.sub_zero]

end Report

namespace Deduplication

variable {columns : ReportColumns} {banks : BankAccounts} {reports : List Report} {places : Nat}

/-- One of two fused reports comes from the owner of whichever endpoint is looked at. -/
private theorem net_fused (exclusive : banks.Exclusive) {a b : Report}
    (differ : a.bankName ≠ b.bankName) (same : a.sameTransfer b = true)
    (vouchedA : a.Vouched banks) (vouchedB : b.Vouched banks)
    (first : a.movement.amount.scale ≤ places) (second : b.movement.amount.scale ≤ places)
    (account : String) :
    a.net places account = a.ownNet banks places account + b.ownNet banks places account := by
  have alike := Report.net_eq_of_sameTransfer same first second account
  unfold Report.ownNet
  rw [← alike]
  by_cases endpoint : account = Report.textOf a.origin ∨ account = Report.textOf a.destination
  · obtain ⟨origin, destination, _⟩ := Report.sameTransfer_iff.mp same
    unfold Report.Vouched at vouchedB
    rw [← Report.textOf_eq_of_sameValue origin, ← Report.textOf_eq_of_sameValue destination]
      at vouchedB
    have owner := exclusive.owns_iff_not differ vouchedA vouchedB endpoint
    by_cases other : banks.owns b.bankName account = true
    · rw [if_neg (fun own => owner.mp own other), if_pos other, Int.zero_add]
    · rw [if_pos (owner.mpr other), if_neg other, Int.add_zero]
  · rw [Report.net_eq_zero places endpoint, ite_self, ite_self, Int.add_zero]

private theorem net_external (wellFormed : banks.WellFormed)
    {report : Report} (vouched : report.Vouched banks)
    (outside : report.isInternal banks.allAccounts = false) {account owner : String}
    (owns : banks.owns owner account = true) :
    report.net places account = report.ownNet banks places account := by
  unfold Report.ownNet
  by_cases own : banks.owns report.bankName account = true
  · rw [if_pos own]
  · rw [if_neg own]
    apply Report.net_eq_zero
    intro endpoint
    have known {name bank : String} (owns : banks.owns bank name = true) :
        banks.allAccounts.contains name = true :=
      wellFormed.contains_allAccounts_iff.mpr ⟨bank, owns⟩
    have inside : report.isInternal banks.allAccounts = true := by
      unfold Report.isInternal
      rw [Bool.and_eq_true]
      rcases endpoint with rfl | rfl
      · exact ⟨known owns, known (vouched.resolve_left own)⟩
      · exact ⟨known (vouched.resolve_right own), known owns⟩
    rw [outside] at inside
    cases inside

theorem sum_net_reconciled (wellFormed : banks.WellFormed) (exclusive : banks.Exclusive)
    (unmarked : banks.Unmarked) (paired : Paired banks reports)
    (vouched : ∀ report ∈ reports, report.Vouched banks)
    (within : ∀ report ∈ reports, report.movement.amount.scale ≤ places) {account owner : String}
    (owns : banks.owns owner account = true) :
    ((reconciled columns banks reports).map (Report.net places account)).sum =
      (reports.map (Report.ownNet banks places account)).sum := by
  apply sum_reconciled paired
  · intro settlement member
    have source : ∀ report ∈ settlement.sources, report ∈ reports := by
      intro report fromHere
      exact (mem_of_mem_sources paired member fromHere).1
    cases settlement with
    | fused a b =>
        have inA := source a List.mem_cons_self
        have inB := source b (List.mem_cons_of_mem _ List.mem_cons_self)
        obtain ⟨differ, same⟩ := of_fused member
        have both := net_fused exclusive differ same (vouched a inA) (vouched b inB)
          (within a inA) (within b inB) account
        rw [Settlement.sources, List.map_cons, List.map_singleton, List.sum_cons,
          List.sum_singleton, ← both]
        rfl
    | alone report =>
        obtain ⟨owned, known⟩ := possible_of_vouched paired vouched _ member
        rw [Settlement.sources, List.map_singleton, List.sum_singleton, Settlement.result, known,
          Option.getD_some,
          Report.net_marked columns report places (unmarked.not_marked wellFormed owns),
          Report.ownNet, BankAccounts.owns_of_accounts? known]
  · intro report member
    obtain ⟨inReports, outside⟩ := List.mem_filter.mp member
    rw [Bool.not_eq_true'] at outside
    exact net_external wellFormed (vouched report inReports) outside owns

theorem sum_size_reconciled_le (paired : Paired banks reports) :
    ((reconciled columns banks reports).map (Report.size places)).sum ≤
      (reports.map (Report.size places)).sum := by
  apply sum_reconciled_le paired
  intro settlement _
  cases settlement with
  | fused a b =>
      rw [Settlement.sources, List.map_cons, List.sum_cons]
      exact Nat.le_add_right _ _
  | alone report => exact Nat.le_refl _

end Deduplication

namespace Store

variable {store : Store} {banks : BankAccounts} {columns : ReportColumns} {reports : List Report}

/-- Reconciling succeeds, and the plain movements of an account over the whole
result are those that its own bank reported. -/
theorem deduplicate_of_vouched (wellFormed : banks.WellFormed) (exclusive : banks.Exclusive)
    (unmarked : banks.Unmarked) (conform : ∀ row ∈ store.rows, row.Conforms store.schema)
    (present : columns.Of store.schema)
    (read : Report.ofRows? columns store.rows = some reports)
    (vouched : ∀ report ∈ reports, report.Vouched banks) :
    ∃ out, store.deduplicate banks = .ok out ∧ out.schema = store.schema ∧
      (∀ row ∈ out.rows, row.Conforms out.schema) ∧
      ∀ places, Decimal.Summable places store.amounts →
        Decimal.Summable places out.amounts ∧
          ∀ owner account, banks.owns owner account = true →
            out.net places account = (reports.map (Report.ownNet banks places account)).sum := by
  have paired := paired_of_vouched exclusive vouched
  have conformResult : ∀ report ∈ reconciled columns banks reports,
      report.row.Conforms store.schema :=
    conforms_reconciled present paired read conform
  obtain ⟨out, result⟩ : ∃ out : Store,
      out = ⟨store.schema, (reconciled columns banks reports).map Report.row⟩ := ⟨_, rfl⟩
  have sameSchema : out.schema = store.schema := by rw [result]
  have presentAfter : columns.Of out.schema := by
    rw [sameSchema]
    exact present
  have readAfter : Report.ofRows? columns out.rows = some (reconciled columns banks reports) := by
    rw [result]
    exact ofRows?_reconciled present paired read
  refine ⟨out, ?_, sameSchema, ?_, ?_⟩
  · exact deduplicate_eq_ok_iff.mpr ⟨columns, reports, present, read, paired,
      possible_of_vouched paired vouched, conformResult, result⟩
  · rw [result]
    exact List.forall_mem_map.mpr conformResult
  · intro places summable
    have amountsAfter := amounts_eq_of_reports presentAfter readAfter
    obtain ⟨within, total⟩ := summable.of_reports present read
    refine ⟨⟨?_, ?_⟩, ?_⟩
    · rw [amountsAfter]
      exact List.forall_mem_map.mpr (scale_le_reconciled paired within)
    · rw [amountsAfter, List.map_map]
      exact Nat.lt_of_le_of_lt (sum_size_reconciled_le paired) total
    · intro owner account owns
      have typed : ∀ report ∈ reconciled columns banks reports, report.Typed := by
        intro report member
        exact Report.typed_of_conforms present (Report.of_mem_ofRows? readAfter member).2
          (conformResult report member)
      unfold Store.net
      rw [movements_eq_of_reports presentAfter readAfter typed, List.map_map]
      exact sum_net_reconciled wellFormed exclusive unmarked paired vouched within owns

/-- The bank of every row owns one of the endpoints. -/
def Vouched (store : Store) (banks : BankAccounts) : Prop :=
  ∀ row ∈ store.rows, ∃ bank origin destination,
    store.field row Schema.bank = .ok (.text bank) ∧
      store.field row Schema.origin = .ok (.text origin) ∧
      store.field row Schema.destination = .ok (.text destination) ∧
      (banks.owns bank origin = true ∨ banks.owns bank destination = true)

private theorem field_eq {name : String} {kind : Kind} {index : Nat} {row : Row} {cell : Entry}
    (column : store.schema.HasColumn index name kind) (found : row.get? index = some cell) :
    store.field row name = .ok cell := by
  unfold field
  rw [column.require]
  simp only [found]

theorem Vouched.of_reports (vouched : store.Vouched banks) (present : columns.Of store.schema)
    (read : Report.ofRows? columns store.rows = some reports) :
    ∀ report ∈ reports, report.Vouched banks := by
  intro report member
  obtain ⟨inRows, isRead⟩ := Report.of_mem_ofRows? read member
  obtain ⟨bank, origin, destination, bankField, originField, destinationField, owns⟩ :=
    vouched report.row inRows
  obtain ⟨_, atBank, atOrigin, atDestination, _⟩ := Report.ofRow?_eq_some_iff.mp isRead
  rw [field_eq present.bank atBank, Except.ok.injEq] at bankField
  rw [field_eq present.origin atOrigin, Except.ok.injEq] at originField
  rw [field_eq present.destination atDestination, Except.ok.injEq] at destinationField
  unfold Report.Vouched Report.bankName
  rw [bankField, originField, destinationField]
  exact owns

/-- Where no account has two banks and each bank reports only on its own
accounts, reconciling succeeds and counts nothing twice: the balance of an
account over the whole result is the net flow that its bank reports. -/
theorem balance_deduplicate {places : Nat} (wellFormed : banks.WellFormed)
    (exclusive : banks.Exclusive) (unmarked : banks.Unmarked) (storeWellFormed : store.WellFormed)
    (atColumns : ReportColumns.ofSchema store.schema = .ok columns)
    (plainBanks : store.PlainBanks) (vouched : store.Vouched banks)
    (summable : Decimal.Summable places store.amounts) :
    ∃ out flows, store.deduplicate banks = .ok out ∧ store.accountFlows banks = .ok flows ∧
      ∀ account ∈ banks.allAccounts.members, ∃ balance flow,
        out.balance account = .ok balance ∧ flows.find? account = some flow ∧
          balance.sameValue flow = true := by
  have present := ReportColumns.ofSchema_eq_ok_iff.mp atColumns
  obtain ⟨reports, read⟩ := Report.exists_ofRows? present storeWellFormed.2
  have plain := plainBanks.plain present read
  obtain ⟨out, deduplicated, sameSchema, conform, sums⟩ := deduplicate_of_vouched wellFormed
    exclusive unmarked storeWellFormed.2 present read (vouched.of_reports present read)
  obtain ⟨summableAfter, nets⟩ := sums places summable
  obtain ⟨flows, flowed, tracks⟩ := accountFlows_of_plain present read wellFormed plain summable
  refine ⟨out, flows, deduplicated, flowed, ?_⟩
  intro account member
  obtain ⟨owner, owns⟩ := wellFormed.mem_allAccounts_iff.mp member
  have columnsAfter : ∀ name ∈ movementColumns, name ∈ out.schema.names := by
    rw [sameSchema]
    exact present.movementColumns
  obtain ⟨balance, computed, denotes⟩ := balance_denotes conform columnsAfter summableAfter account
  have listed : ∃ flow, flows.find? account = some flow ∧
      flow.Denotes places (reports.map (Report.ownNet banks places account)).sum :=
    tracks.of_ledger_eq_some (if_pos (wellFormed.any_contains_iff.mpr ⟨owner, owns⟩))
  obtain ⟨flow, found, flowDenotes⟩ := listed
  refine ⟨balance, flow, computed, found, (denotes.sameValue_iff flowDenotes).mpr ?_⟩
  exact nets owner account owns

end Store

def BankAccounts.apart : BankAccounts :=
  .ofList [("Acme", ["checking", "joint"]), ("Birch", ["savings"])]

def Store.vouchedReports : Store :=
  let row (bank origin destination : String) (amount : Dollars) : Row :=
    ⟨[.text bank, .text origin, .text destination, .date ⟨2024, 1, 5⟩, .text "transfer",
      .dollars amount]⟩
  let dollar : Dollars := .ofMagnitude ((Decimal.make? 1 0).getD .zero)
  let cents : Dollars := .ofMagnitude ((Decimal.make? 100 2).getD .zero)
  ⟨.base, [row "Acme" "checking" "savings" dollar, row "Birch" "checking" "savings" cents,
    row "Birch" "checking" "savings" dollar, row "Acme" "checking" "joint" dollar,
    row "Acme" "joint" "joint" cents, row "Birch" "employer" "savings" cents]⟩

theorem Store.balance_deduplicate_vouchedReports :
    ∃ out flows, Store.vouchedReports.deduplicate .apart = .ok out ∧
      Store.vouchedReports.accountFlows .apart = .ok flows ∧
      ∀ account ∈ BankAccounts.apart.allAccounts.members, ∃ balance flow,
        out.balance account = .ok balance ∧ flows.find? account = some flow ∧
          balance.sameValue flow = true := by
  have wellFormed : Store.vouchedReports.WellFormed :=
    ⟨Schema.base_wellFormed, by decide⟩
  have vouched : Store.vouchedReports.Vouched .apart := by
    intro row member
    simp only [Store.vouchedReports, List.mem_cons, List.not_mem_nil, or_false] at member
    rcases member with rfl | rfl | rfl | rfl | rfl | rfl
    all_goals exact ⟨_, _, _, rfl, rfl, rfl, by decide +kernel⟩
  have summable : Decimal.Summable 2 Store.vouchedReports.amounts :=
    ⟨by decide +kernel, by decide +kernel⟩
  exact Store.balance_deduplicate (BankAccounts.wellFormed_ofList _)
    (BankAccounts.exclusive_ofList (by decide)) (by decide +kernel) wellFormed rfl
    (by decide +kernel) vouched summable

end Passbook
