/-
Account flows are exact sums. The flows at some point are a ledger of whole
numbers; each report changes it at the accounts of its bank alone, so that in
the end an account holds the sum over the banks that own it of what their
reports move.
-/

import Mathlib.Algebra.Order.BigOperators.Group.List
import Passbook.Proofs.Reconcile.Reports
import Passbook.Proofs.Text
import Passbook.Reconcile.Flow

namespace Passbook

namespace Report

def net (places : Nat) (account : String) (report : Report) : Int :=
  report.movement.net places account

def size (places : Nat) (report : Report) : Nat :=
  report.movement.amount.weight places

theorem natAbs_net_le (report : Report) (places : Nat) (account : String) :
    (report.net places account).natAbs ≤ report.size places :=
  report.movement.natAbs_net_le places account

/-- What a report moves at an account when its own bank owns the account. -/
def ownNet (banks : BankAccounts) (places : Nat) (account : String) (report : Report) : Int :=
  if banks.owns report.bankName account then report.net places account else 0

end Report

namespace Flows

/-- The flows are a ledger: they list the accounts that it has, each with a
decimal of its number. -/
structure Tracks (flows : Flows) (places : Nat) (ledger : String → Option Int) : Prop where
  ascending : flows.Ascending
  denotes : ∀ account, Option.Rel (fun flow value => Decimal.Denotes flow places value)
    (flows.find? account) (ledger account)

theorem tracks_empty (places : Nat) :
    Tracks OrderedMap.empty places fun _ => none where
  ascending := OrderedMap.ascending_empty
  denotes := fun _ => Option.Rel.none

section Steps

variable {flows : Flows} {places : Nat} {ledger : String → Option Int}

theorem Tracks.of_find?_eq_some (tracks : flows.Tracks places ledger) {account : String}
    {flow : Decimal} (found : flows.find? account = some flow) :
    ∃ value, ledger account = some value ∧ flow.Denotes places value := by
  have related := tracks.denotes account
  rw [found] at related
  cases listed : ledger account with
  | none =>
      rw [listed] at related
      cases related
  | some value =>
      rw [listed] at related
      cases related with
      | some denotes => exact ⟨value, rfl, denotes⟩

theorem Tracks.of_ledger_eq_some (tracks : flows.Tracks places ledger) {account : String}
    {value : Int} (listed : ledger account = some value) :
    ∃ flow, flows.find? account = some flow ∧ flow.Denotes places value := by
  have related := tracks.denotes account
  rw [listed] at related
  cases found : flows.find? account with
  | none =>
      rw [found] at related
      cases related
  | some flow =>
      rw [found] at related
      cases related with
      | some denotes => exact ⟨flow, rfl, denotes⟩

theorem Tracks.of_find?_eq_none (tracks : flows.Tracks places ledger) {account : String}
    (absent : flows.find? account = none) : ledger account = none := by
  have related := tracks.denotes account
  rw [absent] at related
  cases listed : ledger account with
  | none => rfl
  | some value =>
      rw [listed] at related
      cases related

theorem Tracks.addAccount (tracks : flows.Tracks places ledger) (account : String) :
    (flows.addAccount account).Tracks places fun other =>
      if other = account then some ((ledger account).getD 0) else ledger other where
  ascending := tracks.ascending.alter account _
  denotes := by
    intro other
    unfold Flows.addAccount
    rw [OrderedMap.find?_alter]
    split
    · apply Option.Rel.some
      cases found : flows.find? account with
      | none =>
          rw [tracks.of_find?_eq_none found]
          exact Decimal.denotes_zero places
      | some flow =>
          obtain ⟨value, listed, denotes⟩ := tracks.of_find?_eq_some found
          rw [listed]
          exact denotes
    · exact tracks.denotes other

theorem Tracks.addAccounts (tracks : flows.Tracks places ledger) (accounts : List String) :
    (accounts.foldl Flows.addAccount flows).Tracks places fun account =>
      if account ∈ accounts then some ((ledger account).getD 0) else ledger account := by
  induction accounts generalizing flows ledger with
  | nil => simpa using tracks
  | cons account accounts ih =>
      have after := ih (tracks.addAccount account)
      refine ⟨after.ascending, ?_⟩
      intro other
      have related := after.denotes other
      by_cases same : other = account
      · subst same
        simpa using related
      · simpa [same] using related

theorem Tracks.change? (tracks : flows.Tracks places ledger) (account : String) (amount : Int)
    {step : Decimal → Option Decimal}
    (steps : ∀ flow value, ledger account = some value → flow.Denotes places value →
      ∃ after, step flow = some after ∧ after.Denotes places (value + amount)) :
    ∃ after, flows.change? account step = some after ∧ after.Tracks places fun other =>
      (ledger other).map (· + if other = account then amount else 0) := by
  have elsewhere (other : String) (differ : other ≠ account) :
      (ledger other).map (· + if other = account then amount else 0) = ledger other := by
    simp [differ]
  unfold Flows.change?
  cases found : flows.find? account with
  | none =>
      refine ⟨flows, rfl, tracks.ascending, ?_⟩
      intro other
      by_cases same : other = account
      · rw [same, found, tracks.of_find?_eq_none found]
        exact Option.Rel.none
      · rw [elsewhere other same]
        exact tracks.denotes other
  | some flow =>
      obtain ⟨value, listed, denotes⟩ := tracks.of_find?_eq_some found
      obtain ⟨after, stepped, afterDenotes⟩ := steps flow value listed denotes
      refine ⟨flows.insert account after, ?_, tracks.ascending.insert account after, ?_⟩
      · dsimp only
        rw [stepped, Option.map_some]
      · intro other
        rw [OrderedMap.find?_insert]
        by_cases same : other = account
        · rw [if_pos same, same, listed, Option.map_some, if_pos rfl]
          exact Option.Rel.some afterDenotes
        · rw [if_neg same, elsewhere other same]
          exact tracks.denotes other

theorem Tracks.congr (tracks : flows.Tracks places ledger) {other : String → Option Int}
    (same : ∀ account, ledger account = other account) : flows.Tracks places other :=
  funext same ▸ tracks

private theorem Tracks.changeOwned? (tracks : flows.Tracks places ledger)
    (accounts : OrderedSet String) (account : String) (amount : Int)
    (step : Decimal → Option Decimal)
    (steps : accounts.contains account = true → ∀ flow value, ledger account = some value →
      flow.Denotes places value →
      ∃ after, step flow = some after ∧ after.Denotes places (value + amount)) :
    ∃ after, (if accounts.contains account then flows.change? account step else some flows) =
        some after ∧
      after.Tracks places fun other =>
        (ledger other).map (· + if accounts.contains other ∧ other = account then amount else 0) := by
  by_cases owned : accounts.contains account = true
  · obtain ⟨after, changed, afterTracks⟩ := tracks.change? account amount (steps owned)
    refine ⟨after, by rw [if_pos owned, changed], afterTracks.congr ?_⟩
    intro other
    by_cases same : other = account
    · subst same
      simp [owned]
    · simp [same]
  · refine ⟨flows, if_neg owned, tracks.congr ?_⟩
    intro other
    have untouched : ¬ (accounts.contains other = true ∧ other = account) := by
      rintro ⟨contained, same⟩
      rw [same] at contained
      exact owned contained
    simp [untouched]

/-- A report moves its amount between the accounts of its bank. -/
theorem Tracks.settle? (tracks : flows.Tracks places ledger) {accounts : OrderedSet String}
    {report : Report} (within : report.movement.amount.scale ≤ places)
    (room : ∀ account value, accounts.contains account = true → ledger account = some value →
      value.natAbs + report.size places < Decimal.coefficientBound) :
    ∃ after, settle? accounts flows report = some after ∧ after.Tracks places fun account =>
      (ledger account).map
        (· + if accounts.contains account then report.net places account else 0) := by
  have amount := Decimal.denotes_coefficientAt within
  unfold Report.size Decimal.weight at room
  obtain ⟨middle, received, middleTracks⟩ := tracks.changeOwned? accounts
    (Report.textOf report.destination) (report.movement.amount.coefficientAt places)
    (fun flow => flow.add? report.movement.amount) fun owned flow value listed denotes => by
      have space := room _ value owned listed
      exact denotes.add? amount (by omega)
  -- The origin may be the destination as well, so this step starts from the other's result.
  obtain ⟨after, sent, afterTracks⟩ := middleTracks.changeOwned? accounts
    (Report.textOf report.origin) (-report.movement.amount.coefficientAt places)
    (fun flow => flow.sub? report.movement.amount) fun owned flow value listed denotes => by
      obtain ⟨earlier, before, rfl⟩ := Option.map_eq_some_iff.mp listed
      have space := room _ earlier owned before
      rw [← Int.sub_eq_add_neg]
      refine denotes.sub? amount ?_
      split <;> omega
  refine ⟨after, ?_, afterTracks.congr ?_⟩
  · unfold Flows.settle?
    dsimp only
    unfold Report.movement at received
    rw [received]
    exact sent
  · intro account
    rw [Option.map_map]
    congr 1
    funext value
    rw [Function.comp_apply, Int.add_assoc]
    congr 1
    unfold Report.net Movement.net
    by_cases owned : accounts.contains account = true
    · simp only [owned, true_and, if_true, Report.movement, Option.some.injEq,
        eq_comm (a := account)]
      split <;> split <;> omega
    · simp [owned]

theorem Tracks.settleAll? (tracks : flows.Tracks places ledger) (accounts : OrderedSet String)
    {reports : List Report}
    (within : ∀ report ∈ reports, report.movement.amount.scale ≤ places)
    (room : ∀ account value, accounts.contains account = true → ledger account = some value →
      value.natAbs + (reports.map (Report.size places)).sum <
        Decimal.coefficientBound) :
    ∃ after, settleAll? accounts flows reports = some after ∧ after.Tracks places fun account =>
      (ledger account).map (· + if accounts.contains account then
        (reports.map (Report.net places account)).sum else 0) := by
  induction reports generalizing flows ledger with
  | nil => exact ⟨flows, rfl, tracks.congr fun account => by simp⟩
  | cons report reports ih =>
      simp only [List.map_cons, List.sum_cons] at room ⊢
      obtain ⟨middle, settled, middleTracks⟩ := tracks.settle?
        (within report List.mem_cons_self) fun account value owned listed => by
          have space := room account value owned listed
          omega
      obtain ⟨after, rest, afterTracks⟩ := ih middleTracks
        (fun other member => within other (List.mem_cons_of_mem _ member))
        fun account value owned listed => by
          obtain ⟨earlier, before, rfl⟩ := Option.map_eq_some_iff.mp listed
          have space := room account earlier owned before
          have smaller := report.natAbs_net_le places account
          rw [if_pos owned]
          omega
      refine ⟨after, ?_, afterTracks.congr ?_⟩
      · rw [Flows.settleAll?, settled]
        exact rest
      · intro account
        rw [Option.map_map]
        congr 1
        funext value
        rw [Function.comp_apply, Int.add_assoc]
        congr 1
        split <;> simp

end Steps

section Totals

variable {M : Type} [AddCommMonoid M]

def reportsOf (bank : String) (reports : List Report) : List Report :=
  reports.filter fun report => (reporters report.bankName).contains bank

def totalOf (bank : String) (reports : List Report) (value : Report → M) : M :=
  ((reportsOf bank reports).map value).sum

/-- The total of a quantity over the reports that the owners of an account make,
those of each owner for themselves. -/
def total (owned : List (String × OrderedSet String)) (account : String) (reports : List Report)
    (value : Report → M) : M :=
  (owned.map fun entry =>
    if entry.2.contains account then totalOf entry.1 reports value else 0).sum

theorem total_eq_zero {owned : List (String × OrderedSet String)} {account : String}
    (nobody : ∀ entry ∈ owned, entry.2.contains account = false) (reports : List Report)
    (value : Report → M) : total owned account reports value = 0 := by
  apply List.sum_eq_zero
  intro amount member
  obtain ⟨entry, present, rfl⟩ := List.mem_map.mp member
  rw [nobody entry present]
  rfl

end Totals

section Banks

variable {flows : Flows} {places : Nat} {ledger : String → Option Int} {reports : List Report}

private theorem natAbs_sum_net_le (places : Nat) (account : String) (reports : List Report) :
    (reports.map (Report.net places account)).sum.natAbs ≤
      (reports.map (Report.size places)).sum := by
  induction reports with
  | nil => exact Nat.le_refl 0
  | cons report reports ih =>
      have smaller := report.natAbs_net_le places account
      simp only [List.map_cons, List.sum_cons]
      omega

theorem Tracks.addBank? (tracks : flows.Tracks places ledger) (bank : String)
    {accounts : OrderedSet String} (ascending : accounts.Ascending)
    (within : ∀ report ∈ reports, report.movement.amount.scale ≤ places)
    (room : ∀ account, accounts.contains account = true →
      ((ledger account).getD 0).natAbs + totalOf bank reports (Report.size places) <
        Decimal.coefficientBound) :
    ∃ after, addBank? reports flows bank accounts = some after ∧ after.Tracks places fun account =>
      if accounts.contains account then
        some ((ledger account).getD 0 + totalOf bank reports (Report.net places account))
      else ledger account := by
  have listed := tracks.addAccounts accounts.members
  have withinOwn : ∀ report ∈ reportsOf bank reports, report.movement.amount.scale ≤ places :=
    fun report member => within report (List.mem_filter.mp member).1
  obtain ⟨after, settled, afterTracks⟩ := listed.settleAll? accounts withinOwn
    fun account value owned entry => by
      rw [if_pos ((OrderedSet.contains_iff_mem ascending).mp owned), Option.some.injEq] at entry
      rw [← entry]
      exact room account owned
  refine ⟨after, settled, afterTracks.congr ?_⟩
  intro account
  simp only [← OrderedSet.contains_iff_mem ascending]
  by_cases owned : accounts.contains account = true
  · simp [owned, totalOf]
  · simp [owned]

theorem natAbs_totalOf_le (bank : String) (reports : List Report) (places : Nat)
    (account : String) :
    (totalOf bank reports (Report.net places account)).natAbs ≤
      totalOf bank reports (Report.size places) :=
  natAbs_sum_net_le places account _

/-- In the end each account of the banks holds what its owners report about it. -/
theorem Tracks.addBanks? (tracks : flows.Tracks places ledger)
    {owned : List (String × OrderedSet String)} (ascending : ∀ entry ∈ owned, entry.2.Ascending)
    (within : ∀ report ∈ reports, report.movement.amount.scale ≤ places)
    (room : ∀ account, ((ledger account).getD 0).natAbs +
      total owned account reports (Report.size places) < Decimal.coefficientBound) :
    ∃ after, addBanks? reports flows owned = some after ∧ after.Tracks places fun account =>
      if owned.any fun entry => entry.2.contains account then
        some ((ledger account).getD 0 + total owned account reports (Report.net places account))
      else ledger account := by
  induction owned generalizing flows ledger with
  | nil => exact ⟨flows, rfl, tracks.congr fun account => by simp⟩
  | cons entry owned ih =>
      obtain ⟨bank, accounts⟩ := entry
      simp only [total, List.map_cons, List.sum_cons] at room
      obtain ⟨middle, added, middleTracks⟩ := tracks.addBank? bank
        (ascending _ List.mem_cons_self) within fun account contained => by
          have space := room account
          rw [if_pos contained] at space
          omega
      obtain ⟨after, rest, afterTracks⟩ := ih middleTracks
        (fun other member => ascending other (List.mem_cons_of_mem _ member)) fun account => by
          have space := room account
          unfold total
          split
          · rename_i contained
            have smaller := natAbs_totalOf_le bank reports places account
            rw [if_pos contained] at space
            rw [Option.getD_some]
            omega
          · omega
      refine ⟨after, ?_, afterTracks.congr ?_⟩
      · rw [Flows.addBanks?, added]
        exact rest
      · intro account
        simp only [List.any_cons, total, List.map_cons, List.sum_cons]
        by_cases contained : accounts.contains account = true
        · simp only [contained, if_true, Bool.true_or, Option.getD_some, Int.add_assoc]
          by_cases later : (owned.any fun entry => entry.2.contains account) = true
          · rw [if_pos later]
          · have nothing : ∀ entry ∈ owned, entry.2.contains account = false := by
              intro other present
              rw [Bool.eq_false_iff]
              exact fun contained => later (List.any_eq_true.mpr ⟨other, present, contained⟩)
            have none := total_eq_zero nothing reports (Report.net places account)
            unfold total at none
            rw [if_neg later, none, Int.add_zero]
        · simp only [contained, Bool.false_or, Bool.false_eq_true, if_false, Int.zero_add]

end Banks

section Plain

/-- A report that one bank makes alone: its bank cell names that bank and no
other. -/
def Plain (report : Report) : Prop :=
  '+' ∉ report.bankName.toList

theorem toList_fuseSeparator : Deduplication.fuseSeparator.toList = [' ', '+', ' '] :=
  rfl

theorem reporters_of_plain {report : Report} (plain : Plain report) :
    reporters report.bankName = [report.bankName] := by
  unfold reporters
  rw [toList_fuseSeparator, Text.split_of_not_mem (by decide) plain, List.map_singleton,
    String.ofList_toList]

theorem reporters_fusedBank {a b : Report} (plainA : Plain a) (plainB : Plain b) :
    reporters (Deduplication.fusedBank a.bankName b.bankName) = [a.bankName, b.bankName] := by
  unfold reporters Deduplication.fusedBank
  rw [String.toList_append, String.toList_append, toList_fuseSeparator, List.append_assoc,
    Text.split_append (by decide) plainA, Text.split_of_not_mem (by decide) plainB,
    List.map_cons, List.map_singleton, String.ofList_toList, String.ofList_toList]

variable {M : Type} [AddCommMonoid M]

private theorem totalOf_cons_of_plain {report : Report} (plain : Plain report) (bank : String)
    (reports : List Report) (value : Report → M) :
    totalOf bank (report :: reports) value =
      (if bank = report.bankName then value report else 0) + totalOf bank reports value := by
  unfold totalOf reportsOf
  have named : (reporters report.bankName).contains bank = true ↔ bank = report.bankName := by
    rw [reporters_of_plain plain, List.contains_iff_mem, List.mem_singleton]
  rw [List.filter_cons]
  by_cases same : bank = report.bankName
  · rw [if_pos (named.mpr same), List.map_cons, List.sum_cons, if_pos same]
  · rw [if_neg (mt named.mp same), if_neg same, zero_add]

private theorem sum_owners {owned : List (String × OrderedSet String)}
    (nodup : (owned.map Prod.fst).Nodup) (bank account : String) (amount : M) :
    (owned.map fun entry =>
      if entry.2.contains account then (if entry.1 = bank then amount else 0) else 0).sum =
        if owned.any fun entry => entry.1 == bank && entry.2.contains account then amount
        else 0 := by
  induction owned with
  | nil => rfl
  | cons entry owned ih =>
      obtain ⟨name, accounts⟩ := entry
      rw [List.map_cons, List.nodup_cons] at nodup
      rw [List.map_cons, List.sum_cons, ih nodup.2, List.any_cons]
      by_cases same : name = bank
      · subst same
        have absent : (owned.any fun entry => entry.1 == name && entry.2.contains account) =
            false := by
          rw [Bool.eq_false_iff]
          intro found
          obtain ⟨other, member, both⟩ := List.any_eq_true.mp found
          rw [Bool.and_eq_true, beq_iff_eq] at both
          exact nodup.1 (List.mem_map.mpr ⟨other, member, both.1⟩)
        by_cases contained : accounts.contains account = true
        · simp [absent, contained]
        · simp [absent, contained]
      · have differ : (name == bank) = false := beq_false_of_ne same
        rw [differ, Bool.false_and, Bool.false_or]
        simp [same]

/-- Over reports that banks make alone, a total is the sum of what the reports
of owners amount to. -/
theorem total_of_plain {owned : List (String × OrderedSet String)}
    (nodup : (owned.map Prod.fst).Nodup) {reports : List Report}
    (plain : ∀ report ∈ reports, Plain report) (account : String) (value : Report → M) :
    total owned account reports value = (reports.map fun report =>
      if owned.any fun entry => entry.1 == report.bankName && entry.2.contains account
      then value report else 0).sum := by
  induction reports with
  | nil =>
      apply List.sum_eq_zero
      intro amount member
      obtain ⟨entry, _, rfl⟩ := List.mem_map.mp member
      exact ite_self _
  | cons report reports ih =>
      have rest := ih fun other member => plain other (List.mem_cons_of_mem _ member)
      rw [List.map_cons, List.sum_cons, ← rest, ← sum_owners nodup]
      unfold total
      rw [← List.sum_map_add]
      congr 1
      apply List.map_congr_left
      intro entry _
      rw [totalOf_cons_of_plain (plain report List.mem_cons_self)]
      split
      · rfl
      · rw [zero_add]

end Plain

end Flows

section AccountFlows

variable {banks : BankAccounts}

theorem BankAccounts.WellFormed.any_owned (wellFormed : banks.WellFormed) (bank account : String) :
    (banks.owned.pairs.any fun entry => entry.1 == bank && entry.2.contains account) =
      banks.owns bank account := by
  rw [Bool.eq_iff_iff, List.any_eq_true]
  constructor
  · rintro ⟨⟨name, accounts⟩, member, both⟩
    rw [Bool.and_eq_true, beq_iff_eq] at both
    obtain ⟨rfl, contained⟩ := both
    rw [BankAccounts.owns_of_accounts? (wellFormed.accounts?_eq_some_iff.mpr member)]
    exact contained
  · intro owns
    obtain ⟨accounts, present⟩ := BankAccounts.exists_accounts? owns
    rw [BankAccounts.owns_of_accounts? present] at owns
    refine ⟨(bank, accounts), wellFormed.accounts?_eq_some_iff.mp present, ?_⟩
    rw [Bool.and_eq_true, beq_iff_eq]
    exact ⟨rfl, owns⟩

theorem BankAccounts.WellFormed.any_contains_iff (wellFormed : banks.WellFormed)
    {account : String} :
    (banks.owned.pairs.any fun entry => entry.2.contains account) = true ↔
      ∃ bank, banks.owns bank account = true := by
  rw [List.any_eq_true]
  constructor
  · rintro ⟨⟨bank, accounts⟩, member, contained⟩
    refine ⟨bank, ?_⟩
    rw [BankAccounts.owns_of_accounts? (wellFormed.accounts?_eq_some_iff.mpr member)]
    exact contained
  · rintro ⟨bank, owns⟩
    obtain ⟨accounts, present⟩ := BankAccounts.exists_accounts? owns
    rw [BankAccounts.owns_of_accounts? present] at owns
    exact ⟨(bank, accounts), wellFormed.accounts?_eq_some_iff.mp present, owns⟩

theorem BankAccounts.WellFormed.total_of_plain {M : Type} [AddCommMonoid M]
    (wellFormed : banks.WellFormed) {reports : List Report}
    (plain : ∀ report ∈ reports, Flows.Plain report) (account : String) (value : Report → M) :
    Flows.total banks.owned.pairs account reports value = (reports.map fun report =>
      if banks.owns report.bankName account then value report else 0).sum := by
  rw [Flows.total_of_plain wellFormed.names_nodup plain]
  simp only [wellFormed.any_owned]

theorem BankAccounts.WellFormed.total_size_le (wellFormed : banks.WellFormed)
    {reports : List Report} (plain : ∀ report ∈ reports, Flows.Plain report) (account : String)
    (places : Nat) :
    Flows.total banks.owned.pairs account reports (Report.size places) ≤
      (reports.map (Report.size places)).sum := by
  rw [wellFormed.total_of_plain plain]
  apply List.sum_le_sum
  intro report _
  split
  · exact Nat.le_refl _
  · exact Nat.zero_le _

theorem BankAccounts.WellFormed.total_of_exclusive {M : Type} [AddCommMonoid M]
    (wellFormed : banks.WellFormed) (exclusive : banks.Exclusive) {bank account : String}
    (owns : banks.owns bank account = true) (reports : List Report) (value : Report → M) :
    Flows.total banks.owned.pairs account reports value = Flows.totalOf bank reports value := by
  have onlyHere : Flows.total banks.owned.pairs account reports value =
      (banks.owned.pairs.map fun entry => if entry.2.contains account then
        (if entry.1 = bank then Flows.totalOf bank reports value else 0) else 0).sum := by
    unfold Flows.total
    congr 1
    apply List.map_congr_left
    rintro ⟨name, accounts⟩ member
    dsimp only
    split
    · rename_i contained
      have named : name = bank := by
        apply exclusive name bank account _ owns
        rw [BankAccounts.owns_of_accounts? (wellFormed.accounts?_eq_some_iff.mpr member)]
        exact contained
      rw [if_pos named, named]
    · rfl
  rw [onlyHere, Flows.sum_owners wellFormed.names_nodup, wellFormed.any_owned, if_pos owns]

theorem Decimal.Summable.of_reports {store : Store} {columns : ReportColumns}
    {reports : List Report} {places : Nat} (summable : Decimal.Summable places store.amounts)
    (present : columns.Of store.schema)
    (read : Report.ofRows? columns store.rows = some reports) :
    (∀ report ∈ reports, report.movement.amount.scale ≤ places) ∧
      (reports.map (Report.size places)).sum < Decimal.coefficientBound := by
  obtain ⟨within, total⟩ := summable
  rw [Store.amounts_eq_of_reports present read] at within total
  rw [List.map_map] at total
  exact ⟨List.forall_mem_map.mp within, total⟩

/-- Account flows are exact sums while each account has room for what its
owners report. -/
theorem Store.accountFlows_tracks {store : Store} {columns : ReportColumns}
    {reports : List Report} {places : Nat} (present : columns.Of store.schema)
    (read : Report.ofRows? columns store.rows = some reports) (wellFormed : banks.WellFormed)
    (within : ∀ report ∈ reports, report.movement.amount.scale ≤ places)
    (room : ∀ account, Flows.total banks.owned.pairs account reports (Report.size places) <
      Decimal.coefficientBound) :
    ∃ flows, store.accountFlows banks = .ok flows ∧ flows.Tracks places fun account =>
      if banks.owned.pairs.any fun entry => entry.2.contains account then
        some (Flows.total banks.owned.pairs account reports (Report.net places account))
      else none := by
  have ascending : ∀ entry ∈ banks.owned.pairs, entry.2.Ascending := by
    intro entry member
    exact wellFormed.accountsAscend entry.1 entry.2 (wellFormed.accounts?_eq_some_iff.mpr member)
  obtain ⟨flows, added, tracks⟩ := (Flows.tracks_empty places).addBanks? ascending within
    fun account => by
      have space := room account
      rw [Option.getD_none]
      omega
  refine ⟨flows, ?_, tracks.congr ?_⟩
  · unfold Store.accountFlows
    rw [ReportColumns.ofSchema_eq_ok_iff.mpr present]
    simp only [read, added]
  · intro account
    rw [Option.getD_none, Int.zero_add]

/-- Over reports that banks make alone, an account of the banks holds what the
reports of its owners move, each once. -/
theorem Store.accountFlows_of_plain {store : Store} {columns : ReportColumns}
    {reports : List Report} {places : Nat} (present : columns.Of store.schema)
    (read : Report.ofRows? columns store.rows = some reports) (wellFormed : banks.WellFormed)
    (plain : ∀ report ∈ reports, Flows.Plain report)
    (summable : Decimal.Summable places store.amounts) :
    ∃ flows, store.accountFlows banks = .ok flows ∧ flows.Tracks places fun account =>
      if banks.owned.pairs.any fun entry => entry.2.contains account then
        some (reports.map (Report.ownNet banks places account)).sum
      else none := by
  obtain ⟨within, bounded⟩ := summable.of_reports present read
  obtain ⟨flows, flowed, tracks⟩ := accountFlows_tracks present read wellFormed within
    fun account => Nat.lt_of_le_of_lt (wellFormed.total_size_le plain account places) bounded
  refine ⟨flows, flowed, tracks.congr ?_⟩
  intro account
  rw [wellFormed.total_of_plain plain]
  rfl

end AccountFlows

/-! ## Banks of a fused row

The banks of a fused row. Its bank cell holds two names with a separator between
them, and flows are counted by cutting the cell at the separator. That gives the
two names back unless the first one ends like the separator begins: then the end
of that name and the separator make an earlier occurrence, and the cell is cut
there instead. -/

namespace Flows

/-- The separator of fused banks is no part of a name. -/
def Separate (name : String) : Prop :=
  ¬ Deduplication.fuseSeparator.toList <:+: name.toList

/-- A name ends like the separator of fused banks begins. -/
def RunsOn (name : String) : Prop :=
  " +".toList <:+ name.toList

instance (name : String) : Decidable (Separate name) :=
  inferInstanceAs (Decidable (¬ _))

instance (name : String) : Decidable (RunsOn name) :=
  inferInstanceAs (Decidable (_ <:+ _))

variable {a b : String}

private theorem toList_fusedBank (a b : String) :
    (Deduplication.fusedBank a b).toList = a.toList ++ ([' ', '+', ' '] ++ b.toList) := by
  rw [Deduplication.fusedBank, String.toList_append, String.toList_append, toList_fuseSeparator,
    List.append_assoc]

theorem reporters_fusedBank_eq_iff (separateA : Separate a) (separateB : Separate b) :
    reporters (Deduplication.fusedBank a b) = [a, b] ↔ ¬ RunsOn a := by
  have texts : [a, b] = [a.toList, b.toList].map String.ofList := by
    rw [List.map_cons, List.map_singleton, String.ofList_toList, String.ofList_toList]
  have injective : Function.Injective (List.map String.ofList) :=
    List.map_injective_iff.mpr fun _ _ same => String.ofList_injective same
  unfold reporters
  rw [toList_fusedBank, texts, injective.eq_iff, toList_fuseSeparator]
  exact Text.split_seam_eq_iff (by decide) separateA separateB

end Flows

namespace Deduplication

open Flows

variable {columns : ReportColumns} {schema : Schema} {a b : Report}

/-- The bank cell of a fused row is cut into the names of its two banks exactly
when the first does not end like the separator begins. The row then counts for
these two banks and for no other. -/
theorem reporters_fuse (present : columns.Of schema) (read : a.IsRead columns)
    (separateA : Separate a.bankName) (separateB : Separate b.bankName) :
    ∃ fused, Report.ofRow? columns (fuse columns a b) = some fused ∧
      (reporters fused.bankName = [a.bankName, b.bankName] ↔ ¬ RunsOn a.bankName) ∧
      (¬ RunsOn a.bankName → ∀ bank (reports : List Report), fused ∈ reports →
        (fused ∈ reportsOf bank reports ↔ bank = a.bankName ∨ bank = b.bankName)) := by
  have named : (Report.fused columns a b).bankName = fusedBank a.bankName b.bankName := rfl
  have exactly := reporters_fusedBank_eq_iff separateA separateB
  refine ⟨Report.fused columns a b, Report.isRead_fused present read b, ?_, ?_⟩
  · rw [named]
    exact exactly
  · intro closed bank reports member
    rw [reportsOf, List.mem_filter, named, exactly.mpr closed, List.contains_iff_mem,
      List.mem_pair]
    exact and_iff_right member

def savedBy (bank : String) : Report :=
  let five : Dollars := .ofMagnitude ((Decimal.make? 500 2).getD .zero)
  ⟨⟨[.text bank, .text "checking", .text "savings", .date ⟨2024, 3, 9⟩, .text "saved",
      .dollars five]⟩,
    .text bank, .text "checking", .text "savings", .date ⟨2024, 3, 9⟩, .text "saved",
    .dollars five⟩

theorem reporters_fuse_savedBy :
    ReportColumns.Of ⟨0, 1, 2, 3, 4, 5⟩ Schema.base ∧
      (savedBy "Acme+ ").IsRead ⟨0, 1, 2, 3, 4, 5⟩ ∧
      Separate "Acme+ " ∧ Separate "+ Birch +" ∧ ¬ RunsOn "Acme+ " ∧
      ∃ fused, Report.ofRow? ⟨0, 1, 2, 3, 4, 5⟩
          (fuse ⟨0, 1, 2, 3, 4, 5⟩ (savedBy "Acme+ ") (savedBy "+ Birch +")) = some fused ∧
        reporters fused.bankName = ["Acme+ ", "+ Birch +"] ∧
        ∀ bank, fused ∈ reportsOf bank [fused] ↔ bank = "Acme+ " ∨ bank = "+ Birch +" := by
  have present : ReportColumns.Of ⟨0, 1, 2, 3, 4, 5⟩ Schema.base :=
    ⟨⟨rfl, rfl⟩, ⟨rfl, rfl⟩, ⟨rfl, rfl⟩, ⟨rfl, rfl⟩, ⟨rfl, rfl⟩, ⟨rfl, rfl⟩⟩
  have read : (savedBy "Acme+ ").IsRead ⟨0, 1, 2, 3, 4, 5⟩ := rfl
  have separateA : Separate "Acme+ " := by decide +kernel
  have separateB : Separate "+ Birch +" := by decide +kernel
  have closed : ¬ RunsOn "Acme+ " := by decide +kernel
  obtain ⟨fused, made, names, counts⟩ :=
    reporters_fuse (b := savedBy "+ Birch +") present read separateA separateB
  exact ⟨present, read, separateA, separateB, closed, fused, made, names.mpr closed,
    fun bank => counts closed bank [fused] List.mem_cons_self⟩

/-- A plus at the end of the first name is taken for the separator: the cell names
two other banks. -/
theorem reporters_fuse_trailing_plus :
    "Acme +" ≠ "Birch" ∧ Separate "Acme +" ∧ Separate "Birch" ∧
      (fuse ⟨0, 1, 2, 3, 4, 5⟩ (savedBy "Acme +") (savedBy "Birch")).get? 0 =
        some (.text "Acme + + Birch") ∧
      reporters "Acme + + Birch" = ["Acme", "+ Birch"] :=
  ⟨by decide +kernel, by decide +kernel, by decide +kernel, rfl, by decide +kernel⟩

end Deduplication

end Passbook
