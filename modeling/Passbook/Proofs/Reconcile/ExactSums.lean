/-
Balances and flows as sums of rationals. A decimal that denotes a whole number at
some places is that number over a power of ten, so the exact whole numbers behind
balances and flows are exact sums over the rows of a store. Any choice of the rows,
in any order, is summed exactly as well, and that makes sums independent of the
order of the rows and additive over the stores that are joined.
-/

import Mathlib.Algebra.Field.Rat
import Mathlib.Algebra.Order.BigOperators.Group.List
import Mathlib.Data.List.Perm.Subperm
import Passbook.Proofs.Reconcile.Flows
import Passbook.Proofs.Reconcile.Pairing
import Passbook.Proofs.Store

namespace Passbook

namespace Decimal

/-- The number that a decimal stands for. -/
def value (d : Decimal) : ℚ :=
  d.coefficient / Text.powerOfTen d.scale

theorem powerOfTen_ne_zero (zeros : Nat) : (Text.powerOfTen zeros : ℚ) ≠ 0 :=
  Nat.cast_ne_zero.mpr (powerOfTen_pos zeros).ne'

theorem Denotes.value_eq {d : Decimal} {places : Nat} {units : Int}
    (denotes : d.Denotes places units) : d.value = units / Text.powerOfTen places := by
  obtain ⟨within, rfl⟩ := denotes
  have steps : places = d.scale + (places - d.scale) := by omega
  calc
    d.value = d.coefficient * Text.powerOfTen (places - d.scale) /
        (Text.powerOfTen d.scale * Text.powerOfTen (places - d.scale)) :=
      (mul_div_mul_right _ _ (powerOfTen_ne_zero _)).symm
    _ = d.coefficientAt places / Text.powerOfTen places := by
      rw [coefficientAt, Int.cast_mul, Int.cast_natCast, ← Nat.cast_mul, ← powerOfTen_add,
        ← steps]

theorem value_zero : zero.value = 0 :=
  zero_div _

theorem sameValue_iff_value_eq {a b : Decimal} : a.sameValue b = true ↔ a.value = b.value := by
  have first := denotes_coefficientAt (Nat.le_max_left a.scale b.scale)
  have second := denotes_coefficientAt (Nat.le_max_right a.scale b.scale)
  rw [first.sameValue_iff second, first.value_eq, second.value_eq,
    div_left_inj' (powerOfTen_ne_zero _), Int.cast_inj]

theorem Summable.of_subperm {places : Nat} {amounts all : List Decimal}
    (among : amounts.Subperm all) (summable : Summable places all) : Summable places amounts := by
  obtain ⟨chosen, reordered, sublist⟩ := among
  refine ⟨fun amount member => summable.scaleBounded amount ?_, ?_⟩
  · exact sublist.subset (reordered.mem_iff.mpr member)
  · rw [← (reordered.map _).sum_eq]
    exact Nat.lt_of_le_of_lt ((sublist.map _).sum_le_sum fun _ _ => Nat.zero_le _)
      summable.totalBounded

end Decimal

/-! ### Sums over rows -/

namespace Exact

def amount (schema : Schema) (row : Row) : ℚ :=
  ((Pairing.cell? schema row Schema.amount).bind Entry.dollars?).elim 0 fun dollars =>
    dollars.amount.value

/-- What a row moves into an account: its amount when the account is the
destination, less its amount when the account is the origin. -/
def brings (schema : Schema) (account : String) (row : Row) : ℚ :=
  (if (Pairing.cell? schema row Schema.destination).bind Entry.text? = some account then
    amount schema row else 0) -
  (if (Pairing.cell? schema row Schema.origin).bind Entry.text? = some account then
    amount schema row else 0)

def total (schema : Schema) (account : String) (rows : List Row) : ℚ :=
  (rows.map (brings schema account)).sum

theorem total_append (schema : Schema) (account : String) (first second : List Row) :
    total schema account (first ++ second) =
      total schema account first + total schema account second := by
  unfold total
  rw [List.map_append, List.sum_append]

theorem total_perm {first second : List Row} (reordered : first.Perm second) (schema : Schema)
    (account : String) : total schema account first = total schema account second :=
  (reordered.map _).sum_eq

theorem value_amountOf (entry : Entry) :
    (Movement.amountOf entry).value =
      entry.dollars?.elim 0 fun dollars => dollars.amount.value := by
  cases entry with
  | dollars _ => rfl
  | date _ | text _ => exact Decimal.value_zero

theorem brings_of_movement {schema : Schema} {row : Row} {origin destination amount : Nat}
    (atOrigin : schema.indexOf? Schema.origin = some origin)
    (atDestination : schema.indexOf? Schema.destination = some destination)
    (atAmount : schema.indexOf? Schema.amount = some amount) {movement : Movement}
    (read : Movement.ofRow? origin destination amount row = some movement) {places : Nat}
    (within : movement.amount.scale ≤ places) (account : String) :
    brings schema account row = movement.net places account / Text.powerOfTen places := by
  unfold Movement.ofRow? at read
  split at read
  · rename_i amountEntry destinationEntry originEntry amountCell destinationCell originCell
    cases read
    have worth : Exact.amount schema row = (Movement.amountOf amountEntry).value := by
      rw [Exact.amount, Pairing.cell?, atAmount, Option.bind_some, amountCell, Option.bind_some,
        value_amountOf]
    rw [(Decimal.denotes_coefficientAt within).value_eq] at worth
    unfold brings Movement.net Pairing.cell?
    rw [atDestination, Option.bind_some, destinationCell, Option.bind_some, atOrigin,
      Option.bind_some, originCell, Option.bind_some, worth, Int.cast_sub, sub_div]
    split <;> split <;> simp
  · cases read

end Exact

namespace Store

/-- Some of the rows of another store, in any order. -/
structure Among (part store : Store) : Prop where
  sameSchema : part.schema = store.schema
  rowsSubperm : part.rows.Subperm store.rows

theorem Among.amounts_subperm {part store : Store} (among : part.Among store) :
    part.amounts.Subperm store.amounts := by
  obtain ⟨sameSchema, chosen, reordered, sublist⟩ := among
  unfold amounts cells
  rw [sameSchema]
  cases store.schema.indexOf? Schema.amount with
  | none => exact List.Subperm.refl _
  | some index => exact ⟨_, (reordered.filterMap _).map _, (sublist.filterMap _).map _⟩

theorem Among.conform {part store : Store} (among : part.Among store)
    (conform : ∀ row ∈ store.rows, row.Conforms store.schema) :
    ∀ row ∈ part.rows, row.Conforms part.schema := by
  intro row member
  rw [among.sameSchema]
  exact conform row (among.rowsSubperm.subset member)

theorem net_eq_total {store : Store} {places : Nat}
    (conform : ∀ row ∈ store.rows, row.Conforms store.schema)
    (columns : ∀ name ∈ movementColumns, name ∈ store.schema.names)
    (scales : ∀ amount ∈ store.amounts, amount.scale ≤ places) (account : String) :
    Exact.total store.schema account store.rows =
      store.net places account / Text.powerOfTen places := by
  obtain ⟨origin, destination, amount, atOrigin, atDestination, atAmount⟩ :=
    exists_positions columns
  have complete := exists_movement_within conform scales atOrigin atDestination atAmount
  unfold net movements Exact.total
  rw [atOrigin, atDestination, atAmount]
  dsimp only
  generalize store.rows = rows at complete
  induction rows with
  | nil => exact (zero_div _).symm
  | cons row rows ih =>
      obtain ⟨movement, read, within⟩ := complete row List.mem_cons_self
      have rest := ih fun other member => complete other (List.mem_cons_of_mem _ member)
      rw [List.filterMap_cons_some read, List.map_cons, List.sum_cons, List.map_cons,
        List.sum_cons, rest, Int.cast_add, add_div,
        Exact.brings_of_movement atOrigin atDestination atAmount read within]

theorem Among.balance_eq_total {part store : Store} {places : Nat} (among : part.Among store)
    (conform : ∀ row ∈ store.rows, row.Conforms store.schema)
    (columns : ∀ name ∈ movementColumns, name ∈ store.schema.names)
    (summable : Decimal.Summable places store.amounts) (account : String) :
    ∃ balance, part.balance account = .ok balance ∧
      balance.value = Exact.total store.schema account part.rows := by
  have conformHere := among.conform conform
  have summableHere := summable.of_subperm among.amounts_subperm
  rw [← among.sameSchema] at columns ⊢
  obtain ⟨balance, computed, denotes⟩ :=
    balance_denotes conformHere columns summableHere account
  refine ⟨balance, computed, ?_⟩
  rw [denotes.value_eq, net_eq_total conformHere columns summableHere.scaleBounded]

theorem exists_balances {schema : Schema} {parts : List Store} {account : String}
    (exact : ∀ part ∈ parts, ∃ balance, part.balance account = .ok balance ∧
      balance.value = Exact.total schema account part.rows) :
    ∃ balances, List.Forall₂ (fun part balance => Store.balance part account = .ok balance)
        parts balances ∧
      (balances.map Decimal.value).sum = Exact.total schema account (parts.flatMap rows) := by
  induction parts with
  | nil => exact ⟨[], List.Forall₂.nil, rfl⟩
  | cons part parts ih =>
      obtain ⟨balance, computed, sum⟩ := exact part List.mem_cons_self
      obtain ⟨balances, others, sums⟩ :=
        ih fun other member => exact other (List.mem_cons_of_mem _ member)
      refine ⟨balance :: balances, List.Forall₂.cons computed others, ?_⟩
      rw [List.map_cons, List.sum_cons, List.flatMap_cons, Exact.total_append, sum, sums]

/-! ### Flows -/

/-- The rows whose bank cell names a bank, alone or among others. -/
def reportedBy (store : Store) (bank : String) : Store :=
  { store with rows := store.rows.filter fun row =>
      (Flows.reporters (Pairing.textIn store.schema row Schema.bank)).contains bank }

theorem reportedBy_among (store : Store) (bank : String) : (store.reportedBy bank).Among store :=
  ⟨rfl, List.filter_sublist.subperm⟩

section Flows

variable {store : Store} {columns : ReportColumns} {reports : List Report} {banks : BankAccounts}

theorem ofRows?_reportedBy (present : columns.Of store.schema)
    (read : Report.ofRows? columns store.rows = some reports) (bank : String) :
    Report.ofRows? columns (store.reportedBy bank).rows =
      some (Flows.reportsOf bank reports) := by
  obtain ⟨same, allRead⟩ := Report.ofRows?_eq_some_iff.mp read
  refine Report.ofRows?_eq_some_iff.mpr ⟨?_, ?_⟩
  · unfold reportedBy Flows.reportsOf
    rw [← same, List.filter_map]
    congr 1
    apply List.filter_congr
    intro report member
    have shown := Pairing.shows_of_isRead present (allRead report member)
    rw [Function.comp_apply, Pairing.textIn_of_cell? shown.bank]
    rfl
  · intro report member
    exact allRead report (List.mem_filter.mp member).1

/-- What the reports of a bank bring into an account is an exact sum of rows. -/
theorem totalOf_eq_total {places : Nat} (present : columns.Of store.schema)
    (read : Report.ofRows? columns store.rows = some reports)
    (conform : ∀ row ∈ store.rows, row.Conforms store.schema)
    (summable : Decimal.Summable places store.amounts) (bank account : String) :
    Exact.total store.schema account (store.reportedBy bank).rows =
      Flows.totalOf bank reports (Report.net places account) / Text.powerOfTen places := by
  have among := store.reportedBy_among bank
  have readHere := ofRows?_reportedBy present read bank
  have conformHere := among.conform conform
  have presentHere : columns.Of (store.reportedBy bank).schema := present
  have typed : ∀ report ∈ Flows.reportsOf bank reports, report.Typed := by
    intro report member
    obtain ⟨inRows, isRead⟩ := Report.of_mem_ofRows? readHere member
    exact Report.typed_of_conforms presentHere isRead (conformHere _ inRows)
  have sameNet : (store.reportedBy bank).net places account =
      Flows.totalOf bank reports (Report.net places account) := by
    unfold net Flows.totalOf
    rw [movements_eq_of_reports presentHere readHere typed, List.map_map]
    rfl
  rw [← sameNet]
  exact net_eq_total conformHere present.movementColumns
    (summable.of_subperm among.amounts_subperm).scaleBounded account

theorem accountFlows_eq_total {places : Nat} (present : columns.Of store.schema)
    (conform : ∀ row ∈ store.rows, row.Conforms store.schema) (wellFormed : banks.WellFormed)
    (exclusive : banks.Exclusive) (summable : Decimal.Summable places store.amounts) :
    ∃ flows, store.accountFlows banks = .ok flows ∧
      (∀ account, (∃ flow, flows.find? account = some flow) ↔
        ∃ bank, banks.owns bank account = true) ∧
      ∀ bank account flow, banks.owns bank account = true → flows.find? account = some flow →
        flow.value = Exact.total store.schema account (store.reportedBy bank).rows := by
  obtain ⟨reports, read⟩ := Report.exists_ofRows? present conform
  obtain ⟨within, bounded⟩ := summable.of_reports present read
  have room : ∀ account, Flows.total banks.owned.pairs account reports (Report.size places) <
      Decimal.coefficientBound := by
    intro account
    by_cases owned : ∃ bank, banks.owns bank account = true
    · obtain ⟨bank, owns⟩ := owned
      rw [wellFormed.total_of_exclusive exclusive owns]
      exact Nat.lt_of_le_of_lt
        ((List.filter_sublist.map _).sum_le_sum fun _ _ => Nat.zero_le _) bounded
    · rw [← wellFormed.any_contains_iff, Bool.not_eq_true, List.any_eq_false] at owned
      rw [Flows.total_eq_zero fun entry member => Bool.eq_false_iff.mpr (owned entry member)]
      exact Nat.zero_lt_of_lt bounded
  obtain ⟨flows, flowed, tracks⟩ :=
    accountFlows_tracks present read wellFormed within room
  refine ⟨flows, flowed, ?_, ?_⟩
  · intro account
    rw [← wellFormed.any_contains_iff]
    constructor
    · rintro ⟨flow, found⟩
      obtain ⟨_, listed, _⟩ := tracks.of_find?_eq_some found
      by_contra nobody
      rw [if_neg nobody] at listed
      cases listed
    · intro owned
      obtain ⟨flow, found, _⟩ := tracks.of_ledger_eq_some (if_pos owned)
      exact ⟨flow, found⟩
  · intro bank account flow owns found
    obtain ⟨units, listed, denotes⟩ := tracks.of_find?_eq_some found
    rw [if_pos (wellFormed.any_contains_iff.mpr ⟨bank, owns⟩), Option.some.injEq,
      wellFormed.total_of_exclusive exclusive owns] at listed
    rw [denotes.value_eq, ← listed, totalOf_eq_total present read conform summable]

end Flows

/-- As long as all amounts together fit into a coefficient, a balance is the exact
sum of its rows: it is the same in any order of them, and the sum of the balances of
stores that were joined. The flow of an account is the exact sum of the rows that
its bank reports, alone or with others, where no account has two banks. -/
theorem balances_and_flows_exact {store : Store} {places : Nat} (wellFormed : store.WellFormed)
    (summable : Decimal.Summable places store.amounts) :
    ((∀ name ∈ movementColumns, name ∈ store.schema.names) → ∀ account, ∃ balance,
      store.balance account = .ok balance ∧
        balance.value = Exact.total store.schema account store.rows ∧
        (∀ rows : List Row, rows.Perm store.rows → ∃ permuted,
          Store.balance ⟨store.schema, rows⟩ account = .ok permuted ∧
            permuted.sameValue balance = true) ∧
        ∀ schema parts, Store.concat schema parts = .ok store → ∃ balances,
          List.Forall₂ (fun part own => Store.balance part account = .ok own) parts balances ∧
            balance.value = (balances.map Decimal.value).sum) ∧
    ∀ banks : BankAccounts, banks.WellFormed → banks.Exclusive →
      Schema.base.columns ⊆ store.schema.columns → ∃ flows,
        store.accountFlows banks = .ok flows ∧
          (∀ account, (∃ flow, flows.find? account = some flow) ↔
            ∃ bank, banks.owns bank account = true) ∧
          ∀ bank account flow, banks.owns bank account = true →
            flows.find? account = some flow →
              flow.value = Exact.total store.schema account (store.reportedBy bank).rows := by
  obtain ⟨ofSchema, conform⟩ := wellFormed
  refine ⟨?_, ?_⟩
  · intro columns account
    have exact {part : Store} (among : part.Among store) :=
      among.balance_eq_total conform columns summable account
    obtain ⟨balance, computed, sum⟩ := exact ⟨rfl, List.Subperm.refl _⟩
    refine ⟨balance, computed, sum, ?_, ?_⟩
    · intro rows reordered
      have among : Among ⟨store.schema, rows⟩ store := ⟨rfl, reordered.subperm⟩
      obtain ⟨permuted, again, sumAgain⟩ := exact among
      refine ⟨permuted, again, Decimal.sameValue_iff_value_eq.mpr ?_⟩
      rw [sum, sumAgain, Exact.total_perm reordered]
    · intro schema parts joined
      obtain ⟨sameSchema, whole⟩ := concat_eq_ok_iff.mp joined
      have ownSchema : store.schema = schema := congrArg Store.schema whole
      have ownRows : store.rows = parts.flatMap Store.rows := congrArg Store.rows whole
      have among : ∀ part ∈ parts, part.Among store := by
        intro part member
        refine ⟨(sameSchema part member).trans ownSchema.symm, ?_⟩
        rw [ownRows, List.flatMap_def]
        exact (List.sublist_flatten_of_mem (List.mem_map_of_mem member)).subperm
      obtain ⟨balances, parted, sums⟩ :=
        exists_balances fun part member => exact (among part member)
      refine ⟨balances, parted, ?_⟩
      rw [sum, sums, ownRows]
  · intro banks banksWellFormed exclusive base
    obtain ⟨columns, present⟩ := ReportColumns.exists_of ofSchema base
    exact accountFlows_eq_total present conform banksWellFormed exclusive summable

def mixedPlaces : Store :=
  let row (bank origin destination : String) (coefficient : Int) (scale : Nat) : Row :=
    ⟨[.text bank, .text origin, .text destination, .date ⟨2024, 2, 29⟩, .text "transfer",
      .dollars (.ofMagnitude ((Decimal.make? coefficient scale).getD .zero))]⟩
  ⟨.base, [row "Acme" "checking" "joint" 1 0, row "Acme + Birch" "joint" "savings" 25 2,
    row "Birch" "employer" "savings" 1005 1, row "Acme" "joint" "joint" 1 26]⟩

def twoBanks : BankAccounts :=
  .ofList [("Acme", ["checking", "joint"]), ("Birch", ["savings"])]

theorem balances_and_flows_exact_mixedPlaces :
    (∃ balance, mixedPlaces.balance "savings" = .ok balance ∧ balance.value = 403 / 4 ∧
      (∃ permuted, Store.balance ⟨.base, mixedPlaces.rows.reverse⟩ "savings" = .ok permuted ∧
        permuted.sameValue balance = true) ∧
      ∃ balances, List.Forall₂ (fun part own => Store.balance part "savings" = .ok own)
          [⟨.base, mixedPlaces.rows.take 2⟩, ⟨.base, mixedPlaces.rows.drop 2⟩] balances ∧
        balance.value = (balances.map Decimal.value).sum) ∧
    ∃ flows, mixedPlaces.accountFlows twoBanks = .ok flows ∧
      ∃ flow, flows.find? "joint" = some flow ∧ flow.value = 3 / 4 := by
  have wellFormed : mixedPlaces.WellFormed := ⟨Schema.base_wellFormed, by decide +kernel⟩
  have summable : Decimal.Summable 26 mixedPlaces.amounts :=
    ⟨by decide +kernel, by decide +kernel⟩
  obtain ⟨balances, flows⟩ := balances_and_flows_exact wellFormed summable
  refine ⟨?_, ?_⟩
  · obtain ⟨balance, computed, sum, reordered, joined⟩ := balances (by decide +kernel) "savings"
    refine ⟨balance, computed, sum.trans ?_, reordered _ (List.reverse_perm _), joined .base _ rfl⟩
    decide +kernel
  · obtain ⟨flows, flowed, listed, sums⟩ := flows twoBanks (BankAccounts.wellFormed_ofList _)
      (BankAccounts.exclusive_ofList (by decide)) (List.Subset.refl _)
    have owns : twoBanks.owns "Acme" "joint" = true := by decide +kernel
    obtain ⟨flow, found⟩ := (listed "joint").mpr ⟨"Acme", owns⟩
    refine ⟨flows, flowed, flow, found, (sums _ _ _ owns found).trans ?_⟩
    decide +kernel

end Store

end Passbook
