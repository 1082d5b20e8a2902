/-
Corrections of balances. A correction has the oldest day of the store and brings the
account to the balance that its bank reports.
-/

import Mathlib.Algebra.Order.BigOperators.Group.List
import Mathlib.Data.List.Basic
import Passbook.Proofs.Store
import Passbook.Proofs.Store.Balance
import Passbook.Store

namespace Passbook

/-! ## The oldest day

The oldest day of a store. It is one of the days of the rows and none of them is
before it; a row that is added on the oldest day leaves it the oldest. -/

namespace Date

instance : Std.TransCmp Date.compare :=
  inferInstanceAs (Std.TransCmp
    (compareLex (compareOn Date.year) (compareLex (compareOn Date.month) (compareOn Date.day))))

theorem compare_self (day : Date) : day.compare day = .eq :=
  Std.ReflCmp.compare_self

theorem compare_swap (a b : Date) : a.compare b = (b.compare a).swap :=
  Std.OrientedCmp.eq_swap

/-- A day is among others and none of them is before it. -/
def IsOldest (day : Date) (days : List Date) : Prop :=
  day ∈ days ∧ ∀ other ∈ days, (day.compare other).isLE = true

theorem isLE_earlier_left (a b : Date) : ((a.earlier b).compare a).isLE = true := by
  unfold earlier
  split
  · rename_i before
    rw [before]
    rfl
  · rw [compare_self]
    rfl

theorem isLE_earlier_right (a b : Date) : ((a.earlier b).compare b).isLE = true := by
  unfold earlier
  split
  · rw [compare_self]
    rfl
  · rename_i notBefore
    rw [compare_swap]
    cases order : b.compare a with
    | lt => exact absurd order notBefore
    | eq => rfl
    | gt => rfl

theorem earlier_eq_or (a b : Date) : a.earlier b = a ∨ a.earlier b = b := by
  unfold earlier
  split
  · exact Or.inr rfl
  · exact Or.inl rfl

theorem isOldest_foldl (first : Date) (days : List Date) :
    (days.foldl earlier first).IsOldest (first :: days) := by
  induction days generalizing first with
  | nil =>
      refine ⟨List.mem_singleton_self first, ?_⟩
      intro other member
      rw [List.mem_singleton.mp member, List.foldl_nil, compare_self]
      rfl
  | cons day days ih =>
      obtain ⟨member, before⟩ := ih (first.earlier day)
      have first_le := before _ List.mem_cons_self
      rw [List.foldl_cons]
      refine ⟨?_, ?_⟩
      · rcases List.mem_cons.mp member with same | later
        · rw [same]
          rcases earlier_eq_or first day with own | other
          · rw [own]
            exact List.mem_cons_self
          · rw [other]
            exact List.mem_cons_of_mem _ List.mem_cons_self
        · exact List.mem_cons_of_mem _ (List.mem_cons_of_mem _ later)
      · intro other present
        rcases List.mem_cons.mp present with rfl | rest
        · exact Std.TransCmp.isLE_trans first_le (isLE_earlier_left other day)
        · rcases List.mem_cons.mp rest with rfl | later
          · exact Std.TransCmp.isLE_trans first_le (isLE_earlier_right first other)
          · exact before other (List.mem_cons_of_mem _ later)

end Date

namespace Store

theorem isOldest_of_oldest? {days : List Date} {day : Date} (oldest : oldest? days = some day) :
    day.IsOldest days := by
  cases days with
  | nil => cases oldest
  | cons first days =>
      cases oldest
      exact Date.isOldest_foldl first days

theorem oldest?_eq_none_iff {days : List Date} : oldest? days = none ↔ days = [] := by
  cases days with
  | nil => exact iff_of_true rfl rfl
  | cons day days => exact iff_of_false nofun nofun

/-- The oldest day, put once more behind all others, is still the oldest. -/
theorem oldest?_append_oldest (days : List Date) (fallback : Date) :
    oldest? (days ++ [(oldest? days).getD fallback]) = some ((oldest? days).getD fallback) := by
  cases days with
  | nil => rfl
  | cons first days =>
      have whole : oldest? (first :: days) = some (days.foldl Date.earlier first) := rfl
      rw [whole, Option.getD_some, List.cons_append, oldest?, List.foldl_append, List.foldl_cons,
        List.foldl_nil, Date.earlier, ite_self]

def days (rows : List Row) : List Date :=
  rows.filterMap fun row => (row.get? 3).bind Entry.date?

theorem rows_eq_nil_of_days {rows : List Row}
    (conform : ∀ row ∈ rows, row.Conforms Schema.base) (none : days rows = []) : rows = [] := by
  cases rows with
  | nil => rfl
  | cons row rows =>
      have column : Schema.base.HasColumn 3 Schema.date .date := ⟨rfl, rfl⟩
      obtain ⟨entry, present, ofKind⟩ := (conform row List.mem_cons_self).get? column
      have noDate := List.filterMap_eq_nil_iff.mp none row List.mem_cons_self
      rw [present] at noDate
      cases entry with
      | date day => cases noDate
      | text value => cases ofKind
      | dollars value => cases ofKind

theorem oldestDate?_base {rows : List Row} (conform : ∀ row ∈ rows, row.Conforms Schema.base) :
    oldestDate? ⟨Schema.base, rows⟩ = .ok (oldest? (days rows)) := by
  have within : (rows.all fun row => 3 < row.size) = true := by
    rw [List.all_eq_true]
    intro row member
    rw [(conform row member).size_eq]
    rfl
  have position : Schema.base.require Schema.date = .ok 3 := rfl
  unfold oldestDate?
  dsimp only
  rw [position]
  dsimp only
  rw [if_pos within]
  rfl

end Store

/-! ## Corrected stores

Corrections reach the balance that a bank reports. The one row that is added
moves the difference between the account and the counterparty, so that every
other account keeps its balance; nothing is added when there is no difference. -/

def Row.base (bank origin destination : String) (date : Date) (description : String)
    (amount : Dollars) : Row :=
  ⟨[.text bank, .text origin, .text destination, .date date, .text description, .dollars amount]⟩

theorem Row.conforms_base (bank origin destination : String) (date : Date)
    (description : String) (amount : Dollars) :
    (Row.base bank origin destination date description amount).Conforms Schema.base :=
  rfl

namespace Store

theorem movements_base (bank origin destination : String) (date : Date) (description : String)
    (amount : Dollars) :
    movements ⟨Schema.base, [Row.base bank origin destination date description amount]⟩ =
      [⟨some origin, some destination, amount.amount⟩] :=
  rfl

theorem amounts_base (bank origin destination : String) (date : Date) (description : String)
    (amount : Dollars) :
    amounts ⟨Schema.base, [Row.base bank origin destination date description amount]⟩ =
      [amount.amount] :=
  rfl

theorem movementColumns_base : ∀ name ∈ movementColumns, name ∈ Schema.base.names := by
  decide

section Correction

variable {places : Nat} {value : Int} {difference : Decimal}

theorem correctionRow_eq_base (bank account : String) (difference : Decimal) (date : Date) :
    ∃ origin destination,
      correctionRow bank account difference date =
        Row.base bank origin destination date balanceCorrection (Dollars.ofMagnitude difference) ∧
      ((origin = account ∧ destination = counterparty ∧ difference.isNegative = true) ∨
        (origin = counterparty ∧ destination = account ∧ difference.isNegative = false)) := by
  unfold correctionRow
  cases negative : difference.isNegative with
  | true => exact ⟨account, counterparty, rfl, Or.inl ⟨rfl, rfl, rfl⟩⟩
  | false => exact ⟨counterparty, account, rfl, Or.inr ⟨rfl, rfl, rfl⟩⟩

theorem conforms_correctionRow (bank account : String) (difference : Decimal) (date : Date) :
    (correctionRow bank account difference date).Conforms Schema.base := by
  obtain ⟨origin, destination, same, _⟩ := correctionRow_eq_base bank account difference date
  rw [same]
  exact Row.conforms_base ..

theorem net_correctionRow (denotes : difference.Denotes places value) (bank : String)
    {account : String} (ordinary : account ≠ counterparty) (date : Date) :
    net ⟨Schema.base, [correctionRow bank account difference date]⟩ places account = value := by
  obtain ⟨within, same⟩ := denotes
  have magnitude := Decimal.coefficientAt_magnitude difference places
  have sign := Decimal.Denotes.isNegative_iff ⟨within, same⟩
  obtain ⟨origin, destination, row, ends⟩ := correctionRow_eq_base bank account difference date
  rw [row, net, movements_base, List.map_singleton, List.sum_singleton]
  unfold Movement.net Dollars.ofMagnitude
  dsimp only
  rw [magnitude, same]
  rcases ends with ⟨rfl, rfl, negative⟩ | ⟨rfl, rfl, negative⟩
  · have below := sign.mp negative
    rw [if_neg (fun equal => ordinary (Option.some.inj equal).symm), if_pos rfl]
    omega
  · have above : ¬ value < 0 := by
      intro below
      rw [sign.mpr below] at negative
      cases negative
    rw [if_pos rfl, if_neg (fun equal => ordinary (Option.some.inj equal).symm)]
    omega

theorem net_correctionRow_of_ne (bank : String) {account other : String}
    (differ : other ≠ account) (ordinary : other ≠ counterparty) (date : Date) :
    net ⟨Schema.base, [correctionRow bank account difference date]⟩ places other = 0 := by
  obtain ⟨origin, destination, row, ends⟩ := correctionRow_eq_base bank account difference date
  rw [row, net, movements_base, List.map_singleton, List.sum_singleton]
  unfold Movement.net
  have notOrigin : ¬ some origin = some other := by
    intro equal
    rcases ends with ⟨rfl, _, _⟩ | ⟨rfl, _, _⟩
    · exact differ (Option.some.inj equal).symm
    · exact ordinary (Option.some.inj equal).symm
  have notDestination : ¬ some destination = some other := by
    intro equal
    rcases ends with ⟨_, rfl, _⟩ | ⟨_, rfl, _⟩
    · exact ordinary (Option.some.inj equal).symm
    · exact differ (Option.some.inj equal).symm
  rw [if_neg notDestination, if_neg notOrigin, Int.sub_zero]

theorem weight_correctionRow (denotes : difference.Denotes places value) (bank account : String)
    (date : Date) :
    weight ⟨Schema.base, [correctionRow bank account difference date]⟩ places = value.natAbs := by
  obtain ⟨within, same⟩ := denotes
  obtain ⟨origin, destination, row, _⟩ := correctionRow_eq_base bank account difference date
  rw [row, weight, amounts_base, List.map_singleton, List.sum_singleton]
  unfold Decimal.weight Dollars.ofMagnitude
  rw [Decimal.coefficientAt_magnitude, same, Int.natAbs_natCast]

theorem scale_le_append_correctionRow {rows : List Row}
    (scales : ∀ amount ∈ amounts ⟨Schema.base, rows⟩, amount.scale ≤ places)
    (denotes : difference.Denotes places value) (bank account : String) (date : Date) :
    ∀ amount ∈ amounts ⟨Schema.base, rows ++ [correctionRow bank account difference date]⟩,
      amount.scale ≤ places := by
  intro amount member
  rw [amounts_append, List.mem_append] at member
  rcases member with earlier | added
  · exact scales amount earlier
  · obtain ⟨origin, destination, row, _⟩ := correctionRow_eq_base bank account difference date
    rw [row, amounts_base, List.mem_singleton] at added
    rw [added]
    exact denotes.1

end Correction

/-- Correcting the balance of an account adds a row for the difference, and
none when there is no difference. -/
theorem correctBalance_exact {store : Store} (base : store.schema = Schema.base)
    (conform : ∀ row ∈ store.rows, row.Conforms store.schema) {places : Nat}
    (summable : Decimal.Summable places store.amounts) (bank account : String)
    {reported : Decimal} {value : Int} (denotes : reported.Denotes places value)
    (fits : (value - store.net places account).natAbs < Decimal.coefficientBound)
    (fallback : Date) :
    (value = store.net places account ∧
        store.correctBalance bank account reported fallback = .ok (store, false)) ∨
      (value ≠ store.net places account ∧ ∃ difference,
        difference.Denotes places (value - store.net places account) ∧
          store.correctBalance bank account reported fallback =
            .ok ({ store with
              rows := store.rows ++ [correctionRow bank account difference
                ((oldest? (days store.rows)).getD fallback)] }, true)) := by
  have columns : ∀ name ∈ movementColumns, name ∈ store.schema.names := by
    rw [base]
    exact movementColumns_base
  obtain ⟨computed, balanced, computedDenotes⟩ := balance_denotes conform columns summable account
  obtain ⟨difference, subtracted, differs⟩ := denotes.sub? computedDenotes fits
  have zero := differs.eq_zero_iff
  unfold correctBalance
  rw [balanced]
  dsimp only
  rw [subtracted]
  dsimp only
  by_cases same : value = store.net places account
  · refine Or.inl ⟨same, ?_⟩
    rw [if_pos (zero.mpr (by omega))]
  · refine Or.inr ⟨same, ?_⟩
    have oldest : store.oldestDate? = .ok (oldest? (days store.rows)) := by
      obtain ⟨schema, rows⟩ := store
      change schema = Schema.base at base
      subst base
      exact oldestDate?_base conform
    refine ⟨difference, differs, ?_⟩
    have nonzero : ¬ difference.isZero = true := fun isZero => same (by
      have := zero.mp isZero
      omega)
    have taken : store.ingest (correctionRow bank account difference
        ((oldest? (days store.rows)).getD fallback)) = .ok _ :=
      ingest_eq_ok_iff.mpr ⟨base ▸ conforms_correctionRow .., rfl⟩
    rw [if_neg nonzero, oldest]
    dsimp only
    rw [taken]

end Store

/-! ## What a correction reaches

What a correction does. The account gets the balance that its bank reports, and
every account but the counterparty keeps its own, to the place. The counterparty
itself cannot be corrected: the row that should bring it the difference takes the
difference out of it again. -/

theorem Movement.settle?_of_untouched {movement : Movement} {account : String}
    (notDestination : movement.destination ≠ some account)
    (notOrigin : movement.origin ≠ some account) (balance : Decimal) :
    movement.settle? account balance = some balance := by
  unfold settle?
  rw [if_neg notDestination]
  exact if_neg notOrigin

namespace Store

/-- A row at the end that does not touch an account does not count for it. -/
theorem settleAll_append_of_untouched {account : String} {origin destination amount : Nat}
    {row : Row} {movement : Movement}
    (read : Movement.ofRow? origin destination amount row = some movement)
    (notDestination : movement.destination ≠ some account)
    (notOrigin : movement.origin ≠ some account) (rows : List Row) (balance : Decimal) :
    settleAll account origin destination amount balance (rows ++ [row]) =
      settleAll account origin destination amount balance rows := by
  induction rows generalizing balance with
  | nil =>
      have kept := Movement.settle?_of_untouched notDestination notOrigin balance
      simp only [List.nil_append, settleAll, read, kept]
  | cons first rows ih =>
      rw [List.cons_append, settleAll, settleAll]
      cases Movement.ofRow? origin destination amount first with
      | none => rfl
      | some moved =>
          dsimp only
          cases moved.settle? account balance with
          | none => rfl
          | some after => exact ih after

section Correction

variable {rows : List Row} {bank account : String} {difference : Decimal} {date : Date}

theorem balance_append_correctionRow_of_ne {other : String} (differ : other ≠ account)
    (ordinary : other ≠ counterparty) :
    balance ⟨Schema.base, rows ++ [correctionRow bank account difference date]⟩ other =
      balance ⟨Schema.base, rows⟩ other := by
  obtain ⟨origin, destination, row, ends⟩ := correctionRow_eq_base bank account difference date
  have untouched : origin ≠ other ∧ destination ≠ other := by
    rcases ends with ⟨rfl, rfl, _⟩ | ⟨rfl, rfl, _⟩
    · exact ⟨differ.symm, ordinary.symm⟩
    · exact ⟨ordinary.symm, differ.symm⟩
  have read : Movement.ofRow? 1 2 5 (correctionRow bank account difference date) =
      some ⟨some origin, some destination, (Dollars.ofMagnitude difference).amount⟩ := by
    rw [row]
    rfl
  have same := settleAll_append_of_untouched read
    (fun there => untouched.2 (Option.some.inj there))
    (fun there => untouched.1 (Option.some.inj there)) rows Decimal.zero
  have positions : Schema.base.require Schema.origin = .ok 1 ∧
      Schema.base.require Schema.destination = .ok 2 ∧
      Schema.base.require Schema.amount = .ok 5 := ⟨rfl, rfl, rfl⟩
  unfold balance
  dsimp only
  rw [positions.1, positions.2.1, positions.2.2]
  dsimp only
  rw [same]

/-- The row of a correction of the counterparty moves nothing. -/
private theorem net_correctionRow_counterparty (places : Nat) :
    net ⟨Schema.base, [correctionRow bank counterparty difference date]⟩ places counterparty =
      0 := by
  obtain ⟨origin, destination, row, ends⟩ :=
    correctionRow_eq_base bank counterparty difference date
  have both : origin = counterparty ∧ destination = counterparty := by
    rcases ends with ⟨rfl, rfl, _⟩ | ⟨rfl, rfl, _⟩ <;> exact ⟨rfl, rfl⟩
  rw [row, both.1, both.2, net, movements_base, List.map_singleton, List.sum_singleton]
  unfold Movement.net
  rw [if_pos rfl]
  exact Int.sub_self _

theorem net_append_correctionRow {places : Nat} {value : Int}
    (denotes : difference.Denotes places (value - net ⟨Schema.base, rows⟩ places account)) :
    net ⟨Schema.base, rows ++ [correctionRow bank account difference date]⟩ places account =
      if account = counterparty then net ⟨Schema.base, rows⟩ places account else value := by
  rw [net_append]
  by_cases universal : account = counterparty
  · subst universal
    rw [if_pos rfl, net_correctionRow_counterparty, Int.add_zero]
  · rw [if_neg universal, net_correctionRow denotes bank universal]
    omega

theorem summable_append_correctionRow {places : Nat} {value : Int}
    (summable : Decimal.Summable places (amounts ⟨Schema.base, rows⟩))
    (denotes : difference.Denotes places value)
    (fits : weight ⟨Schema.base, rows⟩ places + value.natAbs < Decimal.coefficientBound) :
    Decimal.Summable places
      (amounts ⟨Schema.base, rows ++ [correctionRow bank account difference date]⟩) := by
  constructor
  · exact scale_le_append_correctionRow summable.scaleBounded denotes bank account date
  · have whole := weight_append Schema.base rows
      [correctionRow bank account difference date] places
    rw [weight_correctionRow denotes] at whole
    unfold weight at whole fits
    omega

end Correction

/-- A store in which an account had the balance `before`, and the store with its
correction, in which it has the balance `after`. One row was added where the
balance was not the reported one, none otherwise. -/
structure Reaches (store : Store) (account : String) (reported before after : Decimal)
    (corrected : Store) (added : Bool) : Prop where
  balanced : store.balance account = .ok before
  rebalanced : corrected.balance account = .ok after
  reached : after.sameValue reported = true ↔
    account ≠ counterparty ∨ before.sameValue reported = true
  idle : account = counterparty → after.sameValue before = true
  rows : ∃ rows, corrected = ⟨store.schema, store.rows ++ rows⟩ ∧
    rows.length = if added then 1 else 0
  changed : added = true ↔ before.sameValue reported = false
  others : ∀ other, other ≠ account → other ≠ counterparty →
    corrected.balance other = store.balance other

section Outcomes

variable {store : Store} {account : String} {reported before : Decimal}

theorem reaches_of_equal (balanced : store.balance account = .ok before)
    (same : before.sameValue reported = true) :
    Reaches store account reported before before store false where
  balanced := balanced
  rebalanced := balanced
  reached := iff_of_true same (Or.inr same)
  idle := fun _ => Decimal.sameValue_refl before
  rows := ⟨[], by rw [List.append_nil], rfl⟩
  changed := by rw [same]; decide
  others := fun _ _ _ => rfl

/-- The balances are compared as whole numbers: `own` is what the rows move, and
`value` what is reported. -/
theorem reaches_of_difference {rows : List Row} (bank : String) {difference : Decimal}
    {date : Date} {places : Nat} {value own : Int}
    (conform : ∀ row ∈ rows, row.Conforms Schema.base)
    (summable : Decimal.Summable places (amounts ⟨Schema.base, rows⟩))
    (balanced : balance ⟨Schema.base, rows⟩ account = .ok before)
    (moved : own = net ⟨Schema.base, rows⟩ places account)
    (denotes : before.Denotes places own) (stated : reported.Denotes places value)
    (differs : difference.Denotes places (value - own)) (missed : value ≠ own)
    (fits : weight ⟨Schema.base, rows⟩ places + (value - own).natAbs < Decimal.coefficientBound) :
    ∃ after, Reaches ⟨Schema.base, rows⟩ account reported before after
      ⟨Schema.base, rows ++ [correctionRow bank account difference date]⟩ true := by
  have conformAll : ∀ row ∈ rows ++ [correctionRow bank account difference date],
      row.Conforms Schema.base :=
    List.forall_mem_append.mpr
      ⟨conform, List.forall_mem_singleton.mpr (conforms_correctionRow ..)⟩
  obtain ⟨after, rebalanced, afterDenotes⟩ := balance_denotes conformAll movementColumns_base
    (summable_append_correctionRow summable differs fits) account
  rw [net_append_correctionRow (moved ▸ differs), ← moved] at afterDenotes
  have different : ¬ before.sameValue reported = true := by
    rw [denotes.sameValue_iff stated]
    exact missed.symm
  refine ⟨after, balanced, rebalanced, ?_, ?_, ⟨_, rfl, rfl⟩, ?_, ?_⟩
  · rw [afterDenotes.sameValue_iff stated, or_iff_left different]
    split
    · rename_i universal
      exact iff_of_false missed.symm (not_not.mpr universal)
    · rename_i ordinary
      exact iff_of_true rfl ordinary
  · intro universal
    rw [afterDenotes.sameValue_iff denotes, if_pos universal]
  · exact iff_of_true rfl (Bool.eq_false_iff.mpr different)
  · intro other differ ordinary
    exact balance_append_correctionRow_of_ne differ ordinary

end Outcomes

/-- An account is brought to the balance that its bank reports, by at most one
row behind the others, unless it is the counterparty: that keeps the balance it
has, whatever is reported. No other account is touched. -/
theorem correctBalance_reaches {store : Store} (base : store.schema = Schema.base)
    (conform : ∀ row ∈ store.rows, row.Conforms store.schema) (bank account : String)
    {reported : Decimal} (cents : ∀ amount ∈ reported :: store.amounts, amount.scale ≤ 2)
    (total : ((reported :: store.amounts).map (Decimal.weight 2)).sum < 10 ^ 27)
    (fallback : Date) :
    ∃ corrected added before after,
      store.correctBalance bank account reported fallback = .ok (corrected, added) ∧
        Reaches store account reported before after corrected added := by
  obtain ⟨schema, rows⟩ := store
  change schema = Schema.base at base
  subst base
  have room : 3 * 10 ^ 27 ≤ Decimal.coefficientBound := by decide
  rw [List.forall_mem_cons] at cents
  have light : reported.weight 2 + weight ⟨Schema.base, rows⟩ 2 < 10 ^ 27 := total
  have summable : Decimal.Summable 2 (amounts ⟨Schema.base, rows⟩) := by
    refine ⟨cents.2, ?_⟩
    change weight ⟨Schema.base, rows⟩ 2 < _
    omega
  have stated := Decimal.denotes_coefficientAt cents.1
  obtain ⟨before, balanced, denotes⟩ :=
    balance_denotes conform movementColumns_base summable account
  have bounded := sum_natAbs_net_le conform movementColumns_base 2
    (List.pairwise_singleton _ account)
  rw [List.map_singleton, List.sum_singleton] at bounded
  have fits : weight ⟨Schema.base, rows⟩ 2 +
      (reported.coefficientAt 2 - net ⟨Schema.base, rows⟩ 2 account).natAbs <
        Decimal.coefficientBound := by
    unfold Decimal.weight at light
    omega
  rcases correctBalance_exact rfl conform summable bank account stated
    (Nat.lt_of_le_of_lt (Nat.le_add_left _ _) fits) fallback with
    ⟨reached, done⟩ | ⟨missed, difference, differs, done⟩
  · have same := (denotes.sameValue_iff stated).mpr reached.symm
    exact ⟨_, _, before, before, done, reaches_of_equal balanced same⟩
  · obtain ⟨after, reaches⟩ := reaches_of_difference bank conform summable balanced rfl
      denotes stated differs missed fits
    exact ⟨_, _, before, after, done, reaches⟩

def overdrawn : Store :=
  let lunch : Dollars := .ofMagnitude ((Decimal.make? 1250 2).getD .zero)
  let moved : Dollars := .ofMagnitude ((Decimal.make? 7 0).getD .zero)
  ⟨.base, [.base "Acme" "checking" "cafe" ⟨2024, 3, 9⟩ "lunch" lunch,
    .base "Acme" "checking" "checking" ⟨2024, 2, 28⟩ "moved" moved,
    .base "Acme" counterparty "checking" ⟨2024, 3, 1⟩ balanceCorrection moved]⟩

def owed : Decimal :=
  (Decimal.make? (-205) 1).getD .zero

theorem correctBalance_reaches_overdrawn :
    overdrawn.schema = Schema.base ∧ (∀ row ∈ overdrawn.rows, row.Conforms overdrawn.schema) ∧
      (∀ amount ∈ owed :: overdrawn.amounts, amount.scale ≤ 2) ∧
      ((owed :: overdrawn.amounts).map (Decimal.weight 2)).sum < 10 ^ 27 ∧
      ∃ corrected added before after,
        overdrawn.correctBalance "Acme" "checking" owed ⟨2024, 4, 1⟩ = .ok (corrected, added) ∧
          Reaches overdrawn "checking" owed before after corrected added := by
  have base : overdrawn.schema = Schema.base := rfl
  have conform : ∀ row ∈ overdrawn.rows, row.Conforms overdrawn.schema := by decide
  have cents : ∀ amount ∈ owed :: overdrawn.amounts, amount.scale ≤ 2 := by decide +kernel
  have total : ((owed :: overdrawn.amounts).map (Decimal.weight 2)).sum < 10 ^ 27 := by
    decide +kernel
  exact ⟨base, conform, cents, total,
    correctBalance_reaches base conform "Acme" "checking" cents total ⟨2024, 4, 1⟩⟩

/-- The counterparty is not brought below nothing: a row is added, and the balance
stays what it was. -/
theorem correctBalance_misses_counterparty :
    ∃ corrected after,
      (empty Schema.base).correctBalance "Acme" counterparty owed ⟨2024, 4, 1⟩ =
          .ok (corrected, true) ∧
        corrected.balance counterparty = .ok after ∧ after.sameValue owed = false :=
  ⟨_, _, rfl, rfl, rfl⟩

end Store

end Passbook
