/-
Reported balances are reached. The store of a document holds its transactions in
order and then one correction for each account that the transactions alone leave
with another balance than the reported one. All corrections stand on the oldest
day of the transactions, or on the day of the balances where there are none, and
with them every account has its reported balance at once.
-/

import Passbook.Proofs.Source.Static

namespace Passbook

namespace StaticPayload

def days (payload : StaticPayload) : List Date :=
  payload.transactions.filterMap fun transaction => (Date.ofText transaction.date).toOption

/-- The oldest day of the transactions, and without any the day of the balances. -/
def IsCorrectionDay (payload : StaticPayload) (day : Date) : Prop :=
  day.IsOldest payload.days ∨
    (payload.transactions = [] ∧
      ∃ text, payload.asOf = some text ∧ Date.ofText text = .ok day)

/-- Whether transactions alone give an account another balance than the stated one. -/
def differs (transactions : List Row) (entry : String × String) : Bool :=
  match Store.balance ⟨Schema.base, transactions⟩ entry.1, statedBalance? entry.2 with
  | .ok balance, some reported => !balance.sameValue reported
  | _, _ => false

end StaticPayload

namespace StaticSource

open StaticPayload

/-- What the store of a document consists of. -/
structure Reported (name : String) (payload : StaticPayload) (transactions corrections : List Row) :
    Prop where
  ordered : List.Forall₂ (IsRowOf name) payload.transactions transactions
  banks : ∀ row ∈ transactions ++ corrections,
    Store.field ⟨Schema.base, transactions ++ corrections⟩ row Schema.bank = .ok (.text name)
  ascending : payload.balances.Ascending
  computed : ∀ account ∈ payload.balances.keys, ∃ balance,
    Store.balance ⟨Schema.base, transactions⟩ account = .ok balance
  corrected : List.Forall₂
    (fun entry row => ∃ difference day, payload.IsCorrectionDay day ∧
      row = Store.correctionRow name entry.1 difference day)
    (payload.balances.pairs.filter (differs transactions)) corrections
  reached : ∀ account text, payload.balances.find? account = some text →
    ∃ reported balance, statedBalance? text = some reported ∧
      Store.balance ⟨Schema.base, transactions ++ corrections⟩ account = .ok balance ∧
      balance.sameValue reported = true

theorem forall₂_isRowOf {name : String} {transactions : List StaticTransaction} {rows : List Row}
    (made : transactions.map (StaticSource.row name) = rows.map .ok) :
    List.Forall₂ (IsRowOf name) transactions rows := by
  induction transactions generalizing rows with
  | nil =>
      cases rows with
      | nil => exact List.Forall₂.nil
      | cons row rows => cases made
  | cons transaction transactions ih =>
      cases rows with
      | nil => cases made
      | cons row rows =>
          rw [List.map_cons, List.map_cons, List.cons.injEq] at made
          exact List.Forall₂.cons (isRowOf_of_row made.1) (ih made.2)

theorem days_eq {name : String} {payload : StaticPayload} {rows : List Row}
    (own : List.Forall₂ (IsRowOf name) payload.transactions rows) :
    Store.days rows = payload.days := by
  unfold StaticPayload.days Store.days
  revert own
  generalize payload.transactions = transactions
  intro own
  induction own with
  | nil => rfl
  | @cons transaction _ _ _ first others ih =>
      obtain ⟨date, amount, read, _, rfl⟩ := first
      have stated : (Date.ofText transaction.date).toOption = some date := by
        rw [read]
        rfl
      rw [List.filterMap_cons, List.filterMap_cons, stated, ih]
      rfl

theorem isCorrectionDay_of_correctionDay {name : String} {payload : StaticPayload}
    {rows : List Row} {asOf : Option Date}
    (own : List.Forall₂ (IsRowOf name) payload.transactions rows)
    (conform : ∀ row ∈ rows, row.Conforms Schema.base)
    (read : asOfDate payload.asOf = .ok asOf) {day : Date}
    (dated : CorrectionDay asOf rows day) : payload.IsCorrectionDay day := by
  unfold CorrectionDay at dated
  cases oldest : Store.oldest? (Store.days rows) with
  | some first =>
      rw [oldest, Option.some_or, Option.some.injEq] at dated
      rw [days_eq own, dated] at oldest
      exact Or.inl (Store.isOldest_of_oldest? oldest)
  | none =>
      rw [oldest, Option.none_or] at dated
      subst dated
      have noRows := Store.rows_eq_nil_of_days conform (Store.oldest?_eq_none_iff.mp oldest)
      rw [noRows, List.forall₂_nil_right_iff] at own
      refine Or.inr ⟨own, ?_⟩
      unfold asOfDate at read
      split at read
      · cases read
      · rename_i text stated
        split at read
        · cases read
        · rename_i date found
          cases read
          exact ⟨text, stated, found⟩

theorem differs_eq_off {places : Nat} {rows : List Row}
    (conform : ∀ row ∈ rows, row.Conforms Schema.base)
    (summable : Decimal.Summable places (Store.amounts ⟨Schema.base, rows⟩))
    {entry : String × String} {reported : Decimal} (stated : statedBalance? entry.2 = some reported)
    (within : reported.scale ≤ places) :
    differs rows entry = off places ⟨Schema.base, rows⟩ entry := by
  obtain ⟨balance, computed, denotes⟩ :=
    Store.balance_denotes conform Store.movementColumns_base summable entry.1
  have same := denotes.sameValue_iff (Decimal.denotes_coefficientAt within)
  unfold differs off
  rw [computed, stated, Option.getD_some]
  dsimp only
  rw [Bool.eq_iff_iff, Bool.not_eq_true', ← Bool.not_eq_true, same, decide_eq_true_iff]
  exact not_congr eq_comm

/-- Parsing a document gives its transactions and one correction for each account
whose reported balance they miss, after which all reported balances are reached. -/
theorem reported_of_parseTransactions {source : StaticSource} {raw : List UInt8}
    {payload : StaticPayload} {store : Store} (decoded : StaticPayload.decode raw = .ok payload)
    (accepted : source.parseTransactions raw = .ok store)
    (ordinary : Store.counterparty ∉ payload.balances.keys)
    (cents : ∀ amount ∈ payload.stated, amount.scale ≤ 2)
    (total : (payload.stated.map (Decimal.weight 2)).sum < 10 ^ 27) :
    ∃ transactions corrections, store = ⟨Schema.base, transactions ++ corrections⟩ ∧
      Reported source.name payload transactions corrections := by
  have room : 3 * 10 ^ 27 ≤ Decimal.coefficientBound := by decide
  obtain ⟨rows, asOf, made, read, corrected, summable, _⟩ :=
    corrected_of_parseTransactions decoded accepted ordinary cents (by omega)
  have parsed := parsed_of_parseTransactions decoded accepted ordinary cents (by omega)
  have conformAll := parsed.conform
  have ascending := StaticPayload.ascending_balances decoded
  have own := forall₂_isRowOf made
  have conform := conform_of_transactions made
  have summableAll : Decimal.Summable 2 store.amounts := by
    refine ⟨parsed.scaleBounded, ?_⟩
    have weight : (store.amounts.map (Decimal.weight 2)).sum ≤ _ := parsed.weightBounded
    omega
  obtain ⟨corrections, rfl, corrects⟩ := corrected.rows
  have within {entry : String × String} (member : entry ∈ payload.balances.pairs)
      {reported : Decimal} (stated : statedBalance? entry.2 = some reported) :
      reported.scale ≤ 2 :=
    cents reported (List.mem_append_right _ (List.mem_filterMap.mpr ⟨entry, member, stated⟩))
  refine ⟨rows, corrections, rfl, own, ?_, ascending, ?_, ?_, ?_⟩
  · intro row member
    obtain ⟨_, _, _, _, _, rfl, _⟩ := parsed.rows row member
    rfl
  · intro account _
    obtain ⟨balance, computed, _⟩ :=
      Store.balance_denotes conform Store.movementColumns_base summable account
    exact ⟨balance, computed⟩
  · have same : payload.balances.pairs.filter (differs rows) =
        payload.balances.pairs.filter (off 2 ⟨Schema.base, rows⟩) := by
      apply List.filter_congr
      intro entry member
      obtain ⟨reported, stated, _⟩ := parsed.reached entry member
      exact differs_eq_off conform summable stated (within member stated)
    rw [same]
    refine corrects.imp ?_
    rintro entry row ⟨difference, day, dated, made⟩
    exact ⟨difference, day, isCorrectionDay_of_correctionDay own conform read dated, made⟩
  · intro account text found
    have member := (OrderedMap.find?_eq_some_iff ascending).mp found
    obtain ⟨reported, stated, net⟩ := parsed.reached (account, text) member
    obtain ⟨balance, computed, denotes⟩ :=
      Store.balance_denotes conformAll Store.movementColumns_base summableAll account
    refine ⟨reported, balance, stated, computed, ?_⟩
    rw [denotes.sameValue_iff (Decimal.denotes_coefficientAt (within member stated))]
    exact net

def lunch : StaticPayload :=
  ⟨["checking", "savings"], [⟨"checking", "cafe", "2024/03/09", "lunch", "$12.50"⟩,
    ⟨"employer", "checking", "2024/02/28", "wages", "100"⟩],
    ⟨[("checking", "$87.5"), ("credit", "-20"), ("savings", "3.20")]⟩, none⟩

def lunchStore : Store :=
  let paid : Dollars := .ofMagnitude ((Decimal.make? 1250 2).getD .zero)
  let wages : Dollars := .ofMagnitude ((Decimal.make? 100 0).getD .zero)
  let owed : Decimal := (Decimal.make? (-20) 0).getD .zero
  let saved : Decimal := (Decimal.make? 320 2).getD .zero
  ⟨.base, [.base "Acme" "checking" "cafe" ⟨2024, 3, 9⟩ "lunch" paid,
    .base "Acme" "employer" "checking" ⟨2024, 2, 28⟩ "wages" wages,
    Store.correctionRow "Acme" "credit" owed ⟨2024, 2, 28⟩,
    Store.correctionRow "Acme" "savings" saved ⟨2024, 2, 28⟩]⟩

theorem reported_of_parseTransactions_lunch :
    ∃ transactions corrections, lunchStore = ⟨Schema.base, transactions ++ corrections⟩ ∧
      Reported "Acme" lunch transactions corrections := by
  have accepted : (ofPayload "Acme" lunch).parseTransactions lunch.encode = .ok lunchStore := by
    decide +kernel
  exact reported_of_parseTransactions (by decide +kernel) accepted (by decide +kernel)
    (by decide +kernel) (by decide +kernel)

end StaticSource

end Passbook
