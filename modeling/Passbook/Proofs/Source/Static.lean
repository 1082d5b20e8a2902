/-
The stores of static sources. A store that was parsed has a row for each
transaction of the document and then corrections; afterwards every account with
a reported balance has it, for a correction never touches another account than
its own. How much all rows weigh is bounded by what the document states.
-/

import Mathlib.Algebra.Order.BigOperators.Group.List
import Passbook.Proofs.Json
import Passbook.Proofs.Store
import Passbook.Proofs.Store.Correction
import Passbook.Source.Static

namespace Passbook

/-! ## Parsed stores fit

Whatever a static source is given to parse, the rows of the store that it parses
to fit the store, for each was checked when it was added. -/

namespace StaticSource

theorem wellFormed_of_ingestTransactions {name : String} {transactions : List StaticTransaction}
    {store after : Store} (wellFormed : store.WellFormed)
    (ingested : ingestTransactions name store transactions = .ok after) : after.WellFormed := by
  induction transactions generalizing store with
  | nil =>
      cases ingested
      exact wellFormed
  | cons transaction rest ih =>
      rw [ingestTransactions] at ingested
      split at ingested
      · cases ingested
      · split at ingested
        · cases ingested
        · rename_i taken
          exact ih (wellFormed.ingest taken) ingested

theorem wellFormed_of_correct {name account balance : String} {asOf : Option Date}
    {store after : Store} (wellFormed : store.WellFormed)
    (corrected : correct name asOf store account balance = .ok after) : after.WellFormed := by
  unfold correct at corrected
  split at corrected
  · cases corrected
  · split at corrected
    · cases corrected
    · split at corrected
      · cases corrected
      · cases corrected
      · rename_i succeeded
        cases corrected
        exact wellFormed.correctBalance succeeded

theorem wellFormed_of_correctAll {name : String} {asOf : Option Date}
    {stated : List (String × String)} {store after : Store} (wellFormed : store.WellFormed)
    (corrected : correctAll name asOf store stated = .ok after) : after.WellFormed := by
  induction stated generalizing store with
  | nil =>
      cases corrected
      exact wellFormed
  | cons entry rest ih =>
      rw [correctAll] at corrected
      split at corrected
      · cases corrected
      · rename_i next taken
        exact ih (wellFormed_of_correct wellFormed taken) corrected

theorem wellFormed_of_parseTransactions {source : StaticSource} {raw : List UInt8}
    {store : Store} (parsed : source.parseTransactions raw = .ok store) : store.WellFormed := by
  unfold parseTransactions at parsed
  split at parsed
  · cases parsed
  · split at parsed
    · cases parsed
    · rename_i result made
      cases parsed
      unfold storeOf at made
      split at made
      · cases made
      · rename_i ingested taken
        split at made
        · cases made
        · have start := Store.wellFormed_empty Schema.base_wellFormed
          exact wellFormed_of_correctAll (wellFormed_of_ingestTransactions start taken) made

end StaticSource

/-! ## Parsed documents -/

namespace StaticPayload

private theorem ascending_of_reader {input rest : Json.Input} {payload : StaticPayload}
    (read : reader input = .ok (payload, rest)) : payload.balances.Ascending := by
  let holds (parts : Parts) : Prop :=
    ∀ balances, parts.balances = some balances → balances.Ascending
  unfold reader at read
  have begins : holds {} := fun _ absent => nomatch absent
  obtain ⟨parts, ascending, made⟩ : ∃ parts, holds parts ∧ ofParts? parts = some payload := by
    refine Json.Reader.record_keeps ?_ begins read
    intro field member
    simp only [List.mem_cons, List.not_mem_nil, or_false] at member
    rcases member with rfl | rfl | rfl | rfl
    · exact Json.Reader.Field.keeps_of fun _ _ _ _ before _ => before
    · exact Json.Reader.Field.keeps_of fun _ _ _ _ before _ => before
    · apply Json.Reader.Field.keeps_of
      intro parts value input rest _ read balances same
      cases same
      exact Json.Reader.ascending_table read
    · exact Json.Reader.Field.keeps_of fun _ _ _ _ before _ => before
  unfold ofParts? at made
  obtain ⟨accounts, _, rfl⟩ := Option.map_eq_some_iff.mp made
  cases found : parts.balances with
  | none => exact OrderedMap.ascending_empty
  | some balances => exact ascending balances found

theorem ascending_balances {bytes : List UInt8} {payload : StaticPayload}
    (decoded : decode bytes = .ok payload) : payload.balances.Ascending := by
  obtain ⟨rest, read⟩ := Json.Reader.document_eq_ok decoded
  exact ascending_of_reader read

def statedBalance? (text : String) : Option Decimal :=
  (Decimal.ofChars (text.toList.dropWhile (· == '$'))).toOption

def statedAmount? (transaction : StaticTransaction) : Option Decimal :=
  (Dollars.ofText transaction.amount).toOption.map Dollars.amount

def stated (payload : StaticPayload) : List Decimal :=
  payload.transactions.filterMap statedAmount? ++
    payload.balances.pairs.filterMap fun entry => statedBalance? entry.2

end StaticPayload

namespace StaticSource

open StaticPayload

/-- The row of a transaction: what it states, under the name of the source. -/
def IsRowOf (name : String) (transaction : StaticTransaction) (row : Row) : Prop :=
  ∃ date amount, Date.ofText transaction.date = .ok date ∧
    Dollars.ofText transaction.amount = .ok amount ∧
    row = Row.base name transaction.origin transaction.destination date
      transaction.description amount

theorem isRowOf_of_row {name : String} {transaction : StaticTransaction} {row : Row}
    (made : StaticSource.row name transaction = .ok row) : IsRowOf name transaction row := by
  unfold StaticSource.row at made
  split at made
  · cases made
  · rename_i date dated
    split at made
    · cases made
    · rename_i amount read
      cases made
      exact ⟨date, amount, dated, read, rfl⟩

theorem ingestTransactions_eq_ok {name : String} {store after : Store}
    {transactions : List StaticTransaction}
    (ingested : ingestTransactions name store transactions = .ok after) :
    ∃ rows, transactions.map (StaticSource.row name) = rows.map .ok ∧
      after = ⟨store.schema, store.rows ++ rows⟩ := by
  induction transactions generalizing store with
  | nil =>
      cases ingested
      exact ⟨[], rfl, by rw [List.append_nil]⟩
  | cons transaction transactions ih =>
      unfold ingestTransactions at ingested
      split at ingested
      · cases ingested
      · rename_i row made
        split at ingested
        · cases ingested
        · rename_i grown taken
          obtain ⟨_, rfl⟩ := Store.ingest_eq_ok_iff.mp taken
          obtain ⟨rows, own, rfl⟩ := ih ingested
          refine ⟨row :: rows, ?_, ?_⟩
          · rw [List.map_cons, List.map_cons, made, own]
          · rw [List.append_assoc, List.singleton_append]

theorem rows_of_transactions {name : String} {transactions : List StaticTransaction}
    {rows : List Row} (made : transactions.map (StaticSource.row name) = rows.map .ok) :
    (∀ row ∈ rows, ∃ transaction ∈ transactions, ∃ date amount,
      row = Row.base name transaction.origin transaction.destination date
        transaction.description amount) ∧
      Store.amounts ⟨Schema.base, rows⟩ = transactions.filterMap statedAmount? := by
  induction transactions generalizing rows with
  | nil =>
      cases rows with
      | nil => exact ⟨fun _ absent => absurd absent List.not_mem_nil, rfl⟩
      | cons row rows => cases made
  | cons transaction transactions ih =>
      cases rows with
      | nil => cases made
      | cons row rows =>
          rw [List.map_cons, List.map_cons, List.cons.injEq] at made
          obtain ⟨first, others⟩ := made
          obtain ⟨bases, amounts⟩ := ih others
          obtain ⟨date, amount, _, read, rfl⟩ := isRowOf_of_row first
          constructor
          · intro row member
            rcases List.mem_cons.mp member with rfl | there
            · exact ⟨transaction, List.mem_cons_self, date, amount, rfl⟩
            · obtain ⟨source, present, rest⟩ := bases row there
              exact ⟨source, List.mem_cons_of_mem _ present, rest⟩
          · have stated : statedAmount? transaction = some amount.amount := by
              unfold statedAmount?
              rw [read]
              rfl
            rw [List.filterMap_cons_some stated, ← amounts]
            exact Store.amounts_append Schema.base [_] rows

def gap (places : Nat) (store : Store) (stated : List (String × String)) : Nat :=
  (stated.map fun entry =>
    (((statedBalance? entry.2).getD Decimal.zero).coefficientAt places -
      store.net places entry.1).natAbs).sum

def off (places : Nat) (store : Store) (entry : String × String) : Bool :=
  decide (((statedBalance? entry.2).getD Decimal.zero).coefficientAt places ≠
    store.net places entry.1)

/-- Corrections stand on the oldest day of the rows, and where there are no rows
on the day of the balances. -/
def CorrectionDay (asOf : Option Date) (rows : List Row) (day : Date) : Prop :=
  (Store.oldest? (Store.days rows)).or asOf = some day

def IsCorrection (name : String) (asOf : Option Date) (rows : List Row)
    (entry : String × String) (row : Row) : Prop :=
  ∃ difference day, CorrectionDay asOf rows day ∧
    row = Store.correctionRow name entry.1 difference day

/-- A store to which corrections were added, one for each account that was off:
every account with a stated balance has it, and other accounts have what they
had. -/
structure Corrected (name : String) (asOf : Option Date) (places : Nat)
    (stated : List (String × String)) (store after : Store) : Prop where
  rows : ∃ corrections, after = ⟨store.schema, store.rows ++ corrections⟩ ∧
    List.Forall₂ (IsCorrection name asOf store.rows) (stated.filter (off places store)) corrections
  scaleBounded : ∀ amount ∈ after.amounts, amount.scale ≤ places
  weightBounded : after.weight places ≤ store.weight places + gap places store stated
  reached : ∀ entry ∈ stated, ∃ reported, statedBalance? entry.2 = some reported ∧
    after.net places entry.1 = reported.coefficientAt places
  kept : ∀ account, account ∉ stated.map Prod.fst → account ≠ Store.counterparty →
    after.net places account = store.net places account

section Corrections

variable {name : String} {places : Nat} {asOf : Option Date} {store after : Store}

private theorem off_eq (store : Store) {account text : String} {reported : Decimal}
    (stated : statedBalance? text = some reported) :
    off places store (account, text) =
      decide (reported.coefficientAt places ≠ store.net places account) := by
  unfold off
  rw [stated, Option.getD_some]

private theorem correctionDay_of_fallbackDate {rows : List Row}
    (conform : ∀ row ∈ rows, row.Conforms Schema.base) {fallback : Date}
    (chosen : fallbackDate asOf ⟨Schema.base, rows⟩ = .ok fallback) :
    CorrectionDay asOf rows ((Store.oldest? (Store.days rows)).getD fallback) := by
  unfold CorrectionDay
  cases oldest : Store.oldest? (Store.days rows) with
  | some day => rfl
  | none =>
      have noRows := Store.rows_eq_nil_of_days conform (Store.oldest?_eq_none_iff.mp oldest)
      subst noRows
      cases asOf with
      | none => cases chosen
      | some day =>
          cases chosen
          rfl

/-- A correction does not change on which day others stand. -/
private theorem correctionDay_append {rows : List Row} {day own : Date}
    (first : CorrectionDay asOf rows own) {account : String} {difference : Decimal}
    (next : CorrectionDay asOf
      (rows ++ [Store.correctionRow name account difference own]) day) :
    CorrectionDay asOf rows day := by
  have added : Store.days (rows ++ [Store.correctionRow name account difference own]) =
      Store.days rows ++ [own] := by
    obtain ⟨origin, destination, row, _⟩ :=
      Store.correctionRow_eq_base name account difference own
    rw [row, Store.days, List.filterMap_append]
    rfl
  have same : (Store.oldest? (Store.days rows)).getD own = own := by
    unfold CorrectionDay at first
    cases oldest : Store.oldest? (Store.days rows) with
    | none => rfl
    | some other =>
        rw [oldest] at first
        exact Option.some.inj first
  have still := Store.oldest?_append_oldest (Store.days rows) own
  rw [same] at still
  have unchanged : own = day := by
    unfold CorrectionDay at next
    rw [added, still] at next
    exact Option.some.inj next
  exact unchanged ▸ first

private theorem gap_cons (store : Store) (account text : String) (rest : List (String × String)) :
    gap places store ((account, text) :: rest) =
      gap places store [(account, text)] + gap places store rest := by
  unfold gap
  rw [List.map_cons, List.sum_cons, List.map_singleton, List.sum_singleton]

private theorem gap_singleton (store : Store) {account text : String} {reported : Decimal}
    (stated : statedBalance? text = some reported) :
    gap places store [(account, text)] =
      (reported.coefficientAt places - store.net places account).natAbs := by
  unfold gap
  rw [List.map_singleton, List.sum_singleton, stated, Option.getD_some]

private theorem corrected_of_equal (scales : ∀ amount ∈ store.amounts, amount.scale ≤ places)
    {account text : String} {reported : Decimal} (stated : statedBalance? text = some reported)
    (same : reported.coefficientAt places = store.net places account) :
    Corrected name asOf places [(account, text)] store store where
  rows := by
    refine ⟨[], by rw [List.append_nil], ?_⟩
    rw [List.filter_cons_of_neg (by simp [off_eq store stated, same])]
    exact List.Forall₂.nil
  scaleBounded := scales
  weightBounded := Nat.le_add_right _ _
  reached := by
    intro entry member
    rw [List.mem_singleton] at member
    subst member
    exact ⟨reported, stated, same.symm⟩
  kept := fun _ _ _ => rfl

private theorem corrected_of_difference {rows : List Row}
    (scales : ∀ amount ∈ Store.amounts ⟨Schema.base, rows⟩, amount.scale ≤ places)
    {account text : String} (ordinary : account ≠ Store.counterparty) {reported : Decimal}
    (stated : statedBalance? text = some reported) {difference : Decimal}
    (differs : difference.Denotes places
      (reported.coefficientAt places - Store.net ⟨Schema.base, rows⟩ places account))
    (different : reported.coefficientAt places ≠ Store.net ⟨Schema.base, rows⟩ places account)
    {day : Date} (dated : CorrectionDay asOf rows day) :
    Corrected name asOf places [(account, text)] ⟨Schema.base, rows⟩
      ⟨Schema.base, rows ++ [Store.correctionRow name account difference day]⟩ where
  rows := by
    refine ⟨_, rfl, ?_⟩
    rw [List.filter_cons_of_pos (by simp [off_eq _ stated, different])]
    exact List.Forall₂.cons ⟨difference, day, dated, rfl⟩ List.Forall₂.nil
  scaleBounded := Store.scale_le_append_correctionRow scales differs name account day
  weightBounded := by
    rw [gap_singleton _ stated, Store.weight_append, Store.weight_correctionRow differs]
  reached := by
    intro entry member
    rw [List.mem_singleton] at member
    subst member
    refine ⟨reported, stated, ?_⟩
    rw [Store.net_append, Store.net_correctionRow differs name ordinary]
    dsimp only
    omega
  kept := by
    intro other differ otherOrdinary
    have apart : other ≠ account := fun same => differ (by simp [same])
    rw [Store.net_append, Store.net_correctionRow_of_ne name apart otherOrdinary, Int.add_zero]

theorem corrected_of_correct (base : store.schema = Schema.base)
    (conform : ∀ row ∈ store.rows, row.Conforms store.schema)
    (scales : ∀ amount ∈ store.amounts, amount.scale ≤ places) {account text : String}
    (ordinary : account ≠ Store.counterparty)
    (statedScale : ∀ reported, statedBalance? text = some reported → reported.scale ≤ places)
    (fits : store.weight places + gap places store [(account, text)] < Decimal.coefficientBound)
    (correct : StaticSource.correct name asOf store account text = .ok after) :
    Corrected name asOf places [(account, text)] store after := by
  unfold StaticSource.correct at correct
  split at correct
  · cases correct
  · rename_i reported read
    have stated : statedBalance? text = some reported := by
      unfold statedBalance?
      rw [read]
      rfl
    have denotes := Decimal.denotes_coefficientAt (statedScale reported stated)
    rw [gap_singleton store stated] at fits
    split at correct
    · cases correct
    · rename_i fallback chosen
      have summable : Decimal.Summable places store.amounts :=
        ⟨scales, Nat.lt_of_le_of_lt (Nat.le_add_right _ _) fits⟩
      have exactly := Store.correctBalance_exact base conform summable name account denotes
        (Nat.lt_of_le_of_lt (Nat.le_add_left _ _) fits) fallback
      rcases exactly with ⟨same, done⟩ | ⟨different, difference, differs, done⟩
      · rw [done] at correct
        cases correct
        exact corrected_of_equal scales stated same
      · rw [done] at correct
        cases correct
        obtain ⟨schema, rows⟩ := store
        change schema = Schema.base at base
        subst base
        exact corrected_of_difference scales ordinary stated differs different
          (correctionDay_of_fallbackDate conform chosen)

private theorem exists_correctionRow {rows corrections : List Row}
    {stated : List (String × String)}
    (own : List.Forall₂ (IsCorrection name asOf rows) (stated.filter (off places store)) corrections)
    {row : Row} (member : row ∈ corrections) :
    ∃ account ∈ stated.map Prod.fst, ∃ difference day,
      row = Store.correctionRow name account difference day := by
  obtain ⟨index, within, rfl⟩ := List.mem_iff_getElem.mp member
  have present := own.length_eq.symm ▸ within
  obtain ⟨difference, day, _, same⟩ := own.get present within
  exact ⟨_, List.mem_map_of_mem (List.mem_of_mem_filter (List.getElem_mem present)), difference,
    day, same⟩

theorem Corrected.conform {stated : List (String × String)}
    (corrected : Corrected name asOf places stated store after) (base : store.schema = Schema.base)
    (conform : ∀ row ∈ store.rows, row.Conforms store.schema) :
    ∀ row ∈ after.rows, row.Conforms after.schema := by
  obtain ⟨corrections, rfl, own⟩ := corrected.rows
  intro row member
  rcases List.mem_append.mp member with earlier | added
  · exact conform row earlier
  · obtain ⟨account, _, difference, date, rfl⟩ := exists_correctionRow own added
    rw [base]
    exact Store.conforms_correctionRow ..

private theorem Corrected.gap_eq {stated rest : List (String × String)}
    (corrected : Corrected name asOf places stated store after)
    (apart : ∀ entry ∈ rest, entry.1 ∉ stated.map Prod.fst)
    (ordinary : ∀ entry ∈ rest, entry.1 ≠ Store.counterparty) :
    gap places after rest = gap places store rest := by
  unfold gap
  congr 1
  apply List.map_congr_left
  intro entry member
  rw [corrected.kept entry.1 (apart entry member) (ordinary entry member)]

private theorem Corrected.off_eq {stated rest : List (String × String)}
    (corrected : Corrected name asOf places stated store after)
    (apart : ∀ entry ∈ rest, entry.1 ∉ stated.map Prod.fst)
    (ordinary : ∀ entry ∈ rest, entry.1 ≠ Store.counterparty) :
    rest.filter (off places after) = rest.filter (off places store) := by
  apply List.filter_congr
  intro entry member
  unfold off
  rw [corrected.kept entry.1 (apart entry member) (ordinary entry member)]

/-- Correcting one account does not change on which day others are corrected. -/
private theorem Corrected.correctionDay {account text : String}
    (one : Corrected name asOf places [(account, text)] store after) {day : Date}
    (dated : CorrectionDay asOf after.rows day) : CorrectionDay asOf store.rows day := by
  obtain ⟨corrections, rfl, own⟩ := one.rows
  rw [List.filter_cons, List.filter_nil] at own
  split at own
  · cases own with
    | cons first none =>
        cases none
        obtain ⟨difference, other, stands, rfl⟩ := first
        exact correctionDay_append stands dated
  · cases own
    rw [List.append_nil] at dated
    exact dated

/-- Correcting one account and then others corrects them all. -/
private theorem Corrected.cons {account text : String} {rest : List (String × String)}
    {middle : Store} (one : Corrected name asOf places [(account, text)] store middle)
    (others : Corrected name asOf places rest middle after)
    (sameGap : gap places middle rest = gap places store rest)
    (sameOff : rest.filter (off places middle) = rest.filter (off places store))
    (absent : account ∉ rest.map Prod.fst) (ordinary : account ≠ Store.counterparty) :
    Corrected name asOf places ((account, text) :: rest) store after where
  rows := by
    obtain ⟨added, result, ownAdded⟩ := one.rows
    obtain ⟨more, whole, ownMore⟩ := others.rows
    refine ⟨added ++ more, by rw [whole, result, List.append_assoc], ?_⟩
    have both : ((account, text) :: rest).filter (off places store) =
        [(account, text)].filter (off places store) ++ rest.filter (off places middle) := by
      rw [sameOff, ← List.filter_append, List.singleton_append]
    rw [both]
    refine List.rel_append ownAdded (ownMore.imp ?_)
    rintro entry row ⟨difference, day, dated, same⟩
    exact ⟨difference, day, one.correctionDay dated, same⟩
  scaleBounded := others.scaleBounded
  weightBounded := by
    have oneWeight := one.weightBounded
    have othersWeight := others.weightBounded
    rw [gap_cons]
    omega
  reached := by
    intro other member
    rcases List.mem_cons.mp member with rfl | there
    · rw [others.kept account absent ordinary]
      exact one.reached (account, text) (List.mem_singleton_self _)
    · exact others.reached other there
  kept := by
    intro other outside otherOrdinary
    rw [List.map_cons, List.mem_cons, not_or] at outside
    rw [others.kept other outside.2 otherOrdinary,
      one.kept other (by simpa using outside.1) otherOrdinary]

theorem corrected_of_correctAll {stated : List (String × String)}
    (base : store.schema = Schema.base)
    (conform : ∀ row ∈ store.rows, row.Conforms store.schema)
    (scales : ∀ amount ∈ store.amounts, amount.scale ≤ places)
    (nodup : (stated.map Prod.fst).Nodup)
    (ordinary : ∀ entry ∈ stated, entry.1 ≠ Store.counterparty)
    (statedScales : ∀ entry ∈ stated, ∀ reported, statedBalance? entry.2 = some reported →
      reported.scale ≤ places)
    (fits : store.weight places + gap places store stated < Decimal.coefficientBound)
    (correct : correctAll name asOf store stated = .ok after) :
    Corrected name asOf places stated store after := by
  induction stated generalizing store with
  | nil =>
      cases correct
      exact ⟨⟨[], by rw [List.append_nil], List.Forall₂.nil⟩, scales,
        Nat.le_add_right _ _, fun _ absent => absurd absent List.not_mem_nil, fun _ _ _ => rfl⟩
  | cons entry rest ih =>
      obtain ⟨account, text⟩ := entry
      obtain ⟨absent, nodupRest⟩ := List.nodup_cons.mp nodup
      rw [gap_cons] at fits
      have ordinaryHere : account ≠ Store.counterparty :=
        ordinary (account, text) List.mem_cons_self
      have scaleHere : ∀ reported, statedBalance? text = some reported → reported.scale ≤ places :=
        statedScales (account, text) List.mem_cons_self
      have ordinaryRest : ∀ other ∈ rest, other.1 ≠ Store.counterparty :=
        fun other member => ordinary other (List.mem_cons_of_mem _ member)
      unfold correctAll at correct
      split at correct
      · cases correct
      · rename_i middle first
        have one := corrected_of_correct base conform scales ordinaryHere scaleHere (by omega) first
        have apart : ∀ other ∈ rest, other.1 ∉ [(account, text)].map Prod.fst := by
          intro other member same
          rw [List.map_singleton, List.mem_singleton] at same
          exact absent (same ▸ List.mem_map_of_mem member)
        have sameGap := one.gap_eq apart ordinaryRest
        have sameOff := one.off_eq apart ordinaryRest
        have oneWeight := one.weightBounded
        have baseMiddle : middle.schema = Schema.base := by
          obtain ⟨added, result, _⟩ := one.rows
          rw [result]
          exact base
        have others := ih baseMiddle (one.conform base conform) one.scaleBounded nodupRest ordinaryRest
          (fun other member => statedScales other (List.mem_cons_of_mem _ member)) (by omega)
          correct
        exact one.cons others sameGap sameOff absent ordinaryHere

end Corrections

structure Parsed (name : String) (payload : StaticPayload) (places : Nat) (store : Store) :
    Prop where
  schema : store.schema = Schema.base
  rows : ∀ row ∈ store.rows, ∃ origin destination date description amount,
    row = Row.base name origin destination date description amount ∧
      ((∃ transaction ∈ payload.transactions,
          origin = transaction.origin ∧ destination = transaction.destination) ∨
        ∃ account ∈ payload.balances.keys, (origin = account ∨ destination = account))
  scaleBounded : ∀ amount ∈ store.amounts, amount.scale ≤ places
  weightBounded : store.weight places ≤ 3 * (payload.stated.map (Decimal.weight places)).sum
  reached : ∀ entry ∈ payload.balances.pairs, ∃ reported,
    statedBalance? entry.2 = some reported ∧
      store.net places entry.1 = reported.coefficientAt places

theorem Parsed.conform {name : String} {payload : StaticPayload} {places : Nat} {store : Store}
    (parsed : Parsed name payload places store) :
    ∀ row ∈ store.rows, row.Conforms store.schema := by
  intro row member
  obtain ⟨_, _, _, _, _, rfl, _⟩ := parsed.rows row member
  rw [parsed.schema]
  exact Row.conforms_base ..

private theorem sum_weight_stated (places : Nat) (stated : List (String × String)) :
    (stated.map fun entry => ((statedBalance? entry.2).getD Decimal.zero).weight places).sum =
      ((stated.filterMap fun entry => statedBalance? entry.2).map (Decimal.weight places)).sum := by
  induction stated with
  | nil => rfl
  | cons entry stated ih =>
      rw [List.map_cons, List.sum_cons, ih, List.filterMap_cons]
      cases statedBalance? entry.2 with
      | none =>
          have nothing : Decimal.zero.weight places = 0 := by
            unfold Decimal.weight
            rw [(Decimal.denotes_zero places).2, Int.natAbs_zero]
          rw [Option.getD_none, nothing, Nat.zero_add]
      | some balance => rw [Option.getD_some, List.map_cons, List.sum_cons]

/-- What balances differ by is at most what they are and twice what was moved. -/
private theorem gap_le {places : Nat} {store : Store} (base : store.schema = Schema.base)
    (conform : ∀ row ∈ store.rows, row.Conforms store.schema) {stated : List (String × String)}
    (nodup : (stated.map Prod.fst).Nodup) :
    gap places store stated ≤
      ((stated.filterMap fun entry => statedBalance? entry.2).map (Decimal.weight places)).sum +
        2 * store.weight places := by
  have columns : ∀ name ∈ Store.movementColumns, name ∈ store.schema.names := by
    rw [base]
    exact Store.movementColumns_base
  have moved := Store.sum_natAbs_net_le conform columns places nodup
  rw [List.map_map] at moved
  have apart : gap places store stated ≤
      (stated.map fun entry => ((statedBalance? entry.2).getD Decimal.zero).weight places).sum +
        (stated.map fun entry => (store.net places entry.1).natAbs).sum := by
    unfold gap
    rw [← List.sum_map_add]
    apply List.sum_le_sum
    intro entry _
    unfold Decimal.weight
    omega
  have read := sum_weight_stated places stated
  have same : (stated.map fun entry => (store.net places entry.1).natAbs).sum =
      (stated.map ((fun account => (store.net places account).natAbs) ∘ Prod.fst)).sum := rfl
  omega

private theorem exists_correctAll {source : StaticSource} {raw : List UInt8}
    {payload : StaticPayload} {store : Store}
    (decoded : StaticPayload.decode raw = .ok payload)
    (accepted : source.parseTransactions raw = .ok store) :
    ∃ rows asOf, payload.transactions.map (StaticSource.row source.name) = rows.map .ok ∧
      asOfDate payload.asOf = .ok asOf ∧
      correctAll source.name asOf ⟨Schema.base, rows⟩ payload.balances.pairs = .ok store := by
  unfold StaticSource.parseTransactions StaticSource.decode at accepted
  rw [decoded] at accepted
  dsimp only at accepted
  split at accepted
  · cases accepted
  · rename_i made
    cases accepted
    unfold storeOf at made
    split at made
    · cases made
    · rename_i taken
      obtain ⟨rows, ofTransactions, rfl⟩ := ingestTransactions_eq_ok taken
      rw [Store.empty, List.nil_append] at made
      split at made
      · cases made
      · rename_i asOf read
        exact ⟨rows, asOf, ofTransactions, read, made⟩

theorem conform_of_transactions {name : String} {transactions : List StaticTransaction}
    {rows : List Row} (made : transactions.map (StaticSource.row name) = rows.map .ok) :
    ∀ row ∈ rows, row.Conforms Schema.base := by
  intro row member
  obtain ⟨_, _, _, _, rfl⟩ := (rows_of_transactions made).1 row member
  exact Row.conforms_base ..

/-- The store of a document: its transactions, with all accounts corrected. What
the transactions and the corrections weigh is bounded by what is stated. -/
theorem corrected_of_parseTransactions {source : StaticSource} {raw : List UInt8}
    {payload : StaticPayload} {store : Store} {places : Nat}
    (decoded : StaticPayload.decode raw = .ok payload)
    (accepted : source.parseTransactions raw = .ok store)
    (ordinary : Store.counterparty ∉ payload.balances.keys)
    (scales : ∀ amount ∈ payload.stated, amount.scale ≤ places)
    (fits : 3 * (payload.stated.map (Decimal.weight places)).sum < Decimal.coefficientBound) :
    ∃ rows asOf, payload.transactions.map (StaticSource.row source.name) = rows.map .ok ∧
      asOfDate payload.asOf = .ok asOf ∧
      Corrected source.name asOf places payload.balances.pairs ⟨Schema.base, rows⟩ store ∧
      Decimal.Summable places (Store.amounts ⟨Schema.base, rows⟩) ∧
      Store.weight ⟨Schema.base, rows⟩ places +
          gap places ⟨Schema.base, rows⟩ payload.balances.pairs ≤
        3 * (payload.stated.map (Decimal.weight places)).sum := by
  obtain ⟨rows, asOf, ofTransactions, read, made⟩ := exists_correctAll decoded accepted
  have amounts := (rows_of_transactions ofTransactions).2
  have conform := conform_of_transactions ofTransactions
  unfold StaticPayload.stated at scales fits ⊢
  rw [List.map_append, List.sum_append, ← amounts] at fits ⊢
  have scalesRows : ∀ amount ∈ Store.amounts ⟨Schema.base, rows⟩, amount.scale ≤ places := by
    intro amount member
    rw [amounts] at member
    exact scales amount (List.mem_append_left _ member)
  have nodup : (payload.balances.pairs.map Prod.fst).Nodup :=
    (StaticPayload.ascending_balances decoded).nodup_keys
  have ordinaryEach : ∀ entry ∈ payload.balances.pairs, entry.1 ≠ Store.counterparty := by
    intro entry member same
    exact ordinary (same ▸ List.mem_map_of_mem member)
  have statedScales : ∀ entry ∈ payload.balances.pairs, ∀ reported,
      statedBalance? entry.2 = some reported → reported.scale ≤ places := by
    intro entry member reported found
    exact scales reported
      (List.mem_append_right _ (List.mem_filterMap.mpr ⟨entry, member, found⟩))
  have weight : Store.weight ⟨Schema.base, rows⟩ places =
      ((Store.amounts ⟨Schema.base, rows⟩).map (Decimal.weight places)).sum := rfl
  have bound : gap places ⟨Schema.base, rows⟩ payload.balances.pairs ≤ _ :=
    gap_le rfl conform nodup
  have corrected := corrected_of_correctAll rfl conform scalesRows nodup ordinaryEach
    statedScales (by omega) made
  exact ⟨rows, asOf, ofTransactions, read, corrected, ⟨scalesRows, by omega⟩, by omega⟩

/-- Parsing a document gives base rows with the name of the source, and every
account with a stated balance has it. -/
theorem parsed_of_parseTransactions {source : StaticSource} {raw : List UInt8}
    {payload : StaticPayload} {store : Store} {places : Nat}
    (decoded : StaticPayload.decode raw = .ok payload)
    (accepted : source.parseTransactions raw = .ok store)
    (ordinary : Store.counterparty ∉ payload.balances.keys)
    (scales : ∀ amount ∈ payload.stated, amount.scale ≤ places)
    (fits : 3 * (payload.stated.map (Decimal.weight places)).sum < Decimal.coefficientBound) :
    Parsed source.name payload places store := by
  obtain ⟨rows, asOf, ofTransactions, _, corrected, _, bound⟩ :=
    corrected_of_parseTransactions decoded accepted ordinary scales fits
  have bases := (rows_of_transactions ofTransactions).1
  obtain ⟨corrections, rfl, own⟩ := corrected.rows
  refine ⟨rfl, ?_, corrected.scaleBounded, corrected.weightBounded.trans bound, corrected.reached⟩
  intro row member
  rcases List.mem_append.mp member with early | late
  · obtain ⟨transaction, present, date, amount, rfl⟩ := bases row early
    exact ⟨_, _, _, _, _, rfl, Or.inl ⟨transaction, present, rfl, rfl⟩⟩
  · obtain ⟨account, named, difference, date, rfl⟩ := exists_correctionRow own late
    obtain ⟨origin, destination, same, ends⟩ :=
      Store.correctionRow_eq_base source.name account difference date
    refine ⟨origin, destination, _, _, _, same, Or.inr ⟨account, named, ?_⟩⟩
    rcases ends with ⟨rfl, _, _⟩ | ⟨_, rfl, _⟩
    · exact Or.inl rfl
    · exact Or.inr rfl

end StaticSource

end Passbook
