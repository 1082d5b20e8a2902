/-
What the sources of a run bring together. Sources that share neither a name nor
an account, and whose documents are about their own accounts, give a store in
which every row is vouched for by its bank; and of all its rows those of an
account's own source are the ones that its owner reports.
-/

import Mathlib.Algebra.BigOperators.Ring.List
import Mathlib.Algebra.Order.BigOperators.Group.List
import Mathlib.Data.List.Nodup
import Passbook.Pipeline
import Passbook.Proofs.Reconcile.Ownership
import Passbook.Proofs.Source.Static

namespace Passbook

/-- A static source, the bytes that it fetched, the document in them, and the
store that they parse to. -/
structure StaticFetch where
  source : StaticSource
  raw : List UInt8
  payload : StaticPayload
  store : Store
  decoded : StaticPayload.decode raw = .ok payload
  parsed : source.parseTransactions raw = .ok store

namespace StaticFetch

def fetched (fetch : StaticFetch) : Fetched :=
  ⟨fetch.source.toSource, fetch.raw⟩

def name (fetch : StaticFetch) : String :=
  fetch.source.name

def accounts (fetch : StaticFetch) : List String :=
  fetch.payload.accounts

/-- Fetches that do not contradict each other: names and accounts are not
shared, every document is about its own accounts, and all that is stated is in
cents and less than ten to the power 25 dollars. -/
structure Consistent (fetches : List StaticFetch) : Prop where
  namesNodup : (fetches.map name).Nodup
  accountsDisjoint : fetches.Pairwise fun first second =>
    ∀ account ∈ first.accounts, account ∉ second.accounts
  accountsOrdinary : ∀ fetch ∈ fetches, ∀ account ∈ fetch.accounts,
    account ≠ Store.counterparty ∧ ¬ Deduplication.unmatchedMark.toList <+: account.toList
  ownTransactions : ∀ fetch ∈ fetches, ∀ transaction ∈ fetch.payload.transactions,
    transaction.origin ∈ fetch.accounts ∨ transaction.destination ∈ fetch.accounts
  ownBalances : ∀ fetch ∈ fetches, ∀ account ∈ fetch.payload.balances.keys,
    account ∈ fetch.accounts
  statedCents : ∀ fetch ∈ fetches, ∀ amount ∈ fetch.payload.stated, amount.scale ≤ 2
  statedTotal : ((fetches.flatMap fun fetch => fetch.payload.stated).map
    (Decimal.weight 2)).sum < 10 ^ 27

def owned (fetches : List StaticFetch) : List (String × List String) :=
  fetches.map fun fetch => (fetch.name, (OrderedSet.ofList fetch.accounts).members)

def ingested (fetches : List StaticFetch) : Store :=
  ⟨Schema.base, fetches.flatMap fun fetch => fetch.store.rows⟩

theorem gather_fetched (fetches : List StaticFetch) :
    Pipeline.gather (fetches.map fetched) = .ok (fetches.map store, owned fetches) := by
  induction fetches with
  | nil => rfl
  | cons fetch fetches ih =>
      have transactions : fetch.fetched.source.parseTransactions fetch.fetched.raw =
          .ok fetch.store := fetch.parsed
      have accounts : fetch.fetched.source.parseAccounts fetch.fetched.raw =
          .ok (OrderedSet.ofList fetch.accounts) := by
        change fetch.source.parseAccounts fetch.raw = _
        unfold StaticSource.parseAccounts StaticSource.decode
        rw [fetch.decoded]
        rfl
      rw [List.map_cons, Pipeline.gather, transactions]
      dsimp only
      rw [accounts]
      dsimp only
      rw [ih]
      rfl

section Consistent

variable {fetches : List StaticFetch}

private theorem weight_le (fetches : List StaticFetch) {fetch : StaticFetch}
    (member : fetch ∈ fetches) :
    (fetch.payload.stated.map (Decimal.weight 2)).sum ≤
      ((fetches.flatMap fun fetch => fetch.payload.stated).map (Decimal.weight 2)).sum := by
  rw [List.map_flatMap, List.flatMap_def, List.sum_flatten, List.map_map]
  apply List.le_sum_of_mem
  exact List.mem_map_of_mem member

theorem Consistent.parsed (consistent : Consistent fetches) {fetch : StaticFetch}
    (member : fetch ∈ fetches) :
    StaticSource.Parsed fetch.name fetch.payload 2 fetch.store := by
  have total := consistent.statedTotal
  have own := weight_le fetches member
  refine StaticSource.parsed_of_parseTransactions fetch.decoded fetch.parsed ?_
    (consistent.statedCents fetch member) ?_
  · intro present
    exact (consistent.accountsOrdinary fetch member _
      (consistent.ownBalances fetch member _ present)).1 rfl
  · have room : 3 * 10 ^ 27 ≤ Decimal.coefficientBound := by decide
    omega

theorem Consistent.summable_of_mem (consistent : Consistent fetches) {fetch : StaticFetch}
    (member : fetch ∈ fetches) : Decimal.Summable 2 fetch.store.amounts := by
  have parsed := consistent.parsed member
  have weight : (fetch.store.amounts.map (Decimal.weight 2)).sum ≤ _ := parsed.weightBounded
  have own := weight_le fetches member
  have total := consistent.statedTotal
  have room : 3 * 10 ^ 27 ≤ Decimal.coefficientBound := by decide
  exact ⟨parsed.scaleBounded, by omega⟩

theorem Consistent.exists_balance (consistent : Consistent fetches) {fetch : StaticFetch}
    (member : fetch ∈ fetches) (account : String) :
    ∃ own, fetch.store.balance account = .ok own ∧ own.Denotes 2 (fetch.store.net 2 account) := by
  have parsed := consistent.parsed member
  have columns : ∀ name ∈ Store.movementColumns, name ∈ fetch.store.schema.names := by
    rw [parsed.schema]
    exact Store.movementColumns_base
  exact Store.balance_denotes parsed.conform columns (consistent.summable_of_mem member) account

/-- A source reports the balance that its own store has. -/
theorem Consistent.exists_reported (consistent : Consistent fetches) {fetch : StaticFetch}
    (member : fetch ∈ fetches) {account text : String}
    (found : fetch.payload.balances.find? account = some text) :
    ∃ reported, StaticPayload.statedBalance? text = some reported ∧
      reported.Denotes 2 (fetch.store.net 2 account) := by
  have listed := (OrderedMap.find?_eq_some_iff
    (StaticPayload.ascending_balances fetch.decoded)).mp found
  obtain ⟨reported, stated, reached⟩ := (consistent.parsed member).reached (account, text) listed
  have within : reported.scale ≤ 2 := consistent.statedCents fetch member reported
    (List.mem_append_right _ (List.mem_filterMap.mpr ⟨(account, text), listed, stated⟩))
  refine ⟨reported, stated, ?_⟩
  rw [reached]
  exact Decimal.denotes_coefficientAt within

theorem Consistent.concat (consistent : Consistent fetches) :
    Store.concat Schema.base (fetches.map store) = .ok (ingested fetches) := by
  have same : ((fetches.map store).all fun store => store.schema == Schema.base) = true := by
    rw [List.all_eq_true]
    intro store member
    obtain ⟨fetch, present, rfl⟩ := List.mem_map.mp member
    rw [beq_iff_eq]
    exact (consistent.parsed present).schema
  unfold Store.concat
  rw [if_pos same, List.flatMap_map]
  rfl

theorem Consistent.conform (consistent : Consistent fetches) :
    ∀ row ∈ (ingested fetches).rows, row.Conforms Schema.base := by
  intro row member
  obtain ⟨fetch, present, inStore⟩ := List.mem_flatMap.mp member
  have parsed := consistent.parsed present
  have conforms := parsed.conform row inStore
  rw [parsed.schema] at conforms
  exact conforms

theorem Consistent.owns_iff (consistent : Consistent fetches) {fetch : StaticFetch}
    (member : fetch ∈ fetches) {account : String} :
    (BankAccounts.ofList (owned fetches)).owns fetch.name account = true ↔
      account ∈ fetch.accounts := by
  rw [BankAccounts.owns_ofList_iff]
  constructor
  · rintro ⟨entry, present, same, listed⟩
    obtain ⟨other, inFetches, rfl⟩ := List.mem_map.mp present
    have one : fetch = other :=
      List.inj_on_of_nodup_map consistent.namesNodup member inFetches same
    rw [one]
    exact OrderedSet.mem_ofList.mp listed
  · intro listed
    exact ⟨_, List.mem_map_of_mem member, rfl, OrderedSet.mem_ofList.mpr listed⟩

theorem Consistent.exclusive (consistent : Consistent fetches) :
    (BankAccounts.ofList (owned fetches)).Exclusive := by
  apply BankAccounts.exclusive_ofList
  refine List.pairwise_map.mpr (consistent.accountsDisjoint.imp ?_)
  intro first second apart account inFirst inSecond
  exact apart account (OrderedSet.mem_ofList.mp inFirst) (OrderedSet.mem_ofList.mp inSecond)

theorem Consistent.unmarked (consistent : Consistent fetches) :
    (BankAccounts.ofList (owned fetches)).Unmarked := by
  intro account known
  obtain ⟨bank, owns⟩ :=
    (BankAccounts.wellFormed_ofList (owned fetches)).mem_allAccounts_iff.mp known
  obtain ⟨entry, present, _, listed⟩ := BankAccounts.owns_ofList_iff.mp owns
  obtain ⟨fetch, member, rfl⟩ := List.mem_map.mp present
  exact (consistent.accountsOrdinary fetch member account (OrderedSet.mem_ofList.mp listed)).2

def baseColumns : ReportColumns :=
  ⟨0, 1, 2, 3, 4, 5⟩

theorem baseColumns_of_base : baseColumns.Of Schema.base :=
  ReportColumns.ofSchema_eq_ok_iff.mp rfl

private theorem of_isRead_base {report : Report} (isRead : report.IsRead baseColumns)
    {bank origin destination description : String} {date : Date} {amount : Dollars}
    (base : report.row = Row.base bank origin destination date description amount) :
    report.bankName = bank ∧ Report.textOf report.origin = origin ∧
      Report.textOf report.destination = destination := by
  unfold Report.IsRead at isRead
  rw [base] at isRead
  cases isRead
  exact ⟨rfl, rfl, rfl⟩

/-- Every row is vouched for: a transaction by its own bank's accounts, and a
correction by the account that it corrects. -/
theorem Consistent.vouched (consistent : Consistent fetches) {reports : List Report}
    (read : Report.ofRows? baseColumns (ingested fetches).rows = some reports) :
    ∀ report ∈ reports, report.Vouched (BankAccounts.ofList (owned fetches)) := by
  intro report member
  obtain ⟨inRows, isRead⟩ := Report.of_mem_ofRows? read member
  obtain ⟨fetch, present, inStore⟩ := List.mem_flatMap.mp inRows
  obtain ⟨origin, destination, date, description, amount, same, ends⟩ :=
    (consistent.parsed present).rows report.row inStore
  obtain ⟨ofBank, ofOrigin, ofDestination⟩ := of_isRead_base isRead same
  unfold Report.Vouched
  rw [ofBank, ofOrigin, ofDestination, consistent.owns_iff present, consistent.owns_iff present]
  rcases ends with ⟨transaction, listed, rfl, rfl⟩ | ⟨account, listed, named⟩
  · exact consistent.ownTransactions fetch present transaction listed
  · have listed := consistent.ownBalances fetch present account listed
    rcases named with rfl | rfl
    · exact Or.inl listed
    · exact Or.inr listed

theorem Consistent.summable (consistent : Consistent fetches) :
    Decimal.Summable 2 (ingested fetches).amounts := by
  have joined (some : List StaticFetch) :
      (ingested some).amounts =
        some.flatMap fun fetch => Store.amounts ⟨Schema.base, fetch.store.rows⟩ := by
    induction some with
    | nil => rfl
    | cons fetch rest ih =>
        rw [List.flatMap_cons, ← ih]
        exact Store.amounts_append Schema.base fetch.store.rows _
  have own {fetch : StaticFetch} (member : fetch ∈ fetches) :
      (⟨Schema.base, fetch.store.rows⟩ : Store) = fetch.store := by
    rw [← (consistent.parsed member).schema]
  constructor
  · intro amount member
    rw [joined] at member
    obtain ⟨fetch, present, inStore⟩ := List.mem_flatMap.mp member
    rw [own present] at inStore
    exact (consistent.parsed present).scaleBounded amount inStore
  · have bounded : ((ingested fetches).amounts.map (Decimal.weight 2)).sum ≤
        3 * ((fetches.flatMap fun fetch => fetch.payload.stated).map (Decimal.weight 2)).sum := by
      rw [joined, List.map_flatMap, List.flatMap_def, List.sum_flatten, List.map_map,
        List.map_flatMap, List.flatMap_def, List.sum_flatten, List.map_map,
        ← List.sum_map_mul_left]
      apply List.sum_le_sum
      intro fetch member
      have weight := (consistent.parsed member).weightBounded
      rw [Function.comp_apply, Function.comp_apply, own member]
      exact weight
    have total := consistent.statedTotal
    have room : 3 * 10 ^ 27 ≤ Decimal.coefficientBound := by decide
    omega

end Consistent

private theorem ofRows?_append {first second : List Row} {reports : List Report}
    (read : Report.ofRows? baseColumns (first ++ second) = some reports) :
    ∃ early late, reports = early ++ late ∧ Report.ofRows? baseColumns first = some early ∧
      Report.ofRows? baseColumns second = some late := by
  obtain ⟨rows, allRead⟩ := Report.ofRows?_eq_some_iff.mp read
  obtain ⟨early, late, rfl, ofFirst, ofSecond⟩ := List.map_eq_append_iff.mp rows
  refine ⟨early, late, rfl, ?_, ?_⟩
  · exact Report.ofRows?_eq_some_iff.mpr
      ⟨ofFirst, fun report member => allRead report (List.mem_append_left _ member)⟩
  · exact Report.ofRows?_eq_some_iff.mpr
      ⟨ofSecond, fun report member => allRead report (List.mem_append_right _ member)⟩

/-- Of the rows of one source all count when it owns the account, else none. -/
private theorem sum_ownNet_of_parsed {name : String} {payload : StaticPayload} {places : Nat}
    {store : Store} (parsed : StaticSource.Parsed name payload places store)
    {reports : List Report} (read : Report.ofRows? baseColumns store.rows = some reports)
    (banks : BankAccounts) (account : String) :
    (reports.map (Report.ownNet banks places account)).sum =
      if banks.owns name account then store.net places account else 0 := by
  have present : baseColumns.Of store.schema := by
    rw [parsed.schema]
    exact baseColumns_of_base
  have ofBank : ∀ report ∈ reports, report.bankName = name := by
    intro report member
    obtain ⟨inRows, isRead⟩ := Report.of_mem_ofRows? read member
    obtain ⟨_, _, _, _, _, same, _⟩ := parsed.rows report.row inRows
    exact (of_isRead_base isRead same).1
  have typed : ∀ report ∈ reports, report.Typed := by
    intro report member
    obtain ⟨inRows, isRead⟩ := Report.of_mem_ofRows? read member
    exact Report.typed_of_conforms present isRead (parsed.conform report.row inRows)
  by_cases owns : banks.owns name account = true
  · rw [if_pos owns, Store.net, Store.movements_eq_of_reports present read typed, List.map_map]
    congr 1
    apply List.map_congr_left
    intro report member
    rw [Report.ownNet, ofBank report member, if_pos owns]
    rfl
  · rw [if_neg owns]
    apply List.sum_eq_zero
    intro amount member
    obtain ⟨report, listed, rfl⟩ := List.mem_map.mp member
    rw [Report.ownNet, ofBank report listed, if_neg owns]

private theorem sum_ownNet_eq {fetches : List StaticFetch}
    (parsed : ∀ fetch ∈ fetches, StaticSource.Parsed fetch.name fetch.payload 2 fetch.store)
    {reports : List Report}
    (read : Report.ofRows? baseColumns (ingested fetches).rows = some reports)
    (banks : BankAccounts) (account : String) :
    (reports.map (Report.ownNet banks 2 account)).sum = (fetches.map fun fetch =>
      if banks.owns fetch.name account then fetch.store.net 2 account else 0).sum := by
  induction fetches generalizing reports with
  | nil =>
      cases read
      rfl
  | cons fetch rest ih =>
      obtain ⟨early, late, rfl, ofFirst, ofRest⟩ := ofRows?_append read
      rw [List.map_append, List.sum_append, List.map_cons, List.sum_cons,
        sum_ownNet_of_parsed (parsed fetch List.mem_cons_self) ofFirst,
        ih (fun other member => parsed other (List.mem_cons_of_mem _ member)) ofRest]

private theorem sum_listed {fetches : List StaticFetch} {account : String}
    (disjoint : fetches.Pairwise fun first second =>
      ∀ account ∈ first.accounts, account ∉ second.accounts)
    {fetch : StaticFetch} (member : fetch ∈ fetches) (listed : account ∈ fetch.accounts)
    (value : StaticFetch → Int) :
    (fetches.map fun fetch => if account ∈ fetch.accounts then value fetch else 0).sum =
      value fetch := by
  induction fetches with
  | nil => cases member
  | cons head rest ih =>
      obtain ⟨apart, others⟩ := List.pairwise_cons.mp disjoint
      rw [List.map_cons, List.sum_cons]
      rcases List.mem_cons.mp member with rfl | there
      · have nothing : (rest.map fun fetch =>
            if account ∈ fetch.accounts then value fetch else 0).sum = 0 := by
          apply List.sum_eq_zero
          intro amount present
          obtain ⟨other, inRest, rfl⟩ := List.mem_map.mp present
          rw [if_neg (apart other inRest account listed)]
        rw [if_pos listed, nothing, Int.add_zero]
      · have missing : account ∉ head.accounts :=
          fun inHead => apart fetch there account inHead listed
        rw [if_neg missing, Int.zero_add, ih others there]

theorem Consistent.sum_ownNet {fetches : List StaticFetch} (consistent : Consistent fetches)
    {reports : List Report}
    (read : Report.ofRows? baseColumns (ingested fetches).rows = some reports)
    {fetch : StaticFetch} (member : fetch ∈ fetches) {account : String}
    (listed : account ∈ fetch.accounts) :
    (reports.map (Report.ownNet (BankAccounts.ofList (owned fetches)) 2 account)).sum =
      fetch.store.net 2 account := by
  rw [sum_ownNet_eq (fun fetch member => consistent.parsed member) read,
    ← sum_listed consistent.accountsDisjoint member listed fun fetch =>
      fetch.store.net 2 account]
  congr 1
  apply List.map_congr_left
  intro other present
  have owner : (BankAccounts.ofList (owned fetches)).owns other.name account = true ↔
      account ∈ other.accounts := consistent.owns_iff present
  by_cases own : account ∈ other.accounts
  · rw [if_pos (owner.mpr own), if_pos own]
  · rw [if_neg (mt owner.mp own), if_neg own]

end StaticFetch

end Passbook
