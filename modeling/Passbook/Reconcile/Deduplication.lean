/-
Reconciling the two reports of one transfer. When money moves between two
accounts of the user, both banks report it. The reports of each transfer are
paired in order and every pair is fused into one row. A report without a
partner keeps its amount, but the endpoint that its bank does not own is
renamed, so that it does not touch the balance at the other bank.
-/

import Passbook.Ordered
import Passbook.Store

namespace Passbook

/-! ## Accounts of banks

Banks and accounts stand in ascending order; an account may belong to several
banks. -/

structure BankAccounts where
  owned : OrderedMap String (OrderedSet String)
  deriving DecidableEq

namespace BankAccounts

def empty : BankAccounts :=
  ⟨OrderedMap.empty⟩

def insert (banks : BankAccounts) (bank : String) (accounts : List String) : BankAccounts :=
  ⟨banks.owned.alter bank fun present => (present.getD OrderedSet.empty).insertAll accounts⟩

def ofList (entries : List (String × List String)) : BankAccounts :=
  entries.foldl (fun banks entry => banks.insert entry.1 entry.2) empty

def accounts? (banks : BankAccounts) (bank : String) : Option (OrderedSet String) :=
  banks.owned.find? bank

def names (banks : BankAccounts) : List String :=
  banks.owned.keys

def allAccounts (banks : BankAccounts) : OrderedSet String :=
  OrderedSet.ofList (banks.owned.values.flatMap OrderedSet.members)

end BankAccounts

/-! ## Reports

A row of a store is what one bank reports about one transfer; two reports are of
one transfer when origin, destination, date and amount agree, the amount
whatever its places. -/

structure ReportColumns where
  bank : Nat
  origin : Nat
  destination : Nat
  date : Nat
  description : Nat
  amount : Nat
  deriving DecidableEq, Repr

def ReportColumns.ofSchema (schema : Schema) : Except SchemaError ReportColumns := do
  let bank ← schema.requireKind Schema.bank .text
  let origin ← schema.requireKind Schema.origin .text
  let destination ← schema.requireKind Schema.destination .text
  let date ← schema.requireKind Schema.date .date
  let description ← schema.requireKind Schema.description .text
  let amount ← schema.requireKind Schema.amount .dollars
  return ⟨bank, origin, destination, date, description, amount⟩

/-- A row with the entries that reconciling looks at. -/
structure Report where
  row : Row
  bank : Entry
  origin : Entry
  destination : Entry
  date : Entry
  description : Entry
  amount : Entry
  deriving DecidableEq

namespace Report

def ofRow? (columns : ReportColumns) (row : Row) : Option Report := do
  let bank ← row.get? columns.bank
  let origin ← row.get? columns.origin
  let destination ← row.get? columns.destination
  let date ← row.get? columns.date
  let description ← row.get? columns.description
  let amount ← row.get? columns.amount
  return ⟨row, bank, origin, destination, date, description, amount⟩

def ofRows? (columns : ReportColumns) : List Row → Option (List Report)
  | [] => some []
  | row :: rows =>
      match ofRow? columns row, ofRows? columns rows with
      | some report, some reports => some (report :: reports)
      | _, _ => none

/-- The text of an entry; one that is no text counts as empty. -/
def textOf (entry : Entry) : String :=
  entry.text?.getD ""

def bankName (report : Report) : String :=
  textOf report.bank

def isInternal (report : Report) (known : OrderedSet String) : Bool :=
  known.contains (textOf report.origin) && known.contains (textOf report.destination)

def sameTransfer (a b : Report) : Bool :=
  a.origin.sameValue b.origin && a.destination.sameValue b.destination &&
    a.date.sameValue b.date && a.amount.sameValue b.amount

end Report

/-! ## Reconciling -/

inductive DedupError where
  /-- More than two banks report one transfer. -/
  | ambiguousTransfer (origin destination date amount : Entry) (banks : List String)
  /-- A report without a partner comes from a bank without accounts. -/
  | unknownBank (bank : String)
  | schema (problem : SchemaError)
  | fault (fault : Fault)
  deriving DecidableEq

def DedupError.message : DedupError → String
  | .ambiguousTransfer origin destination date amount banks =>
      "transfer " ++ origin.toText ++ " -> " ++ destination.toText ++ " on " ++ date.toText ++
        " for " ++ amount.toText ++ " is reported by more than two banks: " ++
        ", ".intercalate banks
  | .unknownBank bank =>
      "bank `" ++ bank ++ "` reported an internal transfer but has no accounts configured"
  | .schema problem => problem.message
  | .fault .overflow => "an amount is too large"
  | .fault .missingCell => "a row lacks a cell"

namespace Deduplication

def unmatchedMark : String := "unmatched: "

def fuseSeparator : String := " + "

/-- The reports of one transfer: the first one, and all by their banks, each in
the order of reporting. -/
structure Transfer where
  first : Report
  byBank : List (String × List Report)
  deriving DecidableEq

def addToBank (report : Report) : List (String × List Report) → List (String × List Report)
  | [] => [(report.bankName, [report])]
  | (bank, reports) :: rest =>
      if bank = report.bankName then (bank, reports ++ [report]) :: rest
      else (bank, reports) :: addToBank report rest

def addReport : List Transfer → Report → List Transfer
  | [], report => [⟨report, [(report.bankName, [report])]⟩]
  | transfer :: transfers, report =>
      if transfer.first.sameTransfer report then
        { transfer with byBank := addToBank report transfer.byBank } :: transfers
      else transfer :: addReport transfers report

def transfers (reports : List Report) : List Transfer :=
  reports.foldl addReport []

def fusedBank (a b : String) : String :=
  a ++ fuseSeparator ++ b

def fusedDescription (a b : Entry) : Entry :=
  if a.sameValue b then a
  else .text (Report.textOf a ++ fuseSeparator ++ Report.textOf b)

/-- One row for two reports of a transfer. It is the row of the first report in
every column but the bank and the description. -/
def fuse (columns : ReportColumns) (a b : Report) : Row :=
  (a.row.set columns.bank (.text (fusedBank a.bankName b.bankName))).set columns.description
    (fusedDescription a.description b.description)

/-- An endpoint as a bank with the given accounts vouches for it. -/
def vouched (owned : OrderedSet String) (endpoint : Entry) : Entry :=
  if owned.contains (Report.textOf endpoint) then endpoint
  else .text (unmatchedMark ++ Report.textOf endpoint)

def unmatch (columns : ReportColumns) (owned : OrderedSet String) (report : Report) : Row :=
  (report.row.set columns.origin (vouched owned report.origin)).set columns.destination
    (vouched owned report.destination)

def unmatched (columns : ReportColumns) (banks : BankAccounts) (report : Report) :
    Except DedupError Row :=
  match banks.accounts? report.bankName with
  | some owned => .ok (unmatch columns owned report)
  | none => .error (.unknownBank report.bankName)

def unmatchedAll (columns : ReportColumns) (banks : BankAccounts) :
    List Report → Except DedupError (List Row)
  | [] => .ok []
  | report :: reports =>
      match unmatched columns banks report with
      | .error problem => .error problem
      | .ok row =>
          match unmatchedAll columns banks reports with
          | .error problem => .error problem
          | .ok rows => .ok (row :: rows)

def pair (columns : ReportColumns) (banks : BankAccounts) :
    List Report → List Report → Except DedupError (List Row)
  | a :: as, b :: bs =>
      match pair columns banks as bs with
      | .error problem => .error problem
      | .ok rows => .ok (fuse columns a b :: rows)
  | as, [] => unmatchedAll columns banks as
  | [], bs => unmatchedAll columns banks bs

def settle (columns : ReportColumns) (banks : BankAccounts) (transfer : Transfer) :
    Except DedupError (List Row) :=
  match transfer.byBank with
  | [] => .ok []
  | [(_, reports)] => pair columns banks reports []
  | [(_, first), (_, second)] => pair columns banks first second
  | several =>
      .error (.ambiguousTransfer transfer.first.origin transfer.first.destination
        transfer.first.date transfer.first.amount (several.map Prod.fst))

def settleAll (columns : ReportColumns) (banks : BankAccounts) :
    List Transfer → Except DedupError (List Row)
  | [] => .ok []
  | transfer :: rest =>
      match settle columns banks transfer with
      | .error problem => .error problem
      | .ok rows =>
          match settleAll columns banks rest with
          | .error problem => .error problem
          | .ok others => .ok (rows ++ others)

end Deduplication

/-- Fuses the transfers that two banks report and marks those that one bank
reports. The result has fused and unmatched rows in the order of the first
reports of their transfers, and then, as they were, the rows that are not
between two known accounts. -/
def Store.deduplicate (store : Store) (banks : BankAccounts) : Except DedupError Store :=
  match ReportColumns.ofSchema store.schema with
  | .error problem => .error (.schema problem)
  | .ok columns =>
      match Report.ofRows? columns store.rows with
      | none => .error (.fault .missingCell)
      | some reports =>
          let known := banks.allAccounts
          let internal := reports.filter fun report => report.isInternal known
          let external := reports.filter fun report => !report.isInternal known
          match Deduplication.settleAll columns banks (Deduplication.transfers internal) with
          | .error problem => .error problem
          | .ok rows =>
              match (Store.empty store.schema).ingestAll (rows ++ external.map Report.row) with
              | .error problem => .error (.schema problem)
              | .ok result => .ok result

end Passbook
