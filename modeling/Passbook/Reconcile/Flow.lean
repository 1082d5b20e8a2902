/-
The net flow into each account over the rows that its own bank reports. A fused
row is reported by each of its banks. Reconciling leaves these numbers as they
are.
-/

import Passbook.Reconcile.Deduplication
import Passbook.Text

namespace Passbook

abbrev Flows := OrderedMap String Decimal

namespace Flows

def addAccount (flows : Flows) (account : String) : Flows :=
  flows.alter account fun present => present.getD Decimal.zero

def reporters (cell : String) : List String :=
  (Text.split Deduplication.fuseSeparator.toList cell.toList).map String.ofList

def change? (flows : Flows) (account : String) (step : Decimal → Option Decimal) :
    Option Flows :=
  match flows.find? account with
  | none => some flows
  | some flow => (step flow).map fun flow => flows.insert account flow

def settle? (accounts : OrderedSet String) (flows : Flows) (report : Report) : Option Flows :=
  let amount := Movement.amountOf report.amount
  let destination := Report.textOf report.destination
  let origin := Report.textOf report.origin
  let received :=
    if accounts.contains destination then
      flows.change? destination fun flow => flow.add? amount
    else some flows
  match received with
  | none => none
  | some flows =>
      if accounts.contains origin then flows.change? origin fun flow => flow.sub? amount
      else some flows

def settleAll? (accounts : OrderedSet String) (flows : Flows) : List Report → Option Flows
  | [] => some flows
  | report :: reports =>
      match settle? accounts flows report with
      | none => none
      | some flows => settleAll? accounts flows reports

def addBank? (reports : List Report) (flows : Flows) (bank : String)
    (accounts : OrderedSet String) : Option Flows :=
  settleAll? accounts (accounts.members.foldl addAccount flows)
    (reports.filter fun report => (reporters report.bankName).contains bank)

def addBanks? (reports : List Report) (flows : Flows) :
    List (String × OrderedSet String) → Option Flows
  | [] => some flows
  | (bank, accounts) :: rest =>
      match addBank? reports flows bank accounts with
      | none => none
      | some flows => addBanks? reports flows rest

end Flows

def Store.accountFlows (store : Store) (banks : BankAccounts) : Except DedupError Flows :=
  match ReportColumns.ofSchema store.schema with
  | .error problem => .error (.schema problem)
  | .ok columns =>
      match Report.ofRows? columns store.rows with
      | none => .error (.fault .missingCell)
      | some reports =>
          match Flows.addBanks? reports OrderedMap.empty banks.owned.pairs with
          | none => .error (.fault .overflow)
          | some flows => .ok flows

end Passbook
