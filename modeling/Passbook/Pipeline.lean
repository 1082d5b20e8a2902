/-
From sources to a categorized store. The stores of all sources are joined, a
first set of rules may rename endpoints and descriptions, transfers between the
user's accounts are reconciled, and a second set of rules gives each row its
category.
-/

import Passbook.Reconcile.Deduplication
import Passbook.Render
import Passbook.Rule.Evaluation
import Passbook.Source.Basic

namespace Passbook

inductive PipelineError where
  | source (error : SourceError)
  | schema (problem : SchemaError)
  | dedup (error : DedupError)
  deriving DecidableEq

structure PassReport where
  errors : List RuleError := []
  diagnostics : List Diagnostic := []
  deriving DecidableEq

def PassReport.isClean (report : PassReport) : Bool :=
  report.errors.isEmpty && report.diagnostics.isEmpty

/-- The store after each stage of a run. -/
structure PipelineOutput where
  ingested : Store
  cleaned : Store
  deduplicated : Store
  categorized : Store
  banks : BankAccounts
  firstPass : PassReport
  categories : PassReport
  deriving DecidableEq

structure Pipeline where
  sources : List Fetched
  firstPassRules : Option String
  categoryRules : Option String
  defaultCategory : String

namespace Pipeline

def unknownCategory : String := "Unknown"

def firstPassColumns : List String :=
  [Schema.origin, Schema.destination, Schema.description]

def categoryColumns : List String :=
  [Schema.category]

/-- Parses what the sources fetched, the transactions of each before its
accounts. -/
def gather : List Fetched → Except SourceError (List Store × List (String × List String))
  | [] => .ok ([], [])
  | fetched :: rest =>
      match fetched.source.parseTransactions fetched.raw with
      | .error error => .error error
      | .ok store =>
          match fetched.source.parseAccounts fetched.raw with
          | .error error => .error error
          | .ok accounts =>
              match gather rest with
              | .error error => .error error
              | .ok (stores, banks) =>
                  .ok (store :: stores, (fetched.source.name, accounts.members) :: banks)

def rulePass (compiler : Compiler) (rules : Option String) (store : Store) :
    Except SchemaError (Store × PassReport) :=
  match rules with
  | none => .ok (store, {})
  | some text =>
      let compilation := compiler.compile text
      match compilation.rules.apply store with
      | .error problem => .error problem
      | .ok applied => .ok (applied.store, ⟨compilation.errors, applied.diagnostics⟩)

def run (pipeline : Pipeline) : Except PipelineError PipelineOutput :=
  match gather pipeline.sources with
  | .error error => .error (.source error)
  | .ok (stores, owned) =>
      let banks := BankAccounts.ofList owned
      match Store.concat Schema.base stores with
      | .error problem => .error (.schema problem)
      | .ok ingested =>
          match rulePass ⟨Schema.base, some firstPassColumns⟩ pipeline.firstPassRules ingested with
          | .error problem => .error (.schema problem)
          | .ok (cleaned, firstPass) =>
              match cleaned.deduplicate banks with
              | .error error => .error (.dedup error)
              | .ok deduplicated =>
                  match deduplicated.widen Schema.category (.text pipeline.defaultCategory) with
                  | .error problem => .error (.schema problem)
                  | .ok widened =>
                      match rulePass ⟨Schema.categorized, some categoryColumns⟩
                          pipeline.categoryRules widened with
                      | .error problem => .error (.schema problem)
                      | .ok (categorized, categories) =>
                          .ok ⟨ingested, cleaned, deduplicated, categorized, banks, firstPass,
                            categories⟩

end Pipeline

def PipelineOutput.reportData (output : PipelineOutput) : String :=
  ReportData.toJsonText output.categorized output.banks.allAccounts.members

end Passbook
