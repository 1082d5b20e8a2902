/-
Sources that serve a fixed document. Where the document names a balance that
differs from what its transactions sum up to, a correction is added; without
any transactions the corrections need the day of the balances.
-/

import Passbook.Json
import Passbook.Source.Basic

namespace Passbook

/-! ## Payloads

The document that a static source serves: the accounts of a bank, the
transactions it reports, and the balances that it says its accounts have. -/

structure StaticTransaction where
  origin : String
  destination : String
  date : String
  description : String
  amount : String
  deriving DecidableEq, Repr

/-- What a bank reports. `asOf` is the day of the balances. -/
structure StaticPayload where
  accounts : List String
  transactions : List StaticTransaction
  balances : OrderedMap String String
  asOf : Option String
  deriving DecidableEq, Repr

namespace StaticTransaction

def toJson (transaction : StaticTransaction) : Json.Value :=
  .object [("from", .text transaction.origin), ("to", .text transaction.destination),
    ("date", .text transaction.date), ("description", .text transaction.description),
    ("amount", .text transaction.amount)]

structure Parts where
  origin : Option String := none
  destination : Option String := none
  date : Option String := none
  description : Option String := none
  amount : Option String := none

def ofParts? (parts : Parts) : Option StaticTransaction :=
  match parts.origin, parts.destination, parts.date, parts.description, parts.amount with
  | some origin, some destination, some date, some description, some amount =>
      some ⟨origin, destination, date, description, amount⟩
  | _, _, _, _, _ => none

open Json.Reader in
def reader : Json.Reader StaticTransaction :=
  record
    [Field.of "from" Parts.origin (fun parts value => { parts with origin := some value }) text,
      Field.of "to" Parts.destination
        (fun parts value => { parts with destination := some value }) text,
      Field.of "date" Parts.date (fun parts value => { parts with date := some value }) text,
      Field.of "description" Parts.description
        (fun parts value => { parts with description := some value }) text,
      Field.of "amount" Parts.amount (fun parts value => { parts with amount := some value }) text]
    {} ofParts?

end StaticTransaction

namespace StaticPayload

def toJson (payload : StaticPayload) : Json.Value :=
  .object [("accounts", .texts payload.accounts),
    ("transactions", .list (payload.transactions.map StaticTransaction.toJson)),
    ("balances", .object (payload.balances.pairs.map fun (account, balance) =>
      (account, .text balance))),
    ("as_of", .optionalText payload.asOf)]

def encode (payload : StaticPayload) : List UInt8 :=
  Text.Utf8.encode payload.toJson.chars

structure Parts where
  accounts : Option (List String) := none
  transactions : Option (List StaticTransaction) := none
  balances : Option (OrderedMap String String) := none
  asOf : Option (Option String) := none

def ofParts? (parts : Parts) : Option StaticPayload :=
  parts.accounts.map fun accounts =>
    ⟨accounts, parts.transactions.getD [], parts.balances.getD OrderedMap.empty,
      parts.asOf.getD none⟩

open Json.Reader in
def reader : Json.Reader StaticPayload :=
  record
    [Field.of "accounts" Parts.accounts
        (fun parts value => { parts with accounts := some value }) (list text),
      Field.of "transactions" Parts.transactions
        (fun parts value => { parts with transactions := some value })
        (list StaticTransaction.reader),
      Field.of "balances" Parts.balances
        (fun parts value => { parts with balances := some value }) (table text),
      Field.of "as_of" Parts.asOf (fun parts value => { parts with asOf := some value })
        (optional text)]
    {} ofParts?

def decode (bytes : List UInt8) : Except Json.Failure StaticPayload :=
  Json.Reader.document reader (Text.Utf8.decode bytes)

end StaticPayload

/-! ## Static sources -/

/-- A source that serves fixed bytes. -/
structure StaticSource where
  name : String
  fields : List ConfigField
  payload : List UInt8
  deriving DecidableEq

namespace StaticSource

def ofBytes (name : String) (payload : List UInt8) : StaticSource :=
  ⟨name, [], payload⟩

def ofPayload (name : String) (payload : StaticPayload) : StaticSource :=
  ofBytes name payload.encode

def withConfig (source : StaticSource) (fields : List ConfigField) : StaticSource :=
  { source with fields := fields }

def emptyConfig (source : StaticSource) : List ConfigField :=
  source.fields.map fun field => ConfigField.empty field.hidden field.label

/-- Serves the document, if the configuration is for this source and gives a
value for every field. -/
def fetch (source : StaticSource) (config : SourceConfig) : Except SourceError (List UInt8) :=
  if config.bank ≠ source.name then .error ⟨source.name, .configOfOther config.bank⟩
  else
    match source.fields.find? fun field => (config.get? field.label).isNone with
    | some field => .error ⟨source.name, .missingValue field.label⟩
    | none => .ok source.payload

def row (name : String) (transaction : StaticTransaction) : Except SourceProblem Row :=
  match Date.ofText transaction.date with
  | .error cause => .error (.badTransactionDate cause)
  | .ok date =>
      match Dollars.ofText transaction.amount with
      | .error cause => .error (.badTransactionAmount cause)
      | .ok amount =>
          .ok ⟨[.text name, .text transaction.origin, .text transaction.destination, .date date,
            .text transaction.description, .dollars amount]⟩

def ingestTransactions (name : String) (store : Store) :
    List StaticTransaction → Except SourceProblem Store
  | [] => .ok store
  | transaction :: rest =>
      match row name transaction with
      | .error problem => .error problem
      | .ok row =>
          match store.ingest row with
          | .error cause => .error (.badTransaction cause)
          | .ok store => ingestTransactions name store rest

/-- The day of corrections in a store without dates: the day of the balances.
Where there are rows it is never looked at. -/
def fallbackDate (asOf : Option Date) (store : Store) : Except SourceProblem Date :=
  match asOf with
  | some date => .ok date
  | none => if store.rows.isEmpty then .error .missingAsOf else .ok ⟨1970, 1, 1⟩

def correct (name : String) (asOf : Option Date) (store : Store) (account balance : String) :
    Except SourceProblem Store :=
  match Decimal.ofChars (balance.toList.dropWhile (· == '$')) with
  | .error cause => .error (.badBalance cause)
  | .ok reported =>
      match fallbackDate asOf store with
      | .error problem => .error problem
      | .ok fallback =>
          match store.correctBalance name account reported fallback with
          | .error (.schema cause) => .error (.badCorrection cause)
          | .error (.fault fault) => .error (.fault fault)
          | .ok (store, _) => .ok store

def correctAll (name : String) (asOf : Option Date) (store : Store) :
    List (String × String) → Except SourceProblem Store
  | [] => .ok store
  | (account, balance) :: rest =>
      match correct name asOf store account balance with
      | .error problem => .error problem
      | .ok store => correctAll name asOf store rest

def asOfDate (asOf : Option String) : Except SourceProblem (Option Date) :=
  match asOf with
  | none => .ok none
  | some date =>
      match Date.ofText date with
      | .error cause => .error (.badAsOf cause)
      | .ok date => .ok (some date)

def storeOf (name : String) (payload : StaticPayload) : Except SourceProblem Store :=
  match ingestTransactions name (Store.empty Schema.base) payload.transactions with
  | .error problem => .error problem
  | .ok store =>
      match asOfDate payload.asOf with
      | .error problem => .error problem
      | .ok asOf => correctAll name asOf store payload.balances.pairs

def decode (source : StaticSource) (raw : List UInt8) : Except SourceError StaticPayload :=
  match StaticPayload.decode raw with
  | .error failure => .error ⟨source.name, .malformedPayload failure⟩
  | .ok payload => .ok payload

def parseTransactions (source : StaticSource) (raw : List UInt8) : Except SourceError Store :=
  match source.decode raw with
  | .error error => .error error
  | .ok payload =>
      match storeOf source.name payload with
      | .error problem => .error ⟨source.name, problem⟩
      | .ok store => .ok store

def parseAccounts (source : StaticSource) (raw : List UInt8) :
    Except SourceError (OrderedSet String) :=
  match source.decode raw with
  | .error error => .error error
  | .ok payload => .ok (OrderedSet.ofList payload.accounts)

def toSource (source : StaticSource) : Source where
  name := source.name
  emptyConfig := source.emptyConfig
  fetch := source.fetch
  parseTransactions := source.parseTransactions
  parseAccounts := source.parseAccounts

end StaticSource

end Passbook
