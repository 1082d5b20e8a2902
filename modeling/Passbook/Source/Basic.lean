/-
Sources of transactions, usually one per bank, and their configurations. Fetching
and parsing are apart, so that what was fetched can be kept and parsed again.
-/

import Passbook.Json
import Passbook.Ordered
import Passbook.Store

namespace Passbook

/-! ## Configurations

Configurations of bank sources: labelled fields, each with a value or still
waiting for one. The values of hidden fields are never shown. -/

structure ConfigField where
  hidden : Bool
  label : String
  value : Option String
  deriving DecidableEq, Repr

structure SourceConfig where
  bank : String
  fields : List ConfigField
  deriving DecidableEq, Repr

namespace ConfigField

def empty (hidden : Bool) (label : String) : ConfigField :=
  ⟨hidden, label, none⟩

def withValue (field : ConfigField) (value : String) : ConfigField :=
  { field with value := some value }

def isFilled (field : ConfigField) : Bool :=
  field.value.isSome

def toText (field : ConfigField) : String :=
  match field.value with
  | none => field.label ++ ": <unset>"
  | some value => field.label ++ ": " ++ (if field.hidden then "********" else value)

def toJson (field : ConfigField) : Json.Value :=
  .object [("hidden", .bool field.hidden), ("label", .text field.label),
    ("value", .optionalText field.value)]

structure Parts where
  hidden : Option Bool := none
  label : Option String := none
  value : Option (Option String) := none

def ofParts? (parts : Parts) : Option ConfigField :=
  match parts.hidden, parts.label with
  | some hidden, some label => some ⟨hidden, label, parts.value.getD none⟩
  | _, _ => none

open Json.Reader in
def reader : Json.Reader ConfigField :=
  record
    [Field.of "hidden" Parts.hidden (fun parts value => { parts with hidden := some value }) bool,
      Field.of "label" Parts.label (fun parts value => { parts with label := some value }) text,
      Field.of "value" Parts.value (fun parts value => { parts with value := some value })
        (optional text)]
    {} ofParts?

def listOfJsonText (json : String) : Except Json.Failure (List ConfigField) :=
  Json.Reader.document (Json.Reader.list reader) (json.toList.map .char)

end ConfigField

namespace SourceConfig

def get? (config : SourceConfig) (label : String) : Option String :=
  match config.fields.find? fun field => field.label == label with
  | some field => field.value
  | none => none

def missing (config : SourceConfig) : List String :=
  (config.fields.filter fun field => !field.isFilled).map ConfigField.label

def isComplete (config : SourceConfig) : Bool :=
  config.missing.isEmpty

def setValue (config : SourceConfig) (index : Nat) (value : String) : SourceConfig :=
  { config with fields := config.fields.modify index fun field => field.withValue value }

def toJson (config : SourceConfig) : Json.Value :=
  .object [("bank", .text config.bank), ("fields", .list (config.fields.map ConfigField.toJson))]

def toJsonText (config : SourceConfig) : String :=
  config.toJson.toText

structure Parts where
  bank : Option String := none
  fields : Option (List ConfigField) := none

def ofParts? (parts : Parts) : Option SourceConfig :=
  match parts.bank, parts.fields with
  | some bank, some fields => some ⟨bank, fields⟩
  | _, _ => none

open Json.Reader in
def reader : Json.Reader SourceConfig :=
  record
    [Field.of "bank" Parts.bank (fun parts value => { parts with bank := some value }) text,
      Field.of "fields" Parts.fields (fun parts value => { parts with fields := some value })
        (list ConfigField.reader)]
    {} ofParts?

def ofJsonText (json : String) : Except Json.Failure SourceConfig :=
  Json.Reader.document reader (json.toList.map .char)

end SourceConfig

/-! ## Sources -/

inductive SourceProblem where
  | configOfOther (bank : String)
  | missingValue (label : String)
  | malformedPayload (failure : Json.Failure)
  | badTransactionDate (cause : ValueError)
  | badTransactionAmount (cause : ValueError)
  | badTransaction (cause : SchemaError)
  | badAsOf (cause : ValueError)
  | badBalance (cause : Decimal.ReadError)
  | missingAsOf
  | badCorrection (cause : SchemaError)
  | fault (fault : Fault)
  deriving DecidableEq

structure SourceError where
  bank : String
  problem : SourceProblem
  deriving DecidableEq

namespace SourceProblem

def message : SourceProblem → String
  | .configOfOther bank => "config is for `" ++ bank ++ "`"
  | .missingValue label => "missing value for `" ++ label ++ "`"
  | .malformedPayload _ => "malformed payload"
  | .badTransactionDate _ => "bad transaction date"
  | .badTransactionAmount _ => "bad transaction amount"
  | .badTransaction _ => "bad transaction"
  | .badAsOf _ => "bad as_of date"
  | .badBalance _ => "bad balance"
  | .missingAsOf => "balances without transactions need `as_of`"
  | .badCorrection _ => "bad balance correction"
  | .fault .overflow => "an amount is too large"
  | .fault .missingCell => "a row lacks a cell"

def cause? : SourceProblem → Option String
  | .badTransactionDate cause | .badTransactionAmount cause | .badAsOf cause =>
      some cause.message
  | .badTransaction cause | .badCorrection cause => some cause.message
  | .badBalance cause => some cause.message
  | _ => none

end SourceProblem

def SourceError.message (error : SourceError) : String :=
  error.bank ++ ": " ++ error.problem.message

structure Source where
  name : String
  /-- The fields that have to be filled before fetching. -/
  emptyConfig : List ConfigField
  fetch : SourceConfig → Except SourceError (List UInt8)
  parseTransactions : List UInt8 → Except SourceError Store
  parseAccounts : List UInt8 → Except SourceError (OrderedSet String)

structure Fetched where
  source : Source
  raw : List UInt8

def Fetched.fetch (source : Source) (config : SourceConfig) : Except SourceError Fetched :=
  (source.fetch config).map fun raw => ⟨source, raw⟩

end Passbook
