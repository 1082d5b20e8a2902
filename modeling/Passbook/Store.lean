/-
Stores: tables of rows under one schema. Rows are only ever added, and an added
row is checked against the schema; every later stage makes a new store. A row is
never changed in place either: replacing or adding an entry gives a new row.
-/

import Passbook.Entry

namespace Passbook

/-! ## Columns

Schemas: the names of the columns of a store in order, with the kind of entry
each holds. The order of the columns is the layout of every row. Schemas built
here have no name twice, so that a name and a position determine each other. -/

structure Column where
  name : String
  kind : Kind
  deriving DecidableEq, Repr

inductive SchemaError where
  | arity (expected found : Nat)
  | kindMismatch (column : String) (expected found : Kind)
  | duplicateColumn (column : String)
  | unknownColumn (column : String)
  | schemaMismatch
  deriving DecidableEq, Repr

def SchemaError.message : SchemaError → String
  | .arity expected found =>
      "tried to ingest a row with " ++ toString found ++ " entries, expected " ++
        toString expected
  | .kindMismatch column expected found =>
      "tried to ingest a " ++ found.name ++ " entry into column `" ++ column ++
        "`, expected " ++ expected.name
  | .duplicateColumn column => "column `" ++ column ++ "` appears more than once"
  | .unknownColumn column => "no column named `" ++ column ++ "`"
  | .schemaMismatch => "cannot combine stores with different columns"

structure Schema where
  columns : List Column
  deriving DecidableEq, Repr

namespace Schema

def bank : String := "bank"

def origin : String := "from"

def destination : String := "to"

def date : String := "date"

def description : String := "description"

def amount : String := "amount"

def category : String := "category"

def names (schema : Schema) : List String :=
  schema.columns.map Column.name

def kinds (schema : Schema) : List Kind :=
  schema.columns.map Column.kind

def size (schema : Schema) : Nat :=
  schema.columns.length

/-- No two columns share a name. -/
def WellFormed (schema : Schema) : Prop :=
  schema.names.Nodup

def repeated? (seen : List String) : List Column → Option String
  | [] => none
  | column :: rest =>
      if column.name ∈ seen then some column.name else repeated? (column.name :: seen) rest

def ofColumns (columns : List Column) : Except SchemaError Schema :=
  match repeated? [] columns with
  | some name => .error (.duplicateColumn name)
  | none => .ok ⟨columns⟩

def base : Schema :=
  ⟨[⟨bank, .text⟩, ⟨origin, .text⟩, ⟨destination, .text⟩, ⟨date, .date⟩,
    ⟨description, .text⟩, ⟨amount, .dollars⟩]⟩

def categorized : Schema :=
  ⟨base.columns ++ [⟨category, .text⟩]⟩

def withColumn (schema : Schema) (name : String) (kind : Kind) : Except SchemaError Schema :=
  ofColumns (schema.columns ++ [⟨name, kind⟩])

def indexOf? (schema : Schema) (name : String) : Option Nat :=
  schema.columns.findIdx? fun column => column.name == name

def kindOf? (schema : Schema) (name : String) : Option Kind :=
  (schema.columns.find? fun column => column.name == name).map Column.kind

def require (schema : Schema) (name : String) : Except SchemaError Nat :=
  match schema.indexOf? name with
  | some index => .ok index
  | none => .error (.unknownColumn name)

def requireKind (schema : Schema) (name : String) (expected : Kind) :
    Except SchemaError Nat :=
  match schema.require name with
  | .error problem => .error problem
  | .ok index =>
      match schema.kindOf? name with
      | some found =>
          if found = expected then .ok index
          else .error (.kindMismatch name expected found)
      | none => .ok index

theorem base_wellFormed : base.WellFormed := by
  unfold WellFormed
  decide

theorem categorized_wellFormed : categorized.WellFormed := by
  unfold WellFormed
  decide

end Schema

/-! ## Rows -/

structure Row where
  entries : List Entry
  deriving DecidableEq

namespace Row

def size (row : Row) : Nat :=
  row.entries.length

/-- The kinds of the entries are those of the columns, position by position. -/
def Conforms (row : Row) (schema : Schema) : Prop :=
  row.entries.map Entry.kind = schema.kinds

instance (row : Row) (schema : Schema) : Decidable (row.Conforms schema) :=
  inferInstanceAs (Decidable (_ = _))

def get? (row : Row) (index : Nat) : Option Entry :=
  row.entries[index]?

def with? (row : Row) (index : Nat) (entry : Entry) : Option Row :=
  if index < row.entries.length then some ⟨row.entries.set index entry⟩ else none

def set (row : Row) (index : Nat) (entry : Entry) : Row :=
  ⟨row.entries.set index entry⟩

def extended (row : Row) (entry : Entry) : Row :=
  ⟨row.entries ++ [entry]⟩

def sameEntries : List Entry → List Entry → Bool
  | [], [] => true
  | a :: as, b :: bs => a.sameValue b && sameEntries as bs
  | _, _ => false

def sameValue (a b : Row) : Bool :=
  sameEntries a.entries b.entries

def toText (row : Row) : String :=
  "\t".intercalate (row.entries.map Entry.toText)

instance : ToString Row :=
  ⟨toText⟩

end Row

/-! ## Tables of rows -/

structure Store where
  schema : Schema
  rows : List Row
  deriving DecidableEq

namespace Store

/-- The column names differ and every row has the kinds of the columns. -/
def WellFormed (store : Store) : Prop :=
  store.schema.WellFormed ∧ ∀ row ∈ store.rows, row.Conforms store.schema

def empty (schema : Schema) : Store :=
  ⟨schema, []⟩

def size (store : Store) : Nat :=
  store.rows.length

def firstMismatch? : List Entry → List Column → Option SchemaError
  | entry :: entries, column :: columns =>
      if entry.kind = column.kind then firstMismatch? entries columns
      else some (.kindMismatch column.name column.kind entry.kind)
  | _, _ => none

/-- Checks a row against the columns: first their number, then each kind. -/
def validate (schema : Schema) (row : Row) : Except SchemaError Unit :=
  if row.size ≠ schema.size then .error (.arity schema.size row.size)
  else
    match firstMismatch? row.entries schema.columns with
    | some problem => .error problem
    | none => .ok ()

def ingest (store : Store) (row : Row) : Except SchemaError Store :=
  match validate store.schema row with
  | .error problem => .error problem
  | .ok () => .ok { store with rows := store.rows ++ [row] }

def ingestAll (store : Store) : List Row → Except SchemaError Store
  | [] => .ok store
  | row :: rows =>
      match store.ingest row with
      | .error problem => .error problem
      | .ok grown => grown.ingestAll rows

def field (store : Store) (row : Row) (name : String) : Except SchemaError Entry :=
  match store.schema.require name with
  | .error problem => .error problem
  | .ok index =>
      match row.get? index with
      | some entry => .ok entry
      | none => .error (.arity store.schema.size row.size)

/-- The rows of several stores in one, in order; all must have the schema. -/
def concat (schema : Schema) (stores : List Store) : Except SchemaError Store :=
  if stores.all (fun store => store.schema == schema) then
    .ok ⟨schema, stores.flatMap rows⟩
  else
    .error .schemaMismatch

/-- The store with one more column, which holds `default` in every row. -/
def widen (store : Store) (name : String) (default : Entry) : Except SchemaError Store :=
  match store.schema.withColumn name default.kind with
  | .error problem => .error problem
  | .ok schema => .ok ⟨schema, store.rows.map fun row => row.extended default⟩

def sameRows : List Row → List Row → Bool
  | [], [] => true
  | a :: as, b :: bs => a.sameValue b && sameRows as bs
  | _, _ => false

def sameValue (a b : Store) : Bool :=
  a.schema == b.schema && sameRows a.rows b.rows

end Store

/-! ## What a row moves

A row moves an amount from one account to another. The amount is added to what an
account has received when the account is the destination, and taken off when it is
the origin; a row between an account and itself does both. -/

/-- Why a computation over the rows of a store has no result: an amount too
large to hold, or a row without one of the cells that its schema promises. -/
inductive Fault where
  | overflow
  | missingCell
  deriving DecidableEq, Repr

structure Movement where
  origin : Option String
  destination : Option String
  amount : Decimal

namespace Movement

/-- The amount that an entry holds, nothing when it holds none. -/
def amountOf (entry : Entry) : Decimal :=
  match entry.dollars? with
  | some dollars => dollars.amount
  | none => Decimal.zero

def ofRow? (origin destination amount : Nat) (row : Row) : Option Movement :=
  match row.get? amount, row.get? destination, row.get? origin with
  | some amount, some destination, some origin =>
      some ⟨origin.text?, destination.text?, amountOf amount⟩
  | _, _, _ => none

def settle? (movement : Movement) (account : String) (balance : Decimal) : Option Decimal :=
  let received :=
    if movement.destination = some account then balance.add? movement.amount else some balance
  match received with
  | some balance =>
      if movement.origin = some account then balance.sub? movement.amount else some balance
  | none => none

end Movement

/-! ## Balances and their correction

The balance of an account is what the rows of a store move into it less what
they move out of it. Banks report a limited history, so a balance can differ
from what the bank says; a correction is one more row that moves the difference
between the account and a counterparty that stands for the rest of the world. -/

inductive BalanceError where
  | schema (problem : SchemaError)
  | fault (fault : Fault)
  deriving DecidableEq, Repr

namespace Store

def counterparty : String := "Universe"

def balanceCorrection : String := "Balance correction"

def settleAll (account : String) (origin destination amount : Nat) (balance : Decimal) :
    List Row → Except Fault Decimal
  | [] => .ok balance
  | row :: rows =>
      match Movement.ofRow? origin destination amount row with
      | none => .error .missingCell
      | some movement =>
          match movement.settle? account balance with
          | none => .error .overflow
          | some balance => settleAll account origin destination amount balance rows

def balance (store : Store) (account : String) : Except BalanceError Decimal :=
  match store.schema.require Schema.origin, store.schema.require Schema.destination,
      store.schema.require Schema.amount with
  | .error problem, _, _ => .error (.schema problem)
  | .ok _, .error problem, _ => .error (.schema problem)
  | .ok _, .ok _, .error problem => .error (.schema problem)
  | .ok origin, .ok destination, .ok amount =>
      match settleAll account origin destination amount Decimal.zero store.rows with
      | .error fault => .error (.fault fault)
      | .ok total => .ok total

def oldest? : List Date → Option Date
  | [] => none
  | date :: dates => some (dates.foldl Date.earlier date)

def oldestDate? (store : Store) : Except BalanceError (Option Date) :=
  match store.schema.require Schema.date with
  | .error problem => .error (.schema problem)
  | .ok index =>
      if store.rows.all fun row => index < row.size then
        .ok (oldest? (store.rows.filterMap fun row => (row.get? index).bind Entry.date?))
      else
        .error (.fault .missingCell)

/-- The row that moves `difference` into an account, or out of it when the
difference is negative. -/
def correctionRow (bank account : String) (difference : Decimal) (date : Date) : Row :=
  let (origin, destination) :=
    if difference.isNegative then (account, counterparty) else (counterparty, account)
  ⟨[.text bank, .text origin, .text destination, .date date, .text balanceCorrection,
    .dollars (Dollars.ofMagnitude difference)]⟩

/-- Adds the row that brings an account to the balance its bank reports, if it
is not there yet, and tells whether it did. The row has the oldest date of the
store, or `fallback` when the store has none. -/
def correctBalance (store : Store) (bank account : String) (reported : Decimal)
    (fallback : Date) : Except BalanceError (Store × Bool) :=
  match store.balance account with
  | .error problem => .error problem
  | .ok computed =>
      match reported.sub? computed with
      | none => .error (.fault .overflow)
      | some difference =>
          if difference.isZero then .ok (store, false)
          else
            match store.oldestDate? with
            | .error problem => .error problem
            | .ok date =>
                match store.ingest
                    (correctionRow bank account difference (date.getD fallback)) with
                | .error problem => .error (.schema problem)
                | .ok corrected => .ok (corrected, true)

end Store

end Passbook
