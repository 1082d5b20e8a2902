/-
Stores as they are shown: as a table of text, and as the data of a spending report.
-/

import Passbook.Json
import Passbook.Store

namespace Passbook

/-! ## Tables

Stores as tables of text: the column names and then the rows, one a line, with
tabs between the cells. Tabs and line feeds inside of a text become blanks, for
they would break the table. -/

inductive RenderError where
  | io
  deriving DecidableEq, Repr

def RenderError.message : RenderError → String
  | .io => "an io error occurred"

namespace Table

def cellChar (c : Char) : Char :=
  if c = '\t' ∨ c = '\n' then ' ' else c

def cell : Entry → String
  | .text value => String.ofList (value.toList.map cellChar)
  | entry => entry.toText

def line (cells : List String) : String :=
  "\t".intercalate cells ++ "\n"

def header (schema : Schema) : String :=
  line schema.names

def row (row : Row) : String :=
  line (row.entries.map cell)

def ofStore (store : Store) : String :=
  header store.schema ++ String.join (store.rows.map row)

/-- Writes a text where at most `limit` bytes may be written. -/
def write (limit : Option Nat) (text : String) : Except RenderError String :=
  if limit.all fun limit => text.utf8ByteSize ≤ limit then .ok text else .error .io

end Table

/-! ## Report data

The data of a spending report as a JSON document: the accounts, the column names
and the transactions. Every entry is a text; a date is written `YYYY/MM/DD` and
an amount without its dollar sign. -/

namespace ReportData

def entryText : Entry → String
  | .dollars value => value.amount.toText
  | entry => entry.toText

def rowJson (row : Row) : Json.Value :=
  .texts (row.entries.map entryText)

def document (store : Store) (accounts : List String) : Json.Value :=
  .object [("accounts", .texts accounts), ("columns", .texts store.schema.names),
    ("transactions", .list (store.rows.map rowJson))]

def toJsonText (store : Store) (accounts : List String) : String :=
  (document store accounts).toText

end ReportData

end Passbook
