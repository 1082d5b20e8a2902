/-
Entries, the single values of a transaction. Entries of one kind are totally
ordered, and equal exactly when the order says so; entries of two kinds are
never equal and have no order.
-/

import Passbook.Decimal
import Passbook.Text

namespace Passbook

inductive Kind where
  | date
  | text
  | dollars
  deriving DecidableEq, Repr

def Kind.name : Kind → String
  | .date => "Date"
  | .text => "String"
  | .dollars => "Dollars"

instance : ToString Kind :=
  ⟨Kind.name⟩

inductive ValueError where
  | negativeDollars (amount : Decimal)
  | invalidDecimal (input : String) (cause : Decimal.ReadError)
  | invalidDate (input : String)
  | kindMismatch (left right : Kind)
  | invalidPattern (pattern : String)
  deriving DecidableEq

def ValueError.message : ValueError → String
  | .negativeDollars amount => "dollar amounts cannot be negative, got " ++ amount.toText
  | .invalidDecimal input cause =>
      "could not parse `" ++ input ++ "` as a decimal: " ++ cause.message
  | .invalidDate input => "could not parse `" ++ input ++ "` as a date"
  | .kindMismatch left right =>
      "cannot compare a " ++ left.name ++ " entry with a " ++ right.name ++ " entry"
  | .invalidPattern pattern => "invalid pattern `" ++ pattern ++ "`"

/-! ## Days

The parts are whole numbers of 32 bits and are not checked against a calendar;
`Date.ofCalendar?` is the one constructor that is strict about it. Days are
ordered by year, then month, then day. -/

structure Date where
  year : Int32
  month : UInt32
  day : UInt32
  deriving DecidableEq

namespace Date

def compare (a b : Date) : Ordering :=
  (Ord.compare a.year b.year).then
    ((Ord.compare a.month b.month).then (Ord.compare a.day b.day))

def earlier (a b : Date) : Date :=
  if b.compare a = .lt then b else a

/-- A year fills at least four places, its sign among them. -/
def yearChars (year : Int32) : List Char :=
  let value := year.toInt
  if value < 0 then '-' :: Text.padZeros 3 (Text.digits value.natAbs)
  else Text.padZeros 4 (Text.digits value.natAbs)

def partChars (part : UInt32) : List Char :=
  Text.padZeros 2 (Text.digits part.toNat)

def chars (date : Date) : List Char :=
  yearChars date.year ++ '/' :: (partChars date.month ++ '/' :: partChars date.day)

def toText (date : Date) : String :=
  String.ofList date.chars

instance : ToString Date :=
  ⟨toText⟩

def ofPartChars? (year month day : List Char) : Option Date :=
  match Text.signedWord? (Text.trimBlanks year), Text.word? (Text.trimBlanks month),
      Text.word? (Text.trimBlanks day) with
  | some year, some month, some day => some ⟨year, month, day⟩
  | _, _, _ => none

def ofParts (year month day : String) : Except ValueError Date :=
  match ofPartChars? year.toList month.toList day.toList with
  | some date => .ok date
  | none => .error (.invalidDate (year ++ "/" ++ month ++ "/" ++ day))

def ofChars? (text : List Char) : Option Date :=
  match Text.split ['/'] text with
  | [year, month, day] => ofPartChars? year month day
  | _ => none

def ofText (text : String) : Except ValueError Date :=
  match ofChars? text.toList with
  | some date => .ok date
  | none => .error (.invalidDate text)

def isLeapYear (year : Int) : Bool :=
  year % 4 == 0 && (year % 100 != 0 || year % 400 == 0)

def daysInMonth (year : Int) (month : Nat) : Nat :=
  if month = 2 then (if isLeapYear year then 29 else 28)
  else if month = 4 ∨ month = 6 ∨ month = 9 ∨ month = 11 then 30
  else 31

/-- The day of three numbers, if the calendar has it. The calendar runs from
the year -262143 to the year 262142. -/
def ofCalendar? (year : Int32) (month day : UInt32) : Option Date :=
  if -262143 ≤ year.toInt ∧ year.toInt ≤ 262142 ∧ 1 ≤ month.toNat ∧ month.toNat ≤ 12 ∧
      1 ≤ day.toNat ∧ day.toNat ≤ daysInMonth year.toInt month.toNat then
    some ⟨year, month, day⟩
  else
    none

end Date

/-! ## Amounts

The direction of a transfer is carried by its two endpoints, so an amount is
never negative. It keeps the places it was written with. -/

structure Dollars where
  amount : Decimal
  nonnegative : 0 ≤ amount.coefficient
  deriving DecidableEq

namespace Dollars

def ofDecimal (amount : Decimal) : Except ValueError Dollars :=
  if nonnegative : 0 ≤ amount.coefficient then .ok ⟨amount, nonnegative⟩
  else .error (.negativeDollars amount)

def ofMagnitude (amount : Decimal) : Dollars :=
  ⟨amount.magnitude, Int.natCast_nonneg _⟩

def compare (a b : Dollars) : Ordering :=
  a.amount.compare b.amount

def sameValue (a b : Dollars) : Bool :=
  a.amount.sameValue b.amount

def chars (dollars : Dollars) : List Char :=
  '$' :: dollars.amount.chars

def toText (dollars : Dollars) : String :=
  String.ofList dollars.chars

instance : ToString Dollars :=
  ⟨toText⟩

/-- The numeral of an amount: blanks at the ends and dollar signs in front do
not count. -/
def numeral (text : List Char) : List Char :=
  (Text.trimBlanks text).dropWhile (· == '$')

def ofText (text : String) : Except ValueError Dollars :=
  match Decimal.ofChars (numeral text.toList) with
  | .error cause => .error (.invalidDecimal text cause)
  | .ok amount => ofDecimal amount

end Dollars

inductive Entry where
  | date (value : Date)
  | text (value : String)
  | dollars (value : Dollars)
  deriving DecidableEq

namespace Entry

def kind : Entry → Kind
  | .date _ => .date
  | .text _ => .text
  | .dollars _ => .dollars

def text? : Entry → Option String
  | .text value => some value
  | _ => none

def date? : Entry → Option Date
  | .date value => some value
  | _ => none

def dollars? : Entry → Option Dollars
  | .dollars value => some value
  | _ => none

def compare? : Entry → Entry → Option Ordering
  | .date a, .date b => some (a.compare b)
  | .text a, .text b => some (Ord.compare a b)
  | .dollars a, .dollars b => some (a.compare b)
  | _, _ => none

def tryCompare (a b : Entry) : Except ValueError Ordering :=
  match a.compare? b with
  | some ordering => .ok ordering
  | none => .error (.kindMismatch a.kind b.kind)

/-- Two entries of one kind and value; amounts are one value whatever their
places. -/
def sameValue : Entry → Entry → Bool
  | .date a, .date b => a == b
  | .text a, .text b => a == b
  | .dollars a, .dollars b => a.sameValue b
  | _, _ => false

def chars : Entry → List Char
  | .date value => value.chars
  | .text value => value.toList
  | .dollars value => value.chars

def toText : Entry → String
  | .date value => value.toText
  | .text value => value
  | .dollars value => value.toText

instance : ToString Entry :=
  ⟨toText⟩

end Entry

end Passbook
