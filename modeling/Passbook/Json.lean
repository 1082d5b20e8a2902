/-
JSON: documents with their text, and readers for the values that are asked for.
-/

import Passbook.Decimal
import Passbook.Ordered
import Passbook.Text

namespace Passbook.Json

/-! ## Documents

JSON documents and their compact text. A text escapes the quote, the backslash
and the control characters, the latter by a letter where there is one and else
by four hexadecimal digits; all other characters stand as they are. -/

inductive Value where
  | null
  | bool (value : Bool)
  | text (value : String)
  | list (items : List Value)
  | object (fields : List (String × Value))

def escape (c : Char) : List Char :=
  if c = '"' then ['\\', '"']
  else if c = '\\' then ['\\', '\\']
  else if c = '\x08' then ['\\', 'b']
  else if c = '\x0C' then ['\\', 'f']
  else if c = '\n' then ['\\', 'n']
  else if c = '\r' then ['\\', 'r']
  else if c = '\t' then ['\\', 't']
  else if c.toNat < 0x20 then
    ['\\', 'u', '0', '0', Nat.digitChar (c.toNat / 16), Nat.digitChar (c.toNat % 16)]
  else [c]

def quote (text : String) : List Char :=
  '"' :: (text.toList.flatMap escape ++ ['"'])

mutual

def Value.chars : Value → List Char
  | .null => ['n', 'u', 'l', 'l']
  | .bool true => ['t', 'r', 'u', 'e']
  | .bool false => ['f', 'a', 'l', 's', 'e']
  | .text value => quote value
  | .list items => '[' :: (itemsChars items ++ [']'])
  | .object fields => '\x7b' :: (fieldsChars fields ++ ['\x7d'])

def itemsChars : List Value → List Char
  | [] => []
  | [item] => item.chars
  | item :: items => item.chars ++ ',' :: itemsChars items

def fieldsChars : List (String × Value) → List Char
  | [] => []
  | [(name, value)] => quote name ++ ':' :: value.chars
  | (name, value) :: fields => quote name ++ ':' :: (value.chars ++ ',' :: fieldsChars fields)

end

def Value.toText (value : Value) : String :=
  String.ofList value.chars

def Value.texts (texts : List String) : Value :=
  .list (texts.map .text)

def Value.optionalText : Option String → Value
  | some present => .text present
  | none => .null

/-! ## The range of numbers

A number is held in 64 bits of floating point. Its digits are read into a word
as long as they fit, and the word is multiplied by the power of ten that is
left. The word, the power and the product are each rounded to 53 binary digits,
a tie going to the even neighbour; a number is out of range when the product is. -/

structure Number where
  whole : List Char
  fraction : List Char
  exponent : Int

namespace Number

def wordBound : Nat := 18446744073709551616

/-- Reads digits behind those of a word as long as they fit; gives the word and
the number of digits that are left. -/
def fillWord (word : Nat) : List Char → Nat × Nat
  | [] => (word, 0)
  | c :: rest =>
      let grown := word * 10 + (c.toNat - '0'.toNat)
      if grown < wordBound then fillWord grown rest else (word, rest.length + 1)

/-- The word of a number and the power of ten it is multiplied by. Digits before
the point that are left multiply it, those after the point that are in it divide
it. -/
def scaled (number : Number) : Nat × Int :=
  let (word, left) := fillWord 0 number.whole
  let (word, dropped) := fillWord word number.fraction
  (word, number.exponent + left - (number.fraction.length - dropped : Nat))

def roundToDouble (n : Nat) : Nat :=
  let excess := n.log2 + 1 - 53
  Decimal.roundHalfEven n (1 <<< excess) <<< excess

/-- The first number that is rounded to infinity: half a unit beyond the largest
one of 53 binary digits and 971 zeros. -/
def infinityBound : Nat := (1 <<< 1024) - (1 <<< 970)

def maxExponent : Nat := 308

def isFinite (number : Number) : Bool :=
  let (word, exponent) := number.scaled
  if word = 0 ∨ exponent < 0 then true
  else if maxExponent < exponent.toNat then false
  else roundToDouble word * roundToDouble (Text.powerOfTen exponent.toNat) < infinityBound

end Number

/-! ## Tokens

The tokens of JSON: blanks, texts, numbers and the three words. Reading goes
from left to right and stops at the first thing that is wrong. A text that ends
too early is told apart from one that is malformed, and both from a well-formed
value of a type that was not asked for. -/

open Text.Utf8 (Piece)

inductive Failure where
  /-- It is no JSON. -/
  | malformed
  /-- A value, or the fields of an object, are not those that were asked for. -/
  | mismatched
  /-- It ends too early. -/
  | truncated
  deriving DecidableEq, Repr

abbrev Input := List Piece

def isBlank : Piece → Bool
  | .char c => c == ' ' || c == '\t' || c == '\n' || c == '\r'
  | .stray _ => false

def skipBlanks (input : Input) : Input :=
  input.dropWhile isBlank

def word : List Char → Input → Except Failure Input
  | [], input => .ok input
  | _ :: _, [] => .error .truncated
  | c :: expected, piece :: rest =>
      if piece = .char c then word expected rest else .error .malformed

def hexValue? : Piece → Option Nat
  | .char c =>
      if c.isDigit then some (c.toNat - '0'.toNat)
      else if 'a' ≤ c ∧ c ≤ 'f' then some (c.toNat - 'a'.toNat + 10)
      else if 'A' ≤ c ∧ c ≤ 'F' then some (c.toNat - 'A'.toNat + 10)
      else none
  | .stray _ => none

def byteCount : Input → Nat
  | [] => 0
  | piece :: rest => piece.size + byteCount rest

def hexQuad (input : Input) : Except Failure (Nat × Input) :=
  match input with
  | a :: b :: c :: d :: rest =>
      match hexValue? a, hexValue? b, hexValue? c, hexValue? d with
      | some a, some b, some c, some d => .ok (((a * 16 + b) * 16 + c) * 16 + d, rest)
      | _, _, _, _ => .error .malformed
  | few => if byteCount few < 4 then .error .truncated else .error .malformed

def unescape? (letter : Char) : Option Char :=
  match letter with
  | '"' => some '"'
  | '\\' => some '\\'
  | '/' => some '/'
  | 'b' => some '\x08'
  | 'f' => some '\x0C'
  | 'n' => some '\n'
  | 'r' => some '\r'
  | 't' => some '\t'
  | _ => none

def lowHalf : Input → Except Failure (Nat × Input)
  | [] => .error .truncated
  | .char '\\' :: rest =>
      match rest with
      | [] => .error .truncated
      | .char 'u' :: rest => hexQuad rest
      | _ => .error .malformed
  | _ => .error .malformed

/-- Reads a character by its code after `\u`. A code beyond four digits is
written as a pair of halves; neither half may stand alone. -/
def codeEscape (input : Input) : Except Failure (Char × Input) :=
  match hexQuad input with
  | .error failure => .error failure
  | .ok (code, rest) =>
      if 0xDC00 ≤ code ∧ code ≤ 0xDFFF then .error .malformed
      else if code < 0xD800 ∨ 0xDBFF < code then .ok (Char.ofNat code, rest)
      else
        match lowHalf rest with
        | .error failure => .error failure
        | .ok (low, rest) =>
            if 0xDC00 ≤ low ∧ low ≤ 0xDFFF then
              .ok (Char.ofNat ((code - 0xD800) * 0x400 + (low - 0xDC00) + 0x10000), rest)
            else .error .malformed

def escaped : Input → Except Failure (Char × Input)
  | [] => .error .truncated
  | .char 'u' :: rest => codeEscape rest
  | .char c :: rest =>
      match unescape? c with
      | some c => .ok (c, rest)
      | none => .error .malformed
  | .stray _ :: _ => .error .malformed

/-- Reads a text after its opening quote. Bytes that make no character are
refused when the closing quote has been seen. -/
def textBody : Nat → Bool → Input → Except Failure (List Char × Input)
  | 0, _, _ => .error .truncated
  | _ + 1, _, [] => .error .truncated
  | fuel + 1, sound, piece :: rest =>
      match piece with
      | .stray _ => textBody fuel false rest
      | .char c =>
          if c = '"' then (if sound then .ok ([], rest) else .error .malformed)
          else if c = '\\' then
            match escaped rest with
            | .error failure => .error failure
            | .ok (c, rest) => (textBody fuel sound rest).map fun (text, rest) => (c :: text, rest)
          else if c.toNat < 0x20 then .error .malformed
          else (textBody fuel sound rest).map fun (text, rest) => (c :: text, rest)

def textToken (input : Input) : Except Failure (String × Input) :=
  (textBody (input.length + 1) true input).map fun (text, rest) => (String.ofList text, rest)

def skipText : Nat → Input → Except Failure Input
  | 0, _ => .error .truncated
  | _ + 1, [] => .error .truncated
  | fuel + 1, piece :: rest =>
      match piece with
      | .stray _ => skipText fuel rest
      | .char c =>
          if c = '"' then .ok rest
          else if c = '\\' then
            match rest with
            | [] => .error .truncated
            | .char 'u' :: rest =>
                match hexQuad rest with
                | .error failure => .error failure
                | .ok (_, rest) => skipText fuel rest
            | .char letter :: rest =>
                if (unescape? letter).isSome then skipText fuel rest else .error .malformed
            | .stray _ :: _ => .error .malformed
          else if c.toNat < 0x20 then .error .malformed
          else skipText fuel rest

/-! ### Numbers -/

def digitOf? : Piece → Option Char
  | .char c => if c.isDigit then some c else none
  | .stray _ => none

def digitRun : Input → List Char × Input
  | [] => ([], [])
  | piece :: rest =>
      match digitOf? piece with
      | some c =>
          let (digits, rest) := digitRun rest
          (c :: digits, rest)
      | none => ([], piece :: rest)

def someDigits (atEnd : Failure) (input : Input) : Except Failure (List Char × Input) :=
  match digitRun input with
  | ([], []) => .error atEnd
  | ([], _) => .error .malformed
  | found => .ok found

def wholeDigits (atEnd : Failure) (input : Input) : Except Failure (List Char × Input) :=
  match someDigits atEnd input with
  | .error failure => .error failure
  | .ok (digits, rest) =>
      match digits with
      | '0' :: _ :: _ => .error .malformed
      | _ => .ok (digits, rest)

def fractionDigits (atEnd : Failure) (input : Input) : Except Failure (List Char × Input) :=
  match input with
  | .char '.' :: rest => someDigits atEnd rest
  | _ => .ok ([], input)

def exponentPart (atEnd : Failure) (input : Input) : Except Failure (Int × Input) :=
  let signed (negative : Bool) (rest : Input) : Except Failure (Int × Input) :=
    (someDigits atEnd rest).map fun (digits, rest) =>
      let size := Int.ofNat (Nat.ofDigitChars 10 digits 0)
      (if negative then -size else size, rest)
  match input with
  | .char 'e' :: rest | .char 'E' :: rest =>
      match rest with
      | .char '+' :: rest => signed false rest
      | .char '-' :: rest => signed true rest
      | rest => signed false rest
  | _ => .ok (0, input)

def number (atEnd : Failure) (input : Input) : Except Failure (Number × Input) :=
  let unsigned :=
    match input with
    | .char '-' :: rest => rest
    | _ => input
  match wholeDigits atEnd unsigned with
  | .error failure => .error failure
  | .ok (whole, rest) =>
      match fractionDigits atEnd rest with
      | .error failure => .error failure
      | .ok (fraction, rest) =>
          match exponentPart atEnd rest with
          | .error failure => .error failure
          | .ok (exponent, rest) => .ok (⟨whole, fraction, exponent⟩, rest)

/-! ## Readers

A record is read from an object, whose unknown fields are passed over, or from a
list of its fields in order; fields with a default may be missing. Of the same
key in a table the last one counts, while a field of a record may come only
once. -/

abbrev Reader (α : Type) := Input → Except Failure (α × Input)

namespace Reader

variable {α β σ : Type}

/-- What is wrong with a value of another type than was asked for. A scalar is
read to its end first. -/
def wrongType (input : Input) : Failure :=
  let afterWord (rest : List Char) (input : Input) : Failure :=
    match word rest input with
    | .error failure => failure
    | .ok _ => .mismatched
  match input with
  | [] => .truncated
  | .char 'n' :: rest => afterWord ['u', 'l', 'l'] rest
  | .char 't' :: rest => afterWord ['r', 'u', 'e'] rest
  | .char 'f' :: rest => afterWord ['a', 'l', 's', 'e'] rest
  | .char '"' :: rest =>
      match textToken rest with
      | .error failure => failure
      | .ok _ => .mismatched
  | .char '[' :: _ | .char '\x7b' :: _ => .mismatched
  | .char c :: rest =>
      if c.isDigit ∨ c = '-' then
        match number .truncated (.char c :: rest) with
        | .error failure => failure
        | .ok (number, _) => if number.isFinite then .mismatched else .malformed
      else .malformed
  | .stray _ :: _ => .malformed

def text : Reader String := fun input =>
  match skipBlanks input with
  | .char '"' :: rest => textToken rest
  | other => .error (wrongType other)

def bool : Reader Bool := fun input =>
  match skipBlanks input with
  | .char 't' :: rest => (word ['r', 'u', 'e'] rest).map fun rest => (true, rest)
  | .char 'f' :: rest => (word ['a', 'l', 's', 'e'] rest).map fun rest => (false, rest)
  | other => .error (wrongType other)

def optional (reader : Reader α) : Reader (Option α) := fun input =>
  match skipBlanks input with
  | .char 'n' :: rest => (word ['u', 'l', 'l'] rest).map fun rest => (none, rest)
  | other => (reader other).map fun (value, rest) => (some value, rest)

def nextItem (first : Bool) (input : Input) : Except Failure (Bool × Input) :=
  match skipBlanks input with
  | [] => .error .truncated
  | .char ']' :: rest => .ok (false, rest)
  | piece :: rest =>
      if first then .ok (true, piece :: rest)
      else if piece = .char ',' then
        match skipBlanks rest with
        | [] => .error .truncated
        | .char ']' :: _ => .error .malformed
        | other => .ok (true, other)
      else .error .malformed

def items (reader : Reader α) : Nat → Bool → Input → Except Failure (List α × Input)
  | 0, _, _ => .error .truncated
  | fuel + 1, first, input =>
      match nextItem first input with
      | .error failure => .error failure
      | .ok (false, rest) => .ok ([], rest)
      | .ok (true, rest) =>
          match reader rest with
          | .error failure => .error failure
          | .ok (item, rest) =>
              (items reader fuel false rest).map fun (items, rest) => (item :: items, rest)

def list (reader : Reader α) : Reader (List α) := fun input =>
  match skipBlanks input with
  | .char '[' :: rest => items reader (rest.length + 1) true rest
  | other => .error (wrongType other)

/-- Goes to the next key of an object and reads it with its colon; gives no key
at the end of the object, and goes past that end. -/
def nextKey (first : Bool) (input : Input) : Except Failure (Option String × Input) :=
  let key (input : Input) : Except Failure (Option String × Input) :=
    match input with
    | .char '"' :: rest => (textToken rest).map fun (name, rest) => (some name, rest)
    | _ => .error .malformed
  match skipBlanks input with
  | [] => .error .truncated
  | .char '\x7d' :: rest => .ok (none, rest)
  | piece :: rest =>
      if first then key (piece :: rest)
      else if piece = .char ',' then
        match skipBlanks rest with
        | [] => .error .truncated
        | other => key other
      else .error .malformed

def colon (input : Input) : Except Failure Input :=
  match skipBlanks input with
  | [] => .error .truncated
  | .char ':' :: rest => .ok rest
  | _ => .error .malformed

def entries (reader : Reader α) : Nat → Bool → OrderedMap String α → Input →
    Except Failure (OrderedMap String α × Input)
  | 0, _, _, _ => .error .truncated
  | fuel + 1, first, found, input =>
      match nextKey first input with
      | .error failure => .error failure
      | .ok (none, rest) => .ok (found, rest)
      | .ok (some key, rest) =>
          match colon rest with
          | .error failure => .error failure
          | .ok rest =>
              match reader rest with
              | .error failure => .error failure
              | .ok (value, rest) => entries reader fuel false (found.insert key value) rest

def table (reader : Reader α) : Reader (OrderedMap String α) := fun input =>
  match skipBlanks input with
  | .char '\x7b' :: rest => entries reader (rest.length + 1) true OrderedMap.empty rest
  | other => .error (wrongType other)

/-! ### Values that are passed over -/

inductive Enclosing where
  | list
  | object
  deriving DecidableEq

def skipScalar (input : Input) : Except Failure Input :=
  match input with
  | [] => .error .truncated
  | .char 'n' :: rest => word ['u', 'l', 'l'] rest
  | .char 't' :: rest => word ['r', 'u', 'e'] rest
  | .char 'f' :: rest => word ['a', 'l', 's', 'e'] rest
  | .char '"' :: rest => skipText (rest.length + 1) rest
  | .char c :: rest =>
      if c.isDigit ∨ c = '-' then
        (number .malformed (.char c :: rest)).map Prod.snd
      else .error .malformed
  | .stray _ :: _ => .error .malformed

def skipKey (input : Input) : Except Failure Input :=
  match skipBlanks input with
  | [] => .error .truncated
  | .char '"' :: rest =>
      match skipText (rest.length + 1) rest with
      | .error failure => .error failure
      | .ok rest => colon rest
  | _ => .error .malformed

mutual

def skipFrom : Nat → List Enclosing → Input → Except Failure Input
  | 0, _, _ => .error .truncated
  | fuel + 1, around, input =>
      match skipBlanks input with
      | .char '[' :: rest =>
          match skipBlanks rest with
          | .char ']' :: rest => skipOn fuel around rest
          | rest => skipFrom fuel (.list :: around) rest
      | .char '\x7b' :: rest =>
          match skipBlanks rest with
          | .char '\x7d' :: rest => skipOn fuel around rest
          | rest =>
              match skipKey rest with
              | .error failure => .error failure
              | .ok rest => skipFrom fuel (.object :: around) rest
      | input =>
          match skipScalar input with
          | .error failure => .error failure
          | .ok rest => skipOn fuel around rest

def skipOn : Nat → List Enclosing → Input → Except Failure Input
  | 0, _, _ => .error .truncated
  | _ + 1, [], input => .ok input
  | fuel + 1, .list :: around, input =>
      match skipBlanks input with
      | [] => .error .truncated
      | .char ']' :: rest => skipOn fuel around rest
      | .char ',' :: rest => skipFrom fuel (.list :: around) rest
      | _ => .error .malformed
  | fuel + 1, .object :: around, input =>
      match skipBlanks input with
      | [] => .error .truncated
      | .char '\x7d' :: rest => skipOn fuel around rest
      | .char ',' :: rest =>
          match skipKey rest with
          | .error failure => .error failure
          | .ok rest => skipFrom fuel (.object :: around) rest
      | _ => .error .malformed

end

/-- Passes over a value. Every piece is looked at for at most two of the steps
that are counted. -/
def skipValue (input : Input) : Except Failure Input :=
  skipFrom (2 * input.length + 2) [] input

/-! ### Records -/

structure Field (σ : Type) where
  name : String
  isRead : σ → Bool
  read : σ → Reader σ

def Field.of (name : String) (place : σ → Option α) (store : σ → α → σ) (reader : Reader α) :
    Field σ where
  name := name
  isRead state := (place state).isSome
  read state input := (reader input).map fun (value, rest) => (store state value, rest)

def fieldsByName (fields : List (Field σ)) : Nat → Bool → σ → Input →
    Except Failure (σ × Input)
  | 0, _, _, _ => .error .truncated
  | fuel + 1, first, state, input =>
      match nextKey first input with
      | .error failure => .error failure
      | .ok (none, rest) => .ok (state, rest)
      | .ok (some key, rest) =>
          match fields.find? fun field => field.name == key with
          | none =>
              match colon rest with
              | .error failure => .error failure
              | .ok rest =>
                  match skipValue rest with
                  | .error failure => .error failure
                  | .ok rest => fieldsByName fields fuel false state rest
          | some field =>
              if field.isRead state then .error .mismatched
              else
                match colon rest with
                | .error failure => .error failure
                | .ok rest =>
                    match field.read state rest with
                    | .error failure => .error failure
                    | .ok (state, rest) => fieldsByName fields fuel false state rest

def listEnd (input : Input) : Except Failure Input :=
  match skipBlanks input with
  | [] => .error .truncated
  | .char ']' :: rest => .ok rest
  | _ => .error .malformed

def fieldsInOrder : List (Field σ) → Bool → σ → Input → Except Failure (σ × Input)
  | [], _, state, input => (listEnd input).map fun rest => (state, rest)
  | field :: fields, first, state, input =>
      match nextItem first input with
      | .error failure => .error failure
      | .ok (false, rest) => .ok (state, rest)
      | .ok (true, rest) =>
          match field.read state rest with
          | .error failure => .error failure
          | .ok (state, rest) => fieldsInOrder fields false state rest

/-- Reads a record. `finish` makes it from the fields that were read, unless one
that has no default is missing. -/
def record (fields : List (Field σ)) (start : σ) (finish : σ → Option α) : Reader α :=
  fun input =>
    let complete (result : Except Failure (σ × Input)) : Except Failure (α × Input) :=
      match result with
      | .error failure => .error failure
      | .ok (state, rest) =>
          match finish state with
          | some value => .ok (value, rest)
          | none => .error .mismatched
    match skipBlanks input with
    | .char '[' :: rest => complete (fieldsInOrder fields true start rest)
    | .char '\x7b' :: rest => complete (fieldsByName fields (rest.length + 1) true start rest)
    | other => .error (wrongType other)

def document (reader : Reader α) (input : Input) : Except Failure α :=
  match reader input with
  | .error failure => .error failure
  | .ok (value, rest) =>
      match skipBlanks rest with
      | [] => .ok value
      | _ :: _ => .error .malformed

end Reader

end Passbook.Json
