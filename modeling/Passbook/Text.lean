/-
Texts as lists of characters: blanks, lines, pieces between separators, numerals,
and texts as bytes.
-/

namespace Passbook

/-! ## Blanks

A character is blank when the Unicode property White_Space holds of it; there
are twenty-five of them, and the zero-width space and the byte order mark are
not among them. -/

namespace Text

def isBlank (c : Char) : Bool :=
  let code := c.toNat
  (9 ≤ code && code ≤ 13) || code == 0x20 || code == 0x85 || code == 0xA0 ||
    code == 0x1680 || (0x2000 ≤ code && code ≤ 0x200A) || code == 0x2028 ||
    code == 0x2029 || code == 0x202F || code == 0x205F || code == 0x3000

def isAllBlank (text : List Char) : Bool :=
  text.all isBlank

def trimBlanks (text : List Char) : List Char :=
  ((text.dropWhile isBlank).reverse.dropWhile isBlank).reverse

/-! ## Numerals

Decimal numerals: the digits of a natural number and the readers of whole
numbers. Only the ten ASCII digits count as digits. A numeral may start with a
plus sign, and one of a signed kind also with a minus sign; no other character
is allowed in it, and it needs at least one digit. -/

def digitValue? (c : Char) : Option Nat :=
  if c.isDigit then some (c.toNat - '0'.toNat) else none

def digits (n : Nat) : List Char :=
  Nat.toDigits 10 n

def padZeros (width : Nat) (text : List Char) : List Char :=
  List.replicate (width - text.length) '0' ++ text

def ofDigits? (text : List Char) : Option Nat :=
  if text ≠ [] ∧ text.all Char.isDigit then some (Nat.ofDigitChars 10 text 0) else none

def natural? : List Char → Option Nat
  | '+' :: rest => ofDigits? rest
  | text => ofDigits? text

def integer? : List Char → Option Int
  | '+' :: rest => (ofDigits? rest).map Int.ofNat
  | '-' :: rest => (ofDigits? rest).map fun value => -Int.ofNat value
  | text => (ofDigits? text).map Int.ofNat

def powerOfTen (zeros : Nat) : Nat :=
  Nat.pow 10 zeros

def wordCount : Nat := 4294967296

def word? (text : List Char) : Option UInt32 :=
  match natural? text with
  | some value => if value < wordCount then some (UInt32.ofNat value) else none
  | none => none

def signedWord? (text : List Char) : Option Int32 :=
  match integer? text with
  | some value =>
      if -2147483648 ≤ value ∧ value < 2147483648 then some (Int32.ofInt value) else none
  | none => none

/-! ## Pieces

Occurrences are looked for from the left and do not overlap, so a text with `n`
of them gives `n + 1` pieces, and joining the pieces with the separator gives
the text back. -/

def extendFirst (c : Char) : List (List Char) → List (List Char)
  | [] => [[c]]
  | piece :: pieces => (c :: piece) :: pieces

/-- Splits with `pending` characters of a separator already found still to drop. -/
def splitPending (separator : List Char) : Nat → List Char → List (List Char)
  | _, [] => [[]]
  | pending + 1, _ :: rest => splitPending separator pending rest
  | 0, c :: rest =>
      if separator.isPrefixOf (c :: rest) then
        [] :: splitPending separator (separator.length - 1) rest
      else
        extendFirst c (splitPending separator 0 rest)

def split (separator text : List Char) : List (List Char) :=
  splitPending separator 0 text

def join (separator : String) (pieces : List String) : String :=
  separator.intercalate pieces

/-! ## Lines and places

A line ends at a line feed; one carriage return in front of the line feed
belongs to the line end and not to the line. Columns count characters from the
last line feed and start at one. -/

def stripReturn (line : List Char) : List Char :=
  match line.getLast? with
  | some '\r' => line.dropLast
  | _ => line

/-- The lines of a text, given the characters of the current line, nearest
first. A last line without a line feed keeps a carriage return at its end, and
a line feed at the very end starts no further line. -/
def linesFrom : List Char → List Char → List (List Char)
  | [], [] => []
  | current, [] => [current.reverse]
  | current, '\n' :: rest => stripReturn current.reverse :: linesFrom [] rest
  | current, c :: rest => linesFrom (c :: current) rest

def lines (text : List Char) : List (List Char) :=
  linesFrom [] text

def place (before : List Char) : Nat × Nat :=
  (before.count '\n' + 1, (before.reverse.takeWhile (· != '\n')).length + 1)

/-- The line that holds the character after `before`, up to and with its line
feed. -/
def lineAround (before after : List Char) : List Char :=
  (before.reverse.takeWhile (· != '\n')).reverse ++
    after.takeWhile (· != '\n') ++ (after.dropWhile (· != '\n')).take 1

end Text

/-! ## Bytes

Texts as bytes in UTF-8. Reading bytes gives a character for each well-formed
sequence; bytes that start no such sequence are kept as they are, the longest
beginning of a sequence in one piece. -/

namespace Text.Utf8

def encode (text : List Char) : List UInt8 :=
  text.flatMap String.utf8EncodeChar

/-- What bytes are read as: a character, or bytes that make none. -/
inductive Piece where
  | char (c : Char)
  | stray (bytes : List UInt8)
  deriving DecidableEq

def Piece.size : Piece → Nat
  | .char c => c.utf8Size
  | .stray bytes => bytes.length

def Piece.shown : Piece → Char
  | .char c => c
  | .stray _ => '\uFFFD'

/-- For the first byte of a longer sequence: the number of bytes after the
second one, and the bounds of the second one. -/
def lead? (byte : Nat) : Option (Nat × Nat × Nat) :=
  if 0xC2 ≤ byte ∧ byte ≤ 0xDF then some (0, 0x80, 0xBF)
  else if byte = 0xE0 then some (1, 0xA0, 0xBF)
  else if byte = 0xED then some (1, 0x80, 0x9F)
  else if 0xE1 ≤ byte ∧ byte ≤ 0xEF then some (1, 0x80, 0xBF)
  else if byte = 0xF0 then some (2, 0x90, 0xBF)
  else if byte = 0xF4 then some (2, 0x80, 0x8F)
  else if 0xF1 ≤ byte ∧ byte ≤ 0xF3 then some (2, 0x80, 0xBF)
  else none

/-- Reads later bytes of a sequence. Gives the code, absent when a byte is not
of the sequence, and the number of bytes read. -/
def follow : Nat → Nat → Nat → List UInt8 → Option Nat × Nat
  | 0, code, used, _ => (some code, used)
  | _ + 1, _, used, [] => (none, used)
  | count + 1, code, used, byte :: rest =>
      if 0x80 ≤ byte.toNat ∧ byte.toNat ≤ 0xBF then
        follow count (code * 64 + byte.toNat % 64) (used + 1) rest
      else (none, used)

def leadBits (later byte : Nat) : Nat :=
  if later = 0 then byte % 32 else if later = 1 then byte % 16 else byte % 8

/-- The piece that starts with a byte, and the number of further bytes in it. -/
def pieceAt (byte : UInt8) (rest : List UInt8) : Piece × Nat :=
  if byte.toNat < 0x80 then (.char (Char.ofNat byte.toNat), 0)
  else
    match lead? byte.toNat, rest with
    | some (later, low, high), second :: rest =>
        if low ≤ second.toNat ∧ second.toNat ≤ high then
          match follow later (leadBits later byte.toNat * 64 + second.toNat % 64) 1 rest with
          | (some code, used) => (.char (Char.ofNat code), used)
          | (none, used) => (.stray (byte :: second :: rest.take (used - 1)), used)
        else (.stray [byte], 0)
    | _, _ => (.stray [byte], 0)

def decodeFrom : Nat → List UInt8 → List Piece
  | _, [] => []
  | pending + 1, _ :: rest => decodeFrom pending rest
  | 0, byte :: rest =>
      let (piece, used) := pieceAt byte rest
      piece :: decodeFrom used rest

def decode (bytes : List UInt8) : List Piece :=
  decodeFrom 0 bytes

def toText (bytes : List UInt8) : String :=
  String.ofList ((decode bytes).map Piece.shown)

end Text.Utf8

end Passbook
