/-
What stands for characters and places in a pattern: single characters, escapes and
classes in brackets, all of them under the switches that are set.
-/

import Passbook.Pattern.Node

namespace Passbook

/-! ## Switches

What the switches of a pattern change, and the blanks and comments that one of them allows
between the parts of a pattern. -/

namespace Pattern

structure Flags where
  insensitive : Bool := false
  multiline : Bool := false
  dotAll : Bool := false
  unicode : Bool := true
  anyLineEnd : Bool := false
  extended : Bool := false

namespace Flags

/-- Sets the switch of a letter. The letter `U` is known and changes only which
of several matches is found, so it has no switch here. -/
def set? (flags : Flags) (letter : Char) (value : Bool) : Option Flags :=
  match letter with
  | 'i' => some { flags with insensitive := value }
  | 'm' => some { flags with multiline := value }
  | 's' => some { flags with dotAll := value }
  | 'u' => some { flags with unicode := value }
  | 'R' => some { flags with anyLineEnd := value }
  | 'x' => some { flags with extended := value }
  | 'U' => some flags
  | _ => none

def word (flags : Flags) : CharClass :=
  if flags.unicode then CharClass.word else CharClass.asciiWord

def fold (flags : Flags) (members : CharClass) : CharClass :=
  if flags.insensitive then
    members.ignoringCase (if flags.unicode then Unicode.caseVariants else CharClass.asciiVariants)
  else members

/-- The complement of a set. Without Unicode there is none, for it would hold
bytes that are no characters. -/
def complement? (flags : Flags) (members : CharClass) : Option CharClass :=
  if flags.unicode then some members.complement else none

def negateIf? (flags : Flags) (negated : Bool) (members : CharClass) : Option CharClass :=
  if negated then flags.complement? members else some members

def startGuard (flags : Flags) : Guard :=
  if flags.multiline then (if flags.anyLineEnd then .anyLineStart else .lineStart)
  else .textStart

def endGuard (flags : Flags) : Guard :=
  if flags.multiline then (if flags.anyLineEnd then .anyLineEnd else .lineEnd) else .textEnd

def dot? (flags : Flags) : Option CharClass :=
  if flags.unicode = false then none
  else if flags.dotAll then some fun _ => true
  else if flags.anyLineEnd then some fun c => c != '\n' && c != '\r'
  else some fun c => c != '\n'

end Flags

/-- Drops blanks and comments; a comment runs from a number sign to the end of
its line. -/
def dropComments : Bool → List Char → List Char
  | _, [] => []
  | true, c :: rest => dropComments (c != '\n') rest
  | false, c :: rest =>
      if Text.isBlank c then dropComments false rest
      else if c = '#' then dropComments true rest
      else c :: rest

def skip (flags : Flags) (text : List Char) : List Char :=
  if flags.extended then dropComments false text else text

/-! ## Escapes -/

/-- A part of a pattern that is not made of others. `isByte` marks a character
that is written as a byte of two hexadecimal digits. -/
inductive Atom where
  | literal (c : Char) (isByte : Bool)
  | members (inClass : CharClass)
  | place (guard : Guard)

namespace Escape

def isMeta (c : Char) : Bool :=
  "\\.+*?()|[]\x7b\x7d^$#&-~".toList.contains c

def isLiteral (c : Char) : Bool :=
  isMeta c || (c.toNat < 128 && !c.isAlphanum && c != '<' && c != '>')

def charOf? (code : Nat) : Option Char :=
  if code.isValidChar then some (Char.ofNat code) else none

def hexDigits (flags : Flags) : Nat → Nat → List Char → Option (Nat × List Char)
  | 0, value, text => some (value, text)
  | count + 1, value, text =>
      match text with
      | [] => none
      | c :: rest =>
          match Unicode.Ranges.hexValue? c with
          | none => none
          | some digit => hexDigits flags count (value * 16 + digit) (skip flags rest)

def hexBraced (flags : Flags) : Nat → Option Nat → List Char → Option (Nat × List Char)
  | 0, _, _ => none
  | fuel + 1, value, text =>
      match text with
      | [] => none
      | '\x7d' :: rest => value.map fun value => (value, skip flags rest)
      | c :: rest =>
          match Unicode.Ranges.hexValue? c with
          | none => none
          | some digit =>
              hexBraced flags fuel (some (value.getD 0 * 16 + digit)) (skip flags rest)

def hexCode (flags : Flags) (count : Nat) (text : List Char) : Option (Atom × List Char) :=
  match skip flags text with
  | '\x7b' :: rest =>
      match hexBraced flags (rest.length + 1) none (skip flags rest) with
      | none => none
      | some (code, rest) => (charOf? code).map fun c => (.literal c false, rest)
  | text =>
      match hexDigits flags count 0 text with
      | none => none
      | some (code, rest) => (charOf? code).map fun c => (.literal c (count == 2), rest)

def bracedName (flags : Flags) : Nat → List Char → Option (List Char × List Char)
  | 0, _ => none
  | fuel + 1, text =>
      match text with
      | [] => none
      | '\x7d' :: rest => some ([], rest)
      | c :: rest =>
          (bracedName flags fuel (skip flags rest)).map fun (name, rest) => (c :: name, rest)

def cutAt? (separator : List Char) : List Char → Option (List Char × List Char)
  | [] => none
  | c :: rest =>
      if separator.isPrefixOf (c :: rest) then some ([], (c :: rest).drop separator.length)
      else (cutAt? separator rest).map fun (before, after) => (c :: before, after)

def namedClass? (name : List Char) : Option (CharClass × Bool) :=
  match cutAt? ['!', '='] name with
  | some (property, value) =>
      (UnicodeName.valued? property value).map fun members => (members, true)
  | none =>
      match cutAt? [':'] name with
      | some (property, value) =>
          (UnicodeName.valued? property value).map fun members => (members, false)
      | none =>
          match cutAt? ['='] name with
          | some (property, value) =>
              (UnicodeName.valued? property value).map fun members => (members, false)
          | none => (UnicodeName.alone? name).map fun members => (members, false)

def unicodeClass (flags : Flags) (negated : Bool) (text : List Char) :
    Option (Atom × List Char) :=
  let finish (found : CharClass × Bool) (rest : List Char) : Option (Atom × List Char) :=
    if flags.unicode then
      (flags.negateIf? (negated != found.2) (flags.fold found.1)).map fun members =>
        (.members members, rest)
    else none
  match skip flags text with
  | [] => none
  | '\x7b' :: rest =>
      match bracedName flags (rest.length + 1) (skip flags rest) with
      | none => none
      | some (name, rest) => (namedClass? name).bind fun found => finish found rest
  | c :: rest =>
      if c = '\\' then none
      else (UnicodeName.alone? [c]).bind fun members => finish (members, false) (skip flags rest)

def letterClass? (flags : Flags) (letter : Char) : Option CharClass :=
  let choose (full ascii : CharClass) : CharClass := if flags.unicode then full else ascii
  match letter with
  | 'd' => some (choose CharClass.digit CharClass.asciiDigit)
  | 's' => some (choose CharClass.space CharClass.asciiSpace)
  | 'w' => some flags.word
  | 'D' => flags.complement? CharClass.digit
  | 'S' => flags.complement? CharClass.space
  | 'W' => flags.complement? flags.word
  | _ => none

def isBoundaryLetter (c : Char) : Bool :=
  c.isAlpha || c == '-'

def boundaryName (flags : Flags) : Nat → List Char → List Char × List Char
  | 0, text => ([], text)
  | fuel + 1, text =>
      match text with
      | [] => ([], [])
      | c :: rest =>
          if isBoundaryLetter c then
            let (name, rest) := boundaryName flags fuel (skip flags rest)
            (c :: name, rest)
          else ([], c :: rest)

def boundary? (flags : Flags) (name : List Char) : Option Guard :=
  let name := String.ofList name
  if name = "start" then some (.wordStart flags.word)
  else if name = "end" then some (.wordEnd flags.word)
  else if name = "start-half" then some (.wordStartHalf flags.word)
  else if name = "end-half" then some (.wordEndHalf flags.word)
  else none

/-- Reads what follows the letter of a word boundary. Braces that do not start
with a letter or a hyphen are left to be a repetition. -/
def wordBoundary (flags : Flags) (text : List Char) : Option (Atom × List Char) :=
  match text with
  | '\x7b' :: rest =>
      match skip flags rest with
      | [] => none
      | c :: inner =>
          if isBoundaryLetter c then
            match boundaryName flags (inner.length + 1) (c :: inner) with
            | (name, '\x7d' :: rest) =>
                (boundary? flags name).map fun guard => (.place guard, rest)
            | _ => none
          else some (.place (.wordEdge flags.word), text)
  | _ => some (.place (.wordEdge flags.word), text)

def read (flags : Flags) : List Char → Option (Atom × List Char)
  | [] => none
  | c :: rest =>
      if c.isDigit then none
      else if isLiteral c then some (.literal c false, rest)
      else
        match c with
        | 'x' => hexCode flags 2 rest
        | 'u' => hexCode flags 4 rest
        | 'U' => hexCode flags 8 rest
        | 'p' => unicodeClass flags false rest
        | 'P' => unicodeClass flags true rest
        | 'a' => some (.literal '\x07' false, rest)
        | 'f' => some (.literal '\x0C' false, rest)
        | 't' => some (.literal '\t' false, rest)
        | 'n' => some (.literal '\n' false, rest)
        | 'r' => some (.literal '\r' false, rest)
        | 'v' => some (.literal '\x0B' false, rest)
        | 'A' => some (.place .textStart, rest)
        | 'z' => some (.place .textEnd, rest)
        | 'b' => wordBoundary flags rest
        | 'B' => some (.place (.wordInside flags.word), rest)
        | '<' => some (.place (.wordStart flags.word), rest)
        | '>' => some (.place (.wordEnd flags.word), rest)
        | _ => (letterClass? flags c).map fun members => (.members members, rest)

end Escape

end Pattern

/-! ## Classes in brackets

Their members are characters, ranges, named classes and nested classes, and
intersection, difference and symmetric difference may stand between them. The
operators bind weaker than writing members side by side, and all of them equally
and from the left. -/

namespace Pattern.Bracket

inductive Operator where
  | intersection
  | difference
  | symmetricDifference

/-- What surrounds the members that are being read: the opening of a class with
the members read before it, or an operator with its left side. -/
inductive Frame where
  | opened (outer : CharClass) (negated : Bool)
  | operation (operator : Operator) (left : CharClass)

def Operator.apply (operator : Operator) (flags : Flags) (left right : CharClass) : CharClass :=
  let left := flags.fold left
  let right := flags.fold right
  match operator with
  | .intersection => left.intersection right
  | .difference => left.difference right
  | .symmetricDifference => left.symmetricDifference right

def closeOperation (flags : Flags) (frames : List Frame) (right : CharClass) :
    List Frame × CharClass :=
  match frames with
  | .operation operator left :: frames => (frames, operator.apply flags left right)
  | frames => (frames, right)

def leadingHyphens (flags : Flags) : Nat → List Char → Bool × List Char
  | 0, text => (false, text)
  | fuel + 1, text =>
      match text with
      | '-' :: rest => (true, (leadingHyphens flags fuel (skip flags rest)).2)
      | text => (false, text)

def opening (flags : Flags) (text : List Char) : Option (Bool × CharClass × List Char) :=
  let (negated, text) :=
    match skip flags text with
    | '^' :: rest => (true, skip flags rest)
    | text => (false, text)
  let (hyphens, text) := leadingHyphens flags (text.length + 1) text
  match text with
  | [] => none
  | ']' :: rest =>
      if hyphens then some (negated, CharClass.single '-', text)
      else
        match skip flags rest with
        | [] => none
        | text => some (negated, CharClass.single ']', text)
  | _ => some (negated, if hyphens then CharClass.single '-' else CharClass.none, text)

/-- Reads `[:name:]` or `[:^name:]`; fails where the text is not of this form or
the name is not known. -/
def posix? (flags : Flags) (text : List Char) : Option (CharClass × List Char) :=
  match text with
  | '[' :: ':' :: rest =>
      let (negated, rest) :=
        match rest with
        | '^' :: rest => (true, rest)
        | rest => (false, rest)
      match rest.dropWhile (· != ':') with
      | ':' :: ']' :: after =>
          (CharClass.posix? (String.ofList (rest.takeWhile (· != ':')))).bind fun members =>
            (flags.negateIf? negated (flags.fold members)).map fun members => (members, after)
      | _ => none
  | _ => none

def isPosix (text : List Char) : Bool :=
  (posix? {} text).isSome

/-- The character after the current one; with blanks and comments allowed it is
the next one that is neither blank nor the sign of a comment. -/
def peek? (flags : Flags) (text : List Char) : Option Char :=
  let rest := text.tail
  if flags.extended then
    match rest.dropWhile Text.isBlank with
    | '#' :: inner =>
        match inner.dropWhile Text.isBlank with
        | [] => rest.head?
        | c :: _ => some c
    | [] => rest.head?
    | c :: _ => some c
  else rest.head?

def item (flags : Flags) : List Char → Option (Atom × List Char)
  | [] => none
  | '\\' :: rest => Escape.read flags rest
  | c :: rest => some (.literal c false, rest)

/-- The character of a member that may stand at the end of a range. Without
Unicode it is an ASCII character. -/
def endpoint? (flags : Flags) : Atom → Option Char
  | .literal c _ => if flags.unicode ∨ c.toNat < 128 then some c else none
  | _ => none

def memberSet? (flags : Flags) : Atom → Option CharClass
  | .members inClass => some inClass
  | atom => (endpoint? flags atom).map CharClass.single

def range (flags : Flags) (text : List Char) : Option (CharClass × List Char) :=
  match item flags text with
  | none => none
  | some (first, rest) =>
      match skip flags rest with
      | [] => none
      | c :: rest =>
          if c ≠ '-' ∨ peek? flags (c :: rest) = some ']' ∨ peek? flags (c :: rest) = some '-' then
            (memberSet? flags first).map fun members => (members, c :: rest)
          else
            match item flags (skip flags rest) with
            | none => none
            | some (last, rest) =>
                match endpoint? flags first, endpoint? flags last with
                | some first, some last =>
                    if first ≤ last then some (CharClass.range first last, rest) else none
                | _, _ => none

def members (flags : Flags) : Nat → List Frame → CharClass → List Char →
    Option (CharClass × List Char)
  | 0, _, _, _ => none
  | fuel + 1, frames, current, text =>
      let operation (operator : Operator) (rest : List Char) :=
        let (frames, left) := closeOperation flags frames current
        members flags fuel (.operation operator left :: frames) CharClass.none rest
      match skip flags text with
      | [] => none
      | '[' :: rest =>
          if isPosix ('[' :: rest) then
            match posix? flags ('[' :: rest) with
            | none => none
            | some (found, rest) => members flags fuel frames (current.union found) rest
          else
            match opening flags rest with
            | none => none
            | some (negated, first, rest) =>
                members flags fuel (.opened current negated :: frames) first rest
      | ']' :: rest =>
          match closeOperation flags frames current with
          | (.opened outer negated :: frames, found) =>
              match flags.negateIf? negated (flags.fold found) with
              | none => none
              | some found =>
                  if frames.isEmpty then some (found, rest)
                  else members flags fuel frames (outer.union found) rest
          | _ => none
      | '&' :: '&' :: rest => operation .intersection rest
      | '-' :: '-' :: rest => operation .difference rest
      | '~' :: '~' :: rest => operation .symmetricDifference rest
      | text =>
          match range flags text with
          | none => none
          | some (found, rest) => members flags fuel frames (current.union found) rest

def read (flags : Flags) (text : List Char) : Option (CharClass × List Char) :=
  match opening flags text with
  | none => none
  | some (negated, first, rest) =>
      members flags (rest.length + 1) [.opened CharClass.none negated] first rest

end Pattern.Bracket

end Passbook
