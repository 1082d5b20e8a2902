/-
Patterns for searching texts. `Pattern.ofText?` reads the written form of a
pattern and `Pattern.isIn` tells whether some part of a text matches it.
-/

import Passbook.Entry
import Passbook.Pattern.Escape
import Passbook.Pattern.Node
import Passbook.Text
import Passbook.Unicode.Property

namespace Passbook

/-! ## Reading

The alternatives of a group are sequences of parts; a part is a character, a
class, a condition on a place or a group, and repetitions bind to the part in
front of them. Switches hold from where they are set to the end of their group. -/

namespace Pattern

namespace Reader

abbrev Tree := Node CharClass Guard

/-- The surroundings of a group that is being read: the switches to return to,
the finished alternatives and the parts of the current one, nearest first. A
part is absent where the pattern only sets switches. -/
structure Frame where
  flags : Flags
  alternatives : List Tree
  parts : List (Option Tree)

structure State where
  flags : Flags := {}
  names : List (List Char) := []
  alternatives : List Tree := []
  parts : List (Option Tree) := []
  outer : List Frame := []

def sequence (parts : List (Option Tree)) : Tree :=
  parts.foldl (fun later part =>
    match part, later with
    | none, later => later
    | some part, .empty => part
    | some part, later => .both part later) .empty

def State.group (state : State) : Tree :=
  state.alternatives.foldl (fun later alternative => .choice alternative later)
    (sequence state.parts)

def State.add (state : State) (part : Tree) : State :=
  { state with parts := some part :: state.parts }

/-- The part of an atom. Without Unicode a byte beyond ASCII is no character. -/
def atomTree? (flags : Flags) : Atom → Option Tree
  | .literal c isByte =>
      if flags.unicode = false ∧ isByte ∧ 128 ≤ c.toNat then none
      else some (.char (flags.fold (CharClass.single c)))
  | .members inClass => some (.char inClass)
  | .place guard => some (.place guard)

def State.repeatLast? (state : State) (least : Nat) (most : Option Nat) : Option State :=
  match state.parts with
  | some part :: parts =>
      some { state with parts := some (.repetition least most part) :: parts }
  | _ => none

/-- Drops the question mark after a repetition sign, which does not change
whether a text matches. -/
def dropLazy : List Char → List Char
  | '?' :: rest => rest
  | text => text

def digitRun (flags : Flags) : Nat → List Char → List Char × List Char
  | 0, text => ([], text)
  | fuel + 1, text =>
      match text with
      | [] => ([], [])
      | c :: rest =>
          if c.isDigit then
            let (digits, rest) := digitRun flags fuel (skip flags rest)
            (c :: digits, rest)
          else ([], c :: rest)

def count? (flags : Flags) (text : List Char) : Option (Nat × List Char) :=
  let (digits, rest) := digitRun flags (text.length + 1) (text.dropWhile Text.isBlank)
  match Text.ofDigits? digits with
  | some count =>
      if count < Text.wordCount then some (count, skip flags (rest.dropWhile Text.isBlank)) else none
  | none => none

def bounds? (flags : Flags) (text : List Char) : Option (Nat × Option Nat × List Char) :=
  match count? flags (skip flags text) with
  | none => none
  | some (least, '\x7d' :: rest) => some (least, some least, rest)
  | some (least, ',' :: rest) =>
      match skip flags rest with
      | '\x7d' :: rest => some (least, none, rest)
      | rest =>
          match count? flags rest with
          | some (most, '\x7d' :: rest) =>
              if least ≤ most then some (least, some most, rest) else none
          | _ => none
  | some _ => none

def isNameStart (c : Char) : Bool :=
  c == '_' || Unicode.Latest.isAlphabetic c

def isNameLater (c : Char) : Bool :=
  c == '_' || c == '.' || c == '[' || c == ']' || Unicode.Latest.isAlphanumeric c

def groupName? (text : List Char) : Option (List Char × List Char) :=
  let name := text.takeWhile (· != '>')
  match name, text.dropWhile (· != '>') with
  | first :: later, _ :: rest =>
      if isNameStart first ∧ later.all isNameLater then some (name, rest) else none
  | _, _ => none

structure Switches where
  flags : Flags
  letters : List Char := []
  negative : Bool := false
  dangling : Bool := false

def switches? (state : Switches) : List Char → Option (Switches × List Char)
  | [] => none
  | ':' :: rest => if state.dangling then none else some (state, ':' :: rest)
  | ')' :: rest => if state.dangling then none else some (state, ')' :: rest)
  | '-' :: rest =>
      if state.negative then none
      else switches? { state with negative := true, dangling := true } rest
  | c :: rest =>
      if state.letters.contains c then none
      else
        match state.flags.set? c (!state.negative) with
        | none => none
        | some flags =>
            switches? { state with
              flags := flags
              letters := c :: state.letters
              dangling := false } rest

def State.enter (state : State) (flags : Flags) : State :=
  { state with
    flags := flags
    alternatives := []
    parts := []
    outer := ⟨state.flags, state.alternatives, state.parts⟩ :: state.outer }

/-- Reads what follows an opening parenthesis. There is no looking around. -/
def openGroup? (state : State) (text : List Char) : Option (State × List Char) :=
  let named (rest : List Char) : Option (State × List Char) :=
    match groupName? rest with
    | none => none
    | some (name, rest) =>
        if state.names.contains name then none
        else some ({ state with names := name :: state.names }.enter state.flags, rest)
  match skip state.flags text with
  | '?' :: '<' :: '=' :: _ | '?' :: '<' :: '!' :: _ => none
  | '?' :: 'P' :: '<' :: rest | '?' :: '<' :: rest => named rest
  | '?' :: rest =>
      match switches? { flags := state.flags } rest with
      | some (switches, ':' :: rest) => some (state.enter switches.flags, rest)
      | some (switches, ')' :: rest) =>
          if switches.letters.isEmpty then none
          else
            some ({ state with
              flags := switches.flags
              parts := none :: state.parts }, rest)
      | _ => none
  | rest => some (state.enter state.flags, rest)

def State.leave? (state : State) : Option State :=
  match state.outer with
  | [] => none
  | frame :: outer =>
      some { state with
        flags := frame.flags
        alternatives := frame.alternatives
        parts := some state.group :: frame.parts
        outer := outer }

def readFrom : Nat → State → List Char → Option Tree
  | 0, _, _ => none
  | fuel + 1, state, text =>
      let andThen (next : Option State) (rest : List Char) : Option Tree :=
        match next with
        | none => none
        | some state => readFrom fuel state rest
      match skip state.flags text with
      | [] => if state.outer.isEmpty then some state.group else none
      | '(' :: rest =>
          match openGroup? state rest with
          | none => none
          | some (state, rest) => readFrom fuel state rest
      | ')' :: rest => andThen state.leave? rest
      | '|' :: rest =>
          readFrom fuel { state with
            alternatives := sequence state.parts :: state.alternatives
            parts := [] } rest
      | '[' :: rest =>
          match Bracket.read state.flags rest with
          | none => none
          | some (members, rest) => readFrom fuel (state.add (.char members)) rest
      | '?' :: rest => andThen (state.repeatLast? 0 (some 1)) (dropLazy rest)
      | '*' :: rest => andThen (state.repeatLast? 0 none) (dropLazy rest)
      | '+' :: rest => andThen (state.repeatLast? 1 none) (dropLazy rest)
      | '\x7b' :: rest =>
          match bounds? state.flags rest with
          | none => none
          | some (least, most, rest) =>
              andThen (state.repeatLast? least most) (dropLazy (skip state.flags rest))
      | '\\' :: rest =>
          match Escape.read state.flags rest with
          | none => none
          | some (atom, rest) => andThen ((atomTree? state.flags atom).map state.add) rest
      | '.' :: rest => andThen (state.flags.dot?.map fun members => state.add (.char members)) rest
      | '^' :: rest => readFrom fuel (state.add (.place state.flags.startGuard)) rest
      | '$' :: rest => readFrom fuel (state.add (.place state.flags.endGuard)) rest
      | c :: rest =>
          andThen ((atomTree? state.flags (.literal c false)).map state.add) rest

end Reader

def read? (text : List Char) : Option (Node CharClass Guard) :=
  Reader.readFrom (text.length + 1) {} text

end Pattern

/-! ## Patterns -/

structure Pattern where
  node : Pattern.Node Pattern.CharClass Pattern.Guard

namespace Pattern

def ofText? (text : String) : Option Pattern :=
  (read? text.toList).map Pattern.mk

def isIn (pattern : Pattern) (text : String) : Bool :=
  searchIn pattern.node text.toList

end Pattern

namespace Entry

def search (entry : Entry) (pattern : Pattern) : Except ValueError Bool :=
  match entry.text? with
  | some content => .ok (pattern.isIn content)
  | none => .error (.kindMismatch entry.kind .text)

/-- Searches the text of an entry for a written pattern, which is read before
the entry is looked at. -/
def matchesText (entry : Entry) (pattern : String) : Except ValueError Bool :=
  match Pattern.ofText? pattern with
  | some pattern => entry.search pattern
  | none => .error (.invalidPattern pattern)

end Entry

end Passbook
