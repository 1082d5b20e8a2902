/-
The structure of patterns: characters of a class, conditions on a place, and
their combination in sequence, by choice and by repetition.
-/

import Passbook.Unicode.Edition
import Passbook.Unicode.Property
import Passbook.Unicode.Segmentation

namespace Passbook.Pattern

/-! ## Sets of characters -/

abbrev CharClass := Char → Bool

namespace CharClass

def none : CharClass := fun _ => false

def single (c : Char) : CharClass := fun other => other == c

def range (first last : Char) : CharClass := fun c => first ≤ c && c ≤ last

def union (a b : CharClass) : CharClass := fun c => a c || b c

def intersection (a b : CharClass) : CharClass := fun c => a c && b c

def difference (a b : CharClass) : CharClass := fun c => a c && !b c

def symmetricDifference (a b : CharClass) : CharClass := fun c => a c != b c

def complement (a : CharClass) : CharClass := fun c => !a c

def asciiVariants (c : Char) : List Char :=
  if c.isUpper then [c.toLower] else if c.isLower then [c.toUpper] else []

def ignoringCase (variants : Char → List Char) (a : CharClass) : CharClass :=
  fun c => a c || (variants c).any a

def digit : CharClass := Unicode.Category.decimalNumber.holds

def space : CharClass := Text.isBlank

def word : CharClass := Unicode.isWord

def asciiDigit : CharClass := Char.isDigit

def asciiSpace : CharClass := fun c => Text.isBlank c && c.toNat < 128

def asciiWord : CharClass := fun c => c.isAlphanum || c == '_'

def posix? (name : String) : Option CharClass :=
  if name = "alnum" then some Char.isAlphanum
  else if name = "alpha" then some Char.isAlpha
  else if name = "ascii" then some fun c => c.toNat < 128
  else if name = "blank" then some fun c => c == ' ' || c == '\t'
  else if name = "cntrl" then some fun c => c.toNat < 32 || c.toNat == 127
  else if name = "digit" then some Char.isDigit
  else if name = "graph" then some (range '!' '~')
  else if name = "lower" then some Char.isLower
  else if name = "print" then some (range ' ' '~')
  else if name = "punct" then some fun c => range '!' '~' c && !c.isAlphanum
  else if name = "space" then some asciiSpace
  else if name = "upper" then some Char.isUpper
  else if name = "word" then some asciiWord
  else if name = "xdigit" then some fun c => c.isDigit || range 'A' 'F' c || range 'a' 'f' c
  else none

end CharClass

/-! ### Named Unicode classes -/

namespace UnicodeName

def dropIs : List Char → Bool × List Char
  | i :: s :: rest =>
      if (i = 'i' ∨ i = 'I') ∧ (s = 's' ∨ s = 'S') then (true, rest) else (false, i :: s :: rest)
  | name => (false, name)

/-- A name in lower case, without blanks, underscores, hyphens and characters
beyond ASCII. `isc` is the one name that keeps its `is`. -/
def normalize (name : List Char) : String :=
  let (dropped, rest) := dropIs name
  let kept := rest.filter fun c => c != ' ' && c != '_' && c != '-' && c.toNat < 128
  let lower := kept.map Char.toLower
  if dropped ∧ lower = ['c'] then "isc" else String.ofList lower

def category? (name : String) : Option CharClass :=
  if name = "any" then some fun _ => true
  else if name = "ascii" then some fun c => c.toNat < 128
  else if name = "assigned" then some fun c => !Unicode.Category.unassigned.holds c
  else
    (Unicode.Category.named? name).map fun categories =>
      fun c => categories.any fun category => category.holds c

def script? (name : String) : Option CharClass :=
  (Unicode.Script.named? name).map fun script =>
    let ranges := script.ranges
    fun c => ranges.contains c

def extendedScript? (name : String) : Option CharClass :=
  (Unicode.Script.named? name).map Unicode.Script.usedWith

/-- The class of a name that stands alone: a property, a category or a script.
The three names that mean both a property and a category mean the category. -/
def alone? (name : List Char) : Option CharClass :=
  let name := normalize name
  let property :=
    if name = "cf" ∨ name = "sc" ∨ name = "lc" then none else Unicode.property? name
  match property with
  | some property => some property
  | none =>
      match category? name with
      | some category => some category
      | none => script? name

def valued? (property value : List Char) : Option CharClass :=
  let property := normalize property
  let value := normalize value
  if property = "generalcategory" ∨ property = "gc" then category? value
  else if property = "script" ∨ property = "sc" then script? value
  else if property = "scriptextensions" ∨ property = "scx" then extendedScript? value
  else if property = "age" then Unicode.Edition.assigned? value
  else if property = "graphemeclusterbreak" ∨ property = "gcb" then
    Unicode.Segmentation.named? Unicode.Segmentation.graphemeValues value
  else if property = "wordbreak" ∨ property = "wb" then
    Unicode.Segmentation.named? Unicode.Segmentation.wordValues value
  else if property = "sentencebreak" ∨ property = "sb" then
    Unicode.Segmentation.named? Unicode.Segmentation.sentenceValues value
  else none

end UnicodeName

/-! ## Structure -/

inductive Guard where
  | textStart
  | textEnd
  | lineStart
  | lineEnd
  | anyLineStart
  | anyLineEnd
  | wordEdge (inWord : CharClass)
  | wordInside (inWord : CharClass)
  | wordStart (inWord : CharClass)
  | wordEnd (inWord : CharClass)
  | wordStartHalf (inWord : CharClass)
  | wordEndHalf (inWord : CharClass)

/-- Whether a condition holds between two neighbouring characters. `none` is
the outside of the text. Line feeds, carriage returns and their pair all end
the lines of `anyLineStart` and `anyLineEnd`; no line starts or ends within
the pair. -/
def Guard.holds (guard : Guard) (before after : Option Char) : Bool :=
  match guard with
  | .textStart => before.isNone
  | .textEnd => after.isNone
  | .lineStart => before.isNone || before == some '\n'
  | .lineEnd => after.isNone || after == some '\n'
  | .anyLineStart =>
      before.isNone || before == some '\n' || (before == some '\r' && after != some '\n')
  | .anyLineEnd =>
      after.isNone || after == some '\r' || (after == some '\n' && before != some '\r')
  | .wordEdge inWord => before.any inWord != after.any inWord
  | .wordInside inWord => before.any inWord == after.any inWord
  | .wordStart inWord => !before.any inWord && after.any inWord
  | .wordEnd inWord => before.any inWord && !after.any inWord
  | .wordStartHalf inWord => !before.any inWord
  | .wordEndHalf inWord => !after.any inWord

/-- A pattern over classes of characters and conditions on places. `most` is
absent when a repetition has no upper bound. -/
inductive Node (Class Place : Type) where
  | empty
  | char (inClass : Class)
  | place (condition : Place)
  | both (first second : Node Class Place)
  | choice (first second : Node Class Place)
  | repetition (least : Nat) (most : Option Nat) (body : Node Class Place)

def Node.mapLeaves {Class Place Class' Place' : Type} (onClass : Class → Class')
    (onPlace : Place → Place') : Node Class Place → Node Class' Place'
  | .empty => .empty
  | .char inClass => .char (onClass inClass)
  | .place condition => .place (onPlace condition)
  | .both first second =>
      .both (first.mapLeaves onClass onPlace) (second.mapLeaves onClass onPlace)
  | .choice first second =>
      .choice (first.mapLeaves onClass onPlace) (second.mapLeaves onClass onPlace)
  | .repetition least most body => .repetition least most (body.mapLeaves onClass onPlace)

/-! ## Searching

All ways to match are followed at once: a set of places is a number whose bit
`i` tells whether the place after `i` characters is in it, and a pattern takes
the set of places where a match starts to the set of places where one ends. -/

def ofBits : List Bool → Nat
  | [] => 0
  | bit :: bits => (if bit then 1 else 0) + 2 * ofBits bits

def placesBefore (text : List Char) (inClass : CharClass) : Nat :=
  ofBits (text.map inClass)

def guardBits (guard : Guard) : Option Char → List Char → List Bool
  | before, [] => [guard.holds before none]
  | before, c :: rest => guard.holds before (some c) :: guardBits guard (some c) rest

def placesWhere (text : List Char) (guard : Guard) : Nat :=
  ofBits (guardBits guard none text)

def applyTimes (step : Nat → Nat) : Nat → Nat → Nat
  | 0, places => places
  | times + 1, places =>
      let next := step places
      if next = places then places else applyTimes step times next

def applyUpTo (step : Nat → Nat) : Nat → Nat → Nat
  | 0, places => places
  | times + 1, places =>
      let next := places ||| step places
      if next = places then places else applyUpTo step times next

/-- The places where a match ends that starts in a given set. A repetition
without an upper bound needs no more rounds than there are places. -/
def advance (placeCount : Nat) : Node Nat Nat → Nat → Nat
  | .empty, places => places
  | .char before, places => (places &&& before) <<< 1
  | .place holding, places => places &&& holding
  | .both first second, places => advance placeCount second (advance placeCount first places)
  | .choice first second, places =>
      advance placeCount first places ||| advance placeCount second places
  | .repetition least most body, places =>
      applyUpTo (advance placeCount body)
        (match most with
          | some most => most - least
          | none => placeCount)
        (applyTimes (advance placeCount body) least places)

def searchIn (node : Node CharClass Guard) (text : List Char) : Bool :=
  let placeCount := text.length + 1
  let located := node.mapLeaves (placesBefore text) (placesWhere text)
  advance placeCount located ((1 <<< placeCount) - 1) != 0

end Passbook.Pattern
