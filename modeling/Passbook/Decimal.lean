/-
Decimal numbers of bounded size. A number is a coefficient below 2^96 in
magnitude over a power of ten, with at most 28 places after the point. The
places are part of the value that is kept and printed, so 10.0 and 10.00 are
two decimals of one amount; `sameValue` and `Decimal.compare` look at the amount alone.
A zero may carry a minus sign, which is printed and has no weight otherwise.
-/

import Passbook.Text

namespace Passbook

namespace Decimal

/-- The first magnitude of a coefficient that is too large, two to the power 96. -/
def coefficientBound : Nat := 79228162514264337593543950336

def maxScale : Nat := 28

end Decimal

open Decimal in
/-- The number `coefficient / 10 ^ scale`. A zero with `minusZero` is what is left
of a negative number that was too small for its places. -/
structure Decimal where
  coefficient : Int
  scale : Nat
  minusZero : Bool
  coefficientBounded : coefficient.natAbs < coefficientBound
  scaleBounded : scale ≤ maxScale
  zeroOfMinusZero : minusZero = true → coefficient = 0
  deriving DecidableEq

namespace Decimal

def make? (coefficient : Int) (scale : Nat) : Option Decimal :=
  if bounds : coefficient.natAbs < coefficientBound ∧ scale ≤ maxScale then
    some ⟨coefficient, scale, false, bounds.1, bounds.2, fun minus => nomatch minus⟩
  else
    none

def zero : Decimal :=
  ⟨0, 0, false, by decide, by decide, by decide⟩

def negativeZero : Decimal :=
  ⟨0, maxScale, true, by decide, by decide, by decide⟩

instance : Inhabited Decimal :=
  ⟨zero⟩

def isZero (d : Decimal) : Bool :=
  d.coefficient == 0

def isNegative (d : Decimal) : Bool :=
  d.coefficient < 0

/-- The amount with the other sign. A zero stays as it is. -/
def negate (d : Decimal) : Decimal :=
  { d with
    coefficient := -d.coefficient
    coefficientBounded := by rw [Int.natAbs_neg]; exact d.coefficientBounded
    zeroOfMinusZero := fun minus => by rw [d.zeroOfMinusZero minus, Int.neg_zero] }

def magnitude (d : Decimal) : Decimal :=
  { d with
    coefficient := d.coefficient.natAbs
    minusZero := false
    coefficientBounded := by rw [Int.natAbs_natCast]; exact d.coefficientBounded
    zeroOfMinusZero := fun minus => nomatch minus }

def compare (a b : Decimal) : Ordering :=
  Ord.compare (a.coefficient * Text.powerOfTen b.scale) (b.coefficient * Text.powerOfTen a.scale)

def sameValue (a b : Decimal) : Bool :=
  a.coefficient * Text.powerOfTen b.scale == b.coefficient * Text.powerOfTen a.scale

def chars (d : Decimal) : List Char :=
  let sign := if d.coefficient < 0 ∨ d.minusZero then ['-'] else []
  let body := Text.padZeros (d.scale + 1) (Text.digits d.coefficient.natAbs)
  let whole := body.take (body.length - d.scale)
  let places := body.drop (body.length - d.scale)
  if d.scale = 0 then sign ++ whole else sign ++ whole ++ '.' :: places

def toText (d : Decimal) : String :=
  String.ofList d.chars

instance : ToString Decimal :=
  ⟨toText⟩

theorem make?_eq_some_iff {coefficient : Int} {scale : Nat} {d : Decimal} :
    make? coefficient scale = some d ↔
      d.coefficient = coefficient ∧ d.scale = scale ∧ d.minusZero = false := by
  constructor
  · intro made
    unfold make? at made
    split at made
    · cases made
      exact ⟨rfl, rfl, rfl⟩
    · cases made
  · obtain ⟨own, places, minus, own_lt, places_le, zero⟩ := d
    rintro ⟨rfl, rfl, rfl⟩
    rw [make?, dif_pos ⟨own_lt, places_le⟩]

theorem sameValue_iff_compare_eq (a b : Decimal) :
    a.sameValue b = true ↔ a.compare b = .eq := by
  unfold sameValue compare
  rw [beq_iff_eq, Int.compare_eq_eq]

end Decimal

/-! ## Rounding

A quotient of natural numbers is rounded to the nearest whole number. The two
functions differ only in where a tie goes. -/

namespace Decimal

/-- The nearest whole number to `n / d`; a tie goes up. -/
def roundHalfUp (n d : Nat) : Nat :=
  if 2 * (n % d) < d then n / d else n / d + 1

/-- The nearest whole number to `n / d`; a tie goes to the even neighbour. -/
def roundHalfEven (n d : Nat) : Nat :=
  if 2 * (n % d) < d then n / d
  else if 2 * (n % d) = d ∧ n / d % 2 = 0 then n / d
  else n / d + 1

theorem roundHalfEven_one (n : Nat) : roundHalfEven n 1 = n := by
  simp [roundHalfEven, Nat.mod_one]

/-! ## Sums and differences

The result is exact at the larger of the two scales whenever its coefficient
fits; otherwise just as many places are given up as needed, and the result is
rounded to the nearest, a tie to the even neighbour. There is no result when the
whole part alone is too large. -/

def dropPlaces (coefficient : Int) (dropped : Nat) : Int :=
  coefficient.sign * roundHalfEven coefficient.natAbs (Text.powerOfTen dropped)

/-- The number `coefficient / 10 ^ scale` with the most places that fit. -/
def fit? (coefficient : Int) (scale : Nat) : Option Decimal :=
  (List.range (scale + 1)).findSome? fun dropped =>
    make? (dropPlaces coefficient dropped) (scale - dropped)

def coefficientAt (d : Decimal) (scale : Nat) : Int :=
  d.coefficient * Text.powerOfTen (scale - d.scale)

/-- The sum of two decimals. A zero summand leaves the other one with its own
places; of two zeros the second one is left. -/
def add? (a b : Decimal) : Option Decimal :=
  if a.isZero then some b
  else if b.isZero then some a
  else
    let scale := max a.scale b.scale
    fit? (a.coefficientAt scale + b.coefficientAt scale) scale

def sub? (a b : Decimal) : Option Decimal :=
  add? a b.negate

/-! ## Reading

A numeral is an optional sign and digits with at most one point; underscores may
stand anywhere after the first digit. A fraction digit for which there is no
room, by the number of places or by the size of the coefficient, decides the
rounding of the digits before it, a half going up, and what follows it is
checked but has no weight. After the last place of a small coefficient an
underscore takes the part of that digit and rounds down. A numeral that cannot
be read so and has an exponent mark is read as a base and a power of ten. -/

inductive ReadError where
  | empty
  | noDigits
  | unknownCharacter
  | secondPoint
  | leadingSeparator
  | tooManyDigits
  | roundedTooLarge
  | badExponent
  | exponentTooLarge (exponent : Nat)
  | tooLarge
  deriving DecidableEq, Repr

def ReadError.message : ReadError → String
  | .empty => "Invalid decimal: empty"
  | .noDigits => "Invalid decimal: no digits found"
  | .unknownCharacter => "Invalid decimal: unknown character"
  | .secondPoint => "Invalid decimal: two decimal points"
  | .leadingSeparator => "Invalid decimal: must start lead with a number"
  | .tooManyDigits => "Invalid decimal: overflow from too many digits"
  | .roundedTooLarge => "Invalid decimal: overflow from mantissa after rounding"
  | .badExponent => "Failed to parse"
  | .exponentTooLarge exponent =>
      "Scale exceeds the maximum precision allowed: " ++ toString exponent ++ " > 28"
  | .tooLarge => "Number exceeds maximum value that can be represented."

def misplaced (c : Char) : ReadError :=
  if c = '.' then .secondPoint else if c = '_' then .leadingSeparator else .unknownCharacter

structure Partial where
  coefficient : Nat := 0
  scale : Nat := 0
  sawPoint : Bool := false
  sawDigit : Bool := false

def smallBound : Nat := 1844674407370954906

def Partial.isFullAndSmall (read : Partial) : Bool :=
  read.sawPoint && maxScale ≤ read.scale && read.coefficient / 10 < smallBound

def Partial.push (read : Partial) (digit : Nat) : Partial :=
  { read with
    coefficient := read.coefficient * 10 + digit
    scale := if read.sawPoint then read.scale + 1 else 0
    sawDigit := true }

/-- The digits rounded by the first one that has no room. A coefficient that
outgrows its bound by this gives up its last place. -/
def Partial.roundedBy (read : Partial) (digit : Nat) : Except ReadError (Nat × Nat) :=
  if digit < 5 then .ok (read.coefficient, read.scale)
  else if read.coefficient + 1 < coefficientBound then .ok (read.coefficient + 1, read.scale)
  else if read.scale = 0 then .error .roundedTooLarge
  else .ok ((read.coefficient + 5) / 10, read.scale - 1)

def checkTail : List Char → Except ReadError Unit
  | [] => .ok ()
  | c :: rest => if c.isDigit ∨ c = '_' then checkTail rest else .error (misplaced c)

def readDigits (read : Partial) : List Char → Except ReadError (Nat × Nat)
  | [] => if read.sawDigit then .ok (read.coefficient, read.scale) else .error .noDigits
  | c :: rest =>
      match Text.digitValue? c with
      | some digit =>
          let grown := read.coefficient * 10 + digit
          if read.sawPoint ∧ (maxScale ≤ read.scale ∨ coefficientBound ≤ grown) then
            match read.roundedBy digit with
            | .error problem => .error problem
            | .ok rounded =>
                match checkTail rest with
                | .error problem => .error problem
                | .ok () => .ok rounded
          else if coefficientBound ≤ grown then
            .error .tooManyDigits
          else
            readDigits (read.push digit) rest
      | none =>
          if c = '.' ∧ read.sawPoint = false then readDigits { read with sawPoint := true } rest
          else if c = '_' ∧ read.sawDigit then
            if read.isFullAndSmall then
              match checkTail rest with
              | .error problem => .error problem
              | .ok () => .ok (read.coefficient, read.scale)
            else readDigits read rest
          else .error (misplaced c)

def takeSign : List Char → Bool × List Char
  | '-' :: rest => (true, rest)
  | '+' :: rest => (false, rest)
  | text => (false, text)

def signed (negative : Bool) (coefficient scale : Nat) : Except ReadError Decimal :=
  match make? (if negative then -(coefficient : Int) else coefficient) scale with
  | some d => .ok d
  | none => .error .tooLarge

def readPlain (text : List Char) : Except ReadError Decimal :=
  if text.isEmpty then .error .empty
  else
    let (negative, body) := takeSign text
    match readDigits {} body with
    | .error problem => .error problem
    | .ok (coefficient, scale) => signed negative coefficient scale

/-- `d / 10 ^ exponent`. Places beyond the last one that there can be are
rounded off first, a half going away from zero. A negative number of which nothing
is left keeps its sign. -/
def scaledDown (d : Decimal) (exponent : Nat) : Except ReadError Decimal :=
  if maxScale < exponent then .error (.exponentTooLarge exponent)
  else if d.scale + exponent ≤ maxScale then
    signed d.isNegative d.coefficient.natAbs (d.scale + exponent)
  else
    let rounded := roundHalfUp d.coefficient.natAbs (Text.powerOfTen (d.scale + exponent - maxScale))
    if d.isNegative ∧ rounded = 0 then .ok negativeZero
    else signed d.isNegative rounded maxScale

/-- `d * 10 ^ exponent`, with as many places as the exponent leaves of those of
`d`. -/
def scaledUp (d : Decimal) (exponent : Nat) : Except ReadError Decimal :=
  if exponent ≤ d.scale then
    signed d.isNegative d.coefficient.natAbs (d.scale - exponent)
  else if maxScale < exponent then .error (.exponentTooLarge exponent)
  else signed d.isNegative (d.coefficient.natAbs * Text.powerOfTen (exponent - d.scale)) 0

def isExponentMark (c : Char) : Bool :=
  c == 'e' || c == 'E'

def withExponent (base : Decimal) : List Char → Except ReadError Decimal
  | '-' :: rest =>
      match Text.word? rest with
      | some exponent => scaledDown base exponent.toNat
      | none => .error .badExponent
  | text =>
      match Text.word? text with
      | some exponent => scaledUp base exponent.toNat
      | none => .error .badExponent

def ofChars (text : List Char) : Except ReadError Decimal :=
  match readPlain text with
  | .ok d => .ok d
  | .error problem =>
      match text.dropWhile (fun c => !isExponentMark c) with
      | [] => .error problem
      | _ :: exponent =>
          match readPlain (text.takeWhile fun c => !isExponentMark c) with
          | .error baseProblem => .error baseProblem
          | .ok base => withExponent base exponent

def ofText (text : String) : Except ReadError Decimal :=
  ofChars text.toList

end Decimal

end Passbook
