/-
Decimals: sums are exact while they fit, and a printed decimal is read back.
-/

import Passbook.Decimal
import Passbook.Proofs.Text

namespace Passbook.Decimal

/-! ## Exact sums

A decimal denotes a whole number at so many places when it has no more places
and that number is its coefficient there. Sums and differences denote the sums
and differences of whole numbers as long as these stay within the bound of a
coefficient. -/

theorem powerOfTen_pos (zeros : Nat) : 0 < Text.powerOfTen zeros :=
  Nat.pow_pos (by decide)

theorem powerOfTen_add (a b : Nat) :
    Text.powerOfTen (a + b) = Text.powerOfTen a * Text.powerOfTen b :=
  Nat.pow_add 10 a b

/-- The decimal is `value` over ten to the power `places`, and has no more
places than these. -/
def Denotes (d : Decimal) (places : Nat) (value : Int) : Prop :=
  d.scale ≤ places ∧ d.coefficientAt places = value

theorem denotes_zero (places : Nat) : zero.Denotes places 0 :=
  ⟨Nat.zero_le _, Int.zero_mul _⟩

theorem denotes_coefficientAt {d : Decimal} {places : Nat} (within : d.scale ≤ places) :
    d.Denotes places (d.coefficientAt places) :=
  ⟨within, rfl⟩

theorem coefficientAt_coefficientAt (d : Decimal) {scale places : Nat} (own : d.scale ≤ scale)
    (within : scale ≤ places) :
    d.coefficientAt places = d.coefficientAt scale * Text.powerOfTen (places - scale) := by
  have steps : places - d.scale = (scale - d.scale) + (places - scale) := by omega
  unfold coefficientAt
  rw [steps, powerOfTen_add, Int.natCast_mul, Int.mul_assoc]

theorem coefficientAt_negate (d : Decimal) (places : Nat) :
    d.negate.coefficientAt places = -d.coefficientAt places :=
  Int.neg_mul _ _

theorem coefficientAt_magnitude (d : Decimal) (places : Nat) :
    d.magnitude.coefficientAt places = (d.coefficientAt places).natAbs := by
  unfold coefficientAt magnitude
  rw [Int.natAbs_mul, Int.natAbs_natCast, Int.natCast_mul]

theorem Denotes.negate {d : Decimal} {places : Nat} {value : Int}
    (denotes : d.Denotes places value) : d.negate.Denotes places (-value) := by
  obtain ⟨within, same⟩ := denotes
  exact ⟨within, by rw [coefficientAt_negate, same]⟩

theorem Denotes.eq_zero_iff {d : Decimal} {places : Nat} {value : Int}
    (denotes : d.Denotes places value) : d.isZero = true ↔ value = 0 := by
  obtain ⟨within, same⟩ := denotes
  have positive := powerOfTen_pos (places - d.scale)
  unfold coefficientAt at same
  rw [← same, isZero, beq_iff_eq, Int.mul_eq_zero]
  omega

theorem Denotes.isNegative_iff {d : Decimal} {places : Nat} {value : Int}
    (denotes : d.Denotes places value) : d.isNegative = true ↔ value < 0 := by
  obtain ⟨within, same⟩ := denotes
  have positive : (0 : Int) < Text.powerOfTen (places - d.scale) :=
    Int.natCast_pos.mpr (powerOfTen_pos _)
  unfold coefficientAt at same
  rw [← same, isNegative, decide_eq_true_eq]
  constructor
  · intro negative
    exact Int.mul_neg_of_neg_of_pos negative positive
  · intro negative
    apply Int.lt_of_not_ge
    intro nonnegative
    have := Int.mul_nonneg nonnegative (Int.le_of_lt positive)
    omega

private theorem compare_mul {factor : Int} (positive : 0 < factor) (x y : Int) :
    Ord.compare (x * factor) (y * factor) = Ord.compare x y := by
  rcases Int.lt_trichotomy x y with less | same | greater
  · rw [Int.compare_eq_lt.mpr less]
    exact Int.compare_eq_lt.mpr (Int.mul_lt_mul_of_pos_right less positive)
  · rw [same]
    exact (Int.compare_eq_eq.mpr rfl).trans (Int.compare_eq_eq.mpr rfl).symm
  · rw [Int.compare_eq_gt.mpr greater]
    exact Int.compare_eq_gt.mpr (Int.mul_lt_mul_of_pos_right greater positive)

/-- Decimals are ordered as the whole numbers that they denote at the same places. -/
theorem Denotes.compare_eq {a b : Decimal} {places : Nat} {x y : Int}
    (first : a.Denotes places x) (second : b.Denotes places y) :
    a.compare b = Ord.compare x y := by
  obtain ⟨aWithin, rfl⟩ := first
  obtain ⟨bWithin, rfl⟩ := second
  have scaleUp (c : Int) (own other : Nat) (within : own ≤ places) :
      c * Text.powerOfTen (places - own) * Text.powerOfTen (own + other) =
        c * Text.powerOfTen other * Text.powerOfTen places := by
    rw [Int.mul_assoc, Int.mul_assoc, ← Int.natCast_mul, ← Int.natCast_mul, ← powerOfTen_add,
      ← powerOfTen_add]
    congr 3
    omega
  have atA := scaleUp a.coefficient a.scale b.scale aWithin
  have atB := scaleUp b.coefficient b.scale a.scale bWithin
  rw [Nat.add_comm b.scale] at atB
  have common : (0 : Int) < Text.powerOfTen (a.scale + b.scale) :=
    Int.natCast_pos.mpr (powerOfTen_pos _)
  have whole : (0 : Int) < Text.powerOfTen places := Int.natCast_pos.mpr (powerOfTen_pos _)
  calc
    a.compare b = Ord.compare (a.coefficient * Text.powerOfTen b.scale * Text.powerOfTen places)
        (b.coefficient * Text.powerOfTen a.scale * Text.powerOfTen places) :=
      (compare_mul whole _ _).symm
    _ = Ord.compare (a.coefficientAt places * Text.powerOfTen (a.scale + b.scale))
        (b.coefficientAt places * Text.powerOfTen (a.scale + b.scale)) := by
      unfold coefficientAt
      rw [atA, atB]
    _ = Ord.compare (a.coefficientAt places) (b.coefficientAt places) := compare_mul common _ _

theorem Denotes.sameValue_iff {a b : Decimal} {places : Nat} {x y : Int}
    (first : a.Denotes places x) (second : b.Denotes places y) :
    a.sameValue b = true ↔ x = y := by
  rw [sameValue_iff_compare_eq, first.compare_eq second, Int.compare_eq_eq]

theorem compare_coefficientAt {a b : Decimal} {places : Nat} (first : a.scale ≤ places)
    (second : b.scale ≤ places) :
    a.compare b = Ord.compare (a.coefficientAt places) (b.coefficientAt places) :=
  (denotes_coefficientAt first).compare_eq (denotes_coefficientAt second)

theorem sameValue_iff_coefficientAt {a b : Decimal} {places : Nat} (first : a.scale ≤ places)
    (second : b.scale ≤ places) :
    a.sameValue b = true ↔ a.coefficientAt places = b.coefficientAt places :=
  (denotes_coefficientAt first).sameValue_iff (denotes_coefficientAt second)

instance : Std.TransCmp Decimal.compare where
  eq_swap := Std.OrientedOrd.eq_swap
  isLE_trans := by
    intro a b c first second
    have aWithin : a.scale ≤ a.scale + b.scale + c.scale := by omega
    have bWithin : b.scale ≤ a.scale + b.scale + c.scale := by omega
    have cWithin : c.scale ≤ a.scale + b.scale + c.scale := by omega
    rw [compare_coefficientAt aWithin bWithin] at first
    rw [compare_coefficientAt bWithin cWithin] at second
    rw [compare_coefficientAt aWithin cWithin]
    exact Std.TransOrd.isLE_trans first second

theorem sameValue_refl (a : Decimal) : a.sameValue a = true := by
  rw [sameValue_iff_compare_eq]
  exact Std.ReflCmp.compare_self

theorem sameValue_symm {a b : Decimal} (same : a.sameValue b = true) : b.sameValue a = true := by
  rw [sameValue_iff_compare_eq] at same ⊢
  exact Std.OrientedCmp.eq_symm same

theorem sameValue_trans {a b c : Decimal} (first : a.sameValue b = true)
    (second : b.sameValue c = true) : a.sameValue c = true := by
  rw [sameValue_iff_compare_eq] at first second ⊢
  exact Std.TransCmp.eq_trans first second

theorem dropPlaces_zero (coefficient : Int) : dropPlaces coefficient 0 = coefficient := by
  unfold dropPlaces
  rw [show Text.powerOfTen 0 = 1 from rfl, roundHalfEven_one, Int.sign_mul_natAbs]

/-- A coefficient within bounds keeps all its places. -/
theorem fit?_eq_some {coefficient : Int} {scale : Nat}
    (fits : coefficient.natAbs < coefficientBound) (within : scale ≤ maxScale) :
    ∃ d, fit? coefficient scale = some d ∧ d.coefficient = coefficient ∧ d.scale = scale := by
  have made : ∃ d, make? coefficient scale = some d :=
    ⟨_, dif_pos ⟨fits, within⟩⟩
  obtain ⟨d, made⟩ := made
  obtain ⟨own, places, _⟩ := make?_eq_some_iff.mp made
  refine ⟨d, ?_, own, places⟩
  unfold fit?
  rw [List.range_succ_eq_map, List.findSome?_cons, dropPlaces_zero, Nat.sub_zero, made]

/-- A sum within bounds is exact. -/
theorem Denotes.add? {a b : Decimal} {places : Nat} {x y : Int}
    (first : a.Denotes places x) (second : b.Denotes places y)
    (fits : (x + y).natAbs < coefficientBound) :
    ∃ sum, a.add? b = some sum ∧ sum.Denotes places (x + y) := by
  -- A zero is left out of the sum, so that the other operand keeps its places.
  by_cases leftZero : a.isZero = true
  · have nothing := first.eq_zero_iff.mp leftZero
    refine ⟨b, by rw [Decimal.add?, if_pos leftZero], ?_⟩
    rw [nothing, Int.zero_add]
    exact second
  by_cases rightZero : b.isZero = true
  · have nothing := second.eq_zero_iff.mp rightZero
    refine ⟨a, by rw [Decimal.add?, if_neg leftZero, if_pos rightZero], ?_⟩
    rw [nothing, Int.add_zero]
    exact first
  obtain ⟨aWithin, rfl⟩ := first
  obtain ⟨bWithin, rfl⟩ := second
  have within : max a.scale b.scale ≤ places := Nat.max_le.mpr ⟨aWithin, bWithin⟩
  have total : (a.coefficientAt (max a.scale b.scale) + b.coefficientAt (max a.scale b.scale)) *
      Text.powerOfTen (places - max a.scale b.scale) =
        a.coefficientAt places + b.coefficientAt places := by
    rw [Int.add_mul, ← coefficientAt_coefficientAt a (Nat.le_max_left _ _) within,
      ← coefficientAt_coefficientAt b (Nat.le_max_right _ _) within]
  have smaller : (a.coefficientAt (max a.scale b.scale) +
      b.coefficientAt (max a.scale b.scale)).natAbs < coefficientBound := by
    apply Nat.lt_of_le_of_lt _ fits
    rw [← total, Int.natAbs_mul, Int.natAbs_natCast]
    exact Nat.le_mul_of_pos_right _ (powerOfTen_pos _)
  obtain ⟨sum, made, own, scale⟩ :=
    fit?_eq_some smaller (Nat.max_le.mpr ⟨a.scaleBounded, b.scaleBounded⟩)
  refine ⟨sum, by rw [Decimal.add?, if_neg leftZero, if_neg rightZero]; exact made, ?_, ?_⟩
  · rw [scale]
    exact within
  · rw [Decimal.coefficientAt, own, scale]
    exact total

theorem Denotes.sub? {a b : Decimal} {places : Nat} {x y : Int}
    (first : a.Denotes places x) (second : b.Denotes places y)
    (fits : (x - y).natAbs < coefficientBound) :
    ∃ difference, a.sub? b = some difference ∧ difference.Denotes places (x - y) :=
  first.add? second.negate fits

/-! ## Printing

The text of a decimal. Its sign is found again, and reading its digits goes
through without rounding, because the coefficient and the places both fit. So
the text shows the coefficient, the places and the sign, that of a zero among them. -/

/-! ### Digits that fit -/

theorem digitValue?_of_isDigit {c : Char} (digit : c.isDigit = true) :
    Text.digitValue? c = some (c.toNat - '0'.toNat) :=
  if_pos digit

/-- Digits for which there is room are taken one by one; those behind the point
are places. -/
theorem readDigits_append {text : List Char} (digits : ∀ c ∈ text, c.isDigit = true)
    {coefficient scale : Nat} {point sawDigit : Bool} (rest : List Char)
    (fits : Nat.ofDigitChars 10 text coefficient < coefficientBound)
    (unscaled : point = false → scale = 0)
    (places : point = true → scale + text.length ≤ maxScale) :
    readDigits ⟨coefficient, scale, point, sawDigit⟩ (text ++ rest) =
      readDigits ⟨Nat.ofDigitChars 10 text coefficient,
        if point then scale + text.length else 0, point, sawDigit || !text.isEmpty⟩ rest := by
  induction text generalizing coefficient scale sawDigit with
  | nil => cases point <;> simp_all
  | cons c text ih =>
      have digit := digitValue?_of_isDigit (digits c List.mem_cons_self)
      rw [Nat.ofDigitChars_cons, Nat.mul_comm] at fits
      have grown : coefficient * 10 + (c.toNat - '0'.toNat) < coefficientBound :=
        Nat.lt_of_le_of_lt (Text.le_ofDigitChars _ _) fits
      have room : ¬ (point = true ∧ (maxScale ≤ scale ∨
          coefficientBound ≤ coefficient * 10 + (c.toNat - '0'.toNat))) := by
        rintro ⟨pointed, full | large⟩
        · have few := places pointed
          rw [List.length_cons] at few
          omega
        · omega
      rw [List.cons_append, readDigits, digit]
      dsimp only
      rw [if_neg room, if_neg (by omega), Partial.push]
      dsimp only
      rw [ih (fun other member => digits other (List.mem_cons_of_mem _ member)) fits]
      · rw [Nat.ofDigitChars_cons, Nat.mul_comm 10, List.length_cons, List.isEmpty_cons]
        cases point with
        | true => simp [Nat.add_assoc, Nat.add_comm 1]
        | false => simp
      · rintro rfl
        rfl
      · rintro rfl
        have few := places rfl
        rw [List.length_cons] at few
        rw [if_pos rfl]
        omega

/-! ### Printed decimals -/

theorem eq_of_parts {a b : Decimal} (coefficient : a.coefficient = b.coefficient)
    (scale : a.scale = b.scale) (minusZero : a.minusZero = b.minusZero) : a = b := by
  cases a
  cases b
  cases coefficient
  cases scale
  cases minusZero
  rfl

section Printed

variable (d : Decimal)

def body : List Char :=
  Text.padZeros (d.scale + 1) (Text.digits d.coefficient.natAbs)

def wholeDigits : List Char :=
  d.body.take (d.body.length - d.scale)

def placeDigits : List Char :=
  d.body.drop (d.body.length - d.scale)

def unsignedChars : List Char :=
  d.wholeDigits ++ if d.scale = 0 then [] else '.' :: d.placeDigits

def hasMinus : Bool :=
  d.coefficient < 0 ∨ d.minusZero

theorem chars_eq : d.chars = (if d.hasMinus then ['-'] else []) ++ d.unsignedChars := by
  unfold chars unsignedChars hasMinus
  simp only [decide_eq_true_eq]
  by_cases noPlaces : d.scale = 0
  · rw [if_pos noPlaces, if_pos noPlaces, List.append_nil]
    rfl
  · rw [if_neg noPlaces, if_neg noPlaces, List.append_assoc]
    rfl

theorem scale_lt_length_body : d.scale < d.body.length := by
  simp only [body, Text.padZeros, List.length_append, List.length_replicate]
  omega

theorem whole_append_places : d.wholeDigits ++ d.placeDigits = d.body :=
  List.take_append_drop _ _

theorem length_placeDigits : d.placeDigits.length = d.scale := by
  have longer := d.scale_lt_length_body
  rw [placeDigits, List.length_drop]
  omega

theorem wholeDigits_ne_nil : d.wholeDigits ≠ [] := by
  have longer := d.scale_lt_length_body
  rw [← List.length_pos_iff, wholeDigits, List.length_take]
  omega

theorem isDigit_of_mem_wholeDigits {c : Char} (member : c ∈ d.wholeDigits) : c.isDigit = true :=
  Text.isDigit_of_mem_padZeros (List.mem_of_mem_take member)

theorem isDigit_of_mem_placeDigits {c : Char} (member : c ∈ d.placeDigits) : c.isDigit = true :=
  Text.isDigit_of_mem_padZeros (List.mem_of_mem_drop member)

theorem mem_chars {c : Char} (member : c ∈ d.chars) : c.isDigit = true ∨ c = '-' ∨ c = '.' := by
  rw [chars_eq, unsignedChars, List.mem_append, List.mem_append] at member
  rcases member with sign | whole | places
  · split at sign
    · exact Or.inr (Or.inl (List.mem_singleton.mp sign))
    · cases sign
  · exact Or.inl (d.isDigit_of_mem_wholeDigits whole)
  · split at places
    · cases places
    · rcases List.mem_cons.mp places with point | place
      · exact Or.inr (Or.inr point)
      · exact Or.inl (d.isDigit_of_mem_placeDigits place)

theorem takeSign_chars : takeSign d.chars = (d.hasMinus, d.unsignedChars) := by
  rw [chars_eq]
  cases d.hasMinus with
  | true => rfl
  | false =>
      obtain ⟨c, others, begins⟩ := List.exists_cons_of_ne_nil d.wholeDigits_ne_nil
      have digit := d.isDigit_of_mem_wholeDigits (begins ▸ List.mem_cons_self)
      rw [if_neg (by decide), List.nil_append, unsignedChars, begins, List.cons_append,
        takeSign_of_digit digit]

/-- The digits before the point are read, and those behind it when there are any. -/
theorem readDigits_unsignedChars :
    readDigits {} d.unsignedChars = .ok (d.coefficient.natAbs, d.scale) := by
  have number : Nat.ofDigitChars 10 d.placeDigits (Nat.ofDigitChars 10 d.wholeDigits 0) =
      d.coefficient.natAbs := by
    rw [← Nat.ofDigitChars_append, whole_append_places]
    exact Text.number_padZeros
  have wholeFits : Nat.ofDigitChars 10 d.wholeDigits 0 < coefficientBound := by
    refine Nat.lt_of_le_of_lt ?_ d.coefficientBounded
    rw [← number]
    exact Text.le_ofDigitChars _ _
  have beforePoint (rest : List Char) : readDigits {} (d.wholeDigits ++ rest) =
      readDigits ⟨Nat.ofDigitChars 10 d.wholeDigits 0, 0, false, true⟩ rest := by
    have taken : readDigits ⟨0, 0, false, false⟩ (d.wholeDigits ++ rest) = _ :=
      readDigits_append (fun _ => d.isDigit_of_mem_wholeDigits) rest wholeFits (fun _ => rfl)
        fun pointed => absurd pointed Bool.false_ne_true
    rw [List.isEmpty_eq_false_iff.mpr d.wholeDigits_ne_nil] at taken
    exact taken
  rw [unsignedChars, beforePoint]
  by_cases unscaled : d.scale = 0
  · have noDigits : d.placeDigits = [] := by
      rw [← List.length_eq_zero_iff, length_placeDigits, unscaled]
    rw [noDigits, Nat.ofDigitChars_nil] at number
    rw [if_pos unscaled, number, unscaled]
    rfl
  · have numberFits : Nat.ofDigitChars 10 d.placeDigits (Nat.ofDigitChars 10 d.wholeDigits 0) <
        coefficientBound := number ▸ d.coefficientBounded
    have placesFit : 0 + d.placeDigits.length ≤ maxScale := by
      rw [length_placeDigits, Nat.zero_add]
      exact d.scaleBounded
    have behindPoint : readDigits ⟨Nat.ofDigitChars 10 d.wholeDigits 0, 0, true, true⟩
        (d.placeDigits ++ []) = _ :=
      readDigits_append (fun _ => d.isDigit_of_mem_placeDigits) [] numberFits
        (fun pointless => absurd pointless.symm Bool.false_ne_true) fun _ => placesFit
    rw [number, length_placeDigits, Nat.zero_add, List.append_nil] at behindPoint
    rw [if_neg unscaled]
    exact behindPoint

theorem signed_natAbs : (if d.hasMinus then -(d.coefficient.natAbs : Int)
    else d.coefficient.natAbs) = d.coefficient := by
  have ofZero := d.zeroOfMinusZero
  by_cases minus : d.hasMinus = true
  · rw [if_pos minus]
    simp only [hasMinus, decide_eq_true_eq] at minus
    rcases minus with negative | zero
    · omega
    · rw [ofZero zero]
      rfl
  · rw [if_neg minus]
    simp only [hasMinus, decide_eq_true_eq, not_or] at minus
    omega

/-- A decimal is read back from its text, but for the sign of a zero. -/
theorem ofChars_chars : ∃ read, ofChars d.chars = .ok read ∧
    read.coefficient = d.coefficient ∧ read.scale = d.scale ∧ read.minusZero = false := by
  have nonempty : d.chars.isEmpty = false := by
    rw [List.isEmpty_eq_false_iff, chars_eq, unsignedChars]
    exact List.append_ne_nil_of_right_ne_nil _
      (List.append_ne_nil_of_left_ne_nil d.wholeDigits_ne_nil _)
  obtain ⟨read, made⟩ : ∃ read, make? d.coefficient d.scale = some read :=
    ⟨_, dif_pos ⟨d.coefficientBounded, d.scaleBounded⟩⟩
  refine ⟨read, ?_, make?_eq_some_iff.mp made⟩
  have plain : readPlain d.chars = .ok read := by
    unfold readPlain
    rw [nonempty, takeSign_chars]
    dsimp only
    rw [readDigits_unsignedChars]
    dsimp only
    rw [signed, signed_natAbs, made]
    rfl
  rw [ofChars, plain]

theorem minusZero_eq : d.minusZero = (d.hasMinus && d.isZero) := by
  have ofZero := d.zeroOfMinusZero
  unfold hasMinus isZero
  by_cases zero : d.coefficient = 0
  · simp [zero]
  · have plain : d.minusZero = false := eq_false_of_ne_true fun minus => zero (ofZero minus)
    simp [zero, plain]

/-- The text shows all of a decimal: its coefficient, its places and its sign. -/
theorem toText_inj {first second : Decimal} (same : first.toText = second.toText) :
    first = second := by
  have chars : first.chars = second.chars := String.ofList_injective same
  obtain ⟨read, one, coefficient, scale, _⟩ := ofChars_chars first
  obtain ⟨other, two, coefficientToo, scaleToo, _⟩ := ofChars_chars second
  rw [chars, two] at one
  cases one
  have signs : first.hasMinus = second.hasMinus := by
    have taken := takeSign_chars first
    rw [chars, takeSign_chars] at taken
    exact (Prod.mk.inj taken).1.symm
  have coefficients : first.coefficient = second.coefficient := coefficient.symm.trans coefficientToo
  have minus : first.minusZero = second.minusZero := by
    rw [minusZero_eq, minusZero_eq, signs, isZero, isZero, coefficients]
  exact eq_of_parts coefficients (scale.symm.trans scaleToo) minus

end Printed

end Passbook.Decimal
