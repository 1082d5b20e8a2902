/-
Texts and their pieces: numerals are read back, joining pieces undoes cutting them,
and bytes in UTF-8 are read as the characters that they encode.
-/

import Mathlib.Data.List.TakeWhile
import Mathlib.Tactic.Ring
import Mathlib.Tactic.SplitIfs
import Passbook.Decimal
import Passbook.Entry
import Passbook.Text

namespace Passbook

/-! ## Numerals

Trimming leaves them as they are, and a numeral of few digits is read as the
number that its digits write, as a word as well as a decimal; an amount read
from digits and a point has no sign. -/

namespace Text

def number (text : List Char) : Nat :=
  Nat.ofDigitChars 10 text 0

theorem toNat_of_isDigit {c : Char} (digit : c.isDigit = true) : 48 ≤ c.toNat ∧ c.toNat ≤ 57 := by
  simp only [Char.isDigit, Bool.and_eq_true, decide_eq_true_eq] at digit
  exact digit

theorem isBlank_of_isDigit {c : Char} (digit : c.isDigit = true) : isBlank c = false := by
  have range := toNat_of_isDigit digit
  unfold isBlank
  simp
  omega

theorem trimBlanks_of_solid {text : List Char} (solid : ∀ c ∈ text, isBlank c = false) :
    trimBlanks text = text := by
  have kept {others : List Char} (none_blank : ∀ c ∈ others, isBlank c = false) :
      others.dropWhile isBlank = others := by
    cases others with
    | nil => rfl
    | cons c others =>
        rw [List.dropWhile_cons_of_neg]
        rw [none_blank c List.mem_cons_self]
        decide
  unfold trimBlanks
  rw [kept solid, kept fun c member => solid c (List.mem_reverse.mp member), List.reverse_reverse]

theorem ofDigitChars_lt {text : List Char} (digits : ∀ c ∈ text, c.isDigit = true) (start : Nat) :
    Nat.ofDigitChars 10 text start < (start + 1) * 10 ^ text.length := by
  induction text generalizing start with
  | nil => simp
  | cons c text ih =>
      have range := toNat_of_isDigit (digits c List.mem_cons_self)
      have later := ih (fun other member => digits other (List.mem_cons_of_mem _ member))
        (10 * start + (c.toNat - '0'.toNat))
      rw [Nat.ofDigitChars_cons, List.length_cons, Nat.pow_succ]
      have zero : '0'.toNat = 48 := rfl
      rw [zero] at later ⊢
      calc
        _ < (10 * start + (c.toNat - 48) + 1) * 10 ^ text.length := later
        _ ≤ (10 * (start + 1)) * 10 ^ text.length := Nat.mul_le_mul_right _ (by omega)
        _ = (start + 1) * (10 ^ text.length * 10) := by ring

theorem le_ofDigitChars (text : List Char) (start : Nat) :
    start ≤ Nat.ofDigitChars 10 text start := by
  rw [Nat.ofDigitChars_eq_ofDigitChars_zero]
  exact (Nat.le_mul_of_pos_left start (Nat.pow_pos (by decide))).trans (Nat.le_add_right _ _)

theorem number_lt {text : List Char} (digits : ∀ c ∈ text, c.isDigit = true) :
    number text < 10 ^ text.length := by
  have bound := ofDigitChars_lt digits 0
  rw [Nat.zero_add, Nat.one_mul] at bound
  exact bound

section Digits

variable {text : List Char} (nonempty : text ≠ []) (digits : ∀ c ∈ text, c.isDigit = true)

include nonempty digits

theorem ofDigits?_of_digits : ofDigits? text = some (number text) :=
  if_pos ⟨nonempty, List.all_eq_true.mpr digits⟩

theorem natural?_of_digits : natural? text = some (number text) := by
  unfold natural?
  split
  · exact absurd (digits '+' List.mem_cons_self) (by decide)
  · exact ofDigits?_of_digits nonempty digits

theorem integer?_of_digits : integer? text = some (number text) := by
  unfold integer?
  split
  · exact absurd (digits '+' List.mem_cons_self) (by decide)
  · exact absurd (digits '-' List.mem_cons_self) (by decide)
  · rw [ofDigits?_of_digits nonempty digits]
    rfl

theorem word?_of_digits (short : text.length ≤ 9) :
    word? text = some (UInt32.ofNat (number text)) := by
  have bound := number_lt digits
  have few : 10 ^ text.length ≤ 10 ^ 9 := Nat.pow_le_pow_right (by decide) short
  unfold word?
  rw [natural?_of_digits nonempty digits]
  exact if_pos (by unfold wordCount; omega)

theorem signedWord?_of_digits (short : text.length ≤ 9) :
    signedWord? text = some (Int32.ofInt (number text)) := by
  have bound := number_lt digits
  have few : 10 ^ text.length ≤ 10 ^ 9 := Nat.pow_le_pow_right (by decide) short
  unfold signedWord?
  rw [integer?_of_digits nonempty digits]
  exact if_pos (by omega)

end Digits

/-! ### Printed numbers -/

section Printed

variable {width n : Nat}

theorem isDigit_of_mem_padZeros {c : Char} (member : c ∈ padZeros width (digits n)) :
    c.isDigit = true := by
  rcases List.mem_append.mp member with zero | own
  · rw [List.eq_of_mem_replicate zero]
    rfl
  · exact Nat.isDigit_of_mem_toDigits (by decide) (by decide) own

theorem padZeros_ne_nil : padZeros width (digits n) ≠ [] :=
  List.append_ne_nil_of_right_ne_nil _ Nat.toDigits_ne_nil

theorem number_padZeros : number (padZeros width (digits n)) = n := by
  rw [number, padZeros, Nat.ofDigitChars_append, Nat.ofDigitChars_replicate_zero, Nat.mul_zero]
  exact Nat.ofDigitChars_ten_toDigits

theorem ofDigits?_padZeros : ofDigits? (padZeros width (digits n)) = some n := by
  rw [ofDigits?_of_digits padZeros_ne_nil fun _ => isDigit_of_mem_padZeros, number_padZeros]

theorem trimBlanks_padZeros :
    trimBlanks (padZeros width (digits n)) = padZeros width (digits n) :=
  trimBlanks_of_solid fun _ member => isBlank_of_isDigit (isDigit_of_mem_padZeros member)

theorem word?_padZeros (width : Nat) (word : UInt32) :
    word? (padZeros width (digits word.toNat)) = some word := by
  have fits : word.toNat < wordCount := word.toNat_lt
  unfold word?
  rw [natural?_of_digits padZeros_ne_nil fun _ => isDigit_of_mem_padZeros, number_padZeros]
  dsimp only
  rw [if_pos fits, UInt32.ofNat_toNat]

end Printed

end Text

theorem Date.ofParts_of_digits {year month day : List Char}
    (digits : ∀ part ∈ [year, month, day], part ≠ [] ∧ part.length ≤ 9 ∧
      ∀ c ∈ part, c.isDigit = true) :
    Date.ofParts (String.ofList year) (String.ofList month) (String.ofList day) =
      .ok ⟨Int32.ofInt (Text.number year), UInt32.ofNat (Text.number month),
        UInt32.ofNat (Text.number day)⟩ := by
  have trimmed : ∀ part ∈ [year, month, day], Text.trimBlanks part = part := by
    intro part member
    apply Text.trimBlanks_of_solid
    intro c inPart
    exact Text.isBlank_of_isDigit ((digits part member).2.2 c inPart)
  simp only [List.forall_mem_cons] at digits trimmed
  obtain ⟨ofYear, ofMonth, ofDay, _⟩ := digits
  obtain ⟨yearTrimmed, monthTrimmed, dayTrimmed, _⟩ := trimmed
  unfold Date.ofParts Date.ofPartChars?
  simp only [String.toList_ofList, yearTrimmed, monthTrimmed, dayTrimmed]
  rw [Text.signedWord?_of_digits ofYear.1 ofYear.2.2 ofYear.2.1,
    Text.word?_of_digits ofMonth.1 ofMonth.2.2 ofMonth.2.1,
    Text.word?_of_digits ofDay.1 ofDay.2.2 ofDay.2.1]

namespace Decimal

/-- The number has no sign, nor is it a zero that lost one. -/
def Unsigned (d : Decimal) : Prop :=
  0 ≤ d.coefficient ∧ d.minusZero = false

theorem Unsigned.magnitude_eq {d : Decimal} (unsigned : d.Unsigned) : d.magnitude = d := by
  obtain ⟨coefficient, scale, minusZero, coefficientBounded, scaleBounded, zeroOfMinusZero⟩ := d
  obtain ⟨nonnegative, plain⟩ := unsigned
  change 0 ≤ coefficient at nonnegative
  change minusZero = false at plain
  subst plain
  simp [magnitude, Int.natAbs_of_nonneg nonnegative]

theorem Unsigned.ofDecimal_eq {d : Decimal} (unsigned : d.Unsigned) :
    Dollars.ofDecimal d = .ok (.ofMagnitude d) := by
  unfold Dollars.ofDecimal Dollars.ofMagnitude
  rw [dif_pos unsigned.1]
  congr 2
  exact unsigned.magnitude_eq.symm

theorem takeSign_of_digit {c : Char} {text : List Char} (digit : c.isDigit = true) :
    takeSign (c :: text) = (false, c :: text) := by
  unfold takeSign
  split
  · rename_i starts
    cases starts
    cases digit
  · rename_i starts
    cases starts
    cases digit
  · rfl

/-- A numeral that starts with a digit and has no exponent is read without a sign. -/
theorem unsigned_of_ofChars {c : Char} {text : List Char} (digit : c.isDigit = true)
    (plain : ∀ other ∈ c :: text, isExponentMark other = false) {d : Decimal}
    (read : ofChars (c :: text) = .ok d) : d.Unsigned := by
  unfold ofChars at read
  split at read
  · rename_i number plainly
    cases read
    unfold readPlain at plainly
    rw [if_neg (by simp), takeSign_of_digit digit] at plainly
    dsimp only at plainly
    split at plainly
    · cases plainly
    · rename_i coefficient scale _
      unfold signed at plainly
      split at plainly
      · rename_i made
        cases plainly
        obtain ⟨own, _, minus⟩ := make?_eq_some_iff.mp made
        refine ⟨?_, minus⟩
        rw [own]
        exact Int.natCast_nonneg _
      · cases plainly
  · have noMark : (c :: text).dropWhile (fun other => !isExponentMark other) = [] := by
      rw [List.dropWhile_eq_nil_iff]
      intro other member
      rw [plain other member]
      rfl
    rw [noMark] at read
    cases read

end Decimal

/-! ## Pieces

A piece inside of which no occurrence of the separator starts is found again.
That is so of pieces without a mark, when the separator is the mark alone or has
the mark behind another character. Of pieces that may have the mark it is not:
the end of a piece and the separator behind it can make an occurrence that
starts earlier. -/

namespace Text

/-- No occurrence of the separator starts inside of a piece that `rest` follows. -/
def NoneStarts (separator piece rest : List Char) : Prop :=
  ∀ c tail, c :: tail <:+ piece → separator.isPrefixOf (c :: (tail ++ rest)) = false

section Separator

variable {separator piece : List Char}

theorem foldr_extendFirst (piece first : List Char) (pieces : List (List Char)) :
    piece.foldr extendFirst (first :: pieces) = (piece ++ first) :: pieces := by
  induction piece with
  | nil => rfl
  | cons c piece ih => rw [List.foldr_cons, ih, extendFirst, List.cons_append]

theorem split_of_noneStarts {rest : List Char} (none : NoneStarts separator piece rest) :
    split separator (piece ++ rest) = piece.foldr extendFirst (split separator rest) := by
  induction piece with
  | nil => rfl
  | cons c piece ih =>
      have later := ih fun other tail inside => none other tail (inside.trans (List.suffix_cons c piece))
      rw [List.foldr_cons, ← later, List.cons_append, split, splitPending,
        none c piece (List.suffix_refl _)]
      rfl

private theorem splitPending_length (separator dropped rest : List Char) :
    splitPending separator dropped.length (dropped ++ rest) = splitPending separator 0 rest := by
  induction dropped with
  | nil => rfl
  | cons c dropped ih => exact ih

theorem split_separator (first : Char) (more rest : List Char) :
    split (first :: more) (first :: more ++ rest) = [] :: split (first :: more) rest := by
  have starts : (first :: more).isPrefixOf (first :: more ++ rest) = true :=
    List.isPrefixOf_iff_prefix.mpr (List.prefix_append _ _)
  rw [List.cons_append] at starts ⊢
  rw [split, splitPending, starts]
  exact congrArg (List.cons []) (splitPending_length (first :: more) more rest)

theorem split_eq_singleton (none : NoneStarts separator piece []) :
    split separator piece = [piece] := by
  have whole := split_of_noneStarts none
  rw [List.append_nil] at whole
  rw [whole, split, splitPending, foldr_extendFirst, List.append_nil]

theorem split_eq_cons {first : Char} {more rest : List Char}
    (none : NoneStarts (first :: more) piece (first :: more ++ rest)) :
    split (first :: more) (piece ++ (first :: more ++ rest)) =
      piece :: split (first :: more) rest := by
  rw [split_of_noneStarts none, split_separator, foldr_extendFirst, List.append_nil]

end Separator

/-! ### A mark behind another character -/

variable {first mark : Char} {more piece : List Char}

/-- Inside a piece no separator starts, for the mark would have to come next. -/
private theorem noneStarts_of_not_mem (differ : first ≠ mark) (absent : mark ∉ piece)
    {rest : List Char} (next : rest = [] ∨ ∃ others, rest = first :: others) :
    NoneStarts (first :: mark :: more) piece rest := by
  intro c tail inside
  rw [Bool.eq_false_iff]
  intro starts
  obtain ⟨others, whole⟩ := List.isPrefixOf_iff_prefix.mp starts
  rw [List.cons_append, List.cons_append, List.cons.injEq] at whole
  obtain ⟨_, whole⟩ := whole
  cases tail with
  | nil =>
      rcases next with ended | ⟨tail, begun⟩
      · rw [ended] at whole
        cases whole
      · rw [begun, List.nil_append, List.cons.injEq] at whole
        exact differ whole.1.symm
  | cons head tail =>
      rw [List.cons_append, List.cons.injEq] at whole
      refine absent (inside.subset (List.mem_cons_of_mem c ?_))
      rw [whole.1]
      exact List.mem_cons_self

theorem split_of_not_mem (differ : first ≠ mark) (absent : mark ∉ piece) :
    split (first :: mark :: more) piece = [piece] :=
  split_eq_singleton (noneStarts_of_not_mem differ absent (Or.inl rfl))

theorem split_append (differ : first ≠ mark) (absent : mark ∉ piece) (rest : List Char) :
    split (first :: mark :: more) (piece ++ (first :: mark :: more ++ rest)) =
      piece :: split (first :: mark :: more) rest :=
  split_eq_cons (noneStarts_of_not_mem differ absent (Or.inr ⟨_, rfl⟩))

/-! ### A mark between two equal edges -/

theorem split_of_not_infix {separator : List Char} (absent : ¬ separator <:+: piece) :
    split separator piece = [piece] := by
  apply split_eq_singleton
  intro c tail inside
  rw [Bool.eq_false_iff]
  intro starts
  rw [List.append_nil, List.isPrefixOf_iff_prefix] at starts
  exact absent (starts.isInfix.trans inside.isInfix)

section Seam

variable {edge : Char} {before after : List Char}

/-- Inside a piece no separator starts, for it would have to end before the seam,
which is excluded, or to share an edge with the separator there. -/
private theorem noneStarts_seam (differ : edge ≠ mark) (absent : ¬ [edge, mark, edge] <:+: piece)
    (closed : ¬ [edge, mark] <:+ piece) (rest : List Char) :
    NoneStarts [edge, mark, edge] piece ([edge, mark, edge] ++ rest) := by
  intro c tail inside
  rw [Bool.eq_false_iff]
  intro starts
  obtain ⟨others, whole⟩ := List.isPrefixOf_iff_prefix.mp starts
  match tail with
  | [] =>
      obtain ⟨_, second, _⟩ : edge = c ∧ mark = edge ∧ _ := by simpa using whole
      exact differ second.symm
  | [d] =>
      obtain ⟨rfl, rfl, _⟩ : edge = c ∧ mark = d ∧ _ := by simpa using whole
      exact closed inside
  | d :: e :: tail =>
      obtain ⟨rfl, rfl, rfl, _⟩ : edge = c ∧ mark = d ∧ edge = e ∧ _ := by simpa using whole
      exact absent (List.IsInfix.trans ⟨[], tail, rfl⟩ inside.isInfix)

theorem split_seam (differ : edge ≠ mark) (absentBefore : ¬ [edge, mark, edge] <:+: before)
    (absentAfter : ¬ [edge, mark, edge] <:+: after) (closed : ¬ [edge, mark] <:+ before) :
    split [edge, mark, edge] (before ++ ([edge, mark, edge] ++ after)) = [before, after] := by
  rw [split_eq_cons (noneStarts_seam differ absentBefore closed after),
    split_of_not_infix absentAfter]

/-- A piece that ends like the separator begins loses that end. -/
theorem split_open_seam (differ : edge ≠ mark)
    (absent : ¬ [edge, mark, edge] <:+: piece ++ [edge, mark]) (rest : List Char) :
    split [edge, mark, edge] (piece ++ [edge, mark] ++ ([edge, mark, edge] ++ rest)) =
      piece :: split [edge, mark, edge] (mark :: edge :: rest) := by
  have shorter : ¬ [edge, mark, edge] <:+: piece := fun inside =>
    absent (inside.trans (List.prefix_append piece _).isInfix)
  have closed : ¬ [edge, mark] <:+ piece := by
    rintro ⟨others, rfl⟩
    exact absent ⟨others, [mark], by simp⟩
  have regroup : piece ++ [edge, mark] ++ ([edge, mark, edge] ++ rest) =
      piece ++ ([edge, mark, edge] ++ mark :: edge :: rest) := by
    simp
  rw [regroup, split_eq_cons (noneStarts_seam differ shorter closed _)]

/-- Two pieces without a separator in them are found again behind and in front of
one exactly when the first does not end like the separator begins. -/
theorem split_seam_eq_iff (differ : edge ≠ mark)
    (absentBefore : ¬ [edge, mark, edge] <:+: before)
    (absentAfter : ¬ [edge, mark, edge] <:+: after) :
    split [edge, mark, edge] (before ++ ([edge, mark, edge] ++ after)) = [before, after] ↔
      ¬ [edge, mark] <:+ before := by
  constructor
  · rintro same ⟨short, rfl⟩
    rw [split_open_seam differ absentBefore, List.cons.injEq] at same
    have length := congrArg List.length same.1
    rw [List.length_append] at length
    exact absurd length (by simp)
  · exact split_seam differ absentBefore absentAfter

end Seam

/-! ### A mark alone -/

private theorem noneStarts_mark (absent : mark ∉ piece) (rest : List Char) :
    NoneStarts [mark] piece rest := by
  intro c tail inside
  have differ : mark ≠ c := by
    rintro rfl
    exact absent (inside.subset List.mem_cons_self)
  rw [List.isPrefixOf, beq_false_of_ne differ, Bool.false_and]

theorem split_mark_of_not_mem (absent : mark ∉ piece) : split [mark] piece = [piece] :=
  split_eq_singleton (noneStarts_mark absent [])

theorem split_mark_append (absent : mark ∉ piece) (rest : List Char) :
    split [mark] (piece ++ mark :: rest) = piece :: split [mark] rest :=
  split_eq_cons (noneStarts_mark absent _)

theorem split_mark_intercalate {pieces : List (List Char)} (nonempty : pieces ≠ [])
    (absent : ∀ piece ∈ pieces, mark ∉ piece) :
    split [mark] ([mark].intercalate pieces) = pieces := by
  induction pieces with
  | nil => contradiction
  | cons piece pieces ih =>
      rw [List.forall_mem_cons] at absent
      cases pieces with
      | nil => rw [List.intercalate_singleton, split_mark_of_not_mem absent.1]
      | cons next pieces =>
          have later := ih (List.cons_ne_nil next pieces) absent.2
          rw [List.intercalate_cons_cons, List.append_assoc, List.singleton_append,
            split_mark_append absent.1, later]

/-- Pieces with the mark behind each of them leave one empty piece at the end. -/
theorem split_mark_terminated {pieces : List (List Char)}
    (absent : ∀ piece ∈ pieces, mark ∉ piece) :
    split [mark] (pieces.flatMap fun piece => piece ++ [mark]) = pieces ++ [[]] := by
  induction pieces with
  | nil => rfl
  | cons piece pieces ih =>
      rw [List.forall_mem_cons] at absent
      rw [List.flatMap_cons, List.append_assoc, List.singleton_append, split_mark_append absent.1,
        ih absent.2, List.cons_append]

theorem not_mem_intercalate {c : Char} {separator : List Char} {pieces : List (List Char)}
    (outside : c ∉ separator) (absent : ∀ piece ∈ pieces, c ∉ piece) :
    c ∉ separator.intercalate pieces := by
  induction pieces with
  | nil => exact List.not_mem_nil
  | cons piece pieces ih =>
      rw [List.forall_mem_cons] at absent
      cases pieces with
      | nil =>
          rw [List.intercalate_singleton]
          exact absent.1
      | cons next pieces =>
          rw [List.intercalate_cons_cons, List.mem_append, List.mem_append, not_or, not_or]
          exact ⟨⟨absent.1, outside⟩, ih absent.2⟩

end Text

/-! ## Lines

A text that is empty or ends with a line feed has as many lines as line feeds,
and a text behind it adds its own lines to them. No line holds a line feed. -/

namespace Text

theorem linesFrom_lineFeed (current rest : List Char) :
    linesFrom current ('\n' :: rest) = stripReturn current.reverse :: linesFrom [] rest := by
  rw [linesFrom]

theorem linesFrom_other {c : Char} (other : c ≠ '\n') (current rest : List Char) :
    linesFrom current (c :: rest) = linesFrom (c :: current) rest := by
  rw [linesFrom]
  exact other

theorem linesFrom_append (current first second : List Char) :
    linesFrom current (first ++ '\n' :: second) =
      linesFrom current (first ++ ['\n']) ++ linesFrom [] second := by
  induction first generalizing current with
  | nil => simp only [List.nil_append, linesFrom_lineFeed, linesFrom, List.singleton_append]
  | cons c first ih =>
      rw [List.cons_append, List.cons_append]
      by_cases feed : c = '\n'
      · subst feed
        rw [linesFrom_lineFeed, linesFrom_lineFeed, ih, List.cons_append]
      · rw [linesFrom_other feed, linesFrom_other feed, ih]

theorem length_linesFrom (current first : List Char) :
    (linesFrom current (first ++ ['\n'])).length = first.count '\n' + 1 := by
  induction first generalizing current with
  | nil => rw [List.nil_append, linesFrom_lineFeed]; rfl
  | cons c first ih =>
      rw [List.cons_append]
      by_cases feed : c = '\n'
      · subst feed
        rw [linesFrom_lineFeed, List.length_cons, ih, List.count_cons_self]
      · rw [linesFrom_other feed, ih, List.count_cons_of_ne feed]

/-- A text of whole lines: it is empty or ends with a line feed. -/
def Whole (text : List Char) : Prop :=
  text = [] ∨ ∃ front, text = front ++ ['\n']

theorem Whole.lines_append {first : List Char} (whole : Whole first) (second : List Char) :
    lines (first ++ second) = lines first ++ lines second := by
  unfold lines
  rcases whole with rfl | ⟨front, rfl⟩
  · rfl
  · rw [List.append_assoc, List.singleton_append, linesFrom_append]

theorem Whole.length_lines {text : List Char} (whole : Whole text) :
    (lines text).length = text.count '\n' := by
  unfold lines
  rcases whole with rfl | ⟨front, rfl⟩
  · rfl
  · rw [length_linesFrom, List.count_append]
    rfl

theorem mem_of_mem_stripReturn {line : List Char} {c : Char} (member : c ∈ stripReturn line) :
    c ∈ line := by
  unfold stripReturn at member
  split at member
  · exact (List.dropLast_sublist line).subset member
  · exact member

private theorem not_mem_of_mem_linesFrom {current text line : List Char}
    (single : '\n' ∉ current) (member : line ∈ linesFrom current text) : '\n' ∉ line := by
  induction text generalizing current with
  | nil =>
      cases current with
      | nil => cases member
      | cons c current =>
          rw [linesFrom, List.mem_singleton] at member
          rw [member, List.mem_reverse]
          exact single
          exact List.cons_ne_nil c current
  | cons c text ih =>
      by_cases feed : c = '\n'
      · subst feed
        rw [linesFrom_lineFeed] at member
        rcases List.mem_cons.mp member with rfl | later
        · intro inside
          exact single (List.mem_reverse.mp (mem_of_mem_stripReturn inside))
        · exact ih List.not_mem_nil later
      · rw [linesFrom_other feed] at member
        refine ih ?_ member
        rw [List.mem_cons, not_or]
        exact ⟨Ne.symm feed, single⟩

theorem not_mem_of_mem_lines {text line : List Char} (member : line ∈ lines text) : '\n' ∉ line :=
  not_mem_of_mem_linesFrom List.not_mem_nil member

end Text

/-! ## Bytes

The first byte of a sequence tells how many bytes follow it and bounds the
second one; each later byte holds six bits of the code. So the characters of a
text are read back from its bytes, and nothing stray stands between them. -/

namespace Text.Utf8

theorem toNat_byte {n : Nat} (small : n < 256) : (UInt8.ofNat n).toNat = n :=
  UInt8.toNat_ofNat_of_lt' small

theorem follow_later {bits : Nat} (few : bits < 64) (count code used : Nat) (rest : List UInt8) :
    follow (count + 1) code used (UInt8.ofNat (bits + 128) :: rest) =
      follow count (code * 64 + bits) (used + 1) rest := by
  have own : (bits + 128) % 64 = bits := by omega
  rw [follow, toNat_byte (by omega), if_pos (by omega), own]

/-- A sequence is read whole when its second byte is within the bounds that its
first byte sets and the bytes behind these two are of the sequence. -/
theorem pieceAt_sequence {first bits later low high code used : Nat} (rest : List UInt8)
    (byte : first < 256) (long : 128 ≤ first) (lead : lead? first = some (later, low, high))
    (few : bits < 64) (bounds : low ≤ bits + 128 ∧ bits + 128 ≤ high)
    (followed : follow later (leadBits later first * 64 + bits) 1 rest = (some code, used)) :
    pieceAt (UInt8.ofNat first) (UInt8.ofNat (bits + 128) :: rest) =
      (.char (Char.ofNat code), used) := by
  have own : (bits + 128) % 64 = bits := by omega
  unfold pieceAt
  rw [toNat_byte byte, if_neg (by omega), lead]
  dsimp only
  rw [toNat_byte (by omega), if_pos bounds, own, followed]

/-- The bounds of the second byte leave out the codes of shorter sequences and the
surrogates, and no character has one of these codes there. -/
theorem exists_lead_of_three {code : Nat} (valid : code.isValidChar) (long : 2047 < code)
    (short : code ≤ 65535) :
    ∃ low high, lead? (code / 4096 % 16 + 224) = some (1, low, high) ∧
      low ≤ code / 64 % 64 + 128 ∧ code / 64 % 64 + 128 ≤ high := by
  unfold Nat.isValidChar at valid
  unfold lead?
  split_ifs
  all_goals first
    | exact ⟨_, _, rfl, by omega, by omega⟩
    | omega

theorem exists_lead_of_four {code : Nat} (valid : code.isValidChar) (long : 65535 < code) :
    ∃ low high, lead? (code / 262144 % 8 + 240) = some (2, low, high) ∧
      low ≤ code / 4096 % 64 + 128 ∧ code / 4096 % 64 + 128 ≤ high := by
  unfold Nat.isValidChar at valid
  unfold lead?
  split_ifs
  all_goals first
    | exact ⟨_, _, rfl, by omega, by omega⟩
    | omega

theorem pieceAt_two {code : Nat} (long : 127 < code) (short : code ≤ 2047) (rest : List UInt8) :
    pieceAt (UInt8.ofNat (code / 64 % 32 + 192)) (UInt8.ofNat (code % 64 + 128) :: rest) =
      (.char (Char.ofNat code), 1) := by
  have lead : lead? (code / 64 % 32 + 192) = some (0, 0x80, 0xBF) := by
    unfold lead?
    rw [if_pos (by omega)]
  have all : leadBits 0 (code / 64 % 32 + 192) * 64 + code % 64 = code := by
    unfold leadBits
    rw [if_pos rfl]
    omega
  exact pieceAt_sequence rest (by omega) (by omega) lead (Nat.mod_lt code (by decide)) (by omega)
    (by rw [all, follow])

theorem pieceAt_three {code : Nat} (valid : code.isValidChar) (long : 2047 < code)
    (short : code ≤ 65535) (rest : List UInt8) :
    pieceAt (UInt8.ofNat (code / 4096 % 16 + 224))
        (UInt8.ofNat (code / 64 % 64 + 128) :: UInt8.ofNat (code % 64 + 128) :: rest) =
      (.char (Char.ofNat code), 2) := by
  obtain ⟨low, high, lead, bounds⟩ := exists_lead_of_three valid long short
  have all : (leadBits 1 (code / 4096 % 16 + 224) * 64 + code / 64 % 64) * 64 + code % 64 =
      code := by
    rw [leadBits, if_neg (by decide), if_pos rfl]
    omega
  exact pieceAt_sequence _ (by omega) (by omega) lead (Nat.mod_lt _ (by decide)) bounds
    (by rw [follow_later (Nat.mod_lt code (by decide)), all, follow])

theorem pieceAt_four {code : Nat} (valid : code.isValidChar) (long : 65535 < code)
    (rest : List UInt8) :
    pieceAt (UInt8.ofNat (code / 262144 % 8 + 240)) (UInt8.ofNat (code / 4096 % 64 + 128) ::
        UInt8.ofNat (code / 64 % 64 + 128) :: UInt8.ofNat (code % 64 + 128) :: rest) =
      (.char (Char.ofNat code), 3) := by
  obtain ⟨low, high, lead, bounds⟩ := exists_lead_of_four valid long
  have all : ((leadBits 2 (code / 262144 % 8 + 240) * 64 + code / 4096 % 64) * 64 +
      code / 64 % 64) * 64 + code % 64 = code := by
    rw [leadBits, if_neg (by decide), if_neg (by decide)]
    omega
  exact pieceAt_sequence _ (by omega) (by omega) lead (Nat.mod_lt _ (by decide)) bounds
    (by rw [follow_later (Nat.mod_lt _ (by decide)), follow_later (Nat.mod_lt code (by decide)),
      all, follow])

theorem pieceAt_encodeChar (c : Char) (rest : List UInt8) :
    ∃ first later, String.utf8EncodeChar c = first :: later ∧
      pieceAt first (later ++ rest) = (.char c, later.length) := by
  have valid : c.val.toNat.isValidChar := c.valid
  have own : Char.ofNat c.val.toNat = c := Char.ofNat_toNat c
  unfold String.utf8EncodeChar
  generalize c.val.toNat = code at valid own
  subst own
  dsimp only
  split
  · refine ⟨_, _, rfl, ?_⟩
    unfold pieceAt
    rw [toNat_byte (by omega), if_pos (by omega)]
    rfl
  split
  · exact ⟨_, _, rfl, pieceAt_two (by omega) (by omega) rest⟩
  split
  · exact ⟨_, _, rfl, pieceAt_three valid (by omega) (by omega) rest⟩
  · exact ⟨_, _, rfl, pieceAt_four valid (by omega) rest⟩

theorem decodeFrom_length (bytes rest : List UInt8) :
    decodeFrom bytes.length (bytes ++ rest) = decodeFrom 0 rest := by
  induction bytes with
  | nil => rfl
  | cons byte bytes ih => exact ih

theorem decode_encode (text : List Char) : decode (encode text) = text.map .char := by
  unfold decode encode
  induction text with
  | nil => rfl
  | cons c text ih =>
      obtain ⟨first, later, encoded, piece⟩ :=
        pieceAt_encodeChar c (text.flatMap String.utf8EncodeChar)
      rw [List.flatMap_cons, encoded, List.cons_append, decodeFrom, piece]
      dsimp only
      rw [decodeFrom_length, ih, List.map_cons]

end Text.Utf8

end Passbook
