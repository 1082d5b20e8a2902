/-
The texts of days and amounts. Both are read back from their text, a day with the
sign of its year and an amount with its places. A day of four, two and two digits
and an amount of no place or of two are literals of the rule language as well, so
that a match clause can be written with what is displayed.
-/

import Passbook.Proofs.Decimal
import Passbook.Proofs.Entry
import Passbook.Proofs.Render
import Passbook.Proofs.Rule.Line

namespace Passbook

/-! ### Reading back -/

theorem Date.ofText_toText (date : Date) : ofText date.toText = .ok date := by
  rw [ofText, toText, String.toList_ofList, ofChars?_chars]

namespace Dollars

theorem numeral_chars (amount : Dollars) : numeral amount.chars = amount.amount.chars := by
  have solid : ∀ c ∈ amount.chars, Text.isBlank c = false := by
    refine List.forall_mem_cons.mpr ⟨rfl, ?_⟩
    intro c member
    rcases amount.amount.mem_chars member with digit | rfl | rfl
    · exact Text.isBlank_of_isDigit digit
    · rfl
    · rfl
  unfold numeral
  rw [Text.trimBlanks_of_solid solid, chars, List.dropWhile_cons_of_pos rfl]
  cases text : amount.amount.chars with
  | nil => rfl
  | cons c rest =>
      rw [List.dropWhile_cons_of_neg]
      rw [beq_iff_eq]
      rintro rfl
      exact absurd (amount.amount.mem_chars (text ▸ List.mem_cons_self)) (by decide)

/-- An amount is read back with its places; a zero loses its minus sign. -/
theorem ofText_toText (amount : Dollars) :
    ∃ read, ofText amount.toText = .ok read ∧
      read.amount.coefficient = amount.amount.coefficient ∧
      read.amount.scale = amount.amount.scale ∧ read.amount.minusZero = false := by
  obtain ⟨read, taken, coefficient, scale, unsigned⟩ := amount.amount.ofChars_chars
  have nonnegative : 0 ≤ read.coefficient := coefficient ▸ amount.nonnegative
  refine ⟨⟨read, nonnegative⟩, ?_, coefficient, scale, unsigned⟩
  rw [ofText, toText, String.toList_ofList, numeral_chars, taken]
  exact dif_pos nonnegative

end Dollars

/-! ### Literals -/

section Digits

variable {width n : Nat}

theorem Text.digits_padZeros (positive : 0 < width) (short : n < 10 ^ width) :
    Spelling.Digits width (padZeros width (digits n)) := by
  have few : (digits n).length ≤ width :=
    (Nat.length_toDigits_le_iff (by decide) positive).mpr short
  refine ⟨?_, fun _ => isDigit_of_mem_padZeros⟩
  simp only [padZeros, List.length_append, List.length_replicate]
  omega

end Digits

/-- A day of four, two and two digits. -/
def Date.HasLiteral (date : Date) : Prop :=
  0 ≤ date.year.toInt ∧ date.year.toInt ≤ 9999 ∧ date.month.toNat ≤ 99 ∧ date.day.toNat ≤ 99

theorem Date.HasLiteral.literal {date : Date} (hasLiteral : date.HasLiteral) :
    Spelling.Literal date.chars (.date date) := by
  obtain ⟨year, month, day⟩ := date
  obtain ⟨nonnegative, fourDigits, monthDigits, dayDigits⟩ := hasLiteral
  dsimp only at nonnegative fourDigits monthDigits dayDigits
  have ofYear : Spelling.Digits 4 (Text.padZeros 4 (Text.digits year.toInt.natAbs)) :=
    Text.digits_padZeros (by decide) (by omega)
  have ofMonth : Spelling.Digits 2 (Text.padZeros 2 (Text.digits month.toNat)) :=
    Text.digits_padZeros (by decide) (by omega)
  have ofDay : Spelling.Digits 2 (Text.padZeros 2 (Text.digits day.toNat)) :=
    Text.digits_padZeros (by decide) (by omega)
  have spelled := Spelling.Literal.date ofYear ofMonth ofDay
  rw [Text.number_padZeros, Text.number_padZeros, Text.number_padZeros,
    Int.natAbs_of_nonneg nonnegative, Int32.ofInt_toInt, UInt32.ofNat_toNat,
    UInt32.ofNat_toNat] at spelled
  have text : chars ⟨year, month, day⟩ = Text.padZeros 4 (Text.digits year.toInt.natAbs) ++
      '/' :: Text.padZeros 2 (Text.digits month.toNat) ++
      '/' :: Text.padZeros 2 (Text.digits day.toNat) := by
    unfold chars partChars yearChars
    dsimp only
    rw [if_neg (Int.not_lt.mpr nonnegative), List.append_assoc, List.cons_append]
  rw [text]
  exact spelled

/-- An amount of no place or of two, and not a zero with a minus sign. -/
def Dollars.HasLiteral (amount : Dollars) : Prop :=
  (amount.amount.scale = 0 ∨ amount.amount.scale = 2) ∧ amount.amount.minusZero = false

theorem Dollars.HasLiteral.literal {amount : Dollars} (hasLiteral : amount.HasLiteral) :
    Spelling.Literal amount.chars (.dollars amount) := by
  obtain ⟨amount, nonnegative⟩ := amount
  obtain ⟨scale, unsigned⟩ := hasLiteral
  dsimp only at scale unsigned
  have noMinus : amount.hasMinus = false := by
    simp [Decimal.hasMinus, unsigned, nonnegative]
  have text : amount.chars = amount.unsignedChars := by
    rw [Decimal.chars_eq, noMinus]
    rfl
  have ofNumeral : Spelling.Numeral amount.chars := by
    rw [text]
    refine ⟨_, _, rfl, amount.wholeDigits_ne_nil, fun _ => amount.isDigit_of_mem_wholeDigits, ?_⟩
    rcases scale with none | two
    · exact Or.inl (if_pos none)
    · refine Or.inr ⟨amount.placeDigits, ⟨?_, fun _ => amount.isDigit_of_mem_placeDigits⟩, ?_⟩
      · rw [amount.length_placeDigits, two]
      · exact if_neg (by omega)
  obtain ⟨read, taken, coefficient, readScale, readUnsigned⟩ := amount.ofChars_chars
  have same : read = amount :=
    Decimal.eq_of_parts coefficient readScale (readUnsigned.trans unsigned.symm)
  have accepted : Decimal.ofText (String.ofList amount.chars) = .ok amount := by
    rw [Decimal.ofText, String.toList_ofList, taken, same]
  have spelled := Spelling.Literal.dollars ofNumeral accepted
  have magnitude : Dollars.ofMagnitude amount = ⟨amount, nonnegative⟩ := by
    unfold Dollars.ofMagnitude
    congr 1
    exact Decimal.Unsigned.magnitude_eq ⟨nonnegative, unsigned⟩
  rw [magnitude] at spelled
  exact spelled

namespace Entry

def HasLiteral : Entry → Prop
  | .date value => value.HasLiteral
  | .text _ => False
  | .dollars value => value.HasLiteral

theorem HasLiteral.literal {entry : Entry} (hasLiteral : entry.HasLiteral) :
    Spelling.Literal entry.chars entry := by
  cases entry with
  | date value => exact Date.HasLiteral.literal hasLiteral
  | text value => exact hasLiteral.elim
  | dollars value => exact Dollars.HasLiteral.literal hasLiteral

theorem HasLiteral.lineFeed_not_mem {entry : Entry} (hasLiteral : entry.HasLiteral) :
    '\n' ∉ entry.chars := by
  cases entry with
  | date value => exact (Table.flat_date value).lineFeed_not_mem
  | text value => exact hasLiteral.elim
  | dollars value =>
      exact (Table.flat_cons (by decide) (Table.flat_decimal value.amount)).lineFeed_not_mem

theorem toList_toText (entry : Entry) : entry.toText.toList = entry.chars := by
  cases entry with
  | date value => exact String.toList_ofList
  | text value => rfl
  | dollars value => exact String.toList_ofList

end Entry

theorem Spelling.Name.lineFeed_not_mem {name : List Char} (isName : Name name) : '\n' ∉ name := by
  obtain ⟨first, others, rfl, letter, later⟩ := isName
  intro member
  rcases List.mem_cons.mp member with same | other
  · rw [← same] at letter
    exact absurd letter (by decide)
  · exact absurd (later _ other) (by decide)

/-- A day and an amount are read back from their text, the amount with its places.
Those that have a literal are read in a match clause as well: a column name, two
equals signs and the text are a rule of that one clause. -/
theorem Entry.texts_read_back :
    (∀ date : Date, Date.ofText date.toText = .ok date) ∧
    (∀ amount : Dollars, ∃ read, Dollars.ofText amount.toText = .ok read ∧
      read.amount.coefficient = amount.amount.coefficient ∧
      read.amount.scale = amount.amount.scale ∧ read.amount.minusZero = false) ∧
    ∀ (column : String) (entry : Entry) (number : Nat),
      Spelling.Name column.toList → entry.HasLiteral →
        Rule.ofLine (column ++ " == " ++ entry.toText).toList number =
          .ok ⟨number, [⟨column, .equal, entry, ⟨number, 1⟩⟩], []⟩ := by
  refine ⟨Date.ofText_toText, Dollars.ofText_toText, ?_⟩
  intro column entry number isName hasLiteral
  have space : Spelling.Spacing [' '] := List.forall_mem_singleton.mpr (Or.inl rfl)
  have sign : " == ".toList = [' '] ++ ['=', '='] ++ [' '] := rfl
  have text : (column ++ " == " ++ entry.toText).toList =
      column.toList ++ [' '] ++ ['=', '='] ++ [' '] ++ entry.chars := by
    rw [String.toList_append, String.toList_append, toList_toText, sign]
    simp only [List.append_assoc]
  have single : '\n' ∉ column.toList ++ [' '] ++ ['=', '='] ++ [' '] ++ entry.chars := by
    have inName := isName.lineFeed_not_mem
    have inText := hasLiteral.lineFeed_not_mem
    simp [inName, inText]
  have spells : Spelling.Spells (column.toList ++ [' '] ++ ['=', '='] ++ [' '] ++ entry.chars)
      ⟨column, some .equal, entry⟩ :=
    ⟨_, _, _, _, isName, space, space, hasLiteral.literal, String.ofList_toList.symm, rfl⟩
  have line : Spelling.Clauses 0 _ _ := .last Grammar.spacing_nil spells Grammar.spacing_nil
  rw [List.append_nil, List.nil_append] at line
  rw [text]
  exact Rule.ofLine_of_spells single line

def Entry.earlyDay : Entry :=
  .date ⟨987, 6, 5⟩

def Entry.noCents : Entry :=
  .dollars (.ofMagnitude ((Decimal.make? 0 2).getD .zero))

theorem Entry.texts_read_back_padded :
    Spelling.Name "paid_on".toList ∧ Entry.earlyDay.HasLiteral ∧ Entry.noCents.HasLiteral ∧
      Rule.ofLine "paid_on == 0987/06/05".toList 3 =
        .ok ⟨3, [⟨"paid_on", .equal, .earlyDay, ⟨3, 1⟩⟩], []⟩ ∧
      Rule.ofLine "paid_on == $0.00".toList 3 =
        .ok ⟨3, [⟨"paid_on", .equal, .noCents, ⟨3, 1⟩⟩], []⟩ := by
  have later : ("aid_on".toList.all Grammar.isNameLater) = true := by decide +kernel
  have isName : Spelling.Name "paid_on".toList :=
    ⟨'p', "aid_on".toList, rfl, by decide,
      fun c member => Grammar.isNameLater_iff.mp (List.all_eq_true.mp later c member)⟩
  have early : Entry.earlyDay.HasLiteral :=
    ⟨by decide, by decide, by decide, by decide⟩
  have nothing : Entry.noCents.HasLiteral :=
    ⟨Or.inr (by decide +kernel), by decide +kernel⟩
  have read := Entry.texts_read_back.2.2
  have earlyLine : ("paid_on" ++ " == " ++ Entry.earlyDay.toText) = "paid_on == 0987/06/05" := by
    decide +kernel
  have nothingLine : ("paid_on" ++ " == " ++ Entry.noCents.toText) = "paid_on == $0.00" := by
    decide +kernel
  exact ⟨isName, early, nothing, earlyLine ▸ read _ _ 3 isName early,
    nothingLine ▸ read _ _ 3 isName nothing⟩

end Passbook
