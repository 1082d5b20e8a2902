/-
The grammar reads what the rule language spells. For each construct there are
two facts: what it reads is spelled by the characters it took, and a spelling in
front of a suitable rest is read, leaving that rest. The second needs to know
what follows, since names, numerals and spacing are read as far as they go.

Literals and clauses are first taken as they are written; an amount can be
written that is too large for an entry.
-/

import Passbook.Proofs.Rule.Reading

namespace Passbook.Grammar

open Reading Spelling

variable {text rest : List Char}

/-! ### Names and operators -/

theorem isNameLater_iff {c : Char} :
    isNameLater c = true ↔ c.isAlpha = true ∨ c.isDigit = true ∨ c = '_' := by
  simp [isNameLater, or_assoc]

theorem of_read_columnName {name : List Char} (read : columnName.read text = some (name, rest)) :
    text = name ++ rest ∧ Name name := by
  obtain ⟨first, others, rfl, whole, starts, continues⟩ := of_read_word read
  exact ⟨whole, first, others, rfl, starts,
    fun c member => isNameLater_iff.mp (continues c member)⟩

theorem read_columnName {name : List Char} (isName : Name name)
    (ends : rest.takeWhile isNameLater = []) :
    columnName.read (name ++ rest) = some (name, rest) := by
  obtain ⟨first, others, rfl, starts, continues⟩ := isName
  exact read_word starts (fun c member => isNameLater_iff.mpr (continues c member)) ends

theorem of_read_symbolOf {comparison found : Comparison}
    (read : (symbolOf comparison).read text = some (found, rest)) :
    text = found.symbol.toList ++ rest := by
  obtain ⟨_, taken, rfl⟩ := read_map_iff.mp read
  exact read_token_iff.mp taken

theorem of_read_operator {found : Comparison} (read : operator.read text = some (found, rest)) :
    text = found.symbol.toList ++ rest := by
  simp only [operator, read_named, read_orElse_iff] at read
  rcases read with here | ⟨_, here | ⟨_, here | ⟨_, here | ⟨_, here | ⟨_, here⟩⟩⟩⟩⟩ <;>
    exact of_read_symbolOf here

/-- An operator is read whole: the shorter ones are tried after those that they
begin. -/
theorem read_operator (comparison : Comparison) (ends : ∀ more, rest ≠ '=' :: more) :
    operator.read (comparison.symbol.toList ++ rest) = some (comparison, rest) := by
  cases rest with
  | nil => cases comparison <;> rfl
  | cons c rest =>
      have other : ¬ '=' = c := fun same => ends rest (by rw [same])
      cases comparison <;>
        simp [operator, orElse, symbolOf, token, Reading.map, Comparison.symbol, named, other]

theorem read_operator_equals (ends : ∀ more, rest ≠ '=' :: more) :
    operator.read ('=' :: rest) = none := by
  cases rest with
  | nil => rfl
  | cons c rest =>
      have other : ¬ '=' = c := fun same => ends rest (by rw [same])
      simp [operator, orElse, symbolOf, token, Reading.map, Comparison.symbol, named, other]

/-! ### Literals -/

theorem read_date_iff {found : LiteralText} :
    date.read text = some (found, rest) ↔ ∃ year month day : List Char, Digits 4 year ∧
      Digits 2 month ∧ Digits 2 day ∧ found = .date year month day ∧
        text = year ++ '/' :: (month ++ '/' :: (day ++ rest)) := by
  simp only [date, read_named, read_andThen_iff, read_after_token_iff, year, month, day,
    read_sealed, read_exactly_iff]
  constructor
  · rintro ⟨year, _, parts, ⟨rfl, ofYear⟩, ⟨_, rfl, month, _, day, ⟨rfl, ofMonth⟩,
      ⟨_, rfl, rfl, ofDay⟩, rfl⟩, rfl⟩
    exact ⟨year, month, day, ofYear, ofMonth, ofDay, rfl, rfl⟩
  · rintro ⟨year, month, day, ofYear, ofMonth, ofDay, rfl, rfl⟩
    exact ⟨year, _, (month, day), ⟨rfl, ofYear⟩, ⟨_, rfl, month, _, day, ⟨rfl, ofMonth⟩,
      ⟨_, rfl, rfl, ofDay⟩, rfl⟩, rfl⟩

theorem read_cents_iff {found : List Char} :
    cents.read text = some (found, rest) ↔
      ∃ digits, Digits 2 digits ∧ found = '.' :: digits ∧ text = found ++ rest := by
  simp only [cents, read_after_token_iff, read_map_iff, read_exactly_iff]
  constructor
  · rintro ⟨_, rfl, digits, ⟨rfl, ofDigits⟩, rfl⟩
    exact ⟨digits, ofDigits, rfl, rfl⟩
  · rintro ⟨digits, ofDigits, rfl, rfl⟩
    exact ⟨digits ++ rest, rfl, digits, ⟨rfl, ofDigits⟩, rfl⟩

theorem of_read_amount {found : List Char} (read : amount.read text = some (found, rest)) :
    Numeral found ∧ text = found ++ rest := by
  simp only [amount, read_named, read_sealed, read_andThen_iff] at read
  obtain ⟨whole, middle, fraction, taken, later, rfl⟩ := read
  obtain ⟨first, others, rfl, rfl, starts, continues⟩ := of_read_word taken
  have digits : ∀ c ∈ first :: others, c.isDigit = true :=
    List.forall_mem_cons.mpr ⟨starts, continues⟩
  unfold Reading.optional at later
  rcases read_orElse_iff.mp later with found | ⟨_, nothing⟩
  · obtain ⟨cents, ofCents, rfl, rfl⟩ := read_cents_iff.mp found
    exact ⟨⟨_, _, rfl, List.cons_ne_nil _ _, digits, Or.inr ⟨cents, ofCents, rfl⟩⟩,
      by rw [List.append_assoc]⟩
  · cases nothing
    exact ⟨⟨_, [], rfl, List.cons_ne_nil _ _, digits, Or.inl rfl⟩, by rw [List.append_nil]⟩

def Ends (rest : List Char) : Prop :=
  ∀ c more, rest = c :: more → c = ' ' ∨ c = '\t' ∨ c = ','

theorem Ends.takeWhile_isDigit (ends : Ends rest) : rest.takeWhile Char.isDigit = [] := by
  cases rest with
  | nil => rfl
  | cons c rest => rcases ends c rest rfl with rfl | rfl | rfl <;> rfl

theorem Ends.read_cents (ends : Ends rest) : cents.read rest = none := by
  cases read : cents.read rest with
  | none => rfl
  | some taken =>
      obtain ⟨found, others⟩ := taken
      obtain ⟨_, _, rfl, whole⟩ := read_cents_iff.mp read
      rcases ends _ _ whole with impossible | impossible | impossible <;> cases impossible

theorem read_amount {numeral : List Char} (ofNumeral : Numeral numeral) (ends : Ends rest) :
    amount.read (numeral ++ rest) = some (numeral, rest) := by
  obtain ⟨whole, fraction, rfl, nonempty, digits, perhaps⟩ := ofNumeral
  obtain ⟨first, others, rfl⟩ := List.exists_cons_of_ne_nil nonempty
  obtain ⟨starts, continues⟩ := List.forall_mem_cons.mp digits
  simp only [amount, read_named, read_sealed, read_andThen_iff]
  refine ⟨first :: others, fraction ++ rest, fraction, ?_, ?_, rfl⟩
  · rw [List.append_assoc]
    apply read_word starts continues
    rcases perhaps with rfl | ⟨cents, _, rfl⟩
    · exact ends.takeWhile_isDigit
    · rfl
  · unfold Reading.optional
    rw [read_orElse_iff]
    rcases perhaps with rfl | ⟨digits, ofDigits, rfl⟩
    · exact Or.inr ⟨ends.read_cents, rfl⟩
    · exact Or.inl (read_cents_iff.mpr ⟨digits, ofDigits, rfl, rfl⟩)

theorem quotedRun_plain {quote c : Char} (noQuote : c ≠ quote) (noBackslash : c ≠ '\\')
    (text : List Char) :
    quotedRun quote (c :: text) =
      (c :: (quotedRun quote text).1, (quotedRun quote text).2) := by
  cases text with
  | nil => simp [quotedRun, noQuote, noBackslash]
  | cons d text => simp [quotedRun, noQuote, noBackslash]

theorem quotedRun_escaped (quote c : Char) (text : List Char) :
    quotedRun quote ('\\' :: c :: text) =
      ('\\' :: c :: (quotedRun quote text).1, (quotedRun quote text).2) :=
  rfl

theorem quotedRun_quote {quote : Char} (noBackslash : quote ≠ '\\') (text : List Char) :
    quotedRun quote (quote :: text) = ([], quote :: text) := by
  cases text with
  | nil => simp [quotedRun]
  | cons d text => simp [quotedRun, noBackslash]

theorem unescape_plain {c : Char} (noBackslash : c ≠ '\\') (text : List Char) :
    unescape (c :: text) = c :: unescape text := by
  cases text with
  | nil => simp [unescape, noBackslash]
  | cons d text => simp [unescape, noBackslash]

/-- A run is the inside of a quoted text, whatever it was taken from. -/
theorem inside_quotedRun (quote : Char) (text : List Char) :
    (∃ value, Inside quote (quotedRun quote text).1 value) ∧
      text = (quotedRun quote text).1 ++ (quotedRun quote text).2 := by
  fun_induction quotedRun quote text with
  | case1 => exact ⟨⟨_, .nothing⟩, rfl⟩
  | case2 c special => exact ⟨⟨_, .nothing⟩, rfl⟩
  | case3 c plain =>
      rw [not_or] at plain
      exact ⟨⟨_, .plain plain.1 plain.2 .nothing⟩, rfl⟩
  | case4 c rest inner others run ih =>
      obtain ⟨⟨value, means⟩, whole⟩ := ih
      rw [run] at means whole
      exact ⟨⟨_, .escaped means⟩, congrArg (fun later => '\\' :: c :: later) whole⟩
  | case5 c rest noBackslash =>
      exact ⟨⟨_, .nothing⟩, rfl⟩
  | case6 c d rest noBackslash noQuote inner others run ih =>
      obtain ⟨⟨value, means⟩, whole⟩ := ih
      rw [run] at means whole
      exact ⟨⟨_, .plain noQuote noBackslash means⟩, congrArg (List.cons c) whole⟩

theorem quotedRun_of_inside {quote : Char} (noBackslash : quote ≠ '\\')
    {inside value : List Char} (means : Inside quote inside value) (rest : List Char) :
    quotedRun quote (inside ++ quote :: rest) = (inside, quote :: rest) := by
  induction means with
  | nothing => exact quotedRun_quote noBackslash rest
  | plain other ordinary later ih => rw [List.cons_append, quotedRun_plain other ordinary, ih]
  | escaped later ih => rw [List.cons_append, List.cons_append, quotedRun_escaped, ih]

theorem unescape_of_inside {quote : Char} {inside value : List Char}
    (means : Inside quote inside value) : unescape inside = value := by
  induction means with
  | nothing => rfl
  | plain _ ordinary _ ih => rw [unescape_plain ordinary, ih]
  | escaped _ ih => exact congrArg (List.cons _) ih

theorem of_read_quotedBy {quote : Char} {construct : Construct} {inside : List Char}
    (read : (quotedBy quote construct).read text = some (inside, rest)) :
    Inside quote inside (unescape inside) ∧ text = quote :: inside ++ quote :: rest := by
  simp only [quotedBy, read_after_token_iff, read_before_token_iff, read_named, quotedInner,
    Option.some.injEq] at read
  obtain ⟨middle, rfl, run⟩ := read
  obtain ⟨⟨value, means⟩, whole⟩ := inside_quotedRun quote middle
  rw [run] at means whole
  rw [unescape_of_inside means]
  exact ⟨means, congrArg (List.cons quote) whole⟩

theorem read_quotedBy {quote : Char} (noBackslash : quote ≠ '\\') (construct : Construct)
    {inside value : List Char} (means : Inside quote inside value) (rest : List Char) :
    (quotedBy quote construct).read (quote :: inside ++ quote :: rest) = some (inside, rest) := by
  simp only [quotedBy, read_after_token_iff, read_before_token_iff, read_named, quotedInner,
    Option.some.injEq]
  exact ⟨_, rfl, quotedRun_of_inside noBackslash means rest⟩

theorem of_read_quoted {found : LiteralText} (read : quoted.read text = some (found, rest)) :
    ∃ quote inside, (quote = '"' ∨ quote = '\'') ∧ Inside quote inside (unescape inside) ∧
      found = .quoted inside ∧ text = quote :: inside ++ quote :: rest := by
  simp only [quoted, read_named, read_map_iff, read_orElse_iff] at read
  obtain ⟨inside, double | ⟨_, single⟩, rfl⟩ := read
  · obtain ⟨means, whole⟩ := of_read_quotedBy double
    exact ⟨_, inside, Or.inl rfl, means, rfl, whole⟩
  · obtain ⟨means, whole⟩ := of_read_quotedBy single
    exact ⟨_, inside, Or.inr rfl, means, rfl, whole⟩

theorem read_quoted {quote : Char} (mark : quote = '"' ∨ quote = '\'') {inside value : List Char}
    (means : Inside quote inside value) (rest : List Char) :
    quoted.read (quote :: inside ++ quote :: rest) = some (.quoted inside, rest) := by
  simp only [quoted, read_named, read_map_iff, read_orElse_iff]
  rcases mark with rfl | rfl
  · exact ⟨inside, Or.inl (read_quotedBy (by decide) _ means rest), rfl⟩
  · exact ⟨inside, Or.inr ⟨rfl, read_quotedBy (by decide) _ means rest⟩, rfl⟩

/-- The text of a literal, which need not be an entry. -/
inductive Written : List Char → LiteralText → Prop where
  | date {year month day : List Char} (ofYear : Digits 4 year) (ofMonth : Digits 2 month)
      (ofDay : Digits 2 day) :
      Written (year ++ '/' :: month ++ '/' :: day) (.date year month day)
  | dollars {numeral : List Char} (ofNumeral : Numeral numeral) :
      Written ('$' :: numeral) (.dollars numeral)
  | quoted {quote : Char} {inside value : List Char} (mark : quote = '"' ∨ quote = '\'')
      (means : Inside quote inside value) :
      Written (quote :: inside ++ [quote]) (.quoted inside)

theorem written_of_read {found : LiteralText} (read : literal.read text = some (found, rest)) :
    ∃ front, Written front found ∧ text = front ++ rest := by
  simp only [literal, read_orElse_iff] at read
  rcases read with isDate | ⟨_, isDollars | ⟨_, isQuoted⟩⟩
  · obtain ⟨year, month, day, ofYear, ofMonth, ofDay, rfl, rfl⟩ := read_date_iff.mp isDate
    exact ⟨_, .date ofYear ofMonth ofDay, by simp⟩
  · simp only [dollars, read_named, read_after_token_iff, read_map_iff] at isDollars
    obtain ⟨_, rfl, numeral, taken, rfl⟩ := isDollars
    obtain ⟨ofNumeral, rfl⟩ := of_read_amount taken
    exact ⟨_, .dollars ofNumeral, rfl⟩
  · obtain ⟨quote, inside, mark, means, rfl, rfl⟩ := of_read_quoted isQuoted
    exact ⟨_, .quoted mark means, by simp⟩

private theorem read_date_of_head {c : Char} (other : c.isDigit = false) (text : List Char) :
    date.read (c :: text) = none := by
  cases read : date.read (c :: text) with
  | none => rfl
  | some taken =>
      obtain ⟨found, others⟩ := taken
      obtain ⟨year, _, _, ofYear, _, _, _, whole⟩ := read_date_iff.mp read
      obtain ⟨first, later, rfl⟩ := List.exists_cons_of_length_eq_add_one ofYear.1
      rw [List.cons_append, List.cons.injEq] at whole
      have digit := ofYear.2 first List.mem_cons_self
      rw [← whole.1, other] at digit
      cases digit

theorem read_written {front : List Char} {found : LiteralText} (written : Written front found)
    (ends : Ends rest) : literal.read (front ++ rest) = some (found, rest) := by
  simp only [literal, read_orElse_iff]
  cases written with
  | date ofYear ofMonth ofDay =>
      refine Or.inl (read_date_iff.mpr ⟨_, _, _, ofYear, ofMonth, ofDay, rfl, ?_⟩)
      simp
  | dollars ofNumeral =>
      refine Or.inr ⟨read_date_of_head rfl _, Or.inl ?_⟩
      simp only [dollars, read_named, read_after_token_iff, read_map_iff]
      exact ⟨_, rfl, _, read_amount ofNumeral ends, rfl⟩
  | quoted mark means =>
      refine Or.inr ⟨?_, Or.inr ⟨?_, ?_⟩⟩
      · rcases mark with rfl | rfl <;> exact read_date_of_head rfl _
      · rcases mark with rfl | rfl <;> rfl
      · rw [List.append_assoc]
        exact read_quoted mark means rest

theorem Written.head {front : List Char} {found : LiteralText} (written : Written front found) :
    ∃ c others, front = c :: others ∧
      (c.isDigit = true ∨ c = '$' ∨ c = '"' ∨ c = '\'') := by
  cases written with
  | date ofYear _ _ =>
      obtain ⟨c, others, rfl⟩ := List.exists_cons_of_length_eq_add_one ofYear.1
      exact ⟨c, _, rfl, Or.inl (ofYear.2 c List.mem_cons_self)⟩
  | dollars _ => exact ⟨_, _, rfl, Or.inr (Or.inl rfl)⟩
  | quoted mark _ => exact ⟨_, _, rfl, Or.inr (Or.inr mark)⟩

/-! ### Literals and the entries that they write -/

theorem Numeral.plain {numeral : List Char} (ofNumeral : Numeral numeral) :
    ∀ c ∈ numeral, c.isDigit = true ∨ c = '.' := by
  obtain ⟨whole, fraction, rfl, _, digits, perhaps⟩ := ofNumeral
  intro c member
  rcases List.mem_append.mp member with inWhole | inFraction
  · exact Or.inl (digits c inWhole)
  · rcases perhaps with rfl | ⟨cents, ofCents, rfl⟩
    · cases inFraction
    · rcases List.mem_cons.mp inFraction with point | inCents
      · exact Or.inr point
      · exact Or.inl (ofCents.2 c inCents)

theorem entry_date {year month day : List Char} (ofYear : Digits 4 year) (ofMonth : Digits 2 month)
    (ofDay : Digits 2 day) :
    (LiteralText.date year month day).entry =
      .ok (.date ⟨Int32.ofInt (Text.number year), UInt32.ofNat (Text.number month),
        UInt32.ofNat (Text.number day)⟩) := by
  have digits : ∀ part ∈ [year, month, day], part ≠ [] ∧ part.length ≤ 9 ∧
      ∀ c ∈ part, c.isDigit = true := by
    have numeral {count : Nat} {part : List Char} (positive : 0 < count) (few : count ≤ 9)
        (ofPart : Digits count part) :
        part ≠ [] ∧ part.length ≤ 9 ∧ ∀ c ∈ part, c.isDigit = true := by
      obtain ⟨size, members⟩ := ofPart
      exact ⟨List.ne_nil_of_length_pos (by omega), by omega, members⟩
    simp only [List.forall_mem_cons]
    exact ⟨numeral (by decide) (by decide) ofYear, numeral (by decide) (by decide) ofMonth,
      numeral (by decide) (by decide) ofDay, fun _ absent => absurd absent List.not_mem_nil⟩
  unfold LiteralText.entry
  dsimp only
  rw [Date.ofParts_of_digits digits]
  rfl

/-- An amount is the entry of a numeral exactly when the numeral is a decimal. -/
theorem entry_dollars_iff {numeral : List Char} (ofNumeral : Numeral numeral) {value : Entry} :
    (LiteralText.dollars numeral).entry = .ok value ↔
      ∃ amount, Decimal.ofText (String.ofList numeral) = .ok amount ∧
        value = .dollars (.ofMagnitude amount) := by
  have plain := Numeral.plain ofNumeral
  have solid : ∀ c ∈ numeral, Text.isBlank c = false := by
    intro c member
    rcases plain c member with digit | rfl
    · exact Text.isBlank_of_isDigit digit
    · rfl
  have noMark : ∀ c ∈ numeral, Decimal.isExponentMark c = false := by
    intro c member
    rcases plain c member with digit | rfl
    · unfold Decimal.isExponentMark
      have range := Text.toNat_of_isDigit digit
      simp only [Bool.or_eq_false_iff, beq_eq_false_iff_ne, ne_eq]
      constructor <;> rintro rfl <;> revert range <;> decide
    · rfl
  obtain ⟨whole, fraction, rfl, nonempty, digits, _⟩ := ofNumeral
  obtain ⟨first, others, rfl⟩ := List.exists_cons_of_ne_nil nonempty
  have starts : first.isDigit = true := digits first List.mem_cons_self
  have own : Dollars.numeral (first :: others ++ fraction) = first :: others ++ fraction := by
    unfold Dollars.numeral
    rw [Text.trimBlanks_of_solid solid, List.cons_append, List.dropWhile_cons_of_neg]
    rw [beq_iff_eq]
    rintro rfl
    cases starts
  unfold LiteralText.entry Dollars.ofText Decimal.ofText
  simp only [String.toList_ofList, own]
  cases read : Decimal.ofChars (first :: others ++ fraction) with
  | error cause => simp [Except.map]
  | ok amount =>
      have unsigned : amount.Unsigned := Decimal.unsigned_of_ofChars starts noMark read
      simp [unsigned.ofDecimal_eq, Except.map, eq_comm]

theorem Written.literal {front : List Char} {found : LiteralText} {value : Entry}
    (written : Written front found) (entry : found.entry = .ok value) : Literal front value := by
  cases written with
  | date ofYear ofMonth ofDay =>
      rw [entry_date ofYear ofMonth ofDay] at entry
      cases entry
      exact .date ofYear ofMonth ofDay
  | dollars ofNumeral =>
      obtain ⟨amount, accepted, rfl⟩ := (entry_dollars_iff ofNumeral).mp entry
      exact .dollars ofNumeral accepted
  | quoted mark means =>
      cases entry
      rw [unescape_of_inside means]
      exact .quoted mark means

theorem Literal.written {front : List Char} {value : Entry} (spells : Literal front value) :
    ∃ found, Written front found ∧ found.entry = .ok value := by
  cases spells with
  | date ofYear ofMonth ofDay =>
      exact ⟨_, .date ofYear ofMonth ofDay, entry_date ofYear ofMonth ofDay⟩
  | dollars ofNumeral accepted =>
      exact ⟨_, .dollars ofNumeral, (entry_dollars_iff ofNumeral).mpr ⟨_, accepted, rfl⟩⟩
  | @quoted quote inside _ mark means =>
      refine ⟨.quoted inside, .quoted mark means, ?_⟩
      unfold LiteralText.entry
      dsimp only
      rw [unescape_of_inside means]

/-! ### Clauses -/

theorem isSpacing_iff {c : Char} : isSpacing c = true ↔ c = ' ' ∨ c = '\t' := by
  simp [isSpacing]

theorem spacing_iff : Spacing text ↔ ∀ c ∈ text, isSpacing c = true := by
  simp only [Spacing, isSpacing_iff]

theorem exists_spacing (text : List Char) :
    ∃ gap, Spacing gap ∧ text = gap ++ text.dropWhile isSpacing :=
  ⟨text.takeWhile isSpacing, spacing_iff.mpr (List.all_eq_true.mp List.all_takeWhile),
    List.takeWhile_append_dropWhile.symm⟩

theorem dropWhile_spacing {gap : List Char} (spacing : Spacing gap)
    (solid : rest.dropWhile isSpacing = rest) : (gap ++ rest).dropWhile isSpacing = rest := by
  rw [List.dropWhile_append_of_pos (spacing_iff.mp spacing), solid]

/-- Neither spacing nor an equals sign stands at the front of a literal. -/
theorem Written.solid {front : List Char} {found : LiteralText} (written : Written front found) :
    (front ++ rest).dropWhile isSpacing = front ++ rest ∧ ∀ more, front ++ rest ≠ '=' :: more := by
  obtain ⟨c, others, rfl, starts⟩ := written.head
  have noSpacing : isSpacing c = false := by
    rcases starts with digit | rfl | rfl | rfl
    · have range := Text.toNat_of_isDigit digit
      unfold isSpacing
      simp only [Bool.or_eq_false_iff, beq_eq_false_iff_ne, ne_eq]
      constructor <;> rintro rfl <;> revert range <;> decide
    all_goals rfl
  constructor
  · rw [List.cons_append, List.dropWhile_cons_of_neg]
    rw [noSpacing]
    decide
  · intro more same
    cases same
    rcases starts with digit | impossible | impossible | impossible <;> contradiction

theorem read_condition_iff {found : ClauseText} :
    condition.read text = some (found, rest) ↔
      ∃ name middle comparison others value,
        columnName.read text = some (name, middle) ∧
        operator.read (middle.dropWhile isSpacing) = some (comparison, others) ∧
        literal.read (others.dropWhile isSpacing) = some (value, rest) ∧
        found = ⟨(text.length, name), some comparison,
          ((others.dropWhile isSpacing).length, value)⟩ := by
  simp only [condition, read_named, read_andThen_iff, read_after_blanks, Prod.exists,
    read_marked_iff, Prod.mk.injEq]
  constructor
  · rintro ⟨_, name, middle, _, _, _, ⟨rfl, named⟩, ⟨comparison, others, _, value, operated,
      ⟨rfl, written⟩, same⟩, rfl⟩
    obtain ⟨rfl, rfl, rfl⟩ := same
    exact ⟨name, middle, _, others, _, named, operated, written, rfl⟩
  · rintro ⟨name, middle, comparison, others, value, named, operated, written, rfl⟩
    exact ⟨_, name, middle, comparison, _, value, ⟨rfl, named⟩, ⟨comparison, others, _, value,
      operated, ⟨rfl, written⟩, rfl, rfl, rfl⟩, rfl⟩

theorem read_assignment_iff {found : ClauseText} :
    assignment.read text = some (found, rest) ↔
      ∃ name middle others value,
        columnName.read text = some (name, middle) ∧
        middle.dropWhile isSpacing = '=' :: others ∧
        literal.read (others.dropWhile isSpacing) = some (value, rest) ∧
        found = ⟨(text.length, name), none, ((others.dropWhile isSpacing).length, value)⟩ := by
  simp only [assignment, read_named, read_andThen_iff, read_after_blanks, read_after_token_iff,
    Prod.exists, read_marked_iff, List.singleton_append]
  constructor
  · rintro ⟨_, name, middle, _, value, ⟨rfl, named⟩, ⟨others, equals, rfl, written⟩, rfl⟩
    exact ⟨name, middle, others, value, named, equals, written, rfl⟩
  · rintro ⟨name, middle, others, value, named, equals, written, rfl⟩
    exact ⟨_, name, middle, _, value, ⟨rfl, named⟩, ⟨others, equals, rfl, written⟩, rfl⟩

def Composed (text name : List Char) (comparison : Option Comparison) (found : LiteralText) :
    Prop :=
  ∃ first second front, Name name ∧ Spacing first ∧ Spacing second ∧ Written front found ∧
    text = name ++ first ++ sign comparison ++ second ++ front

private theorem composed_of_parts {name middle others : List Char}
    {comparison : Option Comparison} {value : LiteralText}
    (named : columnName.read text = some (name, middle))
    (signed : middle.dropWhile isSpacing = sign comparison ++ others)
    (read : literal.read (others.dropWhile isSpacing) = some (value, rest)) :
    ∃ front, Composed front name comparison value ∧ text = front ++ rest := by
  obtain ⟨rfl, isName⟩ := of_read_columnName named
  obtain ⟨first, ofFirst, toSign⟩ := exists_spacing middle
  obtain ⟨second, ofSecond, toLiteral⟩ := exists_spacing others
  obtain ⟨front, written, toRest⟩ := written_of_read read
  refine ⟨name ++ first ++ sign comparison ++ second ++ front,
    ⟨first, second, front, isName, ofFirst, ofSecond, written, rfl⟩, ?_⟩
  rw [toSign, signed, toLiteral, toRest]
  simp

theorem composed_of_read {found : ClauseText} (read : clause.read text = some (found, rest)) :
    found.column.1 = text.length ∧ ∃ front,
      Composed front found.column.2 found.comparison found.literal.2 ∧ text = front ++ rest := by
  rcases read_orElse_iff.mp read with isCondition | ⟨_, isAssignment⟩
  · obtain ⟨name, middle, operation, others, value, named, operated, written, rfl⟩ :=
      read_condition_iff.mp isCondition
    exact ⟨rfl, composed_of_parts named (of_read_operator operated) written⟩
  · obtain ⟨name, middle, others, value, named, equals, written, rfl⟩ :=
      read_assignment_iff.mp isAssignment
    exact ⟨rfl, composed_of_parts named equals written⟩

/-- Behind a column name stand spacing and a sign, where the name cannot go on. -/
private theorem read_name_of_composed {name gap : List Char} (isName : Name name)
    (ofGap : Spacing gap) (comparison : Option Comparison) (later : List Char) :
    columnName.read (name ++ (gap ++ (sign comparison ++ later))) =
        some (name, gap ++ (sign comparison ++ later)) ∧
      (gap ++ (sign comparison ++ later)).dropWhile isSpacing = sign comparison ++ later := by
  have signSolid : (sign comparison ++ later).dropWhile isSpacing = sign comparison ++ later ∧
      (sign comparison ++ later).takeWhile isNameLater = [] := by
    rcases comparison with _ | comparison
    · exact ⟨rfl, rfl⟩
    · cases comparison <;> exact ⟨rfl, rfl⟩
  refine ⟨read_columnName isName ?_, dropWhile_spacing ofGap signSolid.1⟩
  cases gap with
  | nil => exact signSolid.2
  | cons c gap => rcases ofGap c List.mem_cons_self with rfl | rfl <;> rfl

theorem read_composed {front name : List Char} {comparison : Option Comparison}
    {value : LiteralText} (composed : Composed front name comparison value) (ends : Ends rest) :
    ∃ found, clause.read (front ++ rest) = some (found, rest) ∧
      found.column = ((front ++ rest).length, name) ∧ found.comparison = comparison ∧
        found.literal.2 = value := by
  obtain ⟨first, second, literal, isName, ofFirst, ofSecond, written, rfl⟩ := composed
  have read := read_written written ends
  have starts : (literal ++ rest).dropWhile isSpacing = literal ++ rest ∧
      ∀ more, literal ++ rest ≠ '=' :: more := written.solid
  obtain ⟨solid, noEquals⟩ := starts
  have gapNoEquals : ∀ more, second ++ (literal ++ rest) ≠ '=' :: more := by
    cases second with
    | nil => exact noEquals
    | cons c second =>
        intro more same
        cases same
        rcases ofSecond '=' List.mem_cons_self with impossible | impossible <;> cases impossible
  obtain ⟨readName, toSign⟩ :=
    read_name_of_composed isName ofFirst comparison (second ++ (literal ++ rest))
  simp only [List.append_assoc]
  cases comparison with
  | some comparison =>
      have isCondition := read_condition_iff.mpr ⟨name, _, comparison, second ++ (literal ++ rest),
        value, readName, by rw [toSign]; exact read_operator comparison gapNoEquals,
        by rw [dropWhile_spacing ofSecond solid]; exact read, rfl⟩
      exact ⟨_, read_orElse_iff.mpr (Or.inl isCondition), rfl, rfl, rfl⟩
  | none =>
      have isAssignment := read_assignment_iff.mpr ⟨name, _, second ++ (literal ++ rest), value,
        readName, toSign, by rw [dropWhile_spacing ofSecond solid]; exact read, rfl⟩
      refine ⟨_, read_orElse_iff.mpr (Or.inr ⟨?_, isAssignment⟩), rfl, rfl, rfl⟩
      cases isCondition : condition.read
          (name ++ (first ++ (sign none ++ (second ++ (literal ++ rest))))) with
      | none => rfl
      | some taken =>
          obtain ⟨found, others⟩ := taken
          obtain ⟨_, _, _, _, _, again, operated, _, _⟩ := read_condition_iff.mp isCondition
          rw [readName] at again
          cases again
          rw [toSign] at operated
          have failed : operator.read (sign none ++ (second ++ (literal ++ rest))) = none :=
            read_operator_equals gapNoEquals
          rw [failed] at operated
          cases operated

/-- What the text of a clause says: the column, the operator and the entry. -/
structure Means (found : ClauseText) (clause : Clause) : Prop where
  column : clause.column = String.ofList found.column.2
  comparison : clause.comparison = found.comparison
  entry : found.literal.2.entry = .ok clause.value

theorem of_read_clause {found : ClauseText} {spelled : Clause}
    (read : clause.read text = some (found, rest)) (meaning : Means found spelled) :
    found.column.1 = text.length ∧ ∃ front, Spells front spelled ∧ text = front ++ rest := by
  obtain ⟨column, comparison, entry⟩ := meaning
  obtain ⟨left, front, composed, whole⟩ := composed_of_read read
  obtain ⟨first, second, literal, isName, ofFirst, ofSecond, written, same⟩ := composed
  rw [← comparison] at same
  exact ⟨left, front, ⟨_, first, second, literal, isName, ofFirst, ofSecond,
    written.literal entry, column, same⟩, whole⟩

theorem read_clause {front : List Char} {spelled : Clause} (spells : Spells front spelled)
    (ends : Ends rest) :
    ∃ found, clause.read (front ++ rest) = some (found, rest) ∧
      found.column.1 = (front ++ rest).length ∧ Means found spelled := by
  obtain ⟨name, first, second, literal, isName, ofFirst, ofSecond, spelling, column, same⟩ := spells
  obtain ⟨value, written, entry⟩ := Literal.written spelling
  obtain ⟨found, read, place, comparison, sameValue⟩ := read_composed
    ⟨first, second, literal, isName, ofFirst, ofSecond, written, same⟩ ends
  rw [← sameValue] at entry
  refine ⟨found, read, by rw [place], ?_, comparison.symm, entry⟩
  rw [column, place]

end Passbook.Grammar
