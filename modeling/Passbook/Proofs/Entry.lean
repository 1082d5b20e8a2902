/-
Entries and their values. Equality by value is an equivalence and keeps texts apart
that differ; entries of one kind are totally ordered, and the order calls two of
them equal exactly when they have one value. Printed days are read back.
-/

import Passbook.Entry
import Passbook.Proofs.Decimal
import Passbook.Proofs.Store
import Passbook.Proofs.Store.Correction
import Passbook.Proofs.Text
import Passbook.Rule.Evaluation

namespace Passbook

/-! ## Equal values

Equality of entries by value. It is an equivalence, it keeps texts apart that
differ, and amounts that are equal by it weigh the same at any number of places
that holds both. -/

namespace Entry

theorem sameValue_refl (entry : Entry) : entry.sameValue entry = true := by
  cases entry with
  | date value => exact beq_self_eq_true value
  | text value => exact beq_self_eq_true value
  | dollars value => exact Decimal.sameValue_refl value.amount

theorem sameValue_symm {a b : Entry} (same : a.sameValue b = true) : b.sameValue a = true := by
  cases a <;> cases b <;> try cases same
  case date.date first second =>
    rw [eq_of_beq same]
    exact sameValue_refl _
  case text.text first second =>
    rw [eq_of_beq same]
    exact sameValue_refl _
  case dollars.dollars first second => exact Decimal.sameValue_symm same

theorem sameValue_comm (a b : Entry) : a.sameValue b = b.sameValue a :=
  Bool.eq_iff_iff.mpr ⟨sameValue_symm, sameValue_symm⟩

theorem sameValue_trans {a b c : Entry} (first : a.sameValue b = true)
    (second : b.sameValue c = true) : a.sameValue c = true := by
  cases a <;> cases b <;> (try cases first) <;> cases c <;> try cases second
  case date.date.date =>
    rw [eq_of_beq first]
    exact second
  case text.text.text =>
    rw [eq_of_beq first]
    exact second
  case dollars.dollars.dollars => exact Decimal.sameValue_trans first second

theorem text?_eq_of_sameValue {a b : Entry} (same : a.sameValue b = true) : a.text? = b.text? := by
  cases a <;> cases b <;> try cases same
  case text.text first second => rw [eq_of_beq same]
  all_goals rfl

end Entry

/-! ## Printed days

The text of a day. Its three numerals hold no stroke and no blank, so the text
is cut between them and each is read as the number it was printed from, a year
before the year zero after its sign. -/

namespace Date

theorem mem_yearChars {year : Int32} {c : Char} (member : c ∈ yearChars year) :
    c.isDigit = true ∨ c = '-' := by
  unfold yearChars at member
  dsimp only at member
  split at member
  · rcases List.mem_cons.mp member with sign | digit
    · exact Or.inr sign
    · exact Or.inl (Text.isDigit_of_mem_padZeros digit)
  · exact Or.inl (Text.isDigit_of_mem_padZeros member)

theorem mem_chars {date : Date} {c : Char} (member : c ∈ date.chars) :
    c.isDigit = true ∨ c = '-' ∨ c = '/' := by
  unfold chars partChars at member
  simp only [List.mem_append, List.mem_cons] at member
  rcases member with year | stroke | month | stroke | day
  · exact (mem_yearChars year).imp_right Or.inl
  · exact Or.inr (Or.inr stroke)
  · exact Or.inl (Text.isDigit_of_mem_padZeros month)
  · exact Or.inr (Or.inr stroke)
  · exact Or.inl (Text.isDigit_of_mem_padZeros day)

theorem stroke_not_mem_padZeros {width n : Nat} : '/' ∉ Text.padZeros width (Text.digits n) := by
  intro member
  exact absurd (Text.isDigit_of_mem_padZeros member) (by decide)

theorem stroke_not_mem_yearChars (year : Int32) : '/' ∉ yearChars year := by
  intro member
  exact absurd (mem_yearChars member) (by decide)

theorem trimBlanks_yearChars (year : Int32) :
    Text.trimBlanks (yearChars year) = yearChars year := by
  apply Text.trimBlanks_of_solid
  intro c member
  rcases mem_yearChars member with digit | rfl
  · exact Text.isBlank_of_isDigit digit
  · rfl

theorem integer?_yearChars (year : Int32) :
    Text.integer? (yearChars year) = some year.toInt := by
  unfold yearChars
  dsimp only
  split
  · rename_i negative
    rw [Text.integer?, Text.ofDigits?_padZeros, Option.map_some, Int.ofNat_eq_natCast,
      Int.ofNat_natAbs_of_nonpos (Int.le_of_lt negative), Int.neg_neg]
  · rename_i nonnegative
    rw [Text.integer?_of_digits Text.padZeros_ne_nil fun _ => Text.isDigit_of_mem_padZeros,
      Text.number_padZeros]
    exact congrArg some (Int.natAbs_of_nonneg (Int.not_lt.mp nonnegative))

theorem signedWord?_yearChars (year : Int32) :
    Text.signedWord? (yearChars year) = some year := by
  have fits : -2147483648 ≤ year.toInt ∧ year.toInt < 2147483648 :=
    ⟨year.le_toInt, year.toInt_lt⟩
  unfold Text.signedWord?
  rw [integer?_yearChars]
  dsimp only
  rw [if_pos fits, Int32.ofInt_toInt]

theorem ofChars?_chars (date : Date) : ofChars? date.chars = some date := by
  obtain ⟨year, month, day⟩ := date
  have cut : Text.split ['/'] (Date.chars ⟨year, month, day⟩) =
      [yearChars year, partChars month, partChars day] := by
    unfold chars partChars
    rw [Text.split_mark_append (stroke_not_mem_yearChars year),
      Text.split_mark_append stroke_not_mem_padZeros,
      Text.split_mark_of_not_mem stroke_not_mem_padZeros]
  unfold ofChars?
  rw [cut]
  dsimp only
  unfold ofPartChars? partChars
  rw [trimBlanks_yearChars, signedWord?_yearChars, Text.trimBlanks_padZeros, Text.word?_padZeros,
    Text.trimBlanks_padZeros, Text.word?_padZeros]

theorem toText_inj {first second : Date} (same : first.toText = second.toText) :
    first = second := by
  have chars : first.chars = second.chars := String.ofList_injective same
  have one := ofChars?_chars first
  rw [chars, ofChars?_chars] at one
  exact (Option.some.inj one).symm

end Date

/-! ## Order

Entries of one kind are totally ordered, entries of two kinds have no order, and
the order calls two entries equal exactly when they have one value. So it makes
no difference to a comparison, nor to a match clause, with how many places an
amount is written. -/

/-! ### Amounts and days -/

instance : Std.TransCmp Dollars.compare where
  eq_swap := by
    intro a b
    exact Std.OrientedCmp.eq_swap (α := Decimal)
  isLE_trans := by
    intro a b c first second
    unfold Dollars.compare at first second ⊢
    exact Std.TransCmp.isLE_trans first second

instance : Std.LawfulEqCmp Date.compare where
  compare_self := Std.ReflCmp.compare_self
  eq_of_compare := by
    intro a b same
    unfold Date.compare at same
    rw [Ordering.then_eq_eq, Ordering.then_eq_eq] at same
    obtain ⟨year, month, day⟩ := same
    cases a
    cases b
    rw [Date.mk.injEq]
    exact ⟨Std.LawfulEqOrd.eq_of_compare year, Std.LawfulEqOrd.eq_of_compare month,
      Std.LawfulEqOrd.eq_of_compare day⟩

namespace Entry

/-! ### Comparing entries -/

variable {a b c : Entry} {ordering : Ordering}

theorem tryCompare_eq_ok_iff : a.tryCompare b = .ok ordering ↔ a.compare? b = some ordering := by
  unfold tryCompare
  cases a.compare? b <;> simp

/-- Exactly the entries of one kind have an order. -/
theorem exists_tryCompare_iff : (∃ ordering, a.tryCompare b = .ok ordering) ↔ a.kind = b.kind := by
  constructor
  · rintro ⟨ordering, compared⟩
    rw [tryCompare_eq_ok_iff] at compared
    cases a <;> cases b <;> try cases compared
    all_goals rfl
  · intro same
    cases a <;> cases b <;> try cases same
    all_goals exact ⟨_, rfl⟩

theorem compare?_swap (a b : Entry) : a.compare? b = (b.compare? a).map Ordering.swap := by
  cases a <;> cases b
  case date.date first second => exact congrArg some Std.OrientedCmp.eq_swap
  case text.text first second => exact congrArg some Std.OrientedOrd.eq_swap
  case dollars.dollars first second => exact congrArg some Std.OrientedCmp.eq_swap
  all_goals rfl

/-- The order calls two entries equal exactly when they have one value. -/
theorem compare?_eq_iff_sameValue : a.compare? b = some .eq ↔ a.sameValue b = true := by
  cases a <;> cases b
  case date.date first second =>
    rw [compare?, sameValue, Option.some.injEq, Std.LawfulEqCmp.compare_eq_iff_eq, beq_iff_eq]
  case text.text first second =>
    rw [compare?, sameValue, Option.some.injEq, Std.LawfulEqOrd.compare_eq_iff_eq, beq_iff_eq]
  case dollars.dollars first second =>
    rw [compare?, sameValue, Option.some.injEq]
    exact (Decimal.sameValue_iff_compare_eq _ _).symm
  all_goals exact ⟨nofun, nofun⟩

theorem kind_eq_of_sameValue (same : a.sameValue b = true) : a.kind = b.kind :=
  exists_tryCompare_iff.mp ⟨_, tryCompare_eq_ok_iff.mpr (compare?_eq_iff_sameValue.mpr same)⟩

theorem compare?_congr_left (same : a.sameValue b = true) : a.compare? c = b.compare? c := by
  have equal := compare?_eq_iff_sameValue.mpr same
  cases a <;> cases b <;> try cases equal
  case date.date first second =>
    cases c
    case date third => exact congrArg some (Std.TransCmp.congr_left (Option.some.inj equal))
    all_goals rfl
  case text.text first second =>
    cases c
    case text third => exact congrArg some (Std.TransCmp.congr_left (Option.some.inj equal))
    all_goals rfl
  case dollars.dollars first second =>
    cases c
    case dollars third => exact congrArg some (Std.TransCmp.congr_left (Option.some.inj equal))
    all_goals rfl

theorem compare?_congr_right (same : b.sameValue c = true) : a.compare? b = a.compare? c := by
  rw [compare?_swap a b, compare?_swap a c, compare?_congr_left same]

theorem tryCompare_congr {other another : Entry} (first : a.sameValue other = true)
    (second : b.sameValue another = true) : a.tryCompare b = other.tryCompare another := by
  unfold tryCompare
  rw [compare?_congr_left first, compare?_congr_right second, kind_eq_of_sameValue first,
    kind_eq_of_sameValue second]

/-- An entry does not come after another one of its kind. -/
def NotAfter (a b : Entry) : Prop :=
  ∃ ordering, a.tryCompare b = .ok ordering ∧ ordering ≠ .gt

theorem notAfter_iff : a.NotAfter b ↔ ∃ ordering, a.compare? b = some ordering ∧
    ordering.isLE = true := by
  unfold NotAfter
  simp only [tryCompare_eq_ok_iff, Ordering.isLE_iff_ne_gt]

theorem NotAfter.trans (first : a.NotAfter b) (second : b.NotAfter c) : a.NotAfter c := by
  rw [notAfter_iff] at first second ⊢
  obtain ⟨one, before, oneLE⟩ := first
  obtain ⟨two, after, twoLE⟩ := second
  cases a <;> cases b <;> cases before <;> cases c <;> cases after
  case date.date.refl.date.refl => exact ⟨_, rfl, Std.TransCmp.isLE_trans oneLE twoLE⟩
  case text.text.refl.text.refl => exact ⟨_, rfl, Std.TransOrd.isLE_trans oneLE twoLE⟩
  case dollars.dollars.refl.dollars.refl => exact ⟨_, rfl, Std.TransCmp.isLE_trans oneLE twoLE⟩

theorem NotAfter.antisymm (first : a.NotAfter b) (second : b.NotAfter a) :
    a.sameValue b = true := by
  obtain ⟨one, before, notGreater⟩ := notAfter_iff.mp first
  obtain ⟨two, after, alsoNotGreater⟩ := notAfter_iff.mp second
  rw [compare?_swap, before, Option.map_some, Option.some.injEq] at after
  apply compare?_eq_iff_sameValue.mp
  rw [before]
  cases one <;> cases two <;> simp_all

theorem notAfter_total (same : a.kind = b.kind) : a.NotAfter b ∨ b.NotAfter a := by
  obtain ⟨ordering, compared⟩ := exists_tryCompare_iff.mpr same
  rw [tryCompare_eq_ok_iff] at compared
  simp only [notAfter_iff]
  rw [compare?_swap b a, compared]
  cases ordering with
  | lt => exact Or.inl ⟨_, rfl, rfl⟩
  | eq => exact Or.inl ⟨_, rfl, rfl⟩
  | gt => exact Or.inr ⟨_, rfl, rfl⟩

end Entry

/-! ### Match clauses -/

namespace CompiledCondition

def comparing (index : Nat) (literal : Entry) (comparison : Comparison) : CompiledCondition :=
  ⟨index, .compare comparison literal⟩

theorem holds_comparing {row : Row} {index : Nat} {entry literal : Entry} {ordering : Ordering}
    (cell : row.get? index = some entry) (compared : entry.tryCompare literal = .ok ordering)
    (comparison : Comparison) :
    (comparing index literal comparison).holds row = comparison.accepts ordering := by
  simp only [holds, comparing, cell, testHolds, compared]

/-- Of the comparisons that are strict or ask for equality exactly one holds, and the
others are the negations of the strict ones. -/
structure Decided (row : Row) (index : Nat) (literal : Entry) : Prop where
  one : ∃ comparison ∈ [Comparison.less, .equal, .greater],
    ∀ other ∈ [Comparison.less, .equal, .greater],
      (comparing index literal other).holds row = true ↔ other = comparison
  atMost : (comparing index literal .atMost).holds row =
    !(comparing index literal .greater).holds row
  atLeast : (comparing index literal .atLeast).holds row =
    !(comparing index literal .less).holds row

theorem decided_of_conforms {schema : Schema} {row : Row} {index : Nat} {name : String}
    {literal : Entry} (conforms : row.Conforms schema)
    (column : schema.HasColumn index name literal.kind) : Decided row index literal := by
  obtain ⟨entry, cell, kind⟩ := conforms.get? column
  obtain ⟨ordering, compared⟩ := Entry.exists_tryCompare_iff.mpr kind
  have holds := holds_comparing cell compared
  refine ⟨?_, ?_, ?_⟩
  · simp only [holds]
    cases ordering with
    | lt => exact ⟨.less, by decide, by decide⟩
    | eq => exact ⟨.equal, by decide, by decide⟩
    | gt => exact ⟨.greater, by decide, by decide⟩
  · rw [holds, holds]
    cases ordering <;> rfl
  · rw [holds, holds]
    cases ordering <;> rfl

end CompiledCondition

/-- Equality of entries by value is an equivalence, entries are ordered exactly
within their kinds and there totally, and both agree: the order calls entries
equal that have one value, and entries of one value stand in the same place. Of
the comparisons `<`, `==` and `>` of a column with a literal of its kind one holds. -/
theorem Entry.order_agrees :
    Equivalence (fun a b : Entry => a.sameValue b = true) ∧
    (∀ a b : Entry, (∃ ordering, a.tryCompare b = .ok ordering) ↔ a.kind = b.kind) ∧
    (∀ (a b : Entry) (ordering : Ordering),
      a.tryCompare b = .ok ordering → b.tryCompare a = .ok ordering.swap) ∧
    (∀ a b : Entry, a.tryCompare b = .ok .eq ↔ a.sameValue b = true) ∧
    (∀ a b : Entry, a.NotAfter b → b.NotAfter a → a.sameValue b = true) ∧
    (∀ a b c : Entry, a.NotAfter b → b.NotAfter c → a.NotAfter c) ∧
    (∀ a b : Entry, a.kind = b.kind → a.NotAfter b ∨ b.NotAfter a) ∧
    (∀ a b other another : Entry, a.sameValue other = true → b.sameValue another = true →
      a.tryCompare b = other.tryCompare another) ∧
    ∀ (schema : Schema) (row : Row) (index : Nat) (name : String) (literal : Entry),
      row.Conforms schema → schema.HasColumn index name literal.kind →
        CompiledCondition.Decided row index literal := by
  refine ⟨⟨sameValue_refl, sameValue_symm, sameValue_trans⟩, fun _ _ => exists_tryCompare_iff,
    ?_, ?_, fun _ _ => NotAfter.antisymm, fun _ _ _ => NotAfter.trans, fun _ _ => notAfter_total,
    fun _ _ _ _ => tryCompare_congr, fun _ _ _ _ _ => CompiledCondition.decided_of_conforms⟩
  · intro a b ordering compared
    rw [tryCompare_eq_ok_iff] at compared ⊢
    rw [compare?_swap, compared, Option.map_some]
  · intro a b
    rw [tryCompare_eq_ok_iff, compare?_eq_iff_sameValue]

def Entry.tenWithDime : Entry :=
  .dollars (.ofMagnitude ((Decimal.make? 100 1).getD .zero))

def Entry.tenWithCents : Entry :=
  .dollars (.ofMagnitude ((Decimal.make? 1000 2).getD .zero))

def Entry.centLess : Entry :=
  .dollars (.ofMagnitude ((Decimal.make? 999 2).getD .zero))

def Row.tenWithDime : Row :=
  ⟨[.text "Acme", .text "checking", .text "rent", .date ⟨2024, 1, 5⟩, .text "January",
    .tenWithDime]⟩

theorem Entry.order_agrees_ten :
    Entry.tenWithDime.sameValue .tenWithCents = true ∧ Entry.centLess.NotAfter .tenWithDime ∧
      Entry.tenWithDime.NotAfter .tenWithCents ∧ Entry.centLess.NotAfter .tenWithCents ∧
      Entry.tenWithDime.tryCompare .centLess = Entry.tenWithCents.tryCompare .centLess ∧
      Row.tenWithDime.Conforms .base ∧
      Schema.base.HasColumn 5 Schema.amount Entry.tenWithCents.kind ∧
      CompiledCondition.Decided .tenWithDime 5 .tenWithCents := by
  obtain ⟨_, _, _, equal, _, trans, _, congr, decided⟩ := Entry.order_agrees
  have same : Entry.tenWithDime.sameValue .tenWithCents = true :=
    (equal _ _).mp (by decide +kernel)
  have less : Entry.centLess.NotAfter .tenWithDime := ⟨.lt, by decide +kernel, by decide⟩
  have level : Entry.tenWithDime.NotAfter .tenWithCents := ⟨.eq, by decide +kernel, by decide⟩
  have conforms : Row.tenWithDime.Conforms .base := by decide
  have column : Schema.base.HasColumn 5 Schema.amount Entry.tenWithCents.kind := ⟨rfl, rfl⟩
  exact ⟨same, less, level, trans _ _ _ less level,
    congr _ _ _ _ same (sameValue_refl _), conforms, column,
    decided _ _ _ _ _ conforms column⟩

end Passbook
