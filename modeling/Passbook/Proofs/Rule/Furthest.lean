/-
The place of an unreadable line that is reported. Reading keeps a record of the
furthest place where a construct failed, also in ways that it tried and gave up.
In front of each such place stand parts that were read in full, and they can be
continued to a rule. So no place behind a mistake is ever reported.
-/

import Passbook.Proofs.Rule.Line

namespace Passbook

theorem Attempts.left_fail (before after : Attempts) (construct : Construct) (left : Nat) :
    (before.fail after construct left).left = after.left ∨
      (before.fail after construct left).left = left := by
  unfold Attempts.fail
  split
  · exact Or.inl rfl
  split
  · exact Or.inr rfl
  split
  · exact Or.inr rfl
  · exact Or.inl rfl

namespace Reading

variable {α β γ : Type} {P : Nat → Prop} {text : List Char}

/-- Reading a text leaves the record at a place with the property, when it was at
one before. -/
def Keeps (P : Nat → Prop) (part : Reading α) (text : List Char) : Prop :=
  ∀ record : Attempts, P record.left → P (part.attempts text record).left

theorem keeps_named {construct : Construct} {part : Reading α} (inside : Keeps P part text)
    (here : part.read text = none → P text.length) : Keeps P (named construct part) text := by
  intro record kept
  have keptInside := inside record kept
  unfold named
  dsimp only
  split
  · exact keptInside
  · rename_i failed
    rcases record.left_fail (part.attempts text record) construct text.length with same | same
    · rw [same]
      exact keptInside
    · rw [same]
      exact here failed

theorem keeps_orElse {first second : Reading α} (ofFirst : Keeps P first text)
    (ofSecond : Keeps P second text) : Keeps P (orElse first second) text := by
  intro record kept
  unfold orElse
  dsimp only
  split
  · exact ofFirst record kept
  · exact ofSecond _ (ofFirst record kept)

theorem keeps_andThen {combine : α → β → γ} {first : Reading α} {second : Reading β}
    (ofFirst : Keeps P first text)
    (ofSecond : ∀ value rest, first.read text = some (value, rest) → Keeps P second rest) :
    Keeps P (andThen combine first second) text := by
  intro record kept
  unfold andThen
  dsimp only
  split
  · exact ofFirst record kept
  · rename_i value rest taken
    exact ofSecond value rest taken _ (ofFirst record kept)

theorem keeps_after_token {expected : List Char} {part : Reading α}
    (later : ∀ rest, text = expected ++ rest → Keeps P part rest) :
    Keeps P (after (token expected) part) text :=
  keeps_andThen (fun _ kept => kept) fun _ rest taken => later rest (read_token_iff.mp taken)

theorem keeps_after_blanks {part : Reading α} (later : Keeps P part (text.dropWhile isSpacing)) :
    Keeps P (after blanks part) text := by
  refine keeps_andThen (fun _ kept => kept) ?_
  intro _ rest taken
  cases taken
  exact later

/-- By induction on the rounds; what is open at the start of each of them says that
its part keeps the record. -/
theorem keeps_rounds {part : Reading α} {Open : List Char → Prop}
    (keeps : ∀ text, Open text → Keeps P part text)
    (step : ∀ text value rest, Open text → part.read text = some (value, rest) → Open rest)
    (starts : Open text) (fuel : Nat) :
    (∀ record : Attempts, P record.left → P (attemptMany part fuel text record).left) ∧
      Open (readMany part fuel text).2 := by
  induction fuel generalizing text with
  | zero => exact ⟨fun _ kept => kept, starts⟩
  | succ fuel ih =>
      unfold attemptMany readMany
      cases taken : part.read text with
      | none => exact ⟨keeps text starts, starts⟩
      | some result =>
          obtain ⟨value, rest⟩ := result
          obtain ⟨recorded, ends⟩ := ih (step text value rest starts taken)
          exact ⟨fun record kept => recorded _ (keeps text starts record kept), ends⟩

theorem keeps_many {part : Reading α} {Open : List Char → Prop}
    (keeps : ∀ text, Open text → Keeps P part text)
    (step : ∀ text value rest, Open text → part.read text = some (value, rest) → Open rest)
    (starts : Open text) :
    Keeps P (many part) text ∧
      ∀ values rest, (many part).read text = some (values, rest) → Open rest := by
  obtain ⟨recorded, ends⟩ := keeps_rounds keeps step starts (text.length + 1)
  refine ⟨recorded, ?_⟩
  intro values rest taken
  have last : (readMany part (text.length + 1) text).2 = rest :=
    congrArg Prod.snd (Option.some.inj taken)
  rw [last] at ends
  exact ends

end Reading

namespace Grammar

open Reading Spelling

variable {line front text rest : List Char}

/-- The front of a text that is a rule. -/
def Begins (front : List Char) : Prop :=
  ∃ more found, rule.read (front ++ more) = some (found, [])

theorem Begins.of_append {more : List Char} (begins : Begins (front ++ more)) : Begins front := by
  obtain ⟨others, found, read⟩ := begins
  rw [List.append_assoc] at read
  exact ⟨more ++ others, found, read⟩

/-- What stands in front of a place of a line begins a rule. -/
def Reached (line : List Char) (left : Nat) : Prop :=
  Begins (line.take (line.length - left))

theorem reached_iff (whole : line = front ++ text) : Reached line text.length ↔ Begins front := by
  unfold Reached
  rw [whole, List.length_append, Nat.add_sub_cancel, List.take_left]

theorem reached_behind {taken : List Char} (more : List Char) (whole : line = front ++ text)
    (split : text = taken ++ rest) (begins : Begins (front ++ (taken ++ more))) :
    Reached line rest.length := by
  rw [← List.append_assoc] at begins
  rw [split, ← List.append_assoc] at whole
  exact (reached_iff whole).mpr begins.of_append

/-! ### Texts that can be continued -/

/-- What may stand behind a clause: spacing, or commas and further clauses. -/
inductive Tail : List Char → Prop where
  | blank {gap : List Char} (ofGap : Spacing gap) : Tail gap
  | more {first second front rest name : List Char} {comparison : Option Comparison}
      {value : LiteralText} (ofFirst : Spacing first) (ofSecond : Spacing second)
      (composed : Composed front name comparison value) (later : Tail rest) :
      Tail (first ++ ',' :: (second ++ (front ++ rest)))

def TakesLiteral (front : List Char) : Prop :=
  ∀ written found, Written written found → Begins (front ++ written)

def TakesClause (front : List Char) : Prop :=
  ∀ written name comparison found, Composed written name comparison found →
    Begins (front ++ written)

def TakesTail (front : List Char) : Prop :=
  ∀ tail, Tail tail → Begins (front ++ tail)

theorem written_empty : Written ['"', '"'] (.quoted []) :=
  .quoted (Or.inl rfl) .nothing

/-- A name becomes a clause by an equals sign and a text of no characters. -/
theorem composed_empty {name gap : List Char} (isName : Name name) (ofGap : Spacing gap) :
    Composed (name ++ gap ++ ['='] ++ ['"', '"']) name none (.quoted []) :=
  ⟨gap, [], _, isName, ofGap, spacing_nil, written_empty, by rw [List.append_nil, sign]⟩

theorem name_letter : Name ['a'] :=
  ⟨'a', [], rfl, rfl, fun _ absent => absurd absent List.not_mem_nil⟩

theorem TakesLiteral.begins (takes : TakesLiteral front) : Begins front :=
  (takes _ _ written_empty).of_append

theorem TakesClause.begins (takes : TakesClause front) : Begins front :=
  (takes _ _ _ _ (composed_empty name_letter spacing_nil)).of_append

theorem TakesClause.takesLiteral {name first second : List Char} (takes : TakesClause front)
    (isName : Name name) (ofFirst : Spacing first) (comparison : Option Comparison)
    (ofSecond : Spacing second) :
    TakesLiteral (front ++ (name ++ first ++ sign comparison ++ second)) := by
  intro written found ofLiteral
  rw [List.append_assoc]
  exact takes _ _ _ _ ⟨first, second, written, isName, ofFirst, ofSecond, ofLiteral, rfl⟩

theorem TakesTail.takesClause {first second : List Char} (takes : TakesTail front)
    (ofFirst : Spacing first) (ofSecond : Spacing second) :
    TakesClause (front ++ (first ++ ',' :: second)) := by
  intro written name comparison found composed
  have begins := takes _ (.more ofFirst ofSecond composed (.blank spacing_nil))
  simp only [List.append_assoc, List.cons_append, List.append_nil] at begins ⊢
  exact begins

theorem TakesTail.further {first second written name : List Char}
    {comparison : Option Comparison} {found : LiteralText} (takes : TakesTail front)
    (ofFirst : Spacing first) (ofSecond : Spacing second)
    (composed : Composed written name comparison found) :
    TakesTail (front ++ (first ++ ',' :: (second ++ written))) := by
  intro tail ofTail
  have begins := takes _ (.more ofFirst ofSecond composed ofTail)
  simp only [List.append_assoc, List.cons_append] at begins ⊢
  exact begins

theorem Tail.ends (tail : Tail text) : Ends text := by
  cases tail with
  | blank ofGap => exact ends_of_spacing ofGap
  | more ofFirst _ _ _ => exact Ends.spacing ofFirst (ends_comma _)

theorem Tail.readMany (tail : Tail text) (fuel : Nat) (enough : text.length < fuel) :
    (readMany furtherClause fuel text).2.dropWhile isSpacing = [] := by
  induction tail generalizing fuel with
  | @blank gap ofGap =>
      obtain ⟨fuel, rfl⟩ : ∃ smaller, fuel = smaller + 1 := ⟨fuel - 1, by omega⟩
      have ended := dropWhile_of_spacing ofGap
      rw [readMany_succ_of_none (read_furtherClause_of_ended ended)]
      exact ended
  | @more first second front rest _ _ _ ofFirst ofSecond composed later ih =>
      obtain ⟨fuel, rfl⟩ : ∃ smaller, fuel = smaller + 1 := ⟨fuel - 1, by omega⟩
      obtain ⟨found, read, _⟩ := read_composed composed later.ends
      have further : furtherClause.read (first ++ ',' :: (second ++ (front ++ rest))) =
          some (found, rest) := by
        refine read_furtherClause_iff.mpr ⟨_, dropWhile_spacing ofFirst rfl, ?_⟩
        rw [dropWhile_spacing ofSecond composed.solid]
        exact read
      simp only [List.length_append, List.length_cons] at enough
      rw [readMany_succ_of_some further]
      exact ih fuel (by omega)

theorem takesTail_of_composed {gap written name : List Char} {comparison : Option Comparison}
    {value : LiteralText} (ofGap : Spacing gap)
    (composed : Composed written name comparison value) : TakesTail (gap ++ written) := by
  intro tail ofTail
  obtain ⟨head, read, _⟩ := read_composed composed ofTail.ends
  have first : clause.read ((gap ++ (written ++ tail)).dropWhile isSpacing) = some (head, tail) := by
    rw [dropWhile_spacing ofGap composed.solid]
    exact read
  have whole := read_rule_iff.mpr
    ⟨head, tail, _, _, first, rfl, ofTail.readMany _ (Nat.lt_succ_self _), rfl, rfl⟩
  rw [← List.append_assoc, ← List.append_nil (gap ++ written ++ tail)] at whole
  exact ⟨[], _, whole⟩

theorem takesClause_of_spacing {gap : List Char} (ofGap : Spacing gap) : TakesClause gap := by
  intro written name comparison found composed
  have begins := takesTail_of_composed ofGap composed [] (.blank spacing_nil)
  rw [List.append_nil] at begins
  exact begins

/-! ### Failures inside of a literal -/

theorem keeps_date (whole : line = front ++ text) (takes : TakesLiteral front) :
    Keeps (Reached line) date text := by
  have here : Reached line text.length := (reached_iff whole).mpr takes.begins
  have one : Digits 2 ['0', '1'] :=
    ⟨rfl, List.forall_mem_cons.mpr ⟨rfl, List.forall_mem_singleton.mpr rfl⟩⟩
  refine keeps_named (keeps_andThen (keeps_named (fun _ kept => kept) fun _ => here) ?_)
    fun _ => here
  intro year behindYear read
  obtain ⟨toSlash, ofYear⟩ := read_exactly_iff.mp read
  refine keeps_after_token fun atMonth slash => ?_
  have toMonth : text = (year ++ ['/']) ++ atMonth := by
    rw [toSlash, slash, List.append_assoc]
  refine keeps_andThen (keeps_named (fun _ kept => kept) fun _ => ?_) ?_
  · have begins := takes _ _ (.date ofYear one one)
    simp only [List.append_assoc, List.cons_append] at begins
    refine reached_behind ['0', '1', '/', '0', '1'] whole toMonth ?_
    rw [List.append_assoc]
    exact begins
  · intro month behindMonth read
    obtain ⟨toSlash, ofMonth⟩ := read_exactly_iff.mp read
    refine keeps_after_token fun atDay slash => keeps_named (fun _ kept => kept) fun _ => ?_
    have toDay : text = (year ++ ['/'] ++ month ++ ['/']) ++ atDay := by
      rw [toMonth, toSlash, slash]
      simp only [List.append_assoc]
    have begins := takes _ _ (.date ofYear ofMonth one)
    simp only [List.append_assoc, List.cons_append] at begins
    refine reached_behind ['0', '1'] whole toDay ?_
    simp only [List.append_assoc]
    exact begins

theorem keeps_dollars (whole : line = front ++ text) (takes : TakesLiteral front) :
    Keeps (Reached line) dollars text := by
  refine keeps_named (keeps_after_token fun atAmount dollar => ?_) fun _ =>
    (reached_iff whole).mpr takes.begins
  refine keeps_named (fun _ kept => kept) fun _ => ?_
  have one : Numeral ['1'] :=
    ⟨['1'], [], rfl, List.cons_ne_nil _ _, List.forall_mem_singleton.mpr rfl, Or.inl rfl⟩
  exact reached_behind ['1'] whole dollar (takes _ _ (.dollars one))

/-- The inside of a quoted text never fails, and a missing quote is not recorded. -/
theorem keeps_quotedBy {P : Nat → Prop} (quote : Char) (construct : Construct) :
    Keeps P (quotedBy quote construct) text := by
  refine keeps_after_token fun inside _ => ?_
  refine keeps_andThen (keeps_named (fun _ kept => kept) fun failed => nomatch failed) ?_
  exact fun _ _ _ _ kept => kept

theorem keeps_literal (whole : line = front ++ text) (takes : TakesLiteral front) :
    Keeps (Reached line) literal text :=
  keeps_orElse (keeps_date whole takes) <| keeps_orElse (keeps_dollars whole takes) <|
    keeps_named (keeps_orElse (keeps_quotedBy _ _) (keeps_quotedBy _ _)) fun _ =>
      (reached_iff whole).mpr takes.begins

/-! ### Failures inside of a clause -/

theorem keeps_operator {P : Nat → Prop} (here : P text.length) : Keeps P operator text := by
  have symbol (comparison : Comparison) : Keeps P (symbolOf comparison) text :=
    fun _ kept => kept
  exact keeps_named (keeps_orElse (symbol _) <| keeps_orElse (symbol _) <|
    keeps_orElse (symbol _) <| keeps_orElse (symbol _) <|
      keeps_orElse (symbol _) (symbol _)) fun _ => here

theorem keeps_literal_of_sign {name middle others : List Char} {comparison : Option Comparison}
    (whole : line = front ++ text) (takes : TakesClause front)
    (named : columnName.read text = some (name, middle))
    (signed : middle.dropWhile isSpacing = sign comparison ++ others) :
    Keeps (Reached line) (after blanks (marked literal)) others := by
  obtain ⟨rfl, isName⟩ := of_read_columnName named
  obtain ⟨first, ofFirst, toSign⟩ := exists_spacing middle
  obtain ⟨second, ofSecond, toLiteral⟩ := exists_spacing others
  have toHere : line = (front ++ (name ++ first ++ sign comparison ++ second)) ++
      others.dropWhile isSpacing := by
    rw [whole, toSign, signed]
    simp only [List.append_assoc]
    rw [← toLiteral]
  exact keeps_after_blanks
    (keeps_literal toHere (takes.takesLiteral isName ofFirst comparison ofSecond))

theorem keeps_condition (whole : line = front ++ text) (takes : TakesClause front) :
    Keeps (Reached line) condition text := by
  have here : Reached line text.length := (reached_iff whole).mpr takes.begins
  refine keeps_named (keeps_andThen (keeps_named (fun _ kept => kept) fun _ => here) ?_)
    fun _ => here
  rintro ⟨_, name⟩ middle marked
  obtain ⟨_, named⟩ := read_marked_iff.mp marked
  obtain ⟨toMiddle, isName⟩ := of_read_columnName named
  obtain ⟨gap, ofGap, toOperator⟩ := exists_spacing middle
  refine keeps_after_blanks (keeps_andThen (keeps_operator ?_) ?_)
  · have toHere : text = (name ++ gap) ++ middle.dropWhile isSpacing := by
      rw [toMiddle, List.append_assoc, ← toOperator]
    refine reached_behind (['='] ++ ['"', '"']) whole toHere ?_
    rw [← List.append_assoc (name ++ gap)]
    exact takes _ _ _ _ (composed_empty isName ofGap)
  · intro comparison others operated
    have signed : middle.dropWhile isSpacing = sign (some comparison) ++ others :=
      of_read_operator operated
    exact keeps_literal_of_sign whole takes named signed

theorem keeps_assignment (whole : line = front ++ text) (takes : TakesClause front) :
    Keeps (Reached line) assignment text := by
  have here : Reached line text.length := (reached_iff whole).mpr takes.begins
  refine keeps_named (keeps_andThen (keeps_named (fun _ kept => kept) fun _ => here) ?_)
    fun _ => here
  rintro ⟨_, name⟩ middle marked
  obtain ⟨_, named⟩ := read_marked_iff.mp marked
  refine keeps_after_blanks (keeps_after_token fun others equals => ?_)
  have signed : middle.dropWhile isSpacing = sign none ++ others := equals
  exact keeps_literal_of_sign whole takes named signed

theorem keeps_clause (whole : line = front ++ text) (takes : TakesClause front) :
    Keeps (Reached line) clause text :=
  keeps_orElse (keeps_condition whole takes) (keeps_assignment whole takes)

/-! ### Failures behind a clause -/

def BehindClause (line text : List Char) : Prop :=
  ∃ front, line = front ++ text ∧ TakesTail front

theorem BehindClause.further {found : ClauseText} (behind : BehindClause line text)
    (read : furtherClause.read text = some (found, rest)) : BehindClause line rest := by
  obtain ⟨front, whole, takes⟩ := behind
  obtain ⟨middle, comma, readClause⟩ := read_furtherClause_iff.mp read
  obtain ⟨first, ofFirst, toComma⟩ := exists_spacing text
  obtain ⟨second, ofSecond, toClause⟩ := exists_spacing middle
  obtain ⟨_, written, composed, toRest⟩ := composed_of_read readClause
  refine ⟨_, ?_, takes.further ofFirst ofSecond composed⟩
  rw [whole, toComma, comma, toClause, toRest]
  simp

theorem keeps_furtherClause (behind : BehindClause line text) :
    Keeps (Reached line) furtherClause text := by
  obtain ⟨front, whole, takes⟩ := behind
  obtain ⟨first, ofFirst, toComma⟩ := exists_spacing text
  refine keeps_after_blanks (keeps_after_token fun middle comma => ?_)
  obtain ⟨second, ofSecond, toClause⟩ := exists_spacing middle
  have toHere : line = (front ++ (first ++ ',' :: second)) ++ middle.dropWhile isSpacing := by
    rw [whole, toComma, comma]
    simp only [List.append_assoc, List.cons_append, List.nil_append]
    rw [← toClause]
  exact keeps_after_blanks (keeps_clause toHere (takes.takesClause ofFirst ofSecond))

theorem keeps_lineEnd (behind : BehindClause line text) :
    Keeps (Reached line) (after blanks lineEnd) text := by
  obtain ⟨front, whole, takes⟩ := behind
  obtain ⟨gap, ofGap, toEnd⟩ := exists_spacing text
  refine keeps_after_blanks (keeps_named (fun _ kept => kept) fun _ => ?_)
  refine reached_behind [] whole toEnd ?_
  rw [List.append_nil]
  exact takes gap (.blank ofGap)

theorem reached_start (line : List Char) : Reached line line.length := by
  have whole : line = [] ++ line := rfl
  exact (reached_iff whole).mpr (takesClause_of_spacing spacing_nil).begins

theorem keeps_rule (line : List Char) : Keeps (Reached line) rule line := by
  obtain ⟨gap, ofGap, toClause⟩ := exists_spacing line
  refine keeps_named (keeps_after_blanks ?_) fun _ => reached_start line
  refine keeps_andThen (keeps_clause toClause (takesClause_of_spacing ofGap)) ?_
  intro head middle read
  obtain ⟨_, written, composed, toMiddle⟩ := composed_of_read read
  have behind : BehindClause line middle := by
    refine ⟨gap ++ written, ?_, takesTail_of_composed ofGap composed⟩
    rw [List.append_assoc, ← toMiddle]
    exact toClause
  obtain ⟨keeps, ends⟩ := keeps_many (fun _ => keeps_furtherClause)
    (fun _ _ _ => BehindClause.further) behind
  exact keeps_andThen keeps fun _ _ taken => keeps_lineEnd (ends _ _ taken)

end Grammar

namespace Rule

open Grammar

variable {line : List Char} {number : Nat} {report : Misreading} {location : Location}

theorem ofClauses_ne_invalidInput (found : List ClauseText) :
    ofClauses line number found ≠ .error ⟨.invalidInput report, location⟩ := by
  induction found with
  | nil => exact fun made => nomatch made
  | cons first found ih =>
      unfold ofClauses
      intro made
      split at made
      · cases made
      · split at made
        · rename_i failed
          cases made
          exact ih failed
        · cases made

/-- An unreadable line is reported at a place in it or right behind it, and what
stands in front of that place can be continued to a rule. -/
theorem begins_of_invalidInput (single : '\n' ∉ line)
    (rejected : ofLine line number = .error ⟨.invalidInput report, location⟩) :
    location.line = number ∧ 1 ≤ location.column ∧ location.column ≤ line.length + 1 ∧
      ∃ more found,
        Grammar.rule.read (line.take (location.column - 1) ++ more) = some (found, []) := by
  unfold ofLine at rejected
  split at rejected
  · exact absurd rejected (ofClauses_ne_invalidInput _)
  · let record := Grammar.rule.attempts line (Attempts.start line)
    have reached : Reached line record.left :=
      keeps_rule line (Attempts.start line) (reached_start line)
    have located : location = locate line number record.left := by
      cases rejected
      rfl
    rw [located, locate_of_single single]
    dsimp only
    rw [Nat.add_sub_cancel]
    exact ⟨rfl, Nat.le_add_left _ _, Nat.succ_le_succ (Nat.sub_le _ _), reached⟩

/-- The month of the second clause is no number; the first clause is also tried
as a match clause, which fails further in front. -/
def brokenLine : List Char :=
  " first= \"B\" , date <2018/1x/31".toList

def brokenReport : Misreading :=
  ⟨1, 26, brokenLine, [.month]⟩

theorem begins_of_invalidInput_brokenLine :
    '\n' ∉ brokenLine ∧
      ofLine brokenLine 7 = .error ⟨.invalidInput brokenReport, ⟨7, 26⟩⟩ ∧
      ∃ more found, Grammar.rule.read (brokenLine.take 25 ++ more) = some (found, []) := by
  have single : '\n' ∉ brokenLine := by decide
  have rejected : ofLine brokenLine 7 = .error ⟨.invalidInput brokenReport, ⟨7, 26⟩⟩ := by
    decide +kernel
  obtain ⟨_, _, _, begins⟩ := begins_of_invalidInput single rejected
  dsimp only [Nat.reduceSub] at begins
  exact ⟨single, rejected, begins⟩

end Rule

end Passbook
