/-
Rule lines. A line without a line feed is read as a rule exactly when it spells
clauses, and the rule is what these clauses mean. Reading tells where a clause
stands by how much of the line is left there; in a spelled line its place is how
much stands in front of it, so that the two add up to the line.
-/

import Passbook.Proofs.Rule.Recognition

namespace Passbook

namespace Grammar

open Reading Spelling

variable {text rest : List Char}

theorem read_furtherClause_iff {found : ClauseText} :
    furtherClause.read text = some (found, rest) ↔
      ∃ middle, text.dropWhile isSpacing = ',' :: middle ∧
        clause.read (middle.dropWhile isSpacing) = some (found, rest) := by
  simp only [furtherClause, read_after_blanks, read_after_token_iff, List.singleton_append]

theorem read_furtherClause_of_ended (ended : text.dropWhile isSpacing = []) :
    furtherClause.read text = none := by
  cases further : furtherClause.read text with
  | none => rfl
  | some taken =>
      obtain ⟨found, rest⟩ := taken
      obtain ⟨behind, comma, _⟩ := read_furtherClause_iff.mp further
      rw [ended] at comma
      cases comma

theorem read_rule_iff {found : List ClauseText} :
    rule.read text = some (found, rest) ↔
      ∃ head middle others last, clause.read (text.dropWhile isSpacing) = some (head, middle) ∧
        readMany furtherClause (middle.length + 1) middle = (others, last) ∧
        last.dropWhile isSpacing = [] ∧ rest = [] ∧ found = head :: others := by
  simp only [rule, read_named, read_after_blanks, read_andThen_iff, read_before_iff, lineEnd, many,
    read_atEnd_iff, Option.some.injEq]
  constructor
  · rintro ⟨head, middle, others, first, ⟨last, _, later, ended, rfl⟩, rfl⟩
    exact ⟨head, middle, others, last, first, later, ended, rfl, rfl⟩
  · rintro ⟨head, middle, others, last, first, later, ended, rfl, rfl⟩
    exact ⟨head, middle, others, first, ⟨last, (), later, ended, rfl⟩, rfl⟩

theorem readMany_succ_of_none {α : Type} {part : Reading α} (stops : part.read text = none)
    (fuel : Nat) : readMany part (fuel + 1) text = ([], text) := by
  unfold readMany
  rw [stops]

theorem readMany_succ_of_some {α : Type} {part : Reading α} {value : α}
    (taken : part.read text = some (value, rest)) (fuel : Nat) :
    readMany part (fuel + 1) text =
      (value :: (readMany part fuel rest).1, (readMany part fuel rest).2) := by
  conv => lhs; unfold readMany
  rw [taken]

/-- A clause that was read is one that is spelled, at its place in a text of so
many characters. -/
def Placed (total : Nat) (found : ClauseText) (placed : Nat × Clause) : Prop :=
  placed.1 = total - found.column.1 ∧ Means found placed.2

theorem clauses_of_read {head : ClauseText} {middle lead : List Char} {before : Nat}
    {placed : List (Nat × Clause)} (spacing : Spacing lead)
    (read : clause.read text = some (head, middle)) (ended : middle.dropWhile isSpacing = [])
    (means : List.Forall₂ (Placed (before + (lead ++ text).length)) [head] placed) :
    Clauses before (lead ++ text) placed := by
  obtain ⟨gap, ofGap, whole⟩ := exists_spacing middle
  rw [ended, List.append_nil] at whole
  subst whole
  cases means with
  | @cons _ first _ _ atPlace nothing =>
      cases nothing
      obtain ⟨place, spelled⟩ := first
      obtain ⟨samePlace, meaning⟩ := atPlace
      obtain ⟨left, front, spells, rfl⟩ := of_read_clause read meaning
      have here : place = before + lead.length := by
        simp only [left, List.length_append] at samePlace
        omega
      rw [here, ← List.append_assoc]
      exact .last spacing spells ofGap

/-- By induction on how often a further clause is looked for; what was read
before only shows in the number of characters in front. -/
theorem clauses_of_readMany {fuel : Nat} {head : ClauseText} {others : List ClauseText}
    {middle last : List Char} {before : Nat} {lead : List Char} {placed : List (Nat × Clause)}
    (spacing : Spacing lead) (read : clause.read text = some (head, middle))
    (later : readMany furtherClause fuel middle = (others, last))
    (ended : last.dropWhile isSpacing = [])
    (means : List.Forall₂ (Placed (before + (lead ++ text).length)) (head :: others) placed) :
    Clauses before (lead ++ text) placed := by
  induction fuel generalizing text head others middle last before lead placed with
  | zero =>
      cases later
      exact clauses_of_read spacing read ended means
  | succ fuel ih =>
      cases further : furtherClause.read middle with
      | none =>
          rw [readMany_succ_of_none further] at later
          cases later
          exact clauses_of_read spacing read ended means
      | some taken =>
          obtain ⟨next, rest⟩ := taken
          rw [readMany_succ_of_some further] at later
          cases later
          obtain ⟨behind, comma, readNext⟩ := read_furtherClause_iff.mp further
          obtain ⟨gap, ofGap, whole⟩ := exists_spacing middle
          obtain ⟨nextLead, ofNextLead, wholeBehind⟩ := exists_spacing behind
          rw [comma] at whole
          subst whole
          cases means with
          | @cons _ first _ _ atPlace means =>
              obtain ⟨place, spelled⟩ := first
              obtain ⟨samePlace, meaning⟩ := atPlace
              obtain ⟨left, front, spells, rfl⟩ := of_read_clause read meaning
              have here : place = before + lead.length := by
                simp only [left, List.length_append] at samePlace
                omega
              rw [here, ← List.append_assoc, ← List.append_assoc]
              refine .more spacing spells ofGap ?_
              rw [wholeBehind]
              refine ih ofNextLead readNext rfl ended ?_
              rw [← wholeBehind]
              have total : before + (lead ++ (front ++ (gap ++ ',' :: behind))).length =
                  before + (lead ++ front ++ gap).length + 1 + behind.length := by
                simp only [List.length_append, List.length_cons]
                omega
              rw [← total]
              exact means

theorem Ends.spacing {gap : List Char} (ofGap : Spacing gap) (ends : Ends rest) :
    Ends (gap ++ rest) := by
  cases gap with
  | nil => exact ends
  | cons first gap =>
      intro c more same
      obtain ⟨rfl, rfl⟩ := List.cons.inj same
      rcases ofGap first List.mem_cons_self with space | tab
      · exact Or.inl space
      · exact Or.inr (Or.inl tab)

theorem spacing_nil : Spacing [] :=
  fun _ absent => absurd absent List.not_mem_nil

theorem ends_nil : Ends [] :=
  fun _ _ impossible => nomatch impossible

theorem ends_of_spacing {gap : List Char} (ofGap : Spacing gap) : Ends gap := by
  have ends := Ends.spacing ofGap ends_nil
  rw [List.append_nil] at ends
  exact ends

theorem dropWhile_of_spacing {gap : List Char} (ofGap : Spacing gap) :
    gap.dropWhile isSpacing = [] := by
  have dropped : (gap ++ []).dropWhile isSpacing = [] := dropWhile_spacing ofGap rfl
  rw [List.append_nil] at dropped
  exact dropped

theorem ends_comma (rest : List Char) : Ends (',' :: rest) := by
  intro c more same
  cases same
  exact Or.inr (Or.inr rfl)

theorem Name.solid {name : List Char} (isName : Name name) :
    (name ++ rest).dropWhile isSpacing = name ++ rest := by
  obtain ⟨c, others, rfl, letter, _⟩ := isName
  rw [List.cons_append, List.dropWhile_cons_of_neg]
  rw [isSpacing_iff]
  rintro (rfl | rfl) <;> cases letter

theorem Composed.solid {front name : List Char} {comparison : Option Comparison}
    {value : LiteralText} (composed : Composed front name comparison value) :
    (front ++ rest).dropWhile isSpacing = front ++ rest := by
  obtain ⟨first, second, literal, isName, _, _, _, rfl⟩ := composed
  simp only [List.append_assoc]
  exact Name.solid isName

theorem Spells.solid {front : List Char} {spelled : Clause} (spells : Spells front spelled) :
    (front ++ rest).dropWhile isSpacing = front ++ rest := by
  obtain ⟨_, _, _, _, isName, _, _, _, _, rfl⟩ := spells
  simp only [List.append_assoc]
  exact Name.solid isName

private theorem read_placed {first front : List Char} (before : Nat) {spelled : Clause}
    (ofFirst : Spacing first) (spells : Spells front spelled) (ends : Ends rest) :
    ∃ head, clause.read ((first ++ front ++ rest).dropWhile isSpacing) = some (head, rest) ∧
      Placed (before + (first ++ front ++ rest).length) head (before + first.length, spelled) := by
  obtain ⟨head, read, left, meaning⟩ := read_clause spells ends
  refine ⟨head, ?_, ?_, meaning⟩
  · rw [List.append_assoc, dropWhile_spacing ofFirst (Spells.solid spells)]
    exact read
  · simp only [left, List.length_append]
    omega

theorem readMany_of_clauses {before : Nat} {placed : List (Nat × Clause)}
    (clauses : Clauses before text placed) :
    ∃ head middle others last, clause.read (text.dropWhile isSpacing) = some (head, middle) ∧
      middle.length ≤ text.length ∧
      (∀ fuel, middle.length < fuel → readMany furtherClause fuel middle = (others, last)) ∧
      last.dropWhile isSpacing = [] ∧
      List.Forall₂ (Placed (before + text.length)) (head :: others) placed := by
  induction clauses with
  | @last before first front second clause ofFirst spells ofSecond =>
      have ends : Ends second := ends_of_spacing ofSecond
      have ended : second.dropWhile isSpacing = [] := dropWhile_of_spacing ofSecond
      obtain ⟨head, read, place⟩ := read_placed before ofFirst spells ends
      refine ⟨head, second, [], second, read, ?_, ?_, ended, .cons place .nil⟩
      · simp only [List.length_append]
        omega
      · intro fuel enough
        obtain ⟨fuel, rfl⟩ : ∃ smaller, fuel = smaller + 1 := ⟨fuel - 1, by omega⟩
        exact readMany_succ_of_none (read_furtherClause_of_ended ended) fuel
  | @more before first front second rest clause placed ofFirst spells ofSecond later ih =>
      obtain ⟨next, middle, others, last, readNext, shorter, further, ended, places⟩ := ih
      have ends : Ends (second ++ ',' :: rest) := Ends.spacing ofSecond (ends_comma rest)
      have comma : (second ++ ',' :: rest).dropWhile isSpacing = ',' :: rest :=
        dropWhile_spacing ofSecond rfl
      have readFurther : furtherClause.read (second ++ ',' :: rest) = some (next, middle) :=
        read_furtherClause_iff.mpr ⟨rest, comma, readNext⟩
      obtain ⟨head, read, place⟩ := read_placed before ofFirst spells ends
      have regroup : first ++ front ++ (second ++ ',' :: rest) =
          first ++ front ++ second ++ ',' :: rest := by
        rw [← List.append_assoc]
      rw [regroup] at read place
      refine ⟨head, _, next :: others, last, read, ?_, ?_, ended, .cons place ?_⟩
      · simp only [List.length_append]
        omega
      · intro fuel enough
        obtain ⟨fuel, rfl⟩ : ∃ smaller, fuel = smaller + 1 := ⟨fuel - 1, by omega⟩
        simp only [List.length_append, List.length_cons] at enough
        rw [readMany_succ_of_some readFurther, further fuel (by omega)]
      · have total : before + (first ++ front ++ second ++ ',' :: rest).length =
            before + (first ++ front ++ second).length + 1 + rest.length := by
          simp only [List.length_append, List.length_cons]
          omega
        rw [total]
        exact places

end Grammar

namespace Rule

open Spelling Grammar

variable {line : List Char} {number : Nat}

theorem locate_of_single (single : '\n' ∉ line) (number left : Nat) :
    locate line number left = ⟨number, line.length - left + 1⟩ := by
  have whole : (line.take (line.length - left)).reverse.takeWhile (· != '\n') =
      (line.take (line.length - left)).reverse := by
    rw [List.takeWhile_eq_self_iff]
    intro c member
    rw [List.mem_reverse] at member
    rw [bne_iff_ne]
    rintro rfl
    exact single (List.mem_of_mem_take member)
  unfold locate Text.place
  rw [whole, List.length_reverse, List.length_take, Nat.min_eq_left (Nat.sub_le _ _)]

theorem addClause_of_means (single : '\n' ∉ line) {first : ClauseText} {spelled : Clause}
    (means : Means first spelled) (placed : List (Nat × Clause)) :
    addClause line first spelled.value (Spelling.rule number placed) =
      Spelling.rule number ((line.length - first.column.1, spelled) :: placed) := by
  obtain ⟨column, comparison, value⟩ := spelled
  obtain ⟨rfl, rfl, _⟩ := means
  unfold addClause Spelling.rule
  dsimp only
  rw [locate_of_single single]
  cases first.comparison <;> rfl

/-- Clauses that were read make a rule when their literals are entries, and the
rule is what the clauses mean. -/
theorem ofClauses_eq_ok_iff (single : '\n' ∉ line) {found : List ClauseText} {rule : Rule} :
    ofClauses line number found = .ok rule ↔
      ∃ placed, List.Forall₂ (Placed line.length) found placed ∧
        rule = Spelling.rule number placed := by
  induction found generalizing rule with
  | nil =>
      constructor
      · intro made
        cases made
        exact ⟨[], .nil, rfl⟩
      · rintro ⟨placed, nothing, rfl⟩
        cases nothing
        rfl
  | cons first found ih =>
      unfold ofClauses
      constructor
      · intro made
        split at made
        · cases made
        · rename_i value entry
          split at made
          · cases made
          · rename_i rule others
            cases made
            obtain ⟨placed, places, rfl⟩ := ih.mp others
            have means : Means first ⟨String.ofList first.column.2, first.comparison, value⟩ :=
              ⟨rfl, rfl, entry⟩
            exact ⟨_, .cons ⟨rfl, means⟩ places, addClause_of_means single means placed⟩
      · rintro ⟨placed, places, rfl⟩
        cases places with
        | @cons _ spelled _ placed place places =>
            obtain ⟨here, spelled⟩ := spelled
            obtain ⟨rfl, means⟩ := place
            rw [means.entry]
            dsimp only
            rw [ih.mpr ⟨placed, places, rfl⟩]
            exact congrArg Except.ok (addClause_of_means single means placed)

theorem spells_of_ofLine (single : '\n' ∉ line) {rule : Rule}
    (read : ofLine line number = .ok rule) :
    ∃ clauses, Spelling.Line line clauses ∧ rule = Spelling.rule number clauses := by
  unfold ofLine at read
  split at read
  · rename_i found rest whole
    obtain ⟨placed, places, rfl⟩ := (ofClauses_eq_ok_iff single).mp read
    obtain ⟨head, middle, others, last, first, later, ended, rfl, rfl⟩ := read_rule_iff.mp whole
    obtain ⟨lead, ofLead, toFirst⟩ := exists_spacing line
    refine ⟨placed, ?_, rfl⟩
    unfold Spelling.Line
    rw [toFirst]
    refine clauses_of_readMany ofLead first later ended ?_
    rw [← toFirst, Nat.zero_add]
    exact places
  · cases read

theorem ofLine_of_spells (single : '\n' ∉ line) {clauses : List (Nat × Clause)}
    (spells : Spelling.Line line clauses) :
    ofLine line number = .ok (Spelling.rule number clauses) := by
  obtain ⟨head, middle, others, last, first, _, later, ended, places⟩ :=
    readMany_of_clauses spells
  have whole : Grammar.rule.read line = some (head :: others, []) :=
    read_rule_iff.mpr ⟨head, middle, others, last, first, later _ (Nat.lt_succ_self _), ended,
      rfl, rfl⟩
  unfold ofLine
  rw [whole]
  dsimp only
  rw [Nat.zero_add] at places
  exact (ofClauses_eq_ok_iff single).mpr ⟨clauses, places, rfl⟩

/-- A line is a rule exactly when it spells clauses whose literals are entries.
The rule then holds their match clauses and their assignments, in the order of
the line, each located at its name. -/
theorem ofLine_eq_ok_iff (single : '\n' ∉ line) {rule : Rule} :
    ofLine line number = .ok rule ↔
      ∃ clauses, Spelling.Line line clauses ∧ rule = Spelling.rule number clauses := by
  constructor
  · exact spells_of_ofLine single
  · rintro ⟨clauses, spells, rfl⟩
    exact ofLine_of_spells single spells

def spacedLine : List Char :=
  "  amount>= $10.24 ,first=\"B\",description ~~ 'a\\'b' , date < 2018/01/31\t".toList

def spacedRule : Rule :=
  let dollars : Dollars := .ofMagnitude ((Decimal.make? 1024 2).getD .zero)
  ⟨7, [⟨"amount", .atLeast, .dollars dollars, ⟨7, 3⟩⟩,
      ⟨"description", .contains, .text "a'b", ⟨7, 30⟩⟩, ⟨"date", .less, .date ⟨2018, 1, 31⟩, ⟨7, 54⟩⟩],
    [⟨"first", .text "B", ⟨7, 20⟩⟩]⟩

theorem ofLine_eq_ok_iff_spacedLine :
    '\n' ∉ spacedLine ∧ ofLine spacedLine 7 = .ok spacedRule ∧
      ∃ clauses, Spelling.Line spacedLine clauses ∧ spacedRule = Spelling.rule 7 clauses := by
  have single : '\n' ∉ spacedLine := by decide
  have read : ofLine spacedLine 7 = .ok spacedRule := by decide +kernel
  exact ⟨single, read, (ofLine_eq_ok_iff single).mp read⟩

end Rule

end Passbook
