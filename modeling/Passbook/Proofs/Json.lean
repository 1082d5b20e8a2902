/-
JSON documents are read back: readers leave what follows them, and printed values
give the values they were printed from.
-/

import Passbook.Json
import Passbook.Proofs.Foundations

namespace Passbook

/-! ## Readers

A property of the state of a record that every field keeps holds of the state
that the record is made from. The keys of a table ascend, for each entry is
inserted where it belongs. -/

namespace Json.Reader

variable {α σ : Type}

theorem ascending_entries {reader : Reader α} {fuel : Nat} {first : Bool}
    {found out : OrderedMap String α} {input rest : Input} (ascending : found.Ascending)
    (read : entries reader fuel first found input = .ok (out, rest)) : out.Ascending := by
  induction fuel generalizing first found input with
  | zero => cases read
  | succ fuel ih =>
      unfold entries at read
      split at read
      · cases read
      · cases read
        exact ascending
      · split at read
        · cases read
        · split at read
          · cases read
          · exact ih (ascending.insert _ _) read

theorem ascending_table {reader : Reader α} {out : OrderedMap String α} {input rest : Input}
    (read : table reader input = .ok (out, rest)) : out.Ascending := by
  unfold table at read
  split at read
  · exact ascending_entries OrderedMap.ascending_empty read
  · cases read

def Field.Keeps (field : Field σ) (holds : σ → Prop) : Prop :=
  ∀ state input after rest, holds state → field.read state input = .ok (after, rest) → holds after

theorem Field.keeps_of {name : String} {place : σ → Option α} {store : σ → α → σ}
    {reader : Reader α} {holds : σ → Prop}
    (stored : ∀ state value input rest, holds state → reader input = .ok (value, rest) →
      holds (store state value)) : (Field.of name place store reader).Keeps holds := by
  intro state input after rest before read
  obtain ⟨⟨value, remaining⟩, own, same⟩ := Outcome.map_eq_ok read
  cases same
  exact stored state value input _ before own

section Records

variable {fields : List (Field σ)} {holds : σ → Prop}

theorem fieldsByName_keeps (keeps : ∀ field ∈ fields, field.Keeps holds) {fuel : Nat}
    {first : Bool} {state after : σ} {input rest : Input} (before : holds state)
    (read : fieldsByName fields fuel first state input = .ok (after, rest)) : holds after := by
  induction fuel generalizing first state input with
  | zero => cases read
  | succ fuel ih =>
      unfold fieldsByName at read
      split at read
      · cases read
      · cases read
        exact before
      · split at read
        · split at read
          · cases read
          · split at read
            · cases read
            · exact ih before read
        · rename_i field named
          split at read
          · cases read
          · split at read
            · cases read
            · split at read
              · cases read
              · rename_i own
                have member := List.mem_of_find?_eq_some named
                exact ih (keeps field member _ _ _ _ before own) read

theorem fieldsInOrder_keeps (keeps : ∀ field ∈ fields, field.Keeps holds) {first : Bool}
    {state after : σ} {input rest : Input} (before : holds state)
    (read : fieldsInOrder fields first state input = .ok (after, rest)) : holds after := by
  induction fields generalizing first state input with
  | nil =>
      obtain ⟨_, _, same⟩ := Outcome.map_eq_ok read
      cases same
      exact before
  | cons field fields ih =>
      unfold fieldsInOrder at read
      split at read
      · cases read
      · cases read
        exact before
      · split at read
        · cases read
        · rename_i own
          have kept := keeps field List.mem_cons_self _ _ _ _ before own
          exact ih (fun other member => keeps other (List.mem_cons_of_mem _ member)) kept read

/-- A record is made from a state of which everything holds that its fields keep. -/
theorem record_keeps {start : σ} {finish : σ → Option α} {input rest : Input} {value : α}
    (keeps : ∀ field ∈ fields, field.Keeps holds) (begins : holds start)
    (read : record fields start finish input = .ok (value, rest)) :
    ∃ state, holds state ∧ finish state = some value := by
  unfold record at read
  dsimp only at read
  split at read
  · split at read
    · cases read
    · rename_i state remaining own
      split at read
      · rename_i made
        cases read
        exact ⟨state, fieldsInOrder_keeps keeps begins own, made⟩
      · cases read
  · split at read
    · cases read
    · rename_i state remaining own
      split at read
      · rename_i made
        cases read
        exact ⟨state, fieldsByName_keeps keeps begins own, made⟩
      · cases read
  · cases read

end Records

theorem document_eq_ok {reader : Reader α} {input : Input} {value : α}
    (read : document reader input = .ok value) : ∃ rest, reader input = .ok (value, rest) := by
  unfold document at read
  split at read
  · cases read
  · rename_i own
    split at read
    · cases read
      exact ⟨_, own⟩
    · cases read

end Json.Reader

/-! ## Printed values

The reader of texts reads a printed text up to its closing quote and leaves
whatever follows, and the reader of lists does the same when the reader of their
items does. So a printed value shows by itself where it ends, and two values
that are printed alike are one. -/

namespace Json

def pieces (text : List Char) : Input :=
  text.map .char

theorem pieces_append (first second : List Char) :
    pieces (first ++ second) = pieces first ++ pieces second :=
  List.map_append

theorem pieces_inj {first second : List Char} (same : pieces first = pieces second) :
    first = second :=
  (List.map_inj_right fun _ _ => Text.Utf8.Piece.char.inj).mp same

/-! ### Texts -/

theorem hexValue?_digitChar : ∀ n < 16, hexValue? (.char (Nat.digitChar n)) = some n := by
  decide

theorem codeEscape_control {c : Char} (control : c.toNat < 0x20) (rest : Input) :
    codeEscape (pieces ['0', '0', Nat.digitChar (c.toNat / 16), Nat.digitChar (c.toNat % 16)] ++
      rest) = .ok (c, rest) := by
  have high := hexValue?_digitChar (c.toNat / 16) (by omega)
  have low := hexValue?_digitChar (c.toNat % 16) (by omega)
  have zero : hexValue? (.char '0') = some 0 := rfl
  have code : ((0 * 16 + 0) * 16 + c.toNat / 16) * 16 + c.toNat % 16 = c.toNat := by omega
  have quad : hexQuad (pieces ['0', '0', Nat.digitChar (c.toNat / 16),
      Nat.digitChar (c.toNat % 16)] ++ rest) = .ok (c.toNat, rest) := by
    simp only [pieces, List.map_cons, List.map_nil, List.cons_append, List.nil_append, hexQuad,
      zero, high, low, code]
  unfold codeEscape
  rw [quad]
  dsimp only
  rw [if_neg (by omega), if_pos (by omega), Char.ofNat_toNat]

/-- A character is escaped by a backslash and letters that stand for it, or it
stands for itself. -/
theorem escape_cases (c : Char) :
    (∃ letters, escape c = '\\' :: letters ∧
      ∀ rest, escaped (pieces letters ++ rest) = .ok (c, rest)) ∨
    (escape c = [c] ∧ c ≠ '"' ∧ c ≠ '\\' ∧ ¬ c.toNat < 0x20) := by
  unfold escape
  iterate 7
    split
    · subst c
      exact Or.inl ⟨_, rfl, fun _ => rfl⟩
  split
  · rename_i control
    exact Or.inl ⟨_, rfl, codeEscape_control control⟩
  · rename_i noQuote noBackslash _ _ _ _ _ noControl
    exact Or.inr ⟨rfl, noQuote, noBackslash, noControl⟩

theorem escape_ne_nil (c : Char) : escape c ≠ [] := by
  rcases escape_cases c with ⟨letters, same, _⟩ | ⟨same, _⟩ <;>
    exact same ▸ List.cons_ne_nil _ _

theorem textBody_escape (c : Char) {fuel : Nat} {rest after : Input} {text : List Char}
    (read : textBody fuel true rest = .ok (text, after)) :
    textBody (fuel + 1) true (pieces (escape c) ++ rest) = .ok (c :: text, after) := by
  rcases escape_cases c with ⟨letters, same, stands⟩ | ⟨same, noQuote, noBackslash, noControl⟩
  · have step : textBody (fuel + 1) true (.char '\\' :: (pieces letters ++ rest)) = _ :=
      textBody.eq_def _ _ _
    rw [same]
    refine step.trans ?_
    simp [stands, read, Except.map]
  · have step : textBody (fuel + 1) true (.char c :: rest) = _ := textBody.eq_def _ _ _
    rw [same]
    refine step.trans ?_
    simp [noQuote, noBackslash, noControl, read, Except.map]

theorem textBody_printed (text : List Char) (rest : Input) {fuel : Nat}
    (enough : text.length < fuel) :
    textBody fuel true (pieces (text.flatMap escape) ++ .char '"' :: rest) = .ok (text, rest) := by
  induction text generalizing fuel with
  | nil =>
      obtain ⟨fuel, rfl⟩ := Nat.exists_eq_add_of_lt enough
      rfl
  | cons c text ih =>
      cases fuel with
      | zero => cases enough
      | succ fuel =>
          have later := ih (Nat.lt_of_succ_lt_succ enough)
          rw [List.flatMap_cons, pieces_append, List.append_assoc]
          exact textBody_escape c later

theorem length_le_flatMap {α β : Type} {print : α → List β} (filled : ∀ item, print item ≠ [])
    (items : List α) : items.length ≤ (items.flatMap print).length := by
  induction items with
  | nil => exact Nat.le_refl 0
  | cons item items ih =>
      have one := List.length_pos_iff.mpr (filled item)
      rw [List.flatMap_cons, List.length_append, List.length_cons]
      omega

theorem textToken_printed (text : String) (rest : Input) :
    textToken (pieces (text.toList.flatMap escape) ++ .char '"' :: rest) = .ok (text, rest) := by
  have escapes := length_le_flatMap escape_ne_nil text.toList
  unfold textToken
  rw [textBody_printed]
  · exact congrArg (fun own => Except.ok (own, rest)) (String.ofList_toList)
  · rw [List.length_append, pieces, List.length_map]
    omega

/-! ### Values and lists of them -/

/-- No value begins with a blank or with the end of a list. -/
theorem Value.exists_chars (value : Value) :
    ∃ c rest, value.chars = c :: rest ∧ isBlank (.char c) = false ∧ c ≠ ']' := by
  cases value with
  | null => exact ⟨_, _, rfl, by decide⟩
  | bool value => cases value <;> exact ⟨_, _, rfl, by decide⟩
  | text value => exact ⟨_, _, rfl, by decide⟩
  | list items => exact ⟨_, _, Value.chars.eq_def _, by decide⟩
  | object fields => exact ⟨_, _, Value.chars.eq_def _, by decide⟩

theorem itemsChars_cons (item : Value) (items : List Value) :
    itemsChars (item :: items) = item.chars ++ items.flatMap fun other => ',' :: other.chars := by
  induction items generalizing item with
  | nil => simp [itemsChars]
  | cons next items ih => simp [itemsChars, ih]

/-! ### Readers and what they read back -/

namespace Reader

variable {α : Type}

/-- The reader takes back what is printed of a value, whatever follows it, and
leaves what follows. -/
def TakesBack (reader : Reader α) (print : α → Value) : Prop :=
  ∀ value rest, reader (pieces (print value).chars ++ rest) = .ok (value, rest)

/-- Where printed values end is seen from them alone. -/
theorem TakesBack.inj {reader : Reader α} {print : α → Value} (takesBack : reader.TakesBack print)
    {first second : α} {rest others : List Char}
    (same : (print first).chars ++ rest = (print second).chars ++ others) :
    first = second ∧ rest = others := by
  have one := takesBack first (pieces rest)
  have two := takesBack second (pieces others)
  rw [← pieces_append, same, pieces_append, two] at one
  obtain ⟨values, rests⟩ := Prod.mk.inj (Except.ok.inj one)
  exact ⟨values.symm, (pieces_inj rests).symm⟩

theorem text_takesBack : text.TakesBack .text := by
  intro value rest
  have closed : (Value.text value).chars = '"' :: (value.toList.flatMap escape ++ ['"']) := rfl
  rw [closed, pieces, List.map_cons, ← pieces, pieces_append, List.cons_append, List.append_assoc]
  exact textToken_printed value rest

theorem nextItem_first (value : Value) (rest : Input) :
    nextItem true (pieces value.chars ++ rest) = .ok (true, pieces value.chars ++ rest) := by
  obtain ⟨c, others, begins, solid, notEnd⟩ := value.exists_chars
  rw [begins]
  simp [nextItem, skipBlanks, pieces, solid, notEnd]

theorem nextItem_later (value : Value) (rest : Input) :
    nextItem false (.char ',' :: (pieces value.chars ++ rest)) =
      .ok (true, pieces value.chars ++ rest) := by
  obtain ⟨c, others, begins, solid, notEnd⟩ := value.exists_chars
  have comma : isBlank (.char ',') = false := rfl
  rw [begins]
  simp [nextItem, skipBlanks, pieces, comma, solid, notEnd]

variable {reader : Reader α} {print : α → Value}

theorem items_later (takesBack : reader.TakesBack print) (values : List α) (rest : Input)
    {fuel : Nat} (enough : values.length < fuel) :
    items reader fuel false
      (pieces (values.flatMap fun value => ',' :: (print value).chars) ++ .char ']' :: rest) =
        .ok (values, rest) := by
  induction values generalizing fuel with
  | nil =>
      obtain ⟨fuel, rfl⟩ := Nat.exists_eq_add_of_lt enough
      rfl
  | cons value values ih =>
      cases fuel with
      | zero => cases enough
      | succ fuel =>
          have later := ih (Nat.lt_of_succ_lt_succ enough)
          rw [List.flatMap_cons, pieces_append, List.append_assoc, pieces, List.map_cons, ← pieces,
            List.cons_append, items, nextItem_later]
          dsimp only
          rw [takesBack]
          dsimp only
          rw [later]
          rfl

theorem list_takesBack (takesBack : reader.TakesBack print) :
    (list reader).TakesBack fun values => .list (values.map print) := by
  intro values rest
  have closed : (Value.list (values.map print)).chars =
      '[' :: (itemsChars (values.map print) ++ [']']) := Value.chars.eq_def _
  have inside : pieces (Value.list (values.map print)).chars ++ rest =
      .char '[' :: (pieces (itemsChars (values.map print)) ++ .char ']' :: rest) := by
    rw [closed]
    simp [pieces]
  have opened : list reader (.char '[' :: (pieces (itemsChars (values.map print)) ++
      .char ']' :: rest)) = items reader _ true _ := rfl
  refine (congrArg (list reader) inside).trans (opened.trans ?_)
  cases values with
  | nil => rfl
  | cons value values =>
      have enough := length_le_flatMap (fun value => List.cons_ne_nil ',' (print value).chars) values
      rw [List.map_cons, itemsChars_cons, List.flatMap_map, pieces_append, List.append_assoc, items,
        nextItem_first]
      dsimp only
      rw [takesBack]
      dsimp only
      rw [items_later takesBack]
      · rfl
      · simp only [List.length_append, List.length_cons, pieces, List.length_map]
        omega

theorem texts_takesBack : (list text).TakesBack .texts :=
  list_takesBack text_takesBack

end Reader

end Json

end Passbook
