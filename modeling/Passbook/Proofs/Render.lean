/-
What is shown of a store determines it: the data of a report does, and so does a
table whose texts have no tabs and line feeds.
-/

import Mathlib.Data.List.Forall2
import Passbook.Proofs.Decimal
import Passbook.Proofs.Entry
import Passbook.Proofs.Json
import Passbook.Proofs.Store
import Passbook.Proofs.Text
import Passbook.Render

namespace Passbook

/-! ## Report data

Report data loses nothing. The texts of a document show where they end, and so
do its lists, so that one document holds one list of accounts and one table of
texts. The texts of two entries of one kind differ when the entries do. -/

namespace ReportData

/-! ### Entries -/

theorem entryText_inj {first second : Entry} (kinds : first.kind = second.kind)
    (same : entryText first = entryText second) : first = second := by
  cases first <;> cases second <;> cases kinds
  case date.date day other => exact congrArg Entry.date (Date.toText_inj same)
  case text.text own other => exact congrArg Entry.text same
  case dollars.dollars own other =>
    obtain ⟨amount, nonnegative⟩ := own
    obtain ⟨amountToo, nonnegativeToo⟩ := other
    cases (Decimal.toText_inj same : amount = amountToo)
    rfl

theorem entries_inj {first second : List Entry}
    (kinds : first.map Entry.kind = second.map Entry.kind)
    (same : first.map entryText = second.map entryText) : first = second := by
  induction first generalizing second with
  | nil => exact (List.map_eq_nil_iff.mp same.symm).symm
  | cons entry first ih =>
      cases second with
      | nil => cases same
      | cons other second =>
          rw [List.map_cons, List.map_cons, List.cons.injEq] at kinds same
          rw [entryText_inj kinds.1 same.1, ih kinds.2 same.2]

/-! ### Rows -/

def rowTexts (row : Row) : List String :=
  row.entries.map entryText

theorem rows_inj {schema : Schema} {first second : List Row}
    (conform : ∀ row ∈ first, row.Conforms schema) (conformToo : ∀ row ∈ second, row.Conforms schema)
    (same : first.map rowTexts = second.map rowTexts) : first = second := by
  induction first generalizing second with
  | nil => exact (List.map_eq_nil_iff.mp same.symm).symm
  | cons row first ih =>
      cases second with
      | nil => cases same
      | cons other second =>
          rw [List.map_cons, List.map_cons, List.cons.injEq] at same
          rw [List.forall_mem_cons] at conform conformToo
          have rows : row = other :=
            congrArg Row.mk (entries_inj (conform.1.trans conformToo.1.symm) same.1)
          rw [rows, ih conform.2 conformToo.2 same.2]

/-! ### Documents -/

def columnsChars (schema : Schema) : List Char :=
  ',' :: (Json.quote "columns" ++ ':' :: ((Json.Value.texts schema.names).chars ++
    ',' :: (Json.quote "transactions" ++ [':'])))

def rowsJson (rows : List (List String)) : Json.Value :=
  .list (rows.map .texts)

theorem rowsJson_takesBack : (Json.Reader.list (Json.Reader.list Json.Reader.text)).TakesBack rowsJson :=
  Json.Reader.list_takesBack Json.Reader.texts_takesBack

theorem chars_document (store : Store) (accounts : List String) :
    (document store accounts).chars = '\x7b' :: (Json.quote "accounts" ++ ':' ::
      ((Json.Value.texts accounts).chars ++ (columnsChars store.schema ++
        ((rowsJson (store.rows.map rowTexts)).chars ++ ['\x7d'])))) := by
  have rows : rowsJson (store.rows.map rowTexts) = .list (store.rows.map rowJson) := by
    rw [rowsJson, List.map_map]
    rfl
  rw [rows]
  simp [document, columnsChars, Json.Value.chars, Json.fieldsChars]

/-- Two stores of one schema with the same report data are one store, and the
accounts are the same, amounts with their places and days of any year included. -/
theorem eq_of_toJsonText_eq {first second : Store} {accounts others : List String}
    (schemas : first.schema = second.schema)
    (conform : ∀ row ∈ first.rows, row.Conforms first.schema)
    (conformToo : ∀ row ∈ second.rows, row.Conforms second.schema)
    (same : toJsonText first accounts = toJsonText second others) :
    first.rows = second.rows ∧ accounts = others := by
  have chars : (document first accounts).chars = (document second others).chars :=
    String.ofList_injective same
  rw [chars_document, chars_document, List.cons.injEq] at chars
  have behind := (List.cons.inj (List.append_cancel_left chars.2)).2
  obtain ⟨sameAccounts, rest⟩ := Json.Reader.texts_takesBack.inj behind
  rw [schemas] at rest
  obtain ⟨texts, _⟩ := rowsJson_takesBack.inj (List.append_cancel_left rest)
  exact ⟨rows_inj (schemas ▸ conform) conformToo texts, sameAccounts⟩

end ReportData

def Store.noted : Store :=
  let ten : Dollars := .ofMagnitude ((Decimal.make? 1000 2).getD .zero)
  ⟨.base, [⟨[.text "[\"Acme\", \\]", .text "check\x01ing", .text "\u2028, ]]", .date ⟨-1, 0, 432⟩,
    .text "\r\n\t", .dollars ten]⟩]⟩

theorem ReportData.eq_of_toJsonText_eq_noted :
    ∃ grown, (Store.empty .base).ingestAll Store.noted.rows = .ok grown ∧
      toJsonText grown ["Acme \"x", "]"] = toJsonText Store.noted ["Acme \"x", "]"] ∧
      grown.rows = Store.noted.rows := by
  have taken : ∃ grown, (Store.empty .base).ingestAll Store.noted.rows = .ok grown ∧
      grown.schema = Store.noted.schema ∧ (∀ row ∈ grown.rows, row.Conforms grown.schema) ∧
      toJsonText grown ["Acme \"x", "]"] = toJsonText Store.noted ["Acme \"x", "]"] :=
    ⟨_, rfl, rfl, by decide, rfl⟩
  obtain ⟨grown, accepted, schemas, conform, same⟩ := taken
  exact ⟨grown, accepted, same,
    (ReportData.eq_of_toJsonText_eq schemas conform (by decide) same).1⟩

/-! ## Tables

No cell holds a tab or a line feed, so that cutting the table at line feeds
gives its lines and cutting a line at tabs gives its cells, however the texts of
the store look. -/

namespace Table

/-- Neither a tab nor a line feed is in a text. -/
def Flat (text : List Char) : Prop :=
  ∀ c ∈ text, c ≠ '\t' ∧ c ≠ '\n'

instance (text : List Char) : Decidable (Flat text) :=
  List.decidableBAll (fun c => c ≠ '\t' ∧ c ≠ '\n') text

def flattened (text : List Char) : List Char :=
  text.map fun c => if c = '\t' ∨ c = '\n' then ' ' else c

section Flat

variable {text : List Char}

theorem Flat.tab_not_mem (flat : Flat text) : '\t' ∉ text :=
  fun member => (flat _ member).1 rfl

theorem Flat.lineFeed_not_mem (flat : Flat text) : '\n' ∉ text :=
  fun member => (flat _ member).2 rfl

theorem flat_flattened (text : List Char) : Flat (flattened text) := by
  intro c member
  obtain ⟨original, _, rfl⟩ := List.mem_map.mp member
  split
  · decide
  · rename_i other
    exact not_or.mp other

theorem Flat.flattened_eq (flat : Flat text) : flattened text = text := by
  have same : ∀ c ∈ text, (if c = '\t' ∨ c = '\n' then ' ' else c) = id c := by
    intro c member
    obtain ⟨noTab, noLineFeed⟩ := flat c member
    exact if_neg (not_or.mpr ⟨noTab, noLineFeed⟩)
  rw [flattened, List.map_congr_left same, List.map_id]

theorem flat_cons {c : Char} (own : c ≠ '\t' ∧ c ≠ '\n') (flat : Flat text) : Flat (c :: text) :=
  List.forall_mem_cons.mpr ⟨own, flat⟩

theorem flat_of_isDigit {c : Char} (digit : c.isDigit = true) : c ≠ '\t' ∧ c ≠ '\n' := by
  constructor
  · rintro rfl
    cases digit
  · rintro rfl
    cases digit

end Flat

/-! ### Cells -/

theorem flat_date (date : Date) : Flat date.chars := by
  intro c member
  rcases Date.mem_chars member with digit | rfl | rfl
  · exact flat_of_isDigit digit
  · decide
  · decide

theorem flat_decimal (amount : Decimal) : Flat amount.chars := by
  intro c member
  rcases amount.mem_chars member with digit | rfl | rfl
  · exact flat_of_isDigit digit
  · decide
  · decide

/-- A cell shows the text of its entry. Days and amounts need no flattening. -/
theorem toList_cell (entry : Entry) : (cell entry).toList = flattened entry.toText.toList := by
  cases entry with
  | date day =>
      have flat : Flat day.toText.toList := by
        rw [Date.toText, String.toList_ofList]
        exact flat_date day
      exact flat.flattened_eq.symm
  | text value => exact String.toList_ofList
  | dollars amount =>
      have flat : Flat amount.toText.toList := by
        rw [Dollars.toText, String.toList_ofList]
        exact flat_cons (by decide) (flat_decimal amount.amount)
      exact flat.flattened_eq.symm

/-! ### Lines -/

def lineOf (cells : List (List Char)) : List Char :=
  ['\t'].intercalate cells

def headerCells (schema : Schema) : List (List Char) :=
  schema.names.map String.toList

def rowCells (row : Row) : List (List Char) :=
  row.entries.map fun entry => flattened entry.toText.toList

theorem toList_line (cells : List String) :
    (line cells).toList = lineOf (cells.map String.toList) ++ ['\n'] := by
  rw [line, String.toList_append, String.toList_intercalate]
  rfl

theorem toList_row (row : Row) : (Table.row row).toList = lineOf (rowCells row) ++ ['\n'] := by
  rw [Table.row, toList_line, List.map_map]
  have cells : row.entries.map (String.toList ∘ cell) = rowCells row :=
    List.map_congr_left fun entry _ => toList_cell entry
  rw [cells]

theorem toList_ofStore (store : Store) :
    (ofStore store).toList =
      (lineOf (headerCells store.schema) :: store.rows.map fun row => lineOf (rowCells row)).flatMap
        fun line => line ++ ['\n'] := by
  rw [ofStore, header, String.toList_append, toList_line, String.toList_join, List.flatMap_cons,
    List.flatMap_map, List.flatMap_map]
  congr 1
  rw [funext toList_row]

theorem lineFeed_not_mem_lineOf {cells : List (List Char)} (flat : ∀ cell ∈ cells, Flat cell) :
    '\n' ∉ lineOf cells :=
  Text.not_mem_intercalate (by decide) fun cell member => (flat cell member).lineFeed_not_mem

theorem split_lineOf {cells : List (List Char)} (nonempty : cells ≠ [])
    (flat : ∀ cell ∈ cells, Flat cell) : Text.split ['\t'] (lineOf cells) = cells :=
  Text.split_mark_intercalate nonempty fun cell member => (flat cell member).tab_not_mem

theorem flat_of_mem_rowCells {row : Row} : ∀ cell ∈ rowCells row, Flat cell := by
  intro cell member
  obtain ⟨entry, _, rfl⟩ := List.mem_map.mp member
  exact flat_flattened _

/-- A line of a table shows a row: its cells are those of the row, as many as the
schema has columns. Where no text had to be flattened it is the text of the row. -/
structure Shows (schema : Schema) (row : Row) (line : List Char) : Prop where
  cells : Text.split ['\t'] line = row.entries.map fun entry => flattened entry.toText.toList
  count : (Text.split ['\t'] line).length = schema.size
  own : (∀ text, Entry.text text ∈ row.entries → Flat text.toList) → line = row.toText.toList

theorem lineOf_rowCells_of_flat {row : Row}
    (flat : ∀ text, Entry.text text ∈ row.entries → Flat text.toList) :
    lineOf (rowCells row) = row.toText.toList := by
  have cells : rowCells row = (row.entries.map Entry.toText).map String.toList := by
    rw [rowCells, List.map_map]
    apply List.map_congr_left
    intro entry member
    cases entry with
    | text value => exact (flat value member).flattened_eq
    | date day => exact (toList_cell (.date day)).symm
    | dollars amount => exact (toList_cell (.dollars amount)).symm
  rw [cells, Row.toText, String.toList_intercalate]
  rfl

theorem shows_rowCells {schema : Schema} (columns : 0 < schema.size) {row : Row}
    (conforms : row.Conforms schema) : Shows schema row (lineOf (rowCells row)) := by
  have length : (rowCells row).length = schema.size := by
    rw [rowCells, List.length_map]
    exact conforms.size_eq
  have nonempty : rowCells row ≠ [] := List.ne_nil_of_length_pos (by omega)
  have cells := split_lineOf nonempty flat_of_mem_rowCells
  refine ⟨cells, ?_, lineOf_rowCells_of_flat⟩
  rw [cells]
  exact length

theorem getLast?_terminated {lines : List (List Char)} (nonempty : lines ≠ []) :
    (lines.flatMap fun line => line ++ ['\n']).getLast? = some '\n' := by
  rw [← List.dropLast_concat_getLast nonempty, List.flatMap_append, List.flatMap_singleton,
    ← List.append_assoc, List.getLast?_concat]

/-- A table has one line for the column names and one for each row, each ended by
a line feed, and every line has one cell for each column. -/
theorem split_ofStore {store : Store} (columns : 0 < store.schema.size)
    (plain : ∀ name ∈ store.schema.names, Flat name.toList)
    (conform : ∀ row ∈ store.rows, row.Conforms store.schema) :
    (ofStore store).toList.getLast? = some '\n' ∧
      ∃ header lines, Text.split ['\n'] (ofStore store).toList = header :: lines ++ [[]] ∧
        (header :: lines).length = store.size + 1 ∧
        Text.split ['\t'] header = store.schema.names.map String.toList ∧
        List.Forall₂ (Shows store.schema) store.rows lines := by
  have flatNames : ∀ cell ∈ headerCells store.schema, Flat cell := by
    intro cell member
    obtain ⟨name, present, rfl⟩ := List.mem_map.mp member
    exact plain name present
  have nonempty : headerCells store.schema ≠ [] := by
    apply List.ne_nil_of_length_pos
    rw [headerCells, Schema.names, List.length_map, List.length_map]
    exact columns
  constructor
  · rw [toList_ofStore]
    exact getLast?_terminated (List.cons_ne_nil _ _)
  · refine ⟨lineOf (headerCells store.schema), store.rows.map fun row => lineOf (rowCells row),
      ?_, ?_, split_lineOf nonempty flatNames, ?_⟩
    · rw [toList_ofStore]
      apply Text.split_mark_terminated
      rw [List.forall_mem_cons]
      refine ⟨lineFeed_not_mem_lineOf flatNames, ?_⟩
      intro line member
      obtain ⟨row, _, rfl⟩ := List.mem_map.mp member
      exact lineFeed_not_mem_lineOf flat_of_mem_rowCells
    · rw [List.length_cons, List.length_map, Store.size]
    · rw [List.forall₂_map_right_iff, List.forall₂_same]
      exact fun row member => shows_rowCells columns (conform row member)

def scattered : Store :=
  let owed : Dollars := .ofMagnitude ((Decimal.make? 5 28).getD .zero)
  ⟨.base, [⟨[.text "\t", .text "", .text "two\tcells\nand lines\n", .date ⟨-1, 0, 432⟩,
      .text "\r\n", .dollars owed]⟩,
    ⟨[.text "Acme", .text "checking", .text "cafe", .date ⟨2024, 3, 9⟩, .text "late lunch",
      .dollars owed]⟩]⟩

theorem split_ofStore_scattered :
    0 < scattered.schema.size ∧ (∀ name ∈ scattered.schema.names, Flat name.toList) ∧
      (∀ row ∈ scattered.rows, row.Conforms scattered.schema) ∧
      (ofStore scattered).toList.getLast? = some '\n' ∧
      ∃ header lines, Text.split ['\n'] (ofStore scattered).toList = header :: lines ++ [[]] ∧
        (header :: lines).length = scattered.size + 1 ∧
        Text.split ['\t'] header = scattered.schema.names.map String.toList ∧
        List.Forall₂ (Shows scattered.schema) scattered.rows lines := by
  have columns : 0 < scattered.schema.size := by decide
  have plain : ∀ name ∈ scattered.schema.names, Flat name.toList := by decide
  have conform : ∀ row ∈ scattered.rows, row.Conforms scattered.schema := by decide
  exact ⟨columns, plain, conform, split_ofStore columns plain conform⟩

end Table

end Passbook
