/-
Stores whose rows fit their schema: what checking a row accepts, what a lookup gives,
and what joining, widening and correcting keep.
-/

import Passbook.Proofs.Foundations
import Passbook.Store

namespace Passbook

/-! ## Rows that fit

Rows that conform to a schema. A column that a schema finds by name stands at
its position, so that a conforming row has an entry of its kind there. A store
takes in exactly the rows that conform, and replacing an entry by one of the
same kind keeps a row conforming. -/

namespace Schema

/-- A schema has a column of a name and a kind at a position, and finds it
there. -/
def HasColumn (schema : Schema) (index : Nat) (name : String) (kind : Kind) : Prop :=
  schema.indexOf? name = some index ∧ schema.columns[index]? = some ⟨name, kind⟩

theorem kindOf?_eq (schema : Schema) (name : String) :
    schema.kindOf? name =
      (schema.indexOf? name).bind fun index => (schema.columns[index]?).map Column.kind := by
  unfold kindOf? indexOf?
  rw [List.find?_eq_bind_findIdx?_getElem?]
  cases schema.columns.findIdx? fun column => column.name == name <;> rfl

theorem exists_hasColumn {schema : Schema} {name : String} {index : Nat}
    (found : schema.indexOf? name = some index) :
    ∃ kind, schema.HasColumn index name kind ∧ schema.kindOf? name = some kind := by
  have position := found
  unfold indexOf? at position
  obtain ⟨within, named, _⟩ := List.findIdx?_eq_some_iff_getElem.mp position
  have present : schema.columns[index]? = some schema.columns[index] :=
    List.getElem?_eq_getElem within
  refine ⟨schema.columns[index].kind, ⟨found, ?_⟩, ?_⟩
  · rw [present, ← eq_of_beq named]
  · rw [kindOf?_eq, found, Option.bind_some, present, Option.map_some]

theorem mem_names_iff {schema : Schema} {name : String} :
    name ∈ schema.names ↔ ∃ index, schema.indexOf? name = some index := by
  unfold names indexOf?
  rw [← Option.isSome_iff_exists, List.findIdx?_isSome, List.any_eq_true]
  simp

theorem HasColumn.kindOf? {schema : Schema} {index : Nat} {name : String} {kind : Kind}
    (column : schema.HasColumn index name kind) : schema.kindOf? name = some kind := by
  rw [kindOf?_eq, column.1, Option.bind_some, column.2, Option.map_some]

theorem HasColumn.name_eq {schema : Schema} {index : Nat} {name other : String}
    {kind otherKind : Kind} (first : schema.HasColumn index name kind)
    (second : schema.HasColumn index other otherKind) : name = other := by
  have same := first.2.symm.trans second.2
  rw [Option.some.injEq, Column.mk.injEq] at same
  exact same.1

/-- Columns of two names stand at two positions. -/
theorem HasColumn.index_ne {schema : Schema} {index position : Nat} {name other : String}
    {kind otherKind : Kind} (first : schema.HasColumn index name kind)
    (second : schema.HasColumn position other otherKind) (differ : name ≠ other) :
    index ≠ position := by
  rintro rfl
  exact differ (first.name_eq second)

theorem HasColumn.require {schema : Schema} {index : Nat} {name : String} {kind : Kind}
    (column : schema.HasColumn index name kind) : schema.require name = .ok index := by
  rw [Schema.require, column.1]

theorem require_eq_ok_iff {schema : Schema} {name : String} {index : Nat} :
    schema.require name = .ok index ↔ schema.indexOf? name = some index := by
  unfold Schema.require
  cases schema.indexOf? name <;> simp

theorem requireKind_eq_ok_iff {schema : Schema} {name : String} {kind : Kind} {index : Nat} :
    schema.requireKind name kind = .ok index ↔ schema.HasColumn index name kind := by
  constructor
  · intro required
    unfold requireKind Schema.require at required
    cases position : schema.indexOf? name with
    | none => simp [position] at required
    | some found =>
        obtain ⟨present, column, ofKind⟩ := exists_hasColumn position
        simp only [position, ofKind] at required
        split at required
        · rename_i expected
          cases required
          rw [← expected]
          exact column
        · cases required
  · intro column
    unfold requireKind
    rw [column.require, column.kindOf?]
    exact if_pos rfl

end Schema

namespace Row

theorem Conforms.size_eq {row : Row} {schema : Schema} (conforms : row.Conforms schema) :
    row.size = schema.size := by
  have lengths := congrArg List.length conforms
  rw [Schema.kinds, List.length_map, List.length_map] at lengths
  exact lengths

theorem Conforms.getElem? {row : Row} {schema : Schema} (conforms : row.Conforms schema)
    (index : Nat) : (row.get? index).map Entry.kind = (schema.columns[index]?).map Column.kind := by
  have same := congrArg (fun kinds : List Kind => kinds[index]?) conforms
  simp only [Schema.kinds, List.getElem?_map] at same
  exact same

theorem Conforms.get? {row : Row} {schema : Schema} (conforms : row.Conforms schema)
    {index : Nat} {name : String} {kind : Kind} (column : schema.HasColumn index name kind) :
    ∃ entry, row.get? index = some entry ∧ entry.kind = kind := by
  have same := conforms.getElem? index
  rw [column.2, Option.map_some] at same
  exact Option.map_eq_some_iff.mp same

theorem Conforms.set {row : Row} {schema : Schema} (conforms : row.Conforms schema)
    {index : Nat} {entry : Entry}
    (fits : ∀ column, schema.columns[index]? = some column → entry.kind = column.kind) :
    (row.set index entry).Conforms schema := by
  unfold Row.Conforms Row.set at *
  rw [List.map_set, conforms]
  apply List.ext_getElem?
  intro position
  rw [List.getElem?_set]
  split
  · rename_i atIndex
    subst atIndex
    split
    · rename_i within
      rw [Schema.kinds, List.length_map] at within
      have column := fits _ (List.getElem?_eq_getElem within)
      rw [column, Schema.kinds, List.getElem?_map, List.getElem?_eq_getElem within, Option.map_some]
    · rename_i outside
      exact (List.getElem?_eq_none (Nat.le_of_not_lt outside)).symm
  · rfl

theorem Conforms.set_of_hasColumn {row : Row} {schema : Schema} (conforms : row.Conforms schema)
    {index : Nat} {name : String} {kind : Kind} (column : schema.HasColumn index name kind)
    {entry : Entry} (ofKind : entry.kind = kind) : (row.set index entry).Conforms schema := by
  apply conforms.set
  intro other found
  rw [column.2, Option.some.injEq] at found
  rw [← found]
  exact ofKind

theorem Conforms.extended {row : Row} {schema : Schema} (conforms : row.Conforms schema)
    (entry : Entry) (name : String) :
    (row.extended entry).Conforms ⟨schema.columns ++ [⟨name, entry.kind⟩]⟩ := by
  unfold Row.Conforms Row.extended Schema.kinds at *
  rw [List.map_append, List.map_append, conforms]
  rfl

end Row

namespace Store

private theorem firstMismatch?_eq_none_iff {entries : List Entry} {columns : List Column}
    (lengths : entries.length = columns.length) :
    firstMismatch? entries columns = none ↔ entries.map Entry.kind = columns.map Column.kind := by
  induction entries generalizing columns with
  | nil =>
      cases columns with
      | nil => simp [firstMismatch?]
      | cons column columns => cases lengths
  | cons entry entries ih =>
      cases columns with
      | nil => cases lengths
      | cons column columns =>
          have rest := ih (Nat.succ.inj lengths)
          rw [firstMismatch?, List.map_cons, List.map_cons, List.cons.injEq, ← rest]
          by_cases same : entry.kind = column.kind
          · rw [if_pos same, and_iff_right same]
          · rw [if_neg same]
            simp [same]

theorem validate_eq_ok_iff {schema : Schema} {row : Row} :
    validate schema row = .ok () ↔ row.Conforms schema := by
  unfold validate
  by_cases sizes : row.size = schema.size
  · rw [if_neg (not_not_intro sizes)]
    have kinds : firstMismatch? row.entries schema.columns = none ↔
        row.entries.map Entry.kind = schema.columns.map Column.kind :=
      firstMismatch?_eq_none_iff sizes
    cases mismatch : firstMismatch? row.entries schema.columns with
    | none => exact iff_of_true rfl (kinds.mp mismatch)
    | some problem =>
        rw [mismatch] at kinds
        exact iff_of_false nofun fun conforms => by cases kinds.mpr conforms
  · rw [if_pos sizes]
    exact iff_of_false nofun fun conforms => sizes conforms.size_eq

/-- A row is taken in exactly when it conforms, and then it stands at the end. -/
theorem ingest_eq_ok_iff {store grown : Store} {row : Row} :
    store.ingest row = .ok grown ↔
      row.Conforms store.schema ∧ grown = { store with rows := store.rows ++ [row] } := by
  rw [← validate_eq_ok_iff]
  unfold ingest
  cases validate store.schema row with
  | error problem => simp
  | ok _ => simp [eq_comm]

theorem ingestAll_eq_ok_iff {store grown : Store} {rows : List Row} :
    store.ingestAll rows = .ok grown ↔
      (∀ row ∈ rows, row.Conforms store.schema) ∧
        grown = { store with rows := store.rows ++ rows } := by
  induction rows generalizing store with
  | nil => simp [ingestAll, eq_comm]
  | cons row rows ih =>
      rw [ingestAll]
      cases taken : store.ingest row with
      | error problem =>
          have refused : ¬ row.Conforms store.schema :=
            Outcome.not_of_error taken fun conforms => ⟨_, ingest_eq_ok_iff.mpr ⟨conforms, rfl⟩⟩
          simp [refused]
      | ok next =>
          obtain ⟨conforms, rfl⟩ := ingest_eq_ok_iff.mp taken
          simp [ih, conforms]

end Store

/-! ## Lookups

Schemas that are built have every name once, and then a name and a position
determine each other. The positions can also be kept in a map by name, which is
filled column by column and refuses a name that it holds already: it is filled
for exactly the columns that make a schema, and finds what the schema finds. -/

namespace Schema

private theorem repeated?_eq_none_iff {seen : List String} {columns : List Column} :
    repeated? seen columns = none ↔
      (columns.map Column.name).Nodup ∧ ∀ name ∈ columns.map Column.name, name ∉ seen := by
  induction columns generalizing seen with
  | nil => simp [repeated?]
  | cons column columns ih =>
      rw [repeated?, List.map_cons, List.nodup_cons, List.forall_mem_cons]
      by_cases present : column.name ∈ seen
      · simp [present]
      · rw [if_neg present, ih]
        simp only [List.mem_cons, not_or]
        constructor
        · rintro ⟨nodup, new⟩
          exact ⟨⟨fun member => (new _ member).1 rfl, nodup⟩, present,
            fun name member => (new name member).2⟩
        · rintro ⟨⟨fresh, nodup⟩, _, new⟩
          refine ⟨nodup, fun name member => ⟨?_, new name member⟩⟩
          rintro rfl
          exact fresh member

/-- Columns make a schema exactly when their names differ. -/
theorem ofColumns_eq_ok_iff {columns : List Column} {schema : Schema} :
    ofColumns columns = .ok schema ↔ (columns.map Column.name).Nodup ∧ schema = ⟨columns⟩ := by
  have unseen : repeated? [] columns = none ↔ (columns.map Column.name).Nodup := by
    rw [repeated?_eq_none_iff]
    simp
  rw [← unseen]
  unfold ofColumns
  cases repeated? [] columns with
  | none => simp [eq_comm]
  | some name => simp

theorem wellFormed_of_ofColumns {columns : List Column} {schema : Schema}
    (made : ofColumns columns = .ok schema) : schema.WellFormed := by
  obtain ⟨nodup, rfl⟩ := ofColumns_eq_ok_iff.mp made
  exact nodup

theorem wellFormed_of_withColumn {schema wider : Schema} {name : String} {kind : Kind}
    (made : schema.withColumn name kind = .ok wider) : wider.WellFormed :=
  wellFormed_of_ofColumns made

/-- A name is found at the position where its column stands, and nowhere else. -/
theorem WellFormed.indexOf?_eq_some_iff {schema : Schema} (wellFormed : schema.WellFormed)
    {name : String} {index : Nat} :
    schema.indexOf? name = some index ↔ schema.names[index]? = some name := by
  have atPosition {index : Nat} (found : schema.indexOf? name = some index) :
      schema.names[index]? = some name := by
    obtain ⟨kind, column, _⟩ := exists_hasColumn found
    rw [names, List.getElem?_map, column.2, Option.map_some]
  refine ⟨atPosition, ?_⟩
  intro stands
  obtain ⟨found, first⟩ := mem_names_iff.mp (List.mem_of_getElem? stands)
  have within : found < schema.names.length :=
    (List.getElem?_eq_some_iff.mp (atPosition first)).1
  have same : found = index :=
    (List.getElem?_inj within wellFormed).mp ((atPosition first).trans stands.symm)
  rw [first, same]

theorem WellFormed.exists_hasColumn_of_mem {schema : Schema} (wellFormed : schema.WellFormed)
    {column : Column} (member : column ∈ schema.columns) :
    ∃ index, schema.HasColumn index column.name column.kind := by
  obtain ⟨index, stands⟩ := List.mem_iff_getElem?.mp member
  refine ⟨index, wellFormed.indexOf?_eq_some_iff.mpr ?_, stands⟩
  rw [names, List.getElem?_map, stands, Option.map_some]

/-! ### The index of a schema -/

/-- Puts columns into an index of positions by name, the first of them at a
position. A name that is in the index already is refused. -/
def fillIndex (index : OrderedMap String Nat) (position : Nat) :
    List Column → Except SchemaError (OrderedMap String Nat)
  | [] => .ok index
  | column :: columns =>
      match index.find? column.name with
      | some _ => .error (.duplicateColumn column.name)
      | none => fillIndex (index.insert column.name position) (position + 1) columns

/-- The index is refused exactly where the columns make no schema, and for the
same name. -/
theorem fillIndex_eq_error_iff {index : OrderedMap String Nat} {position : Nat}
    {columns : List Column} {seen : List String}
    (holds : ∀ name, name ∈ seen ↔ ∃ found, index.find? name = some found)
    {problem : SchemaError} :
    fillIndex index position columns = .error problem ↔
      (repeated? seen columns).map SchemaError.duplicateColumn = some problem := by
  induction columns generalizing index position seen with
  | nil => simp [fillIndex, repeated?]
  | cons column columns ih =>
      rw [fillIndex, repeated?]
      cases found : index.find? column.name with
      | some other =>
          rw [if_pos ((holds column.name).mpr ⟨other, found⟩)]
          simp
      | none =>
          have new : column.name ∉ seen := by
            intro present
            obtain ⟨other, there⟩ := (holds column.name).mp present
            rw [found] at there
            cases there
          rw [if_neg new]
          apply ih
          intro name
          rw [List.mem_cons, OrderedMap.find?_insert]
          by_cases same : name = column.name
          · simp [same]
          · simp [same, holds]

theorem find?_of_fillIndex {index filled : OrderedMap String Nat} {position : Nat}
    {columns : List Column} (made : fillIndex index position columns = .ok filled)
    {name : String} {place : Nat} :
    filled.find? name = some place ↔ index.find? name = some place ∨
      ∃ offset, place = position + offset ∧ (columns.map Column.name)[offset]? = some name := by
  induction columns generalizing index position with
  | nil =>
      cases made
      simp
  | cons column columns ih =>
      rw [fillIndex] at made
      cases found : index.find? column.name with
      | some other => simp [found] at made
      | none =>
          simp only [found] at made
          have own : (index.insert column.name position).find? name = some place ↔
              index.find? name = some place ∨ place = position ∧ name = column.name := by
            rw [OrderedMap.find?_insert]
            by_cases same : name = column.name
            · simp [same, found, eq_comm]
            · simp [same]
          have split : (∃ offset, place = position + offset ∧
                ((column :: columns).map Column.name)[offset]? = some name) ↔
              place = position ∧ name = column.name ∨
                ∃ offset, place = position + 1 + offset ∧
                  (columns.map Column.name)[offset]? = some name := by
            constructor
            · rintro ⟨offset, rfl, stands⟩
              cases offset with
              | zero => exact Or.inl ⟨rfl, (Option.some.inj stands).symm⟩
              | succ offset => exact Or.inr ⟨offset, by omega, stands⟩
            · rintro (⟨rfl, rfl⟩ | ⟨offset, rfl, stands⟩)
              · exact ⟨0, rfl, rfl⟩
              · exact ⟨offset + 1, by omega, stands⟩
          rw [ih made, own, split, or_assoc]

/-- The index of a schema is filled without a refusal and finds the names at
their positions. -/
theorem WellFormed.exists_index {schema : Schema} (wellFormed : schema.WellFormed) :
    ∃ index, fillIndex OrderedMap.empty 0 schema.columns = .ok index ∧
      ∀ name position, index.find? name = some position ↔
        schema.names[position]? = some name := by
  have nothing (name : String) (found : Nat) :
      (OrderedMap.empty : OrderedMap String Nat).find? name ≠ some found := nofun
  cases made : fillIndex OrderedMap.empty 0 schema.columns with
  | error problem =>
      have repeats : (repeated? [] schema.columns).map SchemaError.duplicateColumn = some problem :=
        (fillIndex_eq_error_iff (by simp [nothing])).mp made
      have unseen : repeated? [] schema.columns = none :=
        repeated?_eq_none_iff.mpr ⟨wellFormed, fun _ _ => List.not_mem_nil⟩
      rw [unseen] at repeats
      cases repeats
  | ok index =>
      refine ⟨index, rfl, ?_⟩
      intro name position
      rw [find?_of_fillIndex made, or_iff_right (nothing name position)]
      simp [names]

end Schema

/-! ## Joining and widening

Stores that are added to, and stores made out of others. A row that is added is
checked. Joining takes rows in without a check, for it looks at the schemas
alone, and widening adds a cell to every row; the rows fit the new store all the
same. -/

namespace Store

theorem wellFormed_empty {schema : Schema} (wellFormed : schema.WellFormed) :
    (empty schema).WellFormed :=
  ⟨wellFormed, fun _ absent => nomatch absent⟩

theorem WellFormed.ingest {store grown : Store} (wellFormed : store.WellFormed) {row : Row}
    (taken : store.ingest row = .ok grown) : grown.WellFormed := by
  obtain ⟨conforms, rfl⟩ := ingest_eq_ok_iff.mp taken
  refine ⟨wellFormed.1, List.forall_mem_append.mpr ⟨wellFormed.2, ?_⟩⟩
  exact List.forall_mem_singleton.mpr conforms

theorem correctBalance_cases {store corrected : Store} {bank account : String}
    {reported : Decimal} {fallback : Date} {added : Bool}
    (succeeded : store.correctBalance bank account reported fallback = .ok (corrected, added)) :
    (corrected = store ∧ added = false) ∨
      (∃ row, store.ingest row = .ok corrected) ∧ added = true := by
  unfold correctBalance at succeeded
  split at succeeded
  · cases succeeded
  · split at succeeded
    · cases succeeded
    · split at succeeded
      · cases succeeded
        exact Or.inl ⟨rfl, rfl⟩
      · split at succeeded
        · cases succeeded
        · split at succeeded
          · cases succeeded
          · rename_i taken
            cases succeeded
            exact Or.inr ⟨⟨_, taken⟩, rfl⟩

theorem WellFormed.correctBalance {store corrected : Store} (wellFormed : store.WellFormed)
    {bank account : String} {reported : Decimal} {fallback : Date} {added : Bool}
    (succeeded : store.correctBalance bank account reported fallback = .ok (corrected, added)) :
    corrected.WellFormed := by
  rcases correctBalance_cases succeeded with ⟨rfl, _⟩ | ⟨⟨row, taken⟩, _⟩
  · exact wellFormed
  · exact wellFormed.ingest taken

private theorem all_schema_iff {schema : Schema} {stores : List Store} :
    (stores.all fun store => store.schema == schema) = true ↔
      ∀ store ∈ stores, store.schema = schema := by
  simp only [List.all_eq_true, beq_iff_eq]

/-- Stores are joined exactly when all have the schema. -/
theorem concat_eq_ok_iff {schema : Schema} {stores : List Store} {joined : Store} :
    concat schema stores = .ok joined ↔
      (∀ store ∈ stores, store.schema = schema) ∧ joined = ⟨schema, stores.flatMap rows⟩ := by
  rw [← all_schema_iff]
  unfold concat
  split
  · rename_i all
    rw [Except.ok.injEq, and_iff_right all, eq_comm]
  · rename_i other
    simp [other]

theorem concat_eq_error_iff {schema : Schema} {stores : List Store} {problem : SchemaError} :
    concat schema stores = .error problem ↔
      (∃ store ∈ stores, store.schema ≠ schema) ∧ problem = .schemaMismatch := by
  have other : (∃ store ∈ stores, store.schema ≠ schema) ↔
      ¬ ∀ store ∈ stores, store.schema = schema := by
    simp only [ne_eq, Classical.not_forall, exists_prop]
  rw [other, ← all_schema_iff]
  unfold concat
  split
  · rename_i all
    simp [all]
  · rename_i differs
    rw [Except.error.injEq, and_iff_right differs, eq_comm]

theorem conform_flatMap {schema : Schema} {stores : List Store}
    (ofSchema : ∀ store ∈ stores, store.schema = schema)
    (conform : ∀ store ∈ stores, ∀ row ∈ store.rows, row.Conforms store.schema) :
    ∀ row ∈ stores.flatMap rows, row.Conforms schema := by
  intro row member
  obtain ⟨store, present, inStore⟩ := List.mem_flatMap.mp member
  rw [← ofSchema store present]
  exact conform store present row inStore

theorem WellFormed.concat {schema : Schema} (wellFormed : schema.WellFormed)
    {stores : List Store} (allWellFormed : ∀ store ∈ stores, store.WellFormed) {joined : Store}
    (succeeded : Store.concat schema stores = .ok joined) : joined.WellFormed := by
  obtain ⟨ofSchema, rfl⟩ := concat_eq_ok_iff.mp succeeded
  exact ⟨wellFormed, conform_flatMap ofSchema fun store present => (allWellFormed store present).2⟩

theorem conform_extended {schema : Schema} {rows : List Row} (name : String) (default : Entry)
    (conform : ∀ row ∈ rows, row.Conforms schema) :
    ∀ row ∈ rows.map fun row => row.extended default,
      row.Conforms ⟨schema.columns ++ [⟨name, default.kind⟩]⟩ := by
  intro row member
  obtain ⟨source, present, rfl⟩ := List.mem_map.mp member
  exact (conform source present).extended default name

theorem WellFormed.widen {store wide : Store} (wellFormed : store.WellFormed) {name : String}
    {default : Entry} (succeeded : store.widen name default = .ok wide) : wide.WellFormed := by
  unfold Store.widen at succeeded
  split at succeeded
  · cases succeeded
  · rename_i schema made
    cases succeeded
    refine ⟨Schema.wellFormed_of_withColumn made, ?_⟩
    obtain ⟨_, rfl⟩ := Schema.ofColumns_eq_ok_iff.mp made
    exact conform_extended name default wellFormed.2

end Store

end Passbook
