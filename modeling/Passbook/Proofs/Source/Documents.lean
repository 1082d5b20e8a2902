/-
Configurations and payloads as documents. Each of their records is read back field
by field, a list of them as a whole, and the balances in the order in which the
map holds them. So what a source serves is the payload it was made from.
-/

import Passbook.Proofs.Foundations
import Passbook.Proofs.Json
import Passbook.Proofs.Text
import Passbook.Source.Static

namespace Passbook

/-! ## Objects

A printed field is its key, a colon and its value, with a comma before all but
the first. The reader of a record fills its state field by field, and the reader
of a table puts each entry behind those it has; both leave what follows the
object. -/

namespace Json

def fieldsFrom (first : Bool) : List (String × Value) → List Char
  | [] => []
  | (name, value) :: fields =>
      (if first then [] else [',']) ++
        (quote name ++ ':' :: (value.chars ++ fieldsFrom false fields))

theorem fieldsFrom_first (fields : List (String × Value)) :
    fieldsFrom true fields = fieldsChars fields := by
  induction fields with
  | nil => rfl
  | cons field fields ih =>
      obtain ⟨name, value⟩ := field
      cases fields with
      | nil => simp [fieldsFrom, fieldsChars]
      | cons next fields =>
          have before : fieldsChars ((name, value) :: next :: fields) =
              quote name ++ ':' :: (value.chars ++ ',' :: fieldsChars (next :: fields)) :=
            fieldsChars.eq_def _
          rw [before, ← ih]
          rfl

theorem length_le_fieldsFrom (first : Bool) (fields : List (String × Value)) :
    fields.length ≤ (fieldsFrom first fields).length := by
  induction fields generalizing first with
  | nil => exact Nat.le_refl 0
  | cons field fields ih =>
      have rest := ih false
      simp only [fieldsFrom, List.length_append, List.length_cons]
      omega

namespace Reader

variable {α σ : Type}

/-- The reader gives a value for a document, whatever follows it, and leaves what
follows. -/
def Gives (reader : Reader α) (document : Value) (value : α) : Prop :=
  ∀ rest, reader (pieces document.chars ++ rest) = .ok (value, rest)

theorem document_of_gives {reader : Reader α} {printed : Value} {value : α}
    (gives : reader.Gives printed value) : document reader (pieces printed.chars) = .ok value := by
  have read := gives []
  rw [List.append_nil] at read
  unfold document
  rw [read]
  rfl

theorem bool_takesBack : bool.TakesBack .bool := by
  intro value rest
  cases value <;> rfl

theorem optionalText_takesBack : (optional text).TakesBack .optionalText := by
  intro value rest
  cases value with
  | none => rfl
  | some value =>
      have present : optional text (pieces (Value.optionalText (some value)).chars ++ rest) =
          (text (pieces (Value.text value).chars ++ rest)).map
            fun read => (some read.1, read.2) := rfl
      rw [present, text_takesBack]
      rfl

/-! ### Keys -/

theorem nextKey_first (rest : Input) :
    nextKey true (.char '"' :: rest) = (textToken rest).map fun (name, rest) => (some name, rest) :=
  rfl

theorem nextKey_later (rest : Input) :
    nextKey false (.char ',' :: .char '"' :: rest) =
      (textToken rest).map fun (name, rest) => (some name, rest) :=
  rfl

theorem nextKey_fieldsFrom (first : Bool) (name : String) (value : Value)
    (fields : List (String × Value)) (rest : Input) :
    nextKey first (pieces (fieldsFrom first ((name, value) :: fields)) ++ rest) =
      .ok (some name,
        .char ':' :: (pieces value.chars ++ (pieces (fieldsFrom false fields) ++ rest))) := by
  have printed : pieces (fieldsFrom true ((name, value) :: fields)) ++ rest =
      .char '"' :: (pieces (name.toList.flatMap escape) ++ .char '"' ::
        .char ':' :: (pieces value.chars ++ (pieces (fieldsFrom false fields) ++ rest))) := by
    simp [fieldsFrom, quote, pieces]
  have token := textToken_printed name
    (.char ':' :: (pieces value.chars ++ (pieces (fieldsFrom false fields) ++ rest)))
  cases first with
  | true =>
      rw [printed, nextKey_first, token]
      rfl
  | false =>
      have behind : pieces (fieldsFrom false ((name, value) :: fields)) ++ rest =
          .char ',' :: (pieces (fieldsFrom true ((name, value) :: fields)) ++ rest) := rfl
      rw [behind, printed, nextKey_later, token]
      rfl

theorem colon_printed (rest : Input) : colon (.char ':' :: rest) = .ok rest :=
  rfl

theorem skipBlanks_brace (rest : Input) :
    skipBlanks (.char '\x7b' :: rest) = .char '\x7b' :: rest :=
  rfl

theorem pieces_object (fields : List (String × Value)) (rest : Input) :
    pieces (Value.object fields).chars ++ rest =
      .char '\x7b' :: (pieces (fieldsFrom true fields) ++ .char '\x7d' :: rest) := by
  have closed : (Value.object fields).chars = '\x7b' :: (fieldsChars fields ++ ['\x7d']) :=
    Value.chars.eq_def _
  rw [closed, fieldsFrom_first]
  simp [pieces]

/-- The steps that are allowed are as many as the characters, of which every field
has some. -/
theorem length_lt_of_printed (first : Bool) (fields : List (String × Value)) (rest : Input) :
    fields.length < (pieces (fieldsFrom first fields) ++ rest).length + 1 := by
  have long := length_le_fieldsFrom first fields
  rw [List.length_append, pieces, List.length_map]
  omega

/-! ### Records -/

theorem Field.of_gives {name : String} {place : σ → Option α} {store : σ → α → σ}
    {reader : Reader α} {document : Value} {value : α} (gives : reader.Gives document value)
    (state : σ) :
    ((Field.of name place store reader).read state).Gives document (store state value) := by
  intro rest
  unfold Field.of
  dsimp only
  rw [gives]
  rfl

/-- Printed fields bring a record from one state to another: each is a field of the
record that is not read yet. -/
inductive Fills (fields : List (Field σ)) : σ → List (String × Value) → σ → Prop where
  | done (state : σ) : Fills fields state [] state
  | field {state between after : σ} {name : String} {document : Value}
      {printed : List (String × Value)} {field : Field σ}
      (named : (fields.find? fun field => field.name == name) = some field)
      (unread : field.isRead state = false)
      (gives : (field.read state).Gives document between)
      (later : Fills fields between printed after) :
      Fills fields state ((name, document) :: printed) after

theorem fieldsByName_printed {fields : List (Field σ)} {state after : σ}
    {printed : List (String × Value)} (fills : Fills fields state printed after) {fuel : Nat}
    (enough : printed.length < fuel) (first : Bool) (rest : Input) :
    fieldsByName fields fuel first state
      (pieces (fieldsFrom first printed) ++ .char '\x7d' :: rest) = .ok (after, rest) := by
  induction fills generalizing fuel first with
  | done state =>
      obtain ⟨fuel, rfl⟩ := Nat.exists_eq_add_of_lt enough
      rfl
  | field named unread gives later ih =>
      cases fuel with
      | zero => cases enough
      | succ fuel =>
          rw [fieldsByName, nextKey_fieldsFrom]
          dsimp only
          rw [named]
          dsimp only
          rw [unread, if_neg Bool.false_ne_true, colon_printed]
          dsimp only
          rw [gives]
          exact ih (Nat.lt_of_succ_lt_succ enough) false

theorem record_gives {fields : List (Field σ)} {start state : σ} {finish : σ → Option α}
    {printed : List (String × Value)} {value : α} (fills : Fills fields start printed state)
    (made : finish state = some value) :
    (record fields start finish).Gives (.object printed) value := by
  intro rest
  have enough := length_lt_of_printed true printed (.char '\x7d' :: rest)
  have read := fieldsByName_printed fills enough true rest
  unfold record
  simp only [pieces_object, skipBlanks_brace, read, made]

/-! ### Tables -/

theorem entries_printed {reader : Reader α} {print : α → Value}
    (takesBack : reader.TakesBack print) (found pairs : List (String × α))
    (ascending : OrderedMap.Ascending ⟨found ++ pairs⟩) {fuel : Nat}
    (enough : pairs.length < fuel) (first : Bool) (rest : Input) :
    entries reader fuel first ⟨found⟩
      (pieces (fieldsFrom first (pairs.map fun (key, value) => (key, print value))) ++
        .char '\x7d' :: rest) = .ok (⟨found ++ pairs⟩, rest) := by
  induction pairs generalizing found fuel first with
  | nil =>
      obtain ⟨fuel, rfl⟩ := Nat.exists_eq_add_of_lt enough
      rw [List.append_nil]
      rfl
  | cons pair pairs ih =>
      obtain ⟨key, value⟩ := pair
      cases fuel with
      | zero => cases enough
      | succ fuel =>
          have after : ∀ earlier ∈ (OrderedMap.mk found).pairs, compare earlier.1 key = .lt := by
            intro earlier member
            exact (List.pairwise_append.mp ascending).2.2 earlier member _ List.mem_cons_self
          have behind := OrderedMap.insert_of_after after value
          have together : found ++ (key, value) :: pairs = found ++ [(key, value)] ++ pairs := by
            rw [List.append_assoc, List.singleton_append]
          rw [together] at ascending ⊢
          rw [List.map_cons, entries, nextKey_fieldsFrom]
          dsimp only
          rw [colon_printed]
          dsimp only
          rw [takesBack]
          dsimp only
          rw [behind]
          exact ih _ ascending (Nat.lt_of_succ_lt_succ enough) false

theorem table_gives {reader : Reader α} {print : α → Value} (takesBack : reader.TakesBack print)
    {map : OrderedMap String α} (ascending : map.Ascending) :
    (table reader).Gives (.object (map.pairs.map fun (key, value) => (key, print value))) map := by
  intro rest
  have enough := length_lt_of_printed true
    (map.pairs.map fun (key, value) => (key, print value)) (.char '\x7d' :: rest)
  rw [List.length_map] at enough
  rw [pieces_object]
  unfold table
  rw [skipBlanks_brace]
  exact entries_printed takesBack [] map.pairs ascending enough true rest

end Reader

end Json

/-! ## Configurations and payloads -/

open Json.Reader

theorem ConfigField.reader_takesBack : ConfigField.reader.TakesBack ConfigField.toJson := by
  intro field
  apply record_gives
  case fills =>
    apply Fills.field rfl rfl (Field.of_gives (bool_takesBack _) _)
    apply Fills.field rfl rfl (Field.of_gives (text_takesBack _) _)
    apply Fills.field rfl rfl (Field.of_gives (optionalText_takesBack _) _)
    exact Fills.done _
  case made => rfl

theorem SourceConfig.reader_takesBack : SourceConfig.reader.TakesBack SourceConfig.toJson := by
  intro config
  apply record_gives
  case fills =>
    apply Fills.field rfl rfl (Field.of_gives (text_takesBack _) _)
    apply Fills.field rfl rfl (Field.of_gives (list_takesBack ConfigField.reader_takesBack _) _)
    exact Fills.done _
  case made => rfl

theorem StaticTransaction.reader_takesBack :
    StaticTransaction.reader.TakesBack StaticTransaction.toJson := by
  intro transaction
  apply record_gives
  case fills =>
    apply Fills.field rfl rfl (Field.of_gives (text_takesBack _) _)
    apply Fills.field rfl rfl (Field.of_gives (text_takesBack _) _)
    apply Fills.field rfl rfl (Field.of_gives (text_takesBack _) _)
    apply Fills.field rfl rfl (Field.of_gives (text_takesBack _) _)
    apply Fills.field rfl rfl (Field.of_gives (text_takesBack _) _)
    exact Fills.done _
  case made => rfl

/-- The balances have to stand in order, for the reader puts them in order. -/
theorem StaticPayload.reader_gives {payload : StaticPayload}
    (ascending : payload.balances.Ascending) :
    StaticPayload.reader.Gives payload.toJson payload := by
  apply record_gives
  case fills =>
    apply Fills.field rfl rfl (Field.of_gives (texts_takesBack _) _)
    apply Fills.field rfl rfl
      (Field.of_gives (list_takesBack StaticTransaction.reader_takesBack _) _)
    apply Fills.field rfl rfl (Field.of_gives (table_gives text_takesBack ascending) _)
    apply Fills.field rfl rfl (Field.of_gives (optionalText_takesBack _) _)
    exact Fills.done _
  case made => rfl

theorem SourceConfig.ofJsonText_toJsonText (config : SourceConfig) :
    SourceConfig.ofJsonText config.toJsonText = .ok config := by
  unfold SourceConfig.ofJsonText SourceConfig.toJsonText Json.Value.toText
  rw [String.toList_ofList]
  exact document_of_gives (SourceConfig.reader_takesBack config)

theorem StaticPayload.decode_encode {payload : StaticPayload}
    (ascending : payload.balances.Ascending) : decode payload.encode = .ok payload := by
  unfold StaticPayload.decode StaticPayload.encode
  rw [Text.Utf8.decode_encode]
  exact document_of_gives (StaticPayload.reader_gives ascending)

/-- Configurations are read back from their documents. A source serves the payload
it was made from, and the accounts parsed from what it serves are the payload's,
each once. -/
theorem StaticSource.documents_read_back :
    (∀ config : SourceConfig, SourceConfig.ofJsonText config.toJsonText = .ok config) ∧
    ∀ (name : String) (payload : StaticPayload), payload.balances.Ascending →
      ∀ config : SourceConfig, config.bank = name →
        ∃ raw, (StaticSource.ofPayload name payload).fetch config = .ok raw ∧
          (StaticSource.ofPayload name payload).decode raw = .ok payload ∧
          ∃ accounts, (StaticSource.ofPayload name payload).parseAccounts raw = .ok accounts ∧
            accounts.Ascending ∧
            ∀ account, accounts.contains account = true ↔ account ∈ payload.accounts := by
  refine ⟨SourceConfig.ofJsonText_toJsonText, ?_⟩
  intro name payload ascending config own
  have decoded : (StaticSource.ofPayload name payload).decode payload.encode = .ok payload := by
    unfold StaticSource.decode
    rw [StaticPayload.decode_encode ascending]
  have accountsAscend := OrderedSet.ascending_ofList payload.accounts
  refine ⟨payload.encode, ?_, decoded, OrderedSet.ofList payload.accounts, ?_, accountsAscend, ?_⟩
  · have asked : ¬ config.bank ≠ (StaticSource.ofPayload name payload).name := not_not_intro own
    unfold StaticSource.fetch
    rw [if_neg asked]
    rfl
  · unfold StaticSource.parseAccounts
    rw [decoded]
  · intro account
    rw [OrderedSet.contains_iff_mem accountsAscend, OrderedSet.mem_ofList]

def StaticPayload.quoted : StaticPayload where
  accounts := ["\"joint\"", "caf\u00e9", "\"joint\""]
  transactions := [⟨"caf\u00e9", "\"joint\"", "2021/03/01", "rent\n\\ \u20ac 😀", "$12.50"⟩]
  balances := ⟨[("\"joint\"", "12.50"), ("caf\u00e9", "-12.50\x01")]⟩
  asOf := none

theorem StaticSource.documents_read_back_quoted :
    ∃ raw, (StaticSource.ofPayload "tab\t" StaticPayload.quoted).fetch ⟨"tab\t", []⟩ = .ok raw ∧
      (StaticSource.ofPayload "tab\t" StaticPayload.quoted).decode raw =
        .ok StaticPayload.quoted ∧
      ∃ accounts, (StaticSource.ofPayload "tab\t" StaticPayload.quoted).parseAccounts raw =
          .ok accounts ∧ accounts.Ascending ∧
        ∀ account, accounts.contains account = true ↔ account ∈ StaticPayload.quoted.accounts := by
  have ascending : StaticPayload.quoted.balances.Ascending := by
    unfold OrderedMap.Ascending
    decide +kernel
  exact StaticSource.documents_read_back.2 _ _ ascending ⟨"tab\t", []⟩ rfl

end Passbook
