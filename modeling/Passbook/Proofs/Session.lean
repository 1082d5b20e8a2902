/-
Sessions: schemas and stores that are made, added to and combined by commands in
any order and with any arguments. Most commands make something new; adding a row
and correcting a balance change a store in place, and what they leave behind
when they fail is part of what they do. Whatever commands are given, no session
ever holds a schema with a name twice or a row that does not fit its store.
-/

import Passbook.Proofs.Reconcile.Reconciled
import Passbook.Proofs.Rule.Evaluation
import Passbook.Proofs.Store
import Passbook.Reconcile.Flow

namespace Passbook

/-! ## Cells

Every cell that is looked at is there. What a schema finds by name lies within
each row that fits it, so that no computation over the rows of a store runs into
a missing cell; the sums can fail for their size alone. -/

theorem Row.Conforms.lt_size {row : Row} {schema : Schema} (conforms : row.Conforms schema)
    {name : String} {index : Nat} (required : schema.require name = .ok index) :
    index < row.size := by
  obtain ⟨kind, column, _⟩ := Schema.exists_hasColumn (Schema.require_eq_ok_iff.mp required)
  obtain ⟨entry, cell, _⟩ := conforms.get? column
  exact (List.getElem?_eq_some_iff.mp cell).1

namespace Store

variable {store : Store}

private theorem overflow_of_settleAll {account : String} {origin destination amount : Nat}
    {rows : List Row} (complete : ∀ row ∈ rows, ∃ movement,
      Movement.ofRow? origin destination amount row = some movement)
    {balance : Decimal} {fault : Fault}
    (failed : settleAll account origin destination amount balance rows = .error fault) :
    fault = .overflow := by
  induction rows generalizing balance with
  | nil => cases failed
  | cons row rows ih =>
      obtain ⟨here, later⟩ := List.forall_mem_cons.mp complete
      obtain ⟨movement, read⟩ := here
      rw [settleAll, read] at failed
      dsimp only at failed
      split at failed
      · cases failed
        rfl
      · exact ih later failed

theorem balance_ne_missingCell (conform : ∀ row ∈ store.rows, row.Conforms store.schema)
    (account : String) : store.balance account ≠ .error (.fault .missingCell) := by
  intro failed
  unfold balance at failed
  split at failed
  · cases failed
  · cases failed
  · cases failed
  · rename_i origin destination amount atOrigin atDestination atAmount
    rw [Schema.require_eq_ok_iff] at atOrigin atDestination atAmount
    split at failed
    · rename_i fault settled
      cases failed
      refine nomatch overflow_of_settleAll ?_ settled
      intro row member
      obtain ⟨movement, _, read, _⟩ :=
        exists_movement (conform row member) atOrigin atDestination atAmount
      exact ⟨movement, read⟩
    · cases failed

theorem oldestDate?_ne_missingCell (conform : ∀ row ∈ store.rows, row.Conforms store.schema) :
    store.oldestDate? ≠ .error (.fault .missingCell) := by
  intro failed
  unfold oldestDate? at failed
  split at failed
  · cases failed
  · rename_i index required
    split at failed
    · cases failed
    · rename_i missing
      apply missing
      rw [List.all_eq_true]
      intro row member
      exact decide_eq_true ((conform row member).lt_size required)

theorem correctBalance_ne_missingCell
    (conform : ∀ row ∈ store.rows, row.Conforms store.schema) (bank account : String)
    (reported : Decimal) (fallback : Date) :
    store.correctBalance bank account reported fallback ≠ .error (.fault .missingCell) := by
  intro failed
  unfold correctBalance at failed
  split at failed
  · rename_i problem unbalanced
    cases failed
    exact balance_ne_missingCell conform account unbalanced
  · split at failed
    · cases failed
    · split at failed
      · cases failed
      · split at failed
        · rename_i problem undated
          cases failed
          exact oldestDate?_ne_missingCell conform undated
        · split at failed <;> cases failed

theorem accountFlows_ne_missingCell (conform : ∀ row ∈ store.rows, row.Conforms store.schema)
    (banks : BankAccounts) : store.accountFlows banks ≠ .error (.fault .missingCell) := by
  intro failed
  unfold accountFlows at failed
  split at failed
  · cases failed
  · rename_i columns found
    obtain ⟨reports, read⟩ :=
      Report.exists_ofRows? (ReportColumns.ofSchema_eq_ok_iff.mp found) conform
    rw [read] at failed
    dsimp only at failed
    split at failed <;> cases failed

theorem deduplicate_ne_missingCell (conform : ∀ row ∈ store.rows, row.Conforms store.schema)
    (banks : BankAccounts) : store.deduplicate banks ≠ .error (.fault .missingCell) := by
  intro failed
  cases found : ReportColumns.ofSchema store.schema with
  | error problem =>
      unfold deduplicate at failed
      rw [found] at failed
      cases failed
  | ok columns =>
      have present := ReportColumns.ofSchema_eq_ok_iff.mp found
      exact isRefusal_of_deduplicate present conform failed

end Store

/-! ## Commands -/

namespace Store

/-! ### Changes in place -/

/-- What changes a store in place. It returns something or fails, and leaves a
store behind in either case. -/
abbrev Change (ε α : Type) : Type :=
  ExceptT ε (StateM Store) α

def pushRow (row : Row) : Change SchemaError Unit := do
  let store ← get
  validate store.schema row
  set { store with rows := store.rows ++ [row] }

def pushCorrection (bank account : String) (reported : Decimal) (fallback : Date) :
    Change BalanceError Bool := do
  let store ← get
  let computed ← store.balance account
  match reported.sub? computed with
  | none => throw (.fault .overflow)
  | some difference =>
      if difference.isZero then return false
      let date ← store.oldestDate?
      (pushRow (correctionRow bank account difference (date.getD fallback))).adapt .schema
      return true

section Running

variable {ε α β : Type}

private theorem run_get (store : Store) :
    (get : Change ε Store).run store = (.ok store, store) :=
  rfl

private theorem run_lift (result : Except ε α) (store : Store) :
    (liftM result : Change ε α).run store = (result, store) := by
  cases result <;> rfl

private theorem run_adapt {ε' : Type} (change : Change ε α) (report : ε → ε') (store : Store) :
    (change.adapt report : Change ε' α).run store =
      ((change.run store).1.mapError report, (change.run store).2) :=
  rfl

private theorem run_bind (first : Change ε α) (next : α → Change ε β) (store : Store) :
    (first >>= next).run store =
      match first.run store with
      | (.error problem, left) => (.error problem, left)
      | (.ok value, left) => (next value).run left := by
  have chained : (first >>= next).run store =
      match first.run store with
      | (result, left) => ExceptT.bindCont next result left := rfl
  rw [chained]
  obtain ⟨result, left⟩ := first.run store
  cases result <;> rfl

end Running

/-- In place a row is added like anywhere else, and a row that does not fit
leaves the store as it was. -/
theorem run_pushRow (row : Row) (store : Store) :
    (pushRow row).run store =
      match store.ingest row with
      | .error problem => (.error problem, store)
      | .ok grown => (.ok (), grown) := by
  unfold pushRow ingest
  rw [run_bind, run_get]
  dsimp only
  rw [run_bind, run_lift]
  cases validate store.schema row <;> rfl

theorem run_pushCorrection (bank account : String) (reported : Decimal) (fallback : Date)
    (store : Store) :
    (pushCorrection bank account reported fallback).run store =
      match store.correctBalance bank account reported fallback with
      | .error problem => (.error problem, store)
      | .ok (corrected, added) => (.ok added, corrected) := by
  unfold pushCorrection correctBalance
  rw [run_bind, run_get]
  dsimp only
  rw [run_bind, run_lift]
  cases store.balance account with
  | error problem => rfl
  | ok computed =>
      dsimp only
      cases reported.sub? computed with
      | none => rfl
      | some difference =>
          dsimp only
          split
          · rfl
          · rw [run_bind, run_lift]
            cases store.oldestDate? with
            | error problem => rfl
            | ok date =>
                dsimp only
                rw [run_bind, run_adapt, run_pushRow]
                cases store.ingest
                  (correctionRow bank account difference (date.getD fallback)) <;> rfl

theorem pushRow_failed {row : Row} {store : Store} {problem : SchemaError}
    (failed : ((pushRow row).run store).1 = .error problem) :
    ((pushRow row).run store).2 = store := by
  rw [run_pushRow] at failed ⊢
  cases taken : store.ingest row with
  | error _ => rfl
  | ok grown =>
      rw [taken] at failed
      cases failed

theorem pushCorrection_failed {bank account : String} {reported : Decimal} {fallback : Date}
    {store : Store} {problem : BalanceError}
    (failed : ((pushCorrection bank account reported fallback).run store).1 = .error problem) :
    ((pushCorrection bank account reported fallback).run store).2 = store := by
  rw [run_pushCorrection] at failed ⊢
  cases corrected : store.correctBalance bank account reported fallback with
  | error _ => rfl
  | ok result =>
      rw [corrected] at failed
      cases failed

end Store

/-! ## Commands -/

/-- The schemas and the stores that were made so far. -/
structure Session where
  schemas : List Schema
  stores : List Store

namespace Session

inductive Failure where
  | schema (problem : SchemaError)
  | dedup (error : DedupError)
  | balance (error : BalanceError)
  /-- There is no schema or store of a number. -/
  | absent

/-- Commands name schemas and stores by their numbers. Rules are bound to any
schema, whatever schema they were checked against. -/
inductive Command where
  | columns (columns : List Column)
  | base
  | categorized
  | withColumn (schema : Nat) (name : String) (kind : Kind)
  | schemaOf (store : Nat)
  | empty (schema : Nat)
  | ingest (store : Nat) (row : Row)
  | concat (schema : Nat) (stores : List Nat)
  | widen (store : Nat) (name : String) (default : Entry)
  | apply (schema : Nat) (rules : List CompiledRule) (store : Nat)
  | deduplicate (store : Nat) (banks : BankAccounts)
  | correct (store : Nat) (bank account : String) (reported : Decimal) (fallback : Date)

def lookup {α : Type} (items : List α) (number : Nat) : Except Failure α :=
  match items[number]? with
  | some item => .ok item
  | none => .error .absent

def lookupAll {α : Type} (items : List α) : List Nat → Except Failure (List α)
  | [] => .ok []
  | number :: numbers => do
      let first ← lookup items number
      let rest ← lookupAll items numbers
      return first :: rest

def addSchema (session : Session) : Except Failure Schema → Except Failure Unit × Session
  | .error failure => (.error failure, session)
  | .ok schema => (.ok (), { session with schemas := session.schemas ++ [schema] })

def addStore (session : Session) : Except Failure Store → Except Failure Unit × Session
  | .error failure => (.error failure, session)
  | .ok store => (.ok (), { session with stores := session.stores ++ [store] })

/-- Changes a store in place. The session keeps what the change leaves behind,
also when it fails. -/
def change {ε α : Type} (session : Session) (number : Nat) (report : ε → Failure)
    (change : Store.Change ε α) : Except Failure Unit × Session :=
  match session.stores[number]? with
  | none => (.error .absent, session)
  | some store =>
      (((change.run store).1.mapError report).map fun _ => (),
        { session with stores := session.stores.set number (change.run store).2 })

def step (session : Session) : Command → Except Failure Unit × Session
  | .columns columns => session.addSchema ((Schema.ofColumns columns).mapError .schema)
  | .base => session.addSchema (.ok Schema.base)
  | .categorized => session.addSchema (.ok Schema.categorized)
  | .withColumn schema name kind => session.addSchema do
      let schema ← lookup session.schemas schema
      (schema.withColumn name kind).mapError .schema
  | .schemaOf store => session.addSchema ((lookup session.stores store).map Store.schema)
  | .empty schema => session.addStore ((lookup session.schemas schema).map Store.empty)
  | .ingest store row => session.change store .schema (Store.pushRow row)
  | .concat schema stores => session.addStore do
      let schema ← lookup session.schemas schema
      let stores ← lookupAll session.stores stores
      (Store.concat schema stores).mapError .schema
  | .widen store name default => session.addStore do
      let store ← lookup session.stores store
      (store.widen name default).mapError .schema
  | .apply schema rules store => session.addStore do
      let schema ← lookup session.schemas schema
      let store ← lookup session.stores store
      ((CompiledRules.mk schema rules).apply store).map Application.store |>.mapError .schema
  | .deduplicate store banks => session.addStore do
      let store ← lookup session.stores store
      (store.deduplicate banks).mapError .dedup
  | .correct store bank account reported fallback =>
      session.change store .balance (Store.pushCorrection bank account reported fallback)

/-- The session that commands lead to, the failed ones included. -/
def reached (commands : List Command) : Session :=
  commands.foldl (fun session command => (session.step command).2) ⟨[], []⟩

/-! ### What every command keeps -/

/-- Every schema has each name once, and every row fits its store. -/
structure Sound (session : Session) : Prop where
  schemas : ∀ schema ∈ session.schemas, schema.WellFormed
  stores : ∀ store ∈ session.stores, store.WellFormed

variable {session : Session}

theorem mem_of_lookup {α : Type} {items : List α} {number : Nat} {item : α}
    (found : lookup items number = .ok item) : item ∈ items := by
  unfold lookup at found
  split at found
  · rename_i present
    cases found
    exact List.mem_of_getElem? present
  · cases found

theorem mem_of_lookupAll {α : Type} {items chosen : List α} {numbers : List Nat}
    (found : lookupAll items numbers = .ok chosen) : ∀ item ∈ chosen, item ∈ items := by
  induction numbers generalizing chosen with
  | nil =>
      cases found
      exact fun _ absent => (nomatch absent)
  | cons number numbers ih =>
      simp only [lookupAll, Outcome.bind_eq_ok_iff] at found
      obtain ⟨first, here, rest, later, same⟩ := found
      cases same
      exact List.forall_mem_cons.mpr ⟨mem_of_lookup here, ih later⟩

theorem Sound.addSchema (sound : session.Sound) {made : Except Failure Schema}
    (fits : ∀ schema, made = .ok schema → schema.WellFormed) :
    (session.addSchema made).2.Sound := by
  cases made with
  | error failure => exact sound
  | ok schema =>
      refine ⟨List.forall_mem_append.mpr ⟨sound.schemas, ?_⟩, sound.stores⟩
      exact List.forall_mem_singleton.mpr (fits schema rfl)

theorem Sound.addStore (sound : session.Sound) {made : Except Failure Store}
    (fits : ∀ store, made = .ok store → store.WellFormed) :
    (session.addStore made).2.Sound := by
  cases made with
  | error failure => exact sound
  | ok store =>
      refine ⟨sound.schemas, List.forall_mem_append.mpr ⟨sound.stores, ?_⟩⟩
      exact List.forall_mem_singleton.mpr (fits store rfl)

theorem Sound.change {ε α : Type} (sound : session.Sound) (number : Nat) (report : ε → Failure)
    {change : Store.Change ε α}
    (keeps : ∀ store : Store, store.WellFormed → ((change.run store).2 : Store).WellFormed) :
    (session.change number report change).2.Sound := by
  unfold Session.change
  split
  · exact sound
  · rename_i store present
    refine ⟨sound.schemas, ?_⟩
    intro other member
    rcases List.mem_or_eq_of_mem_set member with earlier | rfl
    · exact sound.stores other earlier
    · exact keeps store (sound.stores store (List.mem_of_getElem? present))

theorem wellFormed_pushRow (row : Row) {store : Store} (wellFormed : store.WellFormed) :
    ((Store.pushRow row).run store).2.WellFormed := by
  rw [Store.run_pushRow]
  cases taken : store.ingest row with
  | error problem => exact wellFormed
  | ok grown => exact wellFormed.ingest taken

theorem wellFormed_pushCorrection (bank account : String) (reported : Decimal) (fallback : Date)
    {store : Store} (wellFormed : store.WellFormed) :
    ((Store.pushCorrection bank account reported fallback).run store).2.WellFormed := by
  rw [Store.run_pushCorrection]
  cases corrected : store.correctBalance bank account reported fallback with
  | error problem => exact wellFormed
  | ok result => exact wellFormed.correctBalance corrected

/-- Every command keeps a session sound, with any arguments and also when it
fails. -/
theorem Sound.step (sound : session.Sound) (command : Command) :
    (session.step command).2.Sound := by
  cases command with
  | columns columns =>
      refine sound.addSchema fun schema made => ?_
      exact Schema.wellFormed_of_ofColumns (Outcome.mapError_eq_ok made)
  | base =>
      refine sound.addSchema fun schema made => ?_
      cases made
      exact Schema.base_wellFormed
  | categorized =>
      refine sound.addSchema fun schema made => ?_
      cases made
      exact Schema.categorized_wellFormed
  | withColumn number name kind =>
      refine sound.addSchema fun schema made => ?_
      obtain ⟨narrow, _, wider⟩ := Outcome.bind_eq_ok_iff.mp made
      exact Schema.wellFormed_of_withColumn (Outcome.mapError_eq_ok wider)
  | schemaOf number =>
      refine sound.addSchema fun schema made => ?_
      obtain ⟨store, found, rfl⟩ := Outcome.map_eq_ok made
      exact (sound.stores store (mem_of_lookup found)).1
  | empty number =>
      refine sound.addStore fun store made => ?_
      obtain ⟨schema, found, rfl⟩ := Outcome.map_eq_ok made
      exact Store.wellFormed_empty (sound.schemas schema (mem_of_lookup found))
  | ingest number row => exact sound.change number .schema fun _ => wellFormed_pushRow row
  | concat number numbers =>
      refine sound.addStore fun joined made => ?_
      obtain ⟨schema, found, rest⟩ := Outcome.bind_eq_ok_iff.mp made
      obtain ⟨stores, present, joins⟩ := Outcome.bind_eq_ok_iff.mp rest
      refine Store.WellFormed.concat (sound.schemas schema (mem_of_lookup found)) ?_
        (Outcome.mapError_eq_ok joins)
      exact fun store member => sound.stores store (mem_of_lookupAll present store member)
  | widen number name default =>
      refine sound.addStore fun wide made => ?_
      obtain ⟨store, found, widens⟩ := Outcome.bind_eq_ok_iff.mp made
      exact (sound.stores store (mem_of_lookup found)).widen (Outcome.mapError_eq_ok widens)
  | apply number rules other =>
      refine sound.addStore fun after made => ?_
      obtain ⟨schema, found, rest⟩ := Outcome.bind_eq_ok_iff.mp made
      obtain ⟨store, _, applies⟩ := Outcome.bind_eq_ok_iff.mp rest
      obtain ⟨application, applied, rfl⟩ := Outcome.map_eq_ok (Outcome.mapError_eq_ok applies)
      obtain ⟨_, fit, rfl⟩ := CompiledRules.apply_eq_ok_iff.mp applied
      exact ⟨sound.schemas schema (mem_of_lookup found), List.forall_mem_map.mpr fit⟩
  | deduplicate number banks =>
      refine sound.addStore fun after made => ?_
      obtain ⟨store, found, deduplicates⟩ := Outcome.bind_eq_ok_iff.mp made
      have wellFormed := sound.stores store (mem_of_lookup found)
      exact (wellFormed.deduplicate (Outcome.mapError_eq_ok deduplicates)).2
  | correct number bank account reported fallback =>
      exact sound.change number .balance fun _ =>
        wellFormed_pushCorrection bank account reported fallback

theorem sound_reached (commands : List Command) : (reached commands).Sound := by
  have run (session : Session) (sound : session.Sound) :
      (commands.foldl (fun session command => (session.step command).2) session).Sound := by
    induction commands generalizing session with
    | nil => exact sound
    | cons command commands ih => exact ih _ (sound.step command)
  exact run ⟨[], []⟩ ⟨fun _ absent => (nomatch absent), fun _ absent => (nomatch absent)⟩

/-! ### Commands that fail -/

theorem addSchema_failed {made : Except Failure Schema} {failure : Failure}
    (failed : (session.addSchema made).1 = .error failure) :
    (session.addSchema made).2 = session := by
  cases made with
  | error _ => rfl
  | ok schema => cases failed

theorem addStore_failed {made : Except Failure Store} {failure : Failure}
    (failed : (session.addStore made).1 = .error failure) :
    (session.addStore made).2 = session := by
  cases made with
  | error _ => rfl
  | ok store => cases failed

theorem change_failed {ε α : Type} {number : Nat} {report : ε → Failure}
    {change : Store.Change ε α} {failure : Failure}
    (keeps : ∀ (store : Store) (problem : ε), (change.run store).1 = .error problem →
      (change.run store).2 = store)
    (failed : (session.change number report change).1 = .error failure) :
    (session.change number report change).2 = session := by
  unfold Session.change at failed ⊢
  split
  · rfl
  · rename_i store present
    rw [present] at failed
    dsimp only at failed
    cases result : (change.run store).1 with
    | ok value =>
        rw [result] at failed
        cases failed
    | error problem =>
        obtain ⟨within, same⟩ := List.getElem?_eq_some_iff.mp present
        rw [keeps store problem result, ← same, List.set_getElem_self]

/-- A command that fails leaves the session as it was. -/
theorem step_failed {command : Command} {failure : Failure}
    (failed : (session.step command).1 = .error failure) :
    (session.step command).2 = session := by
  cases command with
  | columns | base | categorized | withColumn | schemaOf => exact addSchema_failed failed
  | empty | concat | widen | apply | deduplicate => exact addStore_failed failed
  | ingest number row => exact change_failed (fun _ _ => Store.pushRow_failed) failed
  | correct number bank account reported fallback =>
      exact change_failed (fun _ _ => Store.pushCorrection_failed) failed

/-! ### Whole sessions -/

/-- Over any commands, with any arguments and any of them failing: in every schema
a name and a position determine each other, also through the index that is
filled with the columns; every row fits its store, and no amount is negative; a
command that fails leaves everything as it was. So no store lacks a cell that is
looked at by name, and reconciling, account flows, balances and corrections find
every cell. -/
theorem reached_keeps (commands : List Command) :
    (∀ schema ∈ (reached commands).schemas ++ (reached commands).stores.map Store.schema,
      schema.names.Nodup ∧
      (∀ name position, schema.indexOf? name = some position ↔
        schema.names[position]? = some name) ∧
      ∃ index, Schema.fillIndex OrderedMap.empty 0 schema.columns = .ok index ∧
        ∀ name, index.find? name = schema.indexOf? name) ∧
    (∀ store ∈ (reached commands).stores,
      (∀ row ∈ store.rows, row.size = store.schema.size ∧ row.Conforms store.schema ∧
        ∀ amount, .dollars amount ∈ row.entries → 0 ≤ amount.amount.coefficient) ∧
      (∀ name position, store.schema.require name = .ok position →
        ∀ row ∈ store.rows, position < row.size) ∧
      ∀ banks account, store.deduplicate banks ≠ .error (.fault .missingCell) ∧
        store.accountFlows banks ≠ .error (.fault .missingCell) ∧
        store.balance account ≠ .error (.fault .missingCell) ∧
        ∀ bank reported fallback, store.correctBalance bank account reported fallback ≠
          .error (.fault .missingCell)) ∧
    ∀ command failure, ((reached commands).step command).1 = .error failure →
      ((reached commands).step command).2 = reached commands := by
  have sound := sound_reached commands
  refine ⟨?_, ?_, fun command failure => step_failed⟩
  · intro schema member
    have wellFormed : schema.WellFormed := by
      rcases List.mem_append.mp member with made | ofStore
      · exact sound.schemas schema made
      · obtain ⟨store, present, rfl⟩ := List.mem_map.mp ofStore
        exact (sound.stores store present).1
    obtain ⟨index, filled, finds⟩ := wellFormed.exists_index
    refine ⟨wellFormed, fun _ _ => wellFormed.indexOf?_eq_some_iff, index, filled, ?_⟩
    intro name
    apply Option.ext
    intro position
    rw [finds, wellFormed.indexOf?_eq_some_iff]
  · intro store present
    have conform := (sound.stores store present).2
    refine ⟨?_, ?_, ?_⟩
    · intro row member
      have conforms := conform row member
      exact ⟨conforms.size_eq, conforms, fun amount _ => amount.nonnegative⟩
    · intro name position required row member
      exact (conform row member).lt_size required
    · intro banks account
      exact ⟨Store.deduplicate_ne_missingCell conform banks,
        Store.accountFlows_ne_missingCell conform banks,
        Store.balance_ne_missingCell conform account,
        fun bank => Store.correctBalance_ne_missingCell conform bank account⟩

example : (reached [.base, .empty 0, .ingest 0 ⟨[.text "Acme"]⟩,
    .widen 0 Schema.category (.text "Unknown"), .withColumn 0 Schema.date .date]).stores =
      [.empty .base, .empty .categorized] := by
  decide +kernel

end Session

end Passbook
