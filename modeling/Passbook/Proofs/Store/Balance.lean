/-
Balances are exact sums. As long as all amounts have at most so many places and
their total stays within the bound of a coefficient, no order of adding them up
overflows or rounds: a balance is what the rows move into an account less what
they move out of it, as whole numbers.
-/

import Mathlib.Algebra.Order.BigOperators.Group.List
import Mathlib.Tactic.Ring
import Passbook.Proofs.Decimal
import Passbook.Proofs.Store
import Passbook.Store

namespace Passbook

/-- How much an amount weighs in units of the last place, whatever its sign. -/
def Decimal.weight (places : Nat) (amount : Decimal) : Nat :=
  (amount.coefficientAt places).natAbs

/-- Decimals of at most so many places whose weights together stay within the
bound of a coefficient, so that sums of any of them are exact. -/
structure Decimal.Summable (places : Nat) (amounts : List Decimal) : Prop where
  scaleBounded : ∀ amount ∈ amounts, amount.scale ≤ places
  totalBounded : (amounts.map (weight places)).sum < coefficientBound

namespace Movement

/-- What a movement brings into an account, in units of the last place. -/
def net (movement : Movement) (places : Nat) (account : String) : Int :=
  (if movement.destination = some account then movement.amount.coefficientAt places else 0) -
    (if movement.origin = some account then movement.amount.coefficientAt places else 0)

theorem natAbs_net_le (movement : Movement) (places : Nat) (account : String) :
    (movement.net places account).natAbs ≤ movement.amount.weight places := by
  unfold net Decimal.weight
  split <;> split <;> omega

private theorem denotes_ite {balance : Decimal} {places : Nat} {value change : Int}
    (denotes : balance.Denotes places value) {p : Prop} [Decidable p] {step : Option Decimal}
    (taken : p → ∃ after, step = some after ∧ after.Denotes places (value + change)) :
    ∃ after, (if p then step else some balance) = some after ∧
      after.Denotes places (value + if p then change else 0) := by
  by_cases holds : p
  · rw [if_pos holds, if_pos holds]
    exact taken holds
  · rw [if_neg holds, if_neg holds, Int.add_zero]
    exact ⟨balance, rfl, denotes⟩

theorem settle?_denotes (movement : Movement) (account : String) {balance : Decimal}
    {places : Nat} {value : Int} (within : movement.amount.scale ≤ places)
    (denotes : balance.Denotes places value)
    (fits : value.natAbs + movement.amount.weight places < Decimal.coefficientBound) :
    ∃ after, movement.settle? account balance = some after ∧
      after.Denotes places (value + movement.net places account) := by
  have amount := Decimal.denotes_coefficientAt within
  unfold Decimal.weight at fits
  obtain ⟨received, added, receivedDenotes⟩ := denotes_ite denotes
    (p := movement.destination = some account) fun _ => denotes.add? amount (by omega)
  obtain ⟨after, sent, afterDenotes⟩ := denotes_ite receivedDenotes
    (p := movement.origin = some account) fun _ => by
      rw [← Int.sub_eq_add_neg]
      refine receivedDenotes.sub? amount ?_
      split <;> omega
  refine ⟨after, ?_, ?_⟩
  · unfold settle?
    dsimp only
    rw [added]
    exact sent
  · have same : value + movement.net places account =
        value + (if movement.destination = some account then
          movement.amount.coefficientAt places else 0) +
        (if movement.origin = some account then -movement.amount.coefficientAt places else 0) := by
      unfold net
      split <;> split <;> omega
    rw [same]
    exact afterDenotes

private theorem sum_named_le {accounts : List String} (nodup : accounts.Nodup)
    (named : Option String) (amount : Nat) :
    (accounts.map fun account => if named = some account then amount else 0).sum ≤ amount := by
  induction accounts with
  | nil => exact Nat.zero_le _
  | cons account accounts ih =>
      obtain ⟨absent, others⟩ := List.nodup_cons.mp nodup
      rw [List.map_cons, List.sum_cons]
      by_cases here : named = some account
      · have nothing : (accounts.map fun other => if named = some other then amount else 0).sum =
            0 := by
          apply List.sum_eq_zero
          intro value member
          obtain ⟨other, present, rfl⟩ := List.mem_map.mp member
          rw [if_neg]
          intro there
          rw [here, Option.some.injEq] at there
          exact absent (there ▸ present)
        rw [if_pos here, nothing, Nat.add_zero]
      · rw [if_neg here, Nat.zero_add]
        exact ih others

/-- A movement touches two accounts at most. -/
theorem sum_natAbs_net_le (movement : Movement) (places : Nat) {accounts : List String}
    (nodup : accounts.Nodup) :
    (accounts.map fun account => (movement.net places account).natAbs).sum ≤
      2 * movement.amount.weight places := by
  have incoming := sum_named_le nodup movement.destination (movement.amount.weight places)
  have outgoing := sum_named_le nodup movement.origin (movement.amount.weight places)
  have both : (accounts.map fun account => (movement.net places account).natAbs).sum ≤
      (accounts.map fun account =>
        (if movement.destination = some account then movement.amount.weight places else 0) +
          (if movement.origin = some account then movement.amount.weight places else 0)).sum := by
    apply List.sum_le_sum
    intro account _
    unfold net Decimal.weight
    split <;> split <;> omega
  rw [List.sum_map_add] at both
  omega

end Movement

namespace Store

def cells (store : Store) (name : String) : List Entry :=
  match store.schema.indexOf? name with
  | some index => store.rows.filterMap fun row => row.get? index
  | none => []

def amounts (store : Store) : List Decimal :=
  (store.cells Schema.amount).map Movement.amountOf

def movements (store : Store) : List Movement :=
  match store.schema.indexOf? Schema.origin, store.schema.indexOf? Schema.destination,
      store.schema.indexOf? Schema.amount with
  | some origin, some destination, some amount =>
      store.rows.filterMap (Movement.ofRow? origin destination amount)
  | _, _, _ => []

/-- What the rows move into an account less what they move out of it, in units
of the last place. -/
def net (store : Store) (places : Nat) (account : String) : Int :=
  (store.movements.map fun movement => movement.net places account).sum

def weight (store : Store) (places : Nat) : Nat :=
  (store.amounts.map (Decimal.weight places)).sum

theorem movements_append (schema : Schema) (first second : List Row) :
    movements ⟨schema, first ++ second⟩ =
      movements ⟨schema, first⟩ ++ movements ⟨schema, second⟩ := by
  unfold movements
  dsimp only
  cases schema.indexOf? Schema.origin <;> cases schema.indexOf? Schema.destination <;>
    cases schema.indexOf? Schema.amount
  case some.some.some origin destination amount => exact List.filterMap_append
  all_goals rfl

theorem amounts_append (schema : Schema) (first second : List Row) :
    amounts ⟨schema, first ++ second⟩ = amounts ⟨schema, first⟩ ++ amounts ⟨schema, second⟩ := by
  unfold amounts cells
  dsimp only
  cases schema.indexOf? Schema.amount with
  | none => rfl
  | some amount =>
      dsimp only
      rw [List.filterMap_append, List.map_append]

theorem net_append (schema : Schema) (first second : List Row) (places : Nat)
    (account : String) :
    net ⟨schema, first ++ second⟩ places account =
      net ⟨schema, first⟩ places account + net ⟨schema, second⟩ places account := by
  unfold net
  rw [movements_append, List.map_append, List.sum_append]

theorem weight_append (schema : Schema) (first second : List Row) (places : Nat) :
    weight ⟨schema, first ++ second⟩ places =
      weight ⟨schema, first⟩ places + weight ⟨schema, second⟩ places := by
  unfold weight
  rw [amounts_append, List.map_append, List.sum_append]

def movementColumns : List String :=
  [Schema.origin, Schema.destination, Schema.amount]

private theorem settleAll_denotes {origin destination amount : Nat} (account : String)
    {places : Nat} {rows : List Row} {balance : Decimal} {value : Int}
    (complete : ∀ row ∈ rows, ∃ movement,
      Movement.ofRow? origin destination amount row = some movement ∧
        movement.amount.scale ≤ places)
    (denotes : balance.Denotes places value)
    (fits : value.natAbs +
      ((rows.filterMap (Movement.ofRow? origin destination amount)).map
        fun movement => movement.amount.weight places).sum < Decimal.coefficientBound) :
    ∃ total, settleAll account origin destination amount balance rows = .ok total ∧
      total.Denotes places (value +
        ((rows.filterMap (Movement.ofRow? origin destination amount)).map
          fun movement => movement.net places account).sum) := by
  induction rows generalizing balance value with
  | nil => exact ⟨balance, rfl, by simpa using denotes⟩
  | cons row rows ih =>
      obtain ⟨movement, read, within⟩ := complete row List.mem_cons_self
      rw [List.filterMap_cons_some read, List.map_cons, List.sum_cons] at fits ⊢
      obtain ⟨after, settled, afterDenotes⟩ :=
        movement.settle?_denotes account within denotes (by omega)
      have smaller := movement.natAbs_net_le places account
      obtain ⟨total, rest, totalDenotes⟩ :=
        ih (fun row member => complete row (List.mem_cons_of_mem _ member)) afterDenotes
          (by omega)
      refine ⟨total, ?_, ?_⟩
      · simp only [settleAll, read, settled]
        exact rest
      · rw [← Int.add_assoc]
        exact totalDenotes

theorem exists_movement {schema : Schema} {row : Row} (conforms : row.Conforms schema)
    {origin destination amount : Nat}
    (atOrigin : schema.indexOf? Schema.origin = some origin)
    (atDestination : schema.indexOf? Schema.destination = some destination)
    (atAmount : schema.indexOf? Schema.amount = some amount) :
    ∃ movement entry, Movement.ofRow? origin destination amount row = some movement ∧
      row.get? amount = some entry ∧ movement.amount = Movement.amountOf entry := by
  obtain ⟨_, originColumn, _⟩ := Schema.exists_hasColumn atOrigin
  obtain ⟨_, destinationColumn, _⟩ := Schema.exists_hasColumn atDestination
  obtain ⟨_, amountColumn, _⟩ := Schema.exists_hasColumn atAmount
  obtain ⟨originEntry, originCell, _⟩ := conforms.get? originColumn
  obtain ⟨destinationEntry, destinationCell, _⟩ := conforms.get? destinationColumn
  obtain ⟨amountEntry, amountCell, _⟩ := conforms.get? amountColumn
  refine ⟨⟨originEntry.text?, destinationEntry.text?, Movement.amountOf amountEntry⟩, amountEntry,
    ?_, amountCell, rfl⟩
  rw [Movement.ofRow?, amountCell, destinationCell, originCell]

theorem exists_positions {store : Store}
    (columns : ∀ name ∈ movementColumns, name ∈ store.schema.names) :
    ∃ origin destination amount,
      store.schema.indexOf? Schema.origin = some origin ∧
        store.schema.indexOf? Schema.destination = some destination ∧
          store.schema.indexOf? Schema.amount = some amount := by
  obtain ⟨origin, atOrigin⟩ := Schema.mem_names_iff.mp (columns Schema.origin (by decide))
  obtain ⟨destination, atDestination⟩ :=
    Schema.mem_names_iff.mp (columns Schema.destination (by decide))
  obtain ⟨amount, atAmount⟩ := Schema.mem_names_iff.mp (columns Schema.amount (by decide))
  exact ⟨origin, destination, amount, atOrigin, atDestination, atAmount⟩

theorem map_amount_movements {store : Store}
    (conform : ∀ row ∈ store.rows, row.Conforms store.schema)
    (columns : ∀ name ∈ movementColumns, name ∈ store.schema.names) :
    store.movements.map Movement.amount = store.amounts := by
  obtain ⟨origin, destination, amount, atOrigin, atDestination, atAmount⟩ :=
    exists_positions columns
  unfold movements amounts cells
  simp only [atOrigin, atDestination, atAmount]
  rw [List.map_filterMap, List.map_filterMap]
  apply List.filterMap_congr
  intro row member
  obtain ⟨movement, entry, read, cell, same⟩ :=
    exists_movement (conform row member) atOrigin atDestination atAmount
  rw [read, cell, Option.map_some, Option.map_some, same]

theorem exists_movement_within {store : Store} {places : Nat}
    (conform : ∀ row ∈ store.rows, row.Conforms store.schema)
    (scales : ∀ amount ∈ store.amounts, amount.scale ≤ places) {origin destination amount : Nat}
    (atOrigin : store.schema.indexOf? Schema.origin = some origin)
    (atDestination : store.schema.indexOf? Schema.destination = some destination)
    (atAmount : store.schema.indexOf? Schema.amount = some amount) :
    ∀ row ∈ store.rows, ∃ movement,
      Movement.ofRow? origin destination amount row = some movement ∧
        movement.amount.scale ≤ places := by
  intro row member
  obtain ⟨movement, entry, read, cell, same⟩ :=
    exists_movement (conform row member) atOrigin atDestination atAmount
  refine ⟨movement, read, scales _ ?_⟩
  unfold amounts cells
  rw [atAmount, same]
  exact List.mem_map_of_mem (List.mem_filterMap.mpr ⟨row, member, cell⟩)

/-- Different accounts together have at most twice what the rows weigh. -/
theorem sum_natAbs_net_le {store : Store}
    (conform : ∀ row ∈ store.rows, row.Conforms store.schema)
    (columns : ∀ name ∈ movementColumns, name ∈ store.schema.names) (places : Nat)
    {accounts : List String} (nodup : accounts.Nodup) :
    (accounts.map fun account => (store.net places account).natAbs).sum ≤
      2 * store.weight places := by
  unfold net weight
  rw [← map_amount_movements conform columns, List.map_map]
  induction store.movements with
  | nil => simp
  | cons movement movements ih =>
      have first := movement.sum_natAbs_net_le places nodup
      have triangle : (accounts.map fun account => (List.sum
          ((movement :: movements).map fun moved => Movement.net moved places account)).natAbs).sum ≤
            (accounts.map fun account => (movement.net places account).natAbs + (List.sum
              (movements.map fun moved => Movement.net moved places account)).natAbs).sum := by
        apply List.sum_le_sum
        intro account _
        rw [List.map_cons, List.sum_cons]
        exact Int.natAbs_add_le _ _
      rw [List.sum_map_add] at triangle
      rw [List.map_cons, List.sum_cons, Function.comp_apply]
      omega

/-- The balance of an account is the exact sum of its movements. -/
theorem balance_denotes {store : Store} {places : Nat}
    (conform : ∀ row ∈ store.rows, row.Conforms store.schema)
    (columns : ∀ name ∈ movementColumns, name ∈ store.schema.names)
    (summable : Decimal.Summable places store.amounts) (account : String) :
    ∃ total, store.balance account = .ok total ∧
      total.Denotes places (store.net places account) := by
  have sameAmounts := map_amount_movements conform columns
  obtain ⟨origin, destination, amount, atOrigin, atDestination, atAmount⟩ :=
    exists_positions columns
  unfold movements at sameAmounts
  simp only [atOrigin, atDestination, atAmount] at sameAmounts
  obtain ⟨scales, total⟩ := summable
  have complete := exists_movement_within conform scales atOrigin atDestination atAmount
  rw [← sameAmounts, List.map_map] at total
  obtain ⟨sum, settled, denotes⟩ := settleAll_denotes account complete
    (Decimal.denotes_zero places) (by simpa [Function.comp_def] using total)
  refine ⟨sum, ?_, ?_⟩
  · simp only [balance, Schema.require, atOrigin, atDestination, atAmount, settled]
  · simp only [net, movements, atOrigin, atDestination, atAmount]
    rw [Int.zero_add] at denotes
    exact denotes

end Store

end Passbook
