/-
What the later modules build on: results of steps that may fail, and the laws of
maps and sets that are kept in ascending order.
-/

import Passbook.Ordered

namespace Passbook

/-! ## Results

A chain of steps succeeds when each of its steps does, and where a step failed
nothing holds that would have made it succeed. -/

namespace Outcome

variable {ε α β : Type}

theorem map_eq_ok {result : Except ε α} {change : α → β} {value : β}
    (mapped : result.map change = .ok value) :
    ∃ before, result = .ok before ∧ change before = value := by
  cases result with
  | error problem => cases mapped
  | ok before => exact ⟨before, rfl, Except.ok.inj mapped⟩

theorem mapError_eq_ok {ε' : Type} {result : Except ε α} {report : ε → ε'} {value : α}
    (mapped : result.mapError report = .ok value) : result = .ok value := by
  cases result with
  | error problem => cases mapped
  | ok before => exact congrArg Except.ok (Except.ok.inj mapped)

theorem bind_eq_ok_iff {result : Except ε α} {next : α → Except ε β} {value : β} :
    (result >>= next) = .ok value ↔ ∃ middle, result = .ok middle ∧ next middle = .ok value := by
  cases result with
  | error problem => simp [bind, Except.bind]
  | ok middle => simp [bind, Except.bind]

theorem not_of_error {result : Except ε α} {problem : ε} (failed : result = .error problem)
    {accepted : Prop} (succeeds : accepted → ∃ value, result = .ok value) : ¬ accepted := by
  intro holds
  obtain ⟨value, succeeded⟩ := succeeds holds
  rw [failed] at succeeded
  cases succeeded

/-- The first item that fails is the head, or it stands behind a head that passes. -/
theorem exists_first_cons_iff {passes fails : α → Prop} {item : α} {rest : List α} :
    (∃ before first after, item :: rest = before ++ first :: after ∧
        (∀ earlier ∈ before, passes earlier) ∧ fails first) ↔
      fails item ∨ passes item ∧ ∃ before first after, rest = before ++ first :: after ∧
        (∀ earlier ∈ before, passes earlier) ∧ fails first := by
  constructor
  · rintro ⟨before, first, after, split, pass, failing⟩
    cases before with
    | nil =>
        cases split
        exact Or.inl failing
    | cons head before =>
        cases split
        obtain ⟨here, later⟩ := List.forall_mem_cons.mp pass
        exact Or.inr ⟨here, before, first, after, rfl, later, failing⟩
  · rintro (failing | ⟨here, before, first, after, rfl, pass, failing⟩)
    · exact ⟨[], item, rest, rfl, fun _ absent => (nomatch absent), failing⟩
    · exact ⟨item :: before, first, after, rfl, List.forall_mem_cons.mpr ⟨here, pass⟩, failing⟩

end Outcome

/-! ## Maps and sets

In a map whose keys ascend, reading is membership and a change is seen at its
own key only; two such maps that read alike agree pair by pair. In a set whose
members ascend, `contains` is membership. -/

section Order

variable {Key : Type} [Ord Key] [Std.TransOrd Key] {key other : Key}

private theorem ne_of_compare_lt (before : compare key other = .lt) : key ≠ other := by
  intro same
  rw [same, Std.ReflOrd.compare_self] at before
  cases before

private theorem compare_lt_of_gt (after : compare key other = .gt) : compare other key = .lt :=
  Std.OrientedCmp.gt_iff_lt.mp after

private theorem ne_of_compare_gt (after : compare key other = .gt) : key ≠ other :=
  fun same => ne_of_compare_lt (compare_lt_of_gt after) same.symm

omit [Std.TransOrd Key] in
private theorem compare_ne_eq [Std.LawfulEqOrd Key] (different : key ≠ other) :
    compare key other ≠ .eq :=
  fun same => different (Std.LawfulEqOrd.compare_eq_iff_eq.mp same)

end Order

namespace OrderedMap

/-- The keys ascend, so that none stands twice. -/
def Ascending {Key Value : Type} [Ord Key] (map : OrderedMap Key Value) : Prop :=
  map.pairs.Pairwise fun earlier later => compare earlier.1 later.1 = .lt

theorem Ascending.nodup_keys {Key Value : Type} [Ord Key] [Std.TransOrd Key]
    {map : OrderedMap Key Value} (ascending : map.Ascending) : map.keys.Nodup := by
  apply List.pairwise_map.mpr
  apply List.Pairwise.imp _ ascending
  intro earlier later before
  exact ne_of_compare_lt before

theorem ascending_empty {Key Value : Type} [Ord Key] :
    (empty : OrderedMap Key Value).Ascending :=
  List.Pairwise.nil

variable {Key Value : Type} [Ord Key] [Std.TransOrd Key] [Std.LawfulEqOrd Key]

private theorem findIn_eq_some_iff {key : Key} {value : Value} {pairs : List (Key × Value)}
    (ascending : pairs.Pairwise fun earlier later => compare earlier.1 later.1 = .lt) :
    findIn key pairs = some value ↔ (key, value) ∈ pairs := by
  induction pairs with
  | nil => simp [findIn]
  | cons pair rest ih =>
      obtain ⟨other, present⟩ := pair
      obtain ⟨headBefore, tailAscending⟩ := List.pairwise_cons.mp ascending
      have found := ih tailAscending
      cases order : compare key other with
      | lt =>
          have absent : (key, value) ∉ rest := by
            intro member
            exact ne_of_compare_lt (Std.TransCmp.lt_trans order (headBefore _ member)) rfl
          simp [findIn, order, absent, ne_of_compare_lt order]
      | eq =>
          have same := Std.LawfulEqOrd.compare_eq_iff_eq.mp order
          subst same
          have absent : (key, value) ∉ rest := by
            intro member
            exact ne_of_compare_lt (headBefore _ member) rfl
          simp [findIn, absent, eq_comm]
      | gt => simp [findIn, order, found, ne_of_compare_gt order]

theorem find?_eq_some_iff {map : OrderedMap Key Value} (ascending : map.Ascending) {key : Key}
    {value : Value} : map.find? key = some value ↔ (key, value) ∈ map.pairs :=
  findIn_eq_some_iff ascending

omit [Std.LawfulEqOrd Key] in
private theorem mem_alterIn {key : Key} {change : Option Value → Value}
    {pairs : List (Key × Value)} {pair : Key × Value} (member : pair ∈ alterIn key change pairs) :
    compare key pair.1 = .eq ∨ pair ∈ pairs := by
  induction pairs with
  | nil =>
      rw [alterIn, List.mem_singleton] at member
      rw [member]
      exact Or.inl Std.ReflOrd.compare_self
  | cons head rest ih =>
      obtain ⟨other, present⟩ := head
      cases order : compare key other with
      | lt =>
          simp only [alterIn, order, List.mem_cons] at member
          rcases member with same | present
          · rw [same]
            exact Or.inl Std.ReflOrd.compare_self
          · exact Or.inr (List.mem_cons.mpr present)
      | eq =>
          simp only [alterIn, order, List.mem_cons] at member
          rcases member with same | present
          · rw [same]
            exact Or.inl order
          · exact Or.inr (List.mem_cons_of_mem _ present)
      | gt =>
          simp only [alterIn, order, List.mem_cons] at member
          rcases member with same | present
          · rw [same]
            exact Or.inr List.mem_cons_self
          · exact (ih present).imp_right (List.mem_cons_of_mem _)

private theorem ascending_alterIn (key : Key) (change : Option Value → Value)
    {pairs : List (Key × Value)}
    (ascending : pairs.Pairwise fun earlier later => compare earlier.1 later.1 = .lt) :
    (alterIn key change pairs).Pairwise
      fun earlier later => compare earlier.1 later.1 = .lt := by
  induction pairs with
  | nil => exact List.pairwise_singleton _ _
  | cons pair rest ih =>
      obtain ⟨other, present⟩ := pair
      obtain ⟨headBefore, tailAscending⟩ := List.pairwise_cons.mp ascending
      cases order : compare key other with
      | lt =>
          simp only [alterIn, order]
          refine List.pairwise_cons.mpr ⟨?_, ascending⟩
          intro later member
          rcases List.mem_cons.mp member with same | inTail
          · rw [same]
            exact order
          · exact Std.TransCmp.lt_trans order (headBefore later inTail)
      | eq =>
          simp only [alterIn, order]
          exact List.pairwise_cons.mpr ⟨headBefore, tailAscending⟩
      | gt =>
          simp only [alterIn, order]
          refine List.pairwise_cons.mpr ⟨?_, ih tailAscending⟩
          intro later member
          rcases mem_alterIn member with same | inTail
          · rw [← Std.LawfulEqOrd.compare_eq_iff_eq.mp same]
            exact compare_lt_of_gt order
          · exact headBefore later inTail

theorem Ascending.alter {map : OrderedMap Key Value} (ascending : map.Ascending) (key : Key)
    (change : Option Value → Value) : (map.alter key change).Ascending :=
  ascending_alterIn key change ascending

theorem Ascending.insert {map : OrderedMap Key Value} (ascending : map.Ascending) (key : Key)
    (value : Value) : (map.insert key value).Ascending :=
  ascending.alter key _

omit [Std.LawfulEqOrd Key] in
private theorem alterIn_of_after {key : Key} {pairs : List (Key × Value)}
    (after : ∀ pair ∈ pairs, compare pair.1 key = .lt) (change : Option Value → Value) :
    alterIn key change pairs = pairs ++ [(key, change none)] := by
  induction pairs with
  | nil => rfl
  | cons pair rest ih =>
      obtain ⟨headAfter, tailAfter⟩ := List.forall_mem_cons.mp after
      have order : compare key pair.1 = .gt := Std.OrientedCmp.gt_iff_lt.mpr headAfter
      simp only [alterIn, order, ih tailAfter, List.cons_append]

omit [Std.LawfulEqOrd Key] in
theorem insert_of_after {map : OrderedMap Key Value} {key : Key}
    (after : ∀ pair ∈ map.pairs, compare pair.1 key = .lt) (value : Value) :
    map.insert key value = ⟨map.pairs ++ [(key, value)]⟩ :=
  congrArg mk (alterIn_of_after after _)

variable [DecidableEq Key]

private theorem findIn_alterIn (key other : Key) (change : Option Value → Value)
    (pairs : List (Key × Value)) :
    findIn other (alterIn key change pairs) =
      if other = key then some (change (findIn key pairs)) else findIn other pairs := by
  induction pairs with
  | nil =>
      by_cases same : other = key
      · simp [alterIn, findIn, same]
      · have unequal := compare_ne_eq same
        cases order : compare other key <;> simp_all [alterIn, findIn]
  | cons pair rest ih =>
      obtain ⟨head, present⟩ := pair
      cases order : compare key head with
      | lt =>
          by_cases same : other = key
          · simp [alterIn, findIn, order, same]
          · cases against : compare other key with
            | lt =>
                have below := Std.TransCmp.lt_trans against order
                simp [alterIn, findIn, order, against, below, same]
            | eq => exact absurd against (compare_ne_eq same)
            | gt => simp [alterIn, findIn, order, against, same]
      | eq =>
          have equal := Std.LawfulEqOrd.compare_eq_iff_eq.mp order
          subst equal
          by_cases same : other = key
          · simp [alterIn, findIn, same]
          · cases against : compare other key with
            | lt => simp [alterIn, findIn, against, same]
            | eq => exact absurd against (compare_ne_eq same)
            | gt => simp [alterIn, findIn, against, same]
      | gt =>
          by_cases same : other = key
          · subst same
            simpa [alterIn, findIn, order] using ih
          · cases against : compare other head with
            | lt => simp [alterIn, findIn, order, against, same]
            | eq => simp [alterIn, findIn, order, against, same]
            | gt => simpa [alterIn, findIn, order, against, same] using ih

theorem find?_alter (map : OrderedMap Key Value) (key other : Key)
    (change : Option Value → Value) :
    (map.alter key change).find? other =
      if other = key then some (change (map.find? key)) else map.find? other :=
  findIn_alterIn key other change map.pairs

theorem find?_insert (map : OrderedMap Key Value) (key other : Key) (value : Value) :
    (map.insert key value).find? other = if other = key then some value else map.find? other :=
  find?_alter map key other _

omit [DecidableEq Key] [Std.LawfulEqOrd Key] in
theorem exists_find?_of_not_isEmpty {map : OrderedMap Key Value} (filled : map.isEmpty = false) :
    ∃ key value, map.find? key = some value := by
  obtain ⟨pairs⟩ := map
  cases pairs with
  | nil => cases filled
  | cons pair pairs =>
      refine ⟨pair.1, pair.2, ?_⟩
      unfold find? findIn
      rw [Std.ReflOrd.compare_self]

omit [DecidableEq Key] [Std.TransOrd Key] [Std.LawfulEqOrd Key] in
theorem not_isEmpty_of_find? {map : OrderedMap Key Value} {key : Key} {value : Value}
    (found : map.find? key = some value) : map.isEmpty = false := by
  obtain ⟨pairs⟩ := map
  cases pairs with
  | nil => cases found
  | cons pair pairs => rfl

omit [DecidableEq Key] [Std.TransOrd Key] [Std.LawfulEqOrd Key] in
theorem ascending_tail {pair : Key × Value} {rest : List (Key × Value)}
    (ascending : Ascending ⟨pair :: rest⟩) : Ascending ⟨rest⟩ :=
  (List.pairwise_cons.mp ascending).2

omit [DecidableEq Key] [Std.LawfulEqOrd Key] in
theorem find?_tail {pair : Key × Value} {rest : List (Key × Value)}
    (ascending : Ascending ⟨pair :: rest⟩) (key : Key) :
    find? ⟨rest⟩ key = if compare key pair.1 = .gt then find? ⟨pair :: rest⟩ key else none := by
  obtain ⟨headBefore, _⟩ := List.pairwise_cons.mp ascending
  unfold find?
  cases order : compare key pair.1 with
  | gt => simp [findIn, order]
  | lt | eq =>
      rw [if_neg (by decide)]
      cases rest with
      | nil => rfl
      | cons next rest =>
          have below : compare key next.1 = .lt :=
            Std.TransCmp.lt_of_isLE_of_lt (by rw [order]; rfl)
              (headBefore next List.mem_cons_self)
          simp only [findIn, below]

/-- Key by key the same keys, with values that `same` relates. -/
def sameBy [BEq Key] (same : Value → Value → Bool) :
    List (Key × Value) → List (Key × Value) → Bool
  | [], [] => true
  | (key, value) :: rest, (other, present) :: others =>
      key == other && same value present && sameBy same rest others
  | _, _ => false

/-- Ascending maps that read alike hold the same keys in the same places. -/
theorem sameBy_of_find? {same : Value → Value → Bool} :
    (first second : List (Key × Value)) → Ascending ⟨first⟩ → Ascending ⟨second⟩ →
    (∀ key, Option.Rel (fun a b => same a b = true) (find? ⟨first⟩ key) (find? ⟨second⟩ key)) →
    sameBy same first second = true
  | [], [], _, _, _ => rfl
  | [], (key, value) :: rest, _, _, alike => by
      have atKey := alike key
      simp [find?, findIn] at atKey
  | (key, value) :: rest, [], _, _, alike => by
      have atKey := alike key
      simp [find?, findIn] at atKey
  | (key, value) :: rest, (other, present) :: others, ascending, ascends, alike => by
      have heads : key = other := by
        cases order : compare key other with
        | eq => exact Std.LawfulEqOrd.compare_eq_iff_eq.mp order
        | lt =>
            have atKey := alike key
            simp [find?, findIn, order] at atKey
        | gt =>
            have atOther := alike other
            simp [find?, findIn, compare_lt_of_gt order] at atOther
      subst heads
      have values : same value present = true := by
        have atKey := alike key
        simp only [find?, findIn, Std.ReflOrd.compare_self] at atKey
        cases atKey with
        | some related => exact related
      have tails : sameBy same rest others = true := by
        apply sameBy_of_find? rest others (ascending_tail ascending) (ascending_tail ascends)
        intro other
        rw [find?_tail ascending, find?_tail ascends]
        split
        · exact alike other
        · exact Option.Rel.none
      simp [sameBy, values, tails]

end OrderedMap

namespace OrderedSet

def Ascending {Member : Type} [Ord Member] (set : OrderedSet Member) : Prop :=
  set.members.Pairwise fun earlier later => compare earlier later = .lt

theorem ascending_empty {Member : Type} [Ord Member] : (empty : OrderedSet Member).Ascending :=
  List.Pairwise.nil

variable {Member : Type} [Ord Member] [Std.TransOrd Member] [Std.LawfulEqOrd Member]

private theorem containsIn_iff_mem {item : Member} {members : List Member}
    (ascending : members.Pairwise fun earlier later => compare earlier later = .lt) :
    containsIn item members = true ↔ item ∈ members := by
  induction members with
  | nil => simp [containsIn]
  | cons other rest ih =>
      obtain ⟨headBefore, tailAscending⟩ := List.pairwise_cons.mp ascending
      have found := ih tailAscending
      cases order : compare item other with
      | lt =>
          have absent : item ∉ rest := by
            intro member
            exact ne_of_compare_lt (Std.TransCmp.lt_trans order (headBefore _ member)) rfl
          simp [containsIn, order, absent, ne_of_compare_lt order]
      | eq => simp [containsIn, Std.LawfulEqOrd.compare_eq_iff_eq.mp order]
      | gt => simp [containsIn, order, found, ne_of_compare_gt order]

theorem contains_iff_mem {set : OrderedSet Member} (ascending : set.Ascending) {item : Member} :
    set.contains item = true ↔ item ∈ set.members :=
  containsIn_iff_mem ascending

omit [Std.TransOrd Member] in
private theorem mem_insertIn {item other : Member} {members : List Member} :
    other ∈ insertIn item members ↔ other = item ∨ other ∈ members := by
  induction members with
  | nil => simp [insertIn]
  | cons head rest ih =>
      cases order : compare item head with
      | lt => simp [insertIn, order]
      | eq =>
          have same := Std.LawfulEqOrd.compare_eq_iff_eq.mp order
          simp [insertIn, same]
      | gt =>
          simp only [insertIn, order, List.mem_cons, ih]
          exact or_left_comm

private theorem ascending_insertIn (item : Member) {members : List Member}
    (ascending : members.Pairwise fun earlier later => compare earlier later = .lt) :
    (insertIn item members).Pairwise fun earlier later => compare earlier later = .lt := by
  induction members with
  | nil => exact List.pairwise_singleton _ _
  | cons head rest ih =>
      obtain ⟨headBefore, tailAscending⟩ := List.pairwise_cons.mp ascending
      cases order : compare item head with
      | lt =>
          simp only [insertIn, order]
          refine List.pairwise_cons.mpr ⟨?_, ascending⟩
          intro later member
          rcases List.mem_cons.mp member with same | inTail
          · rw [same]
            exact order
          · exact Std.TransCmp.lt_trans order (headBefore later inTail)
      | eq =>
          simp only [insertIn, order]
          exact ascending
      | gt =>
          simp only [insertIn, order]
          refine List.pairwise_cons.mpr ⟨?_, ih tailAscending⟩
          intro later member
          rcases mem_insertIn.mp member with same | inTail
          · rw [same]
            exact compare_lt_of_gt order
          · exact headBefore later inTail

theorem Ascending.insertAll {set : OrderedSet Member} (ascending : set.Ascending)
    (items : List Member) : (set.insertAll items).Ascending := by
  induction items generalizing set with
  | nil => exact ascending
  | cons item items ih => exact ih (ascending_insertIn item ascending)

omit [Std.TransOrd Member] in
theorem mem_insertAll {set : OrderedSet Member} {items : List Member} {item : Member} :
    item ∈ (set.insertAll items).members ↔ item ∈ items ∨ item ∈ set.members := by
  induction items generalizing set with
  | nil => simp [insertAll]
  | cons head items ih =>
      have after : item ∈ (set.insert head).members ↔ item = head ∨ item ∈ set.members :=
        mem_insertIn
      change item ∈ ((set.insert head).insertAll items).members ↔ _
      rw [ih, after, List.mem_cons, or_left_comm, or_assoc]

theorem ascending_ofList (items : List Member) : (ofList items).Ascending :=
  ascending_empty.insertAll items

omit [Std.TransOrd Member] in
theorem mem_ofList {items : List Member} {item : Member} :
    item ∈ (ofList items).members ↔ item ∈ items := by
  rw [ofList, mem_insertAll]
  exact or_iff_left (List.not_mem_nil)

end OrderedSet

end Passbook
