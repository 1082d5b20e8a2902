/-
Finite maps and sets that are kept in ascending order. Reading and changing go by
`compare`, so for a lawful order each key and each member stands once.
-/

namespace Passbook

/-- Keys with their values, in ascending order of the keys. -/
structure OrderedMap (Key Value : Type) where
  pairs : List (Key × Value)
  deriving DecidableEq, Repr

namespace OrderedMap

variable {Key Value : Type}

def empty : OrderedMap Key Value :=
  ⟨[]⟩

instance : Inhabited (OrderedMap Key Value) :=
  ⟨empty⟩

def isEmpty (map : OrderedMap Key Value) : Bool :=
  map.pairs.isEmpty

def keys (map : OrderedMap Key Value) : List Key :=
  map.pairs.map Prod.fst

def values (map : OrderedMap Key Value) : List Value :=
  map.pairs.map Prod.snd

variable [Ord Key]

def findIn (key : Key) : List (Key × Value) → Option Value
  | [] => none
  | (other, value) :: rest =>
      match compare key other with
      | .lt => none
      | .eq => some value
      | .gt => findIn key rest

def find? (map : OrderedMap Key Value) (key : Key) : Option Value :=
  findIn key map.pairs

def alterIn (key : Key) (change : Option Value → Value) :
    List (Key × Value) → List (Key × Value)
  | [] => [(key, change none)]
  | (other, value) :: rest =>
      match compare key other with
      | .lt => (key, change none) :: (other, value) :: rest
      | .eq => (other, change (some value)) :: rest
      | .gt => (other, value) :: alterIn key change rest

def alter (map : OrderedMap Key Value) (key : Key) (change : Option Value → Value) :
    OrderedMap Key Value :=
  ⟨alterIn key change map.pairs⟩

def insert (map : OrderedMap Key Value) (key : Key) (value : Value) : OrderedMap Key Value :=
  map.alter key fun _ => value

end OrderedMap

structure OrderedSet (Member : Type) where
  members : List Member
  deriving DecidableEq, Repr

namespace OrderedSet

variable {Member : Type}

def empty : OrderedSet Member :=
  ⟨[]⟩

instance : Inhabited (OrderedSet Member) :=
  ⟨empty⟩

def isEmpty (set : OrderedSet Member) : Bool :=
  set.members.isEmpty

variable [Ord Member]

def containsIn (item : Member) : List Member → Bool
  | [] => false
  | other :: rest =>
      match compare item other with
      | .lt => false
      | .eq => true
      | .gt => containsIn item rest

def contains (set : OrderedSet Member) (item : Member) : Bool :=
  containsIn item set.members

def insertIn (item : Member) : List Member → List Member
  | [] => [item]
  | other :: rest =>
      match compare item other with
      | .lt => item :: other :: rest
      | .eq => other :: rest
      | .gt => other :: insertIn item rest

def insert (set : OrderedSet Member) (item : Member) : OrderedSet Member :=
  ⟨insertIn item set.members⟩

def insertAll (set : OrderedSet Member) (items : List Member) : OrderedSet Member :=
  items.foldl insert set

def ofList (items : List Member) : OrderedSet Member :=
  empty.insertAll items

end OrderedSet

end Passbook
