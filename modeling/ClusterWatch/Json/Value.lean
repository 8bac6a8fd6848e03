import ClusterWatch.Number.Binary64
/-!
# JSON values

The data model of the wire formats: events, request bodies, search replies and the tree that a
configuration file denotes.

- `Json.Number`: an integer that fits 64 bits, or a floating point number.
- `Json.Value`: a tree whose objects list their members in order.
- `Json.Value.member?`: the value under a name.
- `Json.Value.sorted`: the same tree with the members of every object in the order of their names
  and the last one winning among equal names.
-/

namespace ClusterWatch.Json

/-- A number as it was written: without a fraction and exponent it is an integer. -/
inductive Number where
  | integer (value : Int)
  | float (value : Binary64)
  deriving DecidableEq, Repr

/-- A JSON tree. Members of an object keep their order. -/
inductive Value where
  | null
  | bool (value : Bool)
  | number (value : Number)
  | string (value : String)
  | array (items : List Value)
  | object (members : List (String × Value))
  deriving Repr, Inhabited

namespace Value

/-- The integer `n` as a value. -/
def int (n : Int) : Value :=
  .number (.integer n)

/-- A natural number as a value. -/
def nat (n : Nat) : Value :=
  .number (.integer n)

/-- A text, or null when there is none. -/
def ofText? : Option String → Value
  | some s => .string s
  | none => .null

/-- The first value under `name`, when this is an object that has one. -/
def member? (name : String) : Value → Option Value
  | object members => (members.find? (·.1 == name)).map (·.2)
  | _ => none

/-- The value under `name`, with null counting as absent. -/
def present? (name : String) (v : Value) : Option Value :=
  match v.member? name with
  | some .null => none
  | found => found

/-- The text of a string value. -/
def text? : Value → Option String
  | string s => some s
  | _ => none

/-- The number of an integer value. -/
def int? : Value → Option Int
  | number (.integer n) => some n
  | _ => none

/-- The truth value of a Boolean. -/
def bool? : Value → Option Bool
  | bool b => some b
  | _ => none

/-- The items of an array. -/
def items? : Value → Option (List Value)
  | array items => some items
  | _ => none

/-- The members of an object. -/
def members? : Value → Option (List (String × Value))
  | object members => some members
  | _ => none

/-- Puts a member into a list that is sorted by name, replacing the one of the same name. -/
def insertMember (name : String) (value : Value) :
    List (String × Value) → List (String × Value)
  | [] => [(name, value)]
  | (n, v) :: rest =>
    if name = n then (name, value) :: rest
    else if name < n then (name, value) :: (n, v) :: rest
    else (n, v) :: insertMember name value rest

/-- Members in the order of their names, the last one of each name. -/
def sortMembers (members : List (String × Value)) : List (String × Value) :=
  members.foldl (fun sorted m => insertMember m.1 m.2 sorted) []

mutual

/-- The same tree with the members of every object sorted by name. -/
def sorted : Value → Value
  | array items => array (sortedItems items)
  | object members => object (sortMembers (sortedMembers members))
  | v => v

/-- `sorted` on every item. -/
def sortedItems : List Value → List Value
  | [] => []
  | v :: rest => v.sorted :: sortedItems rest

/-- `sorted` on every member's value. -/
def sortedMembers : List (String × Value) → List (String × Value)
  | [] => []
  | (n, v) :: rest => (n, v.sorted) :: sortedMembers rest

end

end Value

end ClusterWatch.Json
