import ClusterWatch.Json.DecodeError
/-!
# Formats

How the values of a type stand in JSON: a writer and a reader described together, so that the two
cannot drift apart. The format of a record is the list of its fields in wire order.

- `Format`: a writer and a reader for one type.
- `Format.text`, `boolean`, `integer`, `optional`, `list`, `names`: the formats of the leaves.
- `Field`: one member of a record, with the way to take it out of the record and to put it in.
- `Format.record`: an object with one member per field. An array is accepted in its place, with
  the members by position; absent members keep the value of the record one starts from.
- `Format.requiring`: a record with members that must not be absent.
-/

namespace ClusterWatch.Json

/-- How the values of a type stand in JSON. -/
structure Format (α : Type) where
  write : α → Value
  read : Value → Except DecodeError α

namespace Format

variable {α β : Type}

/-! ### Leaves -/

/-- A string. -/
def text : Format String where
  write := .string
  read
    | .string s => .ok s
    | v => .error (.wrongType v "a string")

/-- A truth value. -/
def boolean : Format Bool where
  write := .bool
  read
    | .bool b => .ok b
    | v => .error (.wrongType v "a boolean")

/-- An integer within the range of a type that messages call `range`. -/
def integer (range : String) (toInt : α → Int) (ofInt? : Int → Option α) : Format α where
  write a := .int (toInt a)
  read
    | .number (.integer n) =>
      match ofInt? n with
      | some a => .ok a
      | none => .error (.wrongValue (.int n) range)
    | v => .error (.wrongType v range)

/-- The natural number of an integer below a bound. -/
def below? (bound : Nat) (n : Int) : Option Nat :=
  if 0 ≤ n ∧ n < bound then some n.toNat else none

/-- An unsigned integer of 16 bits. -/
def unsigned16 : Format UInt16 :=
  integer "u16" (fun a => a.toNat) fun n => (below? UInt16.size n).map UInt16.ofNat

/-- An unsigned integer of 32 bits. -/
def unsigned32 : Format UInt32 :=
  integer "u32" (fun a => a.toNat) fun n => (below? UInt32.size n).map UInt32.ofNat

/-- An unsigned integer of 64 bits. -/
def unsigned64 : Format UInt64 :=
  integer "u64" (fun a => a.toNat) fun n => (below? UInt64.size n).map UInt64.ofNat

/-- A number of things, as an unsigned integer of 64 bits. -/
def count64 : Format UInt64 :=
  integer "usize" (fun a => a.toNat) fun n => (below? UInt64.size n).map UInt64.ofNat

/-- A signed integer of 32 bits. -/
def signed32 : Format Int32 :=
  integer "i32" Int32.toInt fun n =>
    if Int32.minValue.toInt ≤ n ∧ n ≤ Int32.maxValue.toInt then some (Int32.ofInt n) else none

/-- A value that may be absent, which null stands for. -/
def optional (f : Format α) : Format (Option α) where
  write
    | some a => f.write a
    | none => .null
  read
    | .null => .ok none
    | v => (f.read v).map some

/-- The items of an array. -/
def list (f : Format α) : Format (List α) where
  write items := .array (items.map f.write)
  read
    | .array items => items.mapM f.read
    | v => .error (.wrongType v "a sequence")

/-- The alternative of a name. -/
def named? (alternatives : List (String × α)) (name : String) : Except DecodeError α :=
  match alternatives.find? (·.1 == name) with
  | some (_, a) => .ok a
  | none => .error (.unknownName name (alternatives.map (·.1)))

/-- One of several alternatives, given by its name. An object with the name as its only member and
null under it is accepted as well. -/
def names (alternatives : List (String × α)) (name : α → String) : Format α where
  write a := .string (name a)
  read
    | .string s => named? alternatives s
    | .object [(s, v)] =>
      match named? alternatives s, v with
      | .ok a, .null => .ok a
      | .ok _, v => .error (.wrongType v "unit")
      | .error e, _ => .error e
    | .object members => .error (.wrongValue (.object members) "map with a single key")
    | v => .error (.wrongType v "string or map")

end Format

/-! ### Records -/

/-- One member of a record `α`. -/
structure Field (α : Type) where
  name : String
  get : α → Value
  set : Value → α → Except DecodeError α

namespace Field

variable {α β : Type}

/-- The member under a name, in the given format. -/
def of (name : String) (format : Format β) (get : α → β) (put : β → α → α) : Field α where
  name := name
  get a := format.write (get a)
  set v a := (format.read v).map fun b => put b a

/-- The field of a name. -/
def find? (fields : List (Field α)) (name : String) : Option (Field α) :=
  List.find? (fun f => f.name == name) fields

/-- The members of a record, in the order of its fields. -/
def members (fields : List (Field α)) (a : α) : List (String × Value) :=
  fields.map fun f => (f.name, f.get a)

/-- Puts members into a record one after the other, passing over names that are not fields. -/
def setMembers (fields : List (Field α)) : List (String × Value) → α → Except DecodeError α
  | [], a => .ok a
  | (name, v) :: rest, a =>
    match find? fields name with
    | some f => (f.set v a).bind (setMembers fields rest)
    | none => setMembers fields rest a

/-- Puts items into the fields of a record by position. -/
def setItems : List (Field α) → List Value → α → Except DecodeError α
  | f :: fields, v :: rest, a => (f.set v a).bind (setItems fields rest)
  | _, _, a => .ok a

end Field

/-- A record of which messages speak as `struct name`, with the members it has from the start. -/
def Format.record {α : Type} (name : String) (fields : List (Field α)) (start : α) :
    Format α where
  write a := .object (Field.members fields a)
  read
    | .object members => Field.setMembers fields members start
    | .array items =>
      (Field.setItems fields items start).bind fun a =>
        if items.length ≤ fields.length then .ok a else .error (.tooManyItems items.length)
    | v => .error (.wrongType v ("struct " ++ name))

/-- A record whose first fields must not be absent. `expected` says how many items an array in its
place has. -/
def Format.requiring {α : Type} (f : Format α) (required : List String) (expected : String) :
    Format α where
  write := f.write
  read v := do
    let a ← f.read v
    match v with
    | .object members =>
      match required.find? fun name => members.all (·.1 ≠ name) with
      | some name => .error (.missingField name)
      | none => .ok a
    | .array items =>
      if items.length < required.length then .error (.tooFewItems items.length expected) else .ok a
    | _ => .ok a

end ClusterWatch.Json
