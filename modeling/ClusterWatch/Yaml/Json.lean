import ClusterWatch.Json.Value
import ClusterWatch.Yaml.Node
/-!
# YAML nodes as JSON

The JSON tree that a YAML node denotes. The keys of its mappings have to be strings and its
numbers finite.

- `Yaml.JsonError`: why a node denotes no JSON tree.
- `Node.toJson`: the tree, or the first reason in the order of the text why there is none.
-/

namespace ClusterWatch.Yaml

open Json (Value)

/-- Why a node denotes no JSON tree. -/
inductive JsonError where
  | keyNotString
  | numberNotFinite (text : String)
  | unsupported
  deriving DecidableEq, Repr

/-- The wording of an error. -/
def JsonError.message : JsonError → String
  | keyNotString => "config keys must be strings"
  | numberNotFinite text => "invalid number: " ++ text
  | unsupported => "unsupported YAML value"

namespace Node

/-- The finite number that a text denotes. -/
def finite? (text : String) : Option Binary64 :=
  (Decimal.ofChars? text.toList).bind Decimal.toBinary64?

/-- The name of a member. -/
def memberName : Node → Except JsonError String
  | string s => .ok s
  | _ => .error .keyNotString

mutual

/-- The JSON tree of a node. -/
def toJson : Node → Except JsonError Value
  | null => .ok .null
  | bool b => .ok (.bool b)
  | integer n => .ok (.int n)
  | real s =>
    match finite? s with
    | some x => .ok (.number (.float x))
    | none => .error (.numberNotFinite s)
  | string s => .ok (.string s)
  | sequence items => (itemsToJson items).map .array
  | mapping members => (membersToJson members).map .object
  | unsupported => .error .unsupported

/-- The JSON trees of all items. -/
def itemsToJson : List Node → Except JsonError (List Value)
  | [] => .ok []
  | v :: rest =>
    match toJson v with
    | .ok w => (itemsToJson rest).map (w :: ·)
    | .error e => .error e

/-- The JSON members of all members, a key before its value. -/
def membersToJson : List (Node × Node) → Except JsonError (List (String × Value))
  | [] => .ok []
  | (k, v) :: rest =>
    match memberName k with
    | .error e => .error e
    | .ok name =>
      match toJson v with
      | .ok w => (membersToJson rest).map ((name, w) :: ·)
      | .error e => .error e

end

end Node

end ClusterWatch.Yaml
