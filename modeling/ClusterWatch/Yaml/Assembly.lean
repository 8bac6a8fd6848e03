import ClusterWatch.Yaml.Node
import ClusterWatch.Yaml.Tokens
/-!
# Assembling nodes

The state in which tokens are put together to nodes: the tokens to come, the directives in force
and the anchors so far.

- `Assembly`: the state.
- `Assemble`: a step on it that may fail.
- `Assemble.peek`, `Assemble.advance`: the next token.
- `Assemble.property`, `Assemble.complete`: anchors and tags of nodes.
- `Entries.add`: collects the keys and values of a mapping.
-/

namespace ClusterWatch.Yaml

/-- The state in which tokens are put together. -/
structure Assembly where
  tokens : List (Mark × Token)
  /-- Why there are no further tokens. -/
  failure : Option Error
  /-- The addresses of the tag handles that directives declare. -/
  handles : List (String × String) := []
  /-- The number of the node that an anchor names, the last anchor first. -/
  anchors : List (String × Nat) := []
  /-- The nodes of anchors that are complete, by number. -/
  anchored : List (Nat × Node) := []
  /-- How many anchors were read. -/
  anchorCount : Nat := 0
  /-- The first key that a mapping has twice. -/
  repeated : Option Error := none

/-- A step of an assembly. -/
abbrev Assemble := StateT Assembly (Except Error)

namespace Assemble

/-- The next token. -/
def peek : Assemble (Mark × Token) := do
  match (← get).tokens with
  | t :: _ => return t
  | [] => throw ((← get).failure.getD ⟨{}, "unexpected end of stream"⟩)

/-- Passes the next token. -/
def advance : Assemble Unit :=
  modify fun s => { s with tokens := s.tokens.tail }

/-- Passes the next token if it is the given one, and tells whether it was. -/
def advanceIf (t : Token) : Assemble Bool := do
  if (← peek).2 = t then
    advance
    return true
  else return false

/-- The text is wrong at a mark. -/
def fail {α : Type} (mark : Mark) (reason : String) : Assemble α :=
  throw ⟨mark, reason⟩

/-! ### Anchors and tags -/

/-- Registers an anchor and returns its number. -/
def anchor (name : String) : Assemble Nat := do
  let number := (← get).anchorCount + 1
  modify fun s => { s with anchorCount := number, anchors := (name, number) :: s.anchors }
  return number

/-- The node of an alias. The node that an anchor still is a part of cannot be had. -/
def aliased (mark : Mark) (name : String) : Assemble Node := do
  let s ← get
  match s.anchors.lookup name with
  | some number => return (s.anchored.lookup number).getD .unsupported
  | none => fail mark "while parsing node, found unknown anchor"

/-- Remembers a complete node for its anchor. -/
def complete (number : Option Nat) (node : Node) : Assemble Node := do
  if let some number := number then
    modify fun s => { s with anchored := (number, node) :: s.anchored }
  return node

/-- The address and the suffix of a tag. -/
def tag (mark : Mark) (handle suffix : String) : Assemble (String × String) := do
  let declared := (← get).handles.lookup handle
  match declared with
  | some address => return (address, suffix)
  | none =>
    if handle = "!!" then return (Node.coreAddress, suffix)
    else if 2 ≤ handle.length ∧ handle.endsWith "!" then fail mark "the handle wasn't declared"
    else return (handle, suffix)

/-- The anchor and the tag in front of a node, in any order. -/
structure Property where
  anchor : Option Nat := none
  tag : Option (String × String) := none

/-- The anchor and the tag in front of a node. -/
def property : Assemble Property := do
  match ← peek with
  | (mark, .anchor name) =>
    advance
    let number ← anchor name
    match ← peek with
    | (_, .tag handle suffix) =>
      advance
      return { anchor := number, tag := ← tag mark handle suffix }
    | _ => return { anchor := number }
  | (mark, .tag handle suffix) =>
    advance
    let resolved ← tag mark handle suffix
    match ← peek with
    | (_, .anchor name) =>
      advance
      return { anchor := ← anchor name, tag := resolved }
    | _ => return { tag := resolved }
  | _ => return {}

end Assemble

/-! ### Mappings -/

/-- The members of a mapping so far, the last first, and a key whose value is still to come. -/
structure Entries where
  key : Option Node := none
  members : List (Node × Node) := []
  deriving Inhabited

namespace Entries

/-- The next node of a mapping: a key, or the value of the last key. A node that is unsupported
does not count as a key, so that the value after it takes its place. A key may not come twice. -/
def add (e : Entries) (mark : Mark) (node : Node) : Assemble Entries := do
  match e.key with
  | none => return { e with key := if node.same .unsupported then none else some node }
  | some key =>
    if e.members.any fun m => m.1.same key then
      let repetition : Error := ⟨mark, key.text ++ ": duplicated key in mapping"⟩
      modify fun s => { s with repeated := s.repeated <|> some repetition }
    return { key := none, members := (key, node) :: e.members }

/-- The mapping. -/
def toNode (e : Entries) : Node :=
  .mapping e.members.reverse

end Entries

end ClusterWatch.Yaml
