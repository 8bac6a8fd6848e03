import ClusterWatch.Yaml.Assembly
/-!
# YAML documents

The grammar of documents over tokens.

- `Grammar.node`: a node with its properties.
- `documents`: the documents of a text.

The first argument of a function of the grammar bounds the depth of its calls. Of four calls inside
each other at least one passes a token, so four times the number of tokens is enough.
-/

namespace ClusterWatch.Yaml

namespace Grammar

open Assemble

/-- What stands for a node that is left out. -/
def absent : Node := .ofPlain "~"

/-- The part of a node that was read last, which a repeated key is reported at. -/
abbrev Placed := Mark × Node

/-- The bound is too low. -/
def exhausted {α : Type} : Assemble α :=
  fail {} "recursion limit exceeded"

/-- Reads a node with `read`, unless the next token is one of those that show that it is left
out. -/
def unlessAt (isEnd : Token → Bool) (read : Assemble Placed) : Assemble Placed := do
  let (mark, token) ← peek
  if isEnd token then return (mark, absent) else read

mutual

/-- A node. Block collections are allowed only if `block` says so, and a block sequence without
an indentation of its own only if `indentless` does. -/
def node : Nat → (block indentless : Bool) → Assemble Placed
  | 0, _, _ => exhausted
  | bound + 1, block, indentless => do
    match ← peek with
    | (mark, .alias name) =>
      advance
      return (mark, ← aliased mark name)
    | _ =>
      let p ← property
      let (mark, node) ← content bound block indentless p
      return (mark, ← complete p.anchor node)

/-- A node after its properties. -/
def content : Nat → (block indentless : Bool) → Property → Assemble Placed
  | 0, _, _, _ => exhausted
  | bound + 1, block, indentless, p => do
    let (mark, token) ← peek
    match token with
    | .scalar style text =>
      advance
      return (mark, .ofScalar style p.tag text)
    | .flowSequenceStart =>
      advance
      flowSequence bound true []
    | .flowMappingStart =>
      advance
      flowMapping bound true {}
    | _ =>
      if token = .blockEntry ∧ indentless then indentlessSequence bound []
      else if token = .blockSequenceStart ∧ block then
        advance
        blockSequence bound []
      else if token = .blockMappingStart ∧ block then
        advance
        blockMapping bound {}
      else if p.tag.isSome ∨ p.anchor.isSome then return (mark, .ofScalar .plain p.tag "")
      else fail mark "while parsing a node, did not find expected node content"

/-- The entries of a block sequence, after those that were read, the last first. -/
def blockSequence : Nat → List Node → Assemble Placed
  | 0, _ => exhausted
  | bound + 1, items => do
    let (mark, token) ← peek
    match token with
    | .blockEnd =>
      advance
      return (mark, .sequence items.reverse)
    | .blockEntry =>
      advance
      let (_, item) ← unlessAt (fun t => t = .blockEntry || t = .blockEnd) (node bound true false)
      blockSequence bound (item :: items)
    | _ =>
      fail mark "while parsing a block collection, did not find expected '-' indicator"

/-- The entries of a block sequence that is not indented more than its key. -/
def indentlessSequence : Nat → List Node → Assemble Placed
  | 0, _ => exhausted
  | bound + 1, items => do
    let (mark, token) ← peek
    if token = .blockEntry then
      advance
      let isEnd (t : Token) := t = .blockEntry || t = .key || t = .value || t = .blockEnd
      let (_, item) ← unlessAt isEnd (node bound true false)
      indentlessSequence bound (item :: items)
    else return (mark, .sequence items.reverse)

/-- The members of a block mapping. -/
def blockMapping : Nat → Entries → Assemble Placed
  | 0, _ => exhausted
  | bound + 1, entries => do
    let isEnd (t : Token) := t = .key || t = .value || t = .blockEnd
    let (mark, token) ← peek
    match token with
    | .blockEnd =>
      advance
      return (mark, entries.toNode)
    | .key =>
      advance
      let (mark, key) ← unlessAt isEnd (node bound true true)
      let entries ← entries.add mark key
      let (mark, value) ← blockValue bound
      blockMapping bound (← entries.add mark value)
    -- a value without a key has an empty one
    | .value =>
      let entries ← entries.add mark absent
      let (mark, value) ← blockValue bound
      blockMapping bound (← entries.add mark value)
    | _ => fail mark "while parsing a block mapping, did not find expected key"

/-- The value of a member of a block mapping. -/
def blockValue : Nat → Assemble Placed
  | 0 => exhausted
  | bound + 1 => do
    let isEnd (t : Token) := t = .key || t = .value || t = .blockEnd
    if ← advanceIf .value then unlessAt isEnd (node bound true true)
    else return ((← peek).1, absent)

/-- The entries of a flow sequence. A single pair of key and value is a mapping. -/
def flowSequence : Nat → (first : Bool) → List Node → Assemble Placed
  | 0, _, _ => exhausted
  | bound + 1, first, items => do
    let (mark, token) ← peek
    if token = .flowSequenceEnd then
      advance
      return (mark, .sequence items.reverse)
    else
      if !first then
        if token = .flowEntry then advance
        else fail mark "while parsing a flow sequence, expected ',' or ']'"
      let (mark, token) ← peek
      match token with
      | .flowSequenceEnd =>
        advance
        return (mark, .sequence items.reverse)
      | .key =>
        advance
        let (_, pair) ← flowPair bound
        flowSequence bound false (pair :: items)
      | _ =>
        let (_, item) ← node bound false false
        flowSequence bound false (item :: items)

/-- A single pair of key and value in a flow sequence, after its question mark. -/
def flowPair : Nat → Assemble Placed
  | 0 => exhausted
  | bound + 1 => do
    let (mark, token) ← peek
    let (mark, key) ←
      if token = .value ∨ token = .flowEntry ∨ token = .flowSequenceEnd then
        advance
        pure (mark, absent)
      else node bound false false
    let entries ← ({} : Entries).add mark key
    let isEnd (t : Token) := t = .flowEntry || t = .flowSequenceEnd
    let (mark, value) ←
      if ← advanceIf .value then unlessAt isEnd (node bound false false)
      else pure ((← peek).1, absent)
    let entries ← entries.add mark value
    return ((← peek).1, entries.toNode)

/-- The members of a flow mapping. -/
def flowMapping : Nat → (first : Bool) → Entries → Assemble Placed
  | 0, _, _ => exhausted
  | bound + 1, first, entries => do
    let (mark, token) ← peek
    if token = .flowMappingEnd then
      advance
      return (mark, entries.toNode)
    else
      if !first then
        if token = .flowEntry then advance
        else fail mark "while parsing a flow mapping, did not find expected ',' or '\x7d'"
      let (keyMark, token) ← peek
      match token with
      | .flowMappingEnd =>
        advance
        return (mark, entries.toNode)
      | .key =>
        advance
        let isEnd (t : Token) := t = .value || t = .flowEntry || t = .flowMappingEnd
        let (mark, key) ← unlessAt isEnd (node bound false false)
        let entries ← entries.add mark key
        let (mark, value) ← flowValue bound
        flowMapping bound false (← entries.add mark value)
      | .value =>
        let entries ← entries.add keyMark absent
        let (mark, value) ← flowValue bound
        flowMapping bound false (← entries.add mark value)
      -- a key alone has no value
      | _ =>
        let (mark, key) ← node bound false false
        let entries ← entries.add mark key
        let (mark, _) ← peek
        flowMapping bound false (← entries.add mark absent)

/-- The value of a member of a flow mapping. -/
def flowValue : Nat → Assemble Placed
  | 0 => exhausted
  | bound + 1 => do
    let (mark, _) ← peek
    if ← advanceIf .value then
      let (_, token) ← peek
      if token = .flowEntry ∨ token = .flowMappingEnd then return (mark, absent)
      else node bound false false
    else return (mark, absent)

end

/-! ### Documents -/

/-- Whether a token is a directive. -/
def isDirective : Token → Bool
  | .versionDirective => true
  | .tagDirective _ _ => true
  | _ => false

/-- The directives of a document. There may be only one version, and the last directive alone
declares a handle. -/
def directives : Nat → (versioned : Bool) → Assemble Unit
  | 0, _ => exhausted
  | bound + 1, versioned => do
    match ← peek with
    | (mark, .versionDirective) =>
      if versioned then fail mark "duplicate version directive"
      modify fun s => { s with handles := [] }
      advance
      directives bound true
    | (_, .tagDirective handle address) =>
      modify fun s => { s with handles := [(handle, address)] }
      advance
      directives bound versioned
    | _ => return

/-- Whether a token shows that a document has no content. -/
def endsDocument (t : Token) : Bool :=
  isDirective t || t = .documentStart || t = .documentEnd || t = .streamEnd

/-- The end of a document: whether the next one may begin without a mark. -/
def documentEnd : Assemble Bool := do
  let ended ← advanceIf .documentEnd
  modify fun s => { s with handles := [], anchors := [] }
  let (mark, token) ← peek
  if !ended ∧ isDirective token then
    fail mark "missing explicit document end marker before directive"
  return ended

/-- Passes marks of document ends. -/
def passEnds : Nat → Assemble Unit
  | 0 => return
  | bound + 1 => do
    if ← advanceIf .documentEnd then passEnds bound

/-- The documents of a text. The first may begin without a mark, and so may one after the mark
of a document's end. -/
def documents : Nat → (implicit : Bool) → Assemble (List Node)
  | 0, _ => exhausted
  | bound + 1, implicit => do
    passEnds bound
    let (_, token) ← peek
    if token = .streamEnd then return []
    else
      let document ←
        if implicit && !isDirective token && token ≠ .documentStart then node bound true false
        else do
          directives bound false
          if !(← advanceIf .documentStart) then
            fail (← peek).1 "did not find expected <document start>"
          unlessAt endsDocument (node bound true false)
      let implicit ← documentEnd
      return document.2 :: (← documents bound implicit)

end Grammar

/-- The documents of a text. A key that comes twice in a mapping is an error, but one that comes
after all errors of the grammar. -/
def documents (text : String) : Except Error (List Node) := do
  let tokens := Tokens.ofText text
  let start : Assembly := { tokens := tokens.list, failure := tokens.failure }
  let (nodes, s) ← (Grammar.documents (4 * tokens.list.length + 10) true).run start
  match s.repeated with
  | some e => .error e
  | none => .ok nodes

end ClusterWatch.Yaml
