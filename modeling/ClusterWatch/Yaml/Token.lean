import ClusterWatch.Yaml.Cursor
/-!
# Tokens of YAML

- `Yaml.Token`: the tokens.
- `Yaml.Lexer`: the state in which a text is cut into tokens. Whether a piece of text is a key is
  known only when the colon after it is reached, so the places where a key may have begun are
  remembered, and tokens are put in front of what followed them.
- The bookkeeping of indentation and of possible keys.
-/

namespace ClusterWatch.Yaml

/-- How a scalar is written. -/
inductive Style where
  | plain
  | quoted
  | block
  deriving DecidableEq, Repr, Inhabited

/-- The tokens. -/
inductive Token where
  | streamEnd
  | versionDirective
  | tagDirective (handle address : String)
  | documentStart
  | documentEnd
  | blockSequenceStart
  | blockMappingStart
  | blockEnd
  | flowSequenceStart
  | flowSequenceEnd
  | flowMappingStart
  | flowMappingEnd
  | blockEntry
  | flowEntry
  | key
  | value
  | alias (name : String)
  | anchor (name : String)
  | tag (handle suffix : String)
  | scalar (style : Style) (text : String)
  deriving DecidableEq, Repr, Inhabited

/-- A place where a key may have begun. -/
structure KeyPlace where
  possible : Bool := false
  /-- Whether the text is wrong if no key begins there. -/
  required : Bool := false
  /-- The number of tokens before the place. -/
  number : Nat := 0
  mark : Mark := {}
  deriving Inhabited

/-- An enclosing indentation. -/
structure Indent where
  column : Int
  /-- Whether a block ends with it. -/
  isBlock : Bool
  deriving Inhabited

/-- The state in which a text is cut into tokens. -/
structure Lexer where
  cursor : Cursor
  /-- The tokens so far. -/
  tokens : Array (Mark × Token) := #[]
  /-- Whether a key may begin here. -/
  keyAllowed : Bool := true
  /-- The places where a key may have begun, one for each open flow collection and one outside. -/
  keys : List KeyPlace := [{}]
  /-- The current indentation; -1 outside all blocks. -/
  indent : Int := -1
  /-- The enclosing indentations, the innermost first. -/
  indents : List Indent := []
  /-- The number of open flow collections. -/
  flowLevel : Nat := 0
  /-- The position at which a colon separates a value without a blank after it. -/
  adjacentAt : Nat := 0
  /-- Whether a flow mapping was begun explicitly. -/
  mappingBegun : Bool := false
  /-- For each open flow sequence, whether a mapping without braces is open in it. -/
  implicitMappings : List Bool := []
  deriving Inhabited

namespace Lexer

/-- An error at the position of the cursor. -/
def fail {α : Type} (l : Lexer) (reason : String) : Except Error α :=
  l.cursor.fail reason

/-- The column of the next character. -/
def column (l : Lexer) : Int :=
  l.cursor.column

/-- Whether the text is inside a flow collection. -/
def inFlow (l : Lexer) : Bool :=
  0 < l.flowLevel

/-- Appends a token. -/
def push (l : Lexer) (mark : Mark) (t : Token) : Lexer :=
  { l with tokens := l.tokens.push (mark, t) }

/-- Puts a token in front of those after the given number. -/
def insertAt (l : Lexer) (number : Nat) (mark : Mark) (t : Token) : Lexer :=
  { l with tokens :=
      (l.tokens.extract 0 number).push (mark, t) ++ l.tokens.extract number l.tokens.size }

/-! ### Keys -/

/-- The place of the innermost key. -/
def keyPlace (l : Lexer) : KeyPlace :=
  l.keys.headD {}

/-- Replaces the place of the innermost key. -/
def setKeyPlace (l : Lexer) (k : KeyPlace) : Lexer :=
  { l with keys := k :: l.keys.tail }

/-- Remembers that a key may begin here. -/
def saveKey (l : Lexer) : Lexer :=
  if l.keyAllowed then
    let required := !l.inFlow && l.indent = l.column && (l.indents.head?.any (·.isBlock))
    l.setKeyPlace ⟨true, required, l.tokens.size, l.cursor.mark⟩
  else l

/-- No key can have begun at the innermost place. -/
def removeKey (l : Lexer) : Except Error Lexer :=
  let k := l.keyPlace
  if k.possible && k.required then l.fail "simple key expected"
  else .ok (l.setKeyPlace { k with possible := false })

/-- How far the colon may be from the beginning of its key. -/
def maxKeyLength : Nat := 1024

/-- Gives up a place whose line or reach was left. -/
def staleKey (l : Lexer) (k : KeyPlace) : Except Error KeyPlace :=
  if k.possible && !l.inFlow && (k.mark.line < l.cursor.mark.line ||
      k.mark.index + maxKeyLength < l.cursor.mark.index) then
    if k.required then l.fail "simple key expect ':'" else .ok { k with possible := false }
  else .ok k

/-- Gives up all places whose line or reach was left. -/
def staleKeys (l : Lexer) : Except Error Lexer := do
  return { l with keys := ← l.keys.mapM l.staleKey }

/-! ### Indentation -/

/-- Leaves the blocks that are indented more than the given column. The first argument bounds
their number. -/
def unrollWithin : Nat → Int → Lexer → Lexer
  | 0, _, l => l
  | bound + 1, column, l =>
    if l.indent ≤ column then l
    else
      match l.indents with
      | [] => l
      | i :: rest =>
        let l := { l with indent := i.column, indents := rest }
        unrollWithin bound column (if i.isBlock then l.push l.cursor.mark .blockEnd else l)

/-- Leaves the blocks that are indented more than the given column. -/
def unroll (l : Lexer) (column : Int) : Lexer :=
  if l.inFlow then l else unrollWithin l.indents.length column l

/-- Leaves the indentations that belong to no block. -/
def unrollLoose (l : Lexer) : Lexer :=
  let loose := l.indents.takeWhile (!·.isBlock)
  match loose.getLast? with
  | some i => { l with indent := i.column, indents := l.indents.drop loose.length }
  | none => l

/-- Enters a block at a column, unless it is open already; its token goes in front of those after
the given number. -/
def roll (l : Lexer) (column : Nat) (number : Nat) (mark : Mark) (t : Token) : Lexer :=
  if l.inFlow then l
  else
    let l :=
      match l.indents with
      | i :: rest =>
        if l.indent ≤ (column : Int) ∧ !i.isBlock then
          { l with indent := i.column, indents := rest }
        else l
      | [] => l
    if l.indent < (column : Int) then
      { l with indents := ⟨l.indent, true⟩ :: l.indents, indent := column }.insertAt number mark t
    else l

/-- Indents by one column what follows, inside a block. -/
def rollOne (l : Lexer) : Lexer :=
  if !l.inFlow && (l.indents.head?.any (·.isBlock)) then
    { l with indents := ⟨l.indent, false⟩ :: l.indents, indent := l.indent + 1 }
  else l

end Lexer

end ClusterWatch.Yaml
