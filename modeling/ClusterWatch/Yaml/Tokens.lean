import ClusterWatch.Yaml.Lexer.Block
import ClusterWatch.Yaml.Lexer.Indicator
import ClusterWatch.Yaml.Lexer.Plain
import ClusterWatch.Yaml.Lexer.Property
/-!
# The tokens of a text

- `Lexer.next`: reads what comes next, up to and including one indicator or scalar.
- `Yaml.Tokens`: the tokens of a text as far as it could be read, and why it could not be read
  further.
- `Tokens.ofText`: cuts a text into tokens.
-/

namespace ClusterWatch.Yaml

namespace Lexer

/-! ### Between tokens -/

/-- Whether a tab here would indent a block. -/
def tabIndents (l : Lexer) : Bool :=
  !l.indents.isEmpty && l.cursor.atLineStart && l.column < l.indent

/-- Passes blanks, line breaks and comments. The first argument bounds the number of
characters. -/
def passToNextWithin : Nat → Lexer → Except Error Lexer
  | 0, l => .ok l
  | bound + 1, l =>
    let c := l.cursor
    if c.peek = '\t' ∧ l.tabIndents then
      match l.passGap true with
      | .ok (_, l) =>
        if isLineEnd l.cursor.peek then passToNextWithin bound l
        else l.fail "tabs disallowed within this context (block indentation)"
      | .error e => .error e
    else if isBlank c.peek then passToNextWithin bound (l.move Cursor.pass)
    else if isBreak c.peek then
      passToNextWithin bound
        { l with cursor := c.passBreak, keyAllowed := l.keyAllowed || !l.inFlow }
    else if c.peek = '#' then passToNextWithin bound (l.move Cursor.passComment)
    else .ok l

/-- Passes everything in front of the next token. -/
def passToNext (l : Lexer) : Except Error Lexer :=
  passToNextWithin (l.cursor.rest.length + 1) l

/-! ### Streams and documents -/

/-- The end of the text. -/
def endStream (l : Lexer) : Except Error Lexer := do
  let mark := l.cursor.mark
  let mark := if mark.column = 0 then mark else ⟨mark.index, mark.line + 1, 0⟩
  let l := l.move fun c => { c with mark }
  if l.keys.any fun k => k.possible && k.required then l.fail "simple key expected"
  else
    let keys := l.keys.map fun k => { k with possible := false }
    let l := ({ l with keys } : Lexer).unroll (-1)
    return (l.allowKey false).push mark .streamEnd

/-- Leaves all blocks. -/
def endBlocks (l : Lexer) : Except Error Lexer := do
  let l ← (l.unroll (-1)).removeKey
  return l.allowKey false

/-- A directive. -/
def directiveLine (l : Lexer) : Except Error Lexer := do
  let start := l.cursor.mark
  let l ← l.endBlocks
  let (token, cursor) ← directive l.cursor
  return ({ l with cursor } : Lexer).push start token

/-- The line that starts or ends a document. -/
def documentMark (l : Lexer) : Except Error Lexer := do
  let start := l.cursor.mark
  let isEnd := l.cursor.peek = '.'
  let l ← l.endBlocks
  let l := l.move (Cursor.passMarks 3)
  if isEnd then
    let (_, l) ← (l.push start .documentEnd).passGap true
    if isLineEnd l.cursor.peek then return l
    else l.fail "invalid content after document end marker"
  else return l.push start .documentStart

/-! ### Scalars and their properties -/

/-- Reads something that may begin a key: `read` gives its token and the state after it. -/
def content (l : Lexer) (keyAfter : Bool) (read : Lexer → Except Error (Token × Lexer)) :
    Except Error Lexer := do
  let start := l.cursor.mark
  let (token, l) ← read (l.saveKey.allowKey keyAfter)
  return l.push start token

/-- The name of an anchor or an alias. -/
def named (token : String → Token) (l : Lexer) : Except Error (Token × Lexer) :=
  (anchorName l.cursor).map fun (name, cursor) => (token name, { l with cursor })

/-- A tag. -/
def tagged (l : Lexer) : Except Error (Token × Lexer) :=
  l.tagProperty.map fun (token, cursor) => (token, { l with cursor })

/-- A quoted scalar. A colon right after it separates a value. -/
def quotedScalar (single : Bool) (l : Lexer) : Except Error (Token × Lexer) := do
  let (text, cursor) ← l.quoted single
  let l ← ({ l with cursor } : Lexer).passToNext
  return (.scalar .quoted text, { l with adjacentAt := l.cursor.mark.index })

/-- A block scalar. -/
def blockScalar (literal : Bool) (l : Lexer) : Except Error (Token × Lexer) :=
  (l.block literal).map fun (text, l) => (.scalar .block text, l)

/-- A plain scalar. -/
def plainScalar (l : Lexer) : Except Error (Token × Lexer) :=
  l.plain.map fun (text, l) => (.scalar .plain text, l)

/-! ### Dispatch -/

/-- Reads an indicator or a scalar. -/
def readToken (l : Lexer) : Except Error Lexer :=
  let c := l.cursor.peek
  let next := l.cursor.peekAt 1
  let separated := isWordEnd next
  if c = '[' then l.openFlow false
  else if c = '\x7b' then l.openFlow true
  else if c = ']' then l.closeFlow false
  else if c = '\x7d' then l.closeFlow true
  else if c = ',' then l.flowEntry
  -- these mean something only in front of a blank, elsewhere they begin a plain scalar
  else if c = '-' ∧ separated then l.blockEntry
  else if c = '?' ∧ separated then l.explicitKey
  else if c = ':' ∧ separated then l.value
  else if c = ':' ∧ l.inFlow ∧ (isFlow next ∨ l.cursor.mark.index = l.adjacentAt) then l.flowValue
  else if c = '*' then l.content false (named .alias)
  else if c = '&' then l.content false (named .anchor)
  else if c = '!' then l.content false tagged
  else if c = '|' ∧ !l.inFlow then l.content true (blockScalar true)
  else if c = '>' ∧ !l.inFlow then l.content true (blockScalar false)
  else if c = '\'' then l.content false (quotedScalar true)
  else if c = '"' then l.content false (quotedScalar false)
  else if c = '%' ∨ c = '@' ∨ c = '`' then
    l.fail ("unexpected character: `" ++ c.toString ++ "'")
  else l.content false plainScalar

/-- Reads what comes next. -/
def next (l : Lexer) : Except Error Lexer := do
  let l ← l.passToNext
  let l ← l.staleKeys
  let l := l.unroll l.column
  if isEnd l.cursor.peek then l.endStream
  else if l.column = 0 && l.cursor.peek = '%' then l.directiveLine
  else if l.cursor.atDocumentMark then l.documentMark
  else if l.column < l.indent then l.fail "invalid indentation"
  else l.readToken

/-! ### Complete texts -/

/-- Whether the end of the text was read. -/
def isFinished (l : Lexer) : Bool :=
  (l.tokens.back?.map (·.2)) = some .streamEnd

/-- The number of tokens in front of which no other can be put any more. -/
def settled (l : Lexer) : Nat :=
  l.keys.foldl (fun n k => if k.possible then min n k.number else n) l.tokens.size

/-- Reads to the end of the text or to the first error. The first argument bounds the number of
tokens. -/
def finish : Nat → Lexer → Lexer × Option Error
  | 0, l => (l, none)
  | bound + 1, l =>
    if l.isFinished then (l, none)
    else
      match l.next.bind staleKeys with
      | .ok l => finish bound l
      | .error e => (l, some e)

end Lexer

/-- The tokens of a text, and why it could not be read further. -/
structure Tokens where
  list : List (Mark × Token)
  failure : Option Error := none
  deriving Inhabited

/-- Cuts a text into tokens. In front of an error those are left out that might have become a
key. -/
def Tokens.ofText (text : String) : Tokens :=
  let l : Lexer := { cursor := { rest := text.toList } }
  let (l, failure) := l.finish (l.cursor.rest.length + 2)
  ⟨(l.tokens.toList.take l.settled), failure⟩

end ClusterWatch.Yaml
