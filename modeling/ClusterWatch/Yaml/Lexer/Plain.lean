import ClusterWatch.Yaml.Lexer.Quoted
/-!
# Plain scalars

Scalars without quotes. They end before a comment, before a colon that separates a value, before
the punctuation of a flow collection, and where the indentation of their block ends.

- `Lexer.plain`: the text of a plain scalar and the cursor after it.
-/

namespace ClusterWatch.Yaml.Lexer

/-- Whether the next character may stand in a plain scalar, blanks apart. -/
def plainGoesOn (l : Lexer) (c : Cursor) : Bool :=
  let next := c.peekAt 1
  if c.peek = ':' && (isWordEnd next || (l.inFlow && isFlow next)) then false
  else !(l.inFlow && isFlow c.peek)

/-- The characters up to a blank or the end of the scalar. The first argument bounds their
number. -/
def plainWord (l : Lexer) : Nat → Cursor → List Char × Cursor
  | 0, c => ([], c)
  | bound + 1, c =>
    if isWordEnd c.peek || !l.plainGoesOn c then ([], c)
    else
      let (word, d) := plainWord l bound c.passMark
      (c.peek :: word, d)

/-- Passes blanks and line breaks. The first argument bounds their number. -/
def plainSpace (indent : Int) (start : Mark) : Nat → Space → Cursor → Except Error (Space × Cursor)
  | 0, s, c => .ok (s, c)
  | bound + 1, s, c =>
    if isBlank c.peek then
      if !c.atLineStart then
        plainSpace indent start bound { s with blanks := s.blanks ++ [c.peek] } c.pass
      else if (c.column : Int) < indent ∧ c.peek = '\t' then
        match c.passGap true with
        | .ok (_, c) =>
          if isLineEnd c.peek then plainSpace indent start bound s c
          else .error ⟨start, "while scanning a plain scalar, found a tab"⟩
        | .error e => .error e
      else plainSpace indent start bound s c.pass
    else if isBreak c.peek then
      let s := if c.atLineStart then { s with breaks := s.breaks + 1 }
        else { s with blanks := [], broken := true, leading := true }
      plainSpace indent start bound s c.passBreak
    else .ok (s, c)

/-- The words of a plain scalar after the given space. The first argument bounds their number. -/
def plainBody (l : Lexer) (indent : Int) (start : Mark) :
    Nat → Space → Cursor → Except Error (List Char × Cursor)
  | 0, _, c => .ok ([], c)
  | bound + 1, space, c => do
    if c.atDocumentMark || c.peek = '#' then return ([], c)
    else if l.inFlow && c.peek = '-' && isFlow (c.peekAt 1) then
      c.fail "plain scalar cannot start with '-' followed by ,[]\x7b\x7d"
    else
      let (word, d) := plainWord l (c.rest.length + 1) c
      let text := if word.isEmpty then [] else space.folded ++ word
      if !(isBlank d.peek || isBreak d.peek) then return (text, d)
      let space := if word.isEmpty then space else {}
      let (space, d) ← plainSpace indent start (d.rest.length + 1) space d
      if !l.inFlow && (d.column : Int) < indent then return (text, d)
      let (body, d) ← plainBody l indent start bound space d
      return (text ++ body, d)

/-- A plain scalar: its text, and the state after it. A key may begin after its last line break. -/
def plain (l : Lexer) : Except Error (String × Lexer) := do
  let l := l.unrollLoose
  let indent := l.indent + 1
  let start := l.cursor.mark
  if l.inFlow && l.column < indent then l.fail "invalid indentation in flow construct"
  else
    let (text, c) ← plainBody l indent start (l.cursor.rest.length + 1) {} l.cursor
    let l := { l with cursor := c, keyAllowed := l.keyAllowed || c.atLineStart }
    if text.isEmpty then .error ⟨start, "unexpected end of plain scalar"⟩
    else return (String.ofList text, l)

end ClusterWatch.Yaml.Lexer
