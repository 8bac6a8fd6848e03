import ClusterWatch.Text.Integer
/-!
# Reading position in a YAML text

The characters of a YAML text that are still to be read, with the position of the first one.

- `Yaml.Mark`: a position.
- `Yaml.Error`: why a text is not YAML, and where.
- `Yaml.Cursor`: the rest of a text, and whether nothing but blanks was read since its last line
  break.
- The character classes of YAML. The end of the text counts as the character zero.
-/

namespace ClusterWatch.Yaml

/-- A position in a text. -/
structure Mark where
  index : Nat := 0
  line : Nat := 1
  column : Nat := 0
  deriving DecidableEq, Repr, Inhabited

/-- Why a text is not YAML. -/
structure Error where
  mark : Mark
  reason : String
  deriving DecidableEq, Repr, Inhabited

/-- The wording of an error. Columns are counted from one in it. -/
def Error.message (e : Error) : String :=
  e.reason ++ " at byte " ++ toString e.mark.index ++ " line " ++ toString e.mark.line ++
    " column " ++ toString (e.mark.column + 1)

/-! ### Character classes -/

/-- Whether a character ends the text. -/
def isEnd (c : Char) : Bool :=
  c = '\x00'

/-- Whether a character breaks a line. -/
def isBreak (c : Char) : Bool :=
  c = '\n' || c = '\r'

/-- Whether a character is a space or a tab. -/
def isBlank (c : Char) : Bool :=
  c = ' ' || c = '\t'

/-- Whether a character ends a line. -/
def isLineEnd (c : Char) : Bool :=
  isBreak c || isEnd c

/-- Whether a character ends a word. -/
def isWordEnd (c : Char) : Bool :=
  isBlank c || isLineEnd c

/-- Whether a character is punctuation of the flow style. -/
def isFlow (c : Char) : Bool :=
  c = ',' || c = '[' || c = ']' || c = '\x7b' || c = '\x7d'

/-- Whether a character may stand in the name of a directive or a tag handle. -/
def isNameChar (c : Char) : Bool :=
  c.isAlphanum || c = '_' || c = '-'

/-- Whether a character may stand in the name of an anchor. -/
def isAnchorChar (c : Char) : Bool :=
  !isBreak c && c ≠ '\ufeff' && !isBlank c && !isFlow c && !isEnd c

/-- Whether a character may stand in the address of a tag. -/
def isAddressChar (c : Char) : Bool :=
  (isNameChar c && c ≠ '_') || c ∈ "#;/?:@&=+$,_.!~*'()[]%".toList

/-- Whether a character may stand in a tag. -/
def isTagChar (c : Char) : Bool :=
  isAddressChar c && !isFlow c && c ≠ '!'

/-! ### The cursor -/

/-- The rest of a text. -/
structure Cursor where
  rest : List Char
  mark : Mark := {}
  /-- Whether nothing but blanks was read on this line. -/
  atLineStart : Bool := true
  deriving Inhabited

namespace Cursor

/-- The next character. -/
def peek (c : Cursor) : Char :=
  c.rest.headD '\x00'

/-- The character after a number of others. -/
def peekAt (c : Cursor) (n : Nat) : Char :=
  (c.rest.drop n).headD '\x00'

/-- The column of the next character. -/
def column (c : Cursor) : Nat :=
  c.mark.column

/-- An error at the position of the cursor. -/
def fail {α : Type} (c : Cursor) (reason : String) : Except Error α :=
  .error ⟨c.mark, reason⟩

/-- Passes one character of a line. -/
def pass (c : Cursor) : Cursor :=
  { c with
    rest := c.rest.tail
    mark := { c.mark with index := c.mark.index + 1, column := c.mark.column + 1 } }

/-- Passes one character of a line that is no blank. -/
def passMark (c : Cursor) : Cursor :=
  { c.pass with atLineStart := false }

/-- Passes characters that are no blanks. -/
def passMarks : Nat → Cursor → Cursor
  | 0, c => c
  | n + 1, c => passMarks n c.passMark

/-- Passes a line break, if there is one. -/
def passBreak (c : Cursor) : Cursor :=
  let next (c : Cursor) (n : Nat) : Cursor :=
    { rest := c.rest.drop n
      mark := ⟨c.mark.index + n, c.mark.line + 1, 0⟩
      atLineStart := true }
  if c.peek = '\r' ∧ c.peekAt 1 = '\n' then next c 2
  else if isBreak c.peek then next c 1
  else c

/-- Passes characters while they are in a class, with `move` for each, and returns them. The first
argument bounds their number. -/
def takeWith (move : Cursor → Cursor) (p : Char → Bool) : Nat → Cursor → List Char × Cursor
  | 0, c => ([], c)
  | bound + 1, c =>
    match c.rest with
    | d :: _ =>
      if p d && !isEnd d then
        let (taken, c) := takeWith move p bound (move c)
        (d :: taken, c)
      else ([], c)
    | [] => ([], c)

/-- Passes blanks. -/
def passBlanks (c : Cursor) : Cursor :=
  (takeWith pass isBlank c.rest.length c).2

/-- Passes characters that are no blanks while they are in a class. -/
def takeMarks (p : Char → Bool) (c : Cursor) : List Char × Cursor :=
  takeWith passMark p c.rest.length c

/-- Passes the rest of the line, as a comment. -/
def passComment (c : Cursor) : Cursor :=
  (takeWith passMark (fun d => !isLineEnd d) c.rest.length c).2

/-- What stood between a token and the end of its line. -/
structure Gap where
  tab : Bool := false
  space : Bool := false

/-- Passes blanks and a comment. Tabs are passed only if `tabs` says so, and a comment has to
follow a blank. The first argument bounds the number of characters. -/
def passGapWithin (tabs : Bool) : Nat → Gap → Cursor → Except Error (Gap × Cursor)
  | 0, gap, c => .ok (gap, c)
  | bound + 1, gap, c =>
    if c.peek = ' ' then passGapWithin tabs bound { gap with space := true } c.pass
    else if c.peek = '\t' ∧ tabs then passGapWithin tabs bound { gap with tab := true } c.pass
    else if c.peek = '#' then
      if gap.tab || gap.space then .ok (gap, c.passComment)
      else c.fail "comments must be separated from other tokens by whitespace"
    else .ok (gap, c)

/-- Passes blanks and a comment. -/
def passGap (tabs : Bool) (c : Cursor) : Except Error (Gap × Cursor) :=
  passGapWithin tabs (c.rest.length + 1) {} c

/-- Whether a document starts or ends here. -/
def atDocumentMark (c : Cursor) : Bool :=
  c.column = 0 && isWordEnd (c.peekAt 3) &&
    (c.rest.take 3 = ['-', '-', '-'] || c.rest.take 3 = ['.', '.', '.'])

end Cursor

end ClusterWatch.Yaml
