import ClusterWatch.Yaml.Lexer.Quoted
/-!
# Block scalars

Scalars that are written as indented lines, literally or folded.

- `Lexer.block`: the text of a block scalar and the state after it.
-/

namespace ClusterWatch.Yaml.Lexer

/-- What becomes of the line breaks at the end of a block scalar. -/
inductive Chomping where
  | strip
  | clip
  | keep
  deriving DecidableEq

/-- The chomping of an indicator. -/
def chompingOf? : Char → Option Chomping
  | '+' => some .keep
  | '-' => some .strip
  | _ => none

/-- The header of a block scalar: its chomping and the explicit indentation, zero without one. -/
def blockHeader (start : Mark) (c : Cursor) : Except Error (Chomping × Nat × Cursor) :=
  let digit? (c : Cursor) : Except Error (Nat × Cursor) :=
    if c.peek.isDigit then
      if c.peek = '0' then
        .error ⟨start, "while scanning a block scalar, found an indentation indicator equal to 0"⟩
      else .ok (c.peek.toNat - '0'.toNat, c.passMark)
    else .ok (0, c)
  match chompingOf? c.peek with
  | some chomping => (digit? c.passMark).map fun (n, c) => (chomping, n, c)
  | none => do
    let (n, c) ← digit? c
    match if 0 < n then chompingOf? c.peek else none with
    | some chomping => return (chomping, n, c.passMark)
    | none => return (.clip, n, c)

/-- Passes the indentation and the empty lines in front of a line, and counts the line breaks. The
first argument bounds their number. -/
def blockIndent (indent : Nat) : Nat → Nat → Cursor → Nat × Cursor
  | 0, breaks, c => (breaks, c)
  | bound + 1, breaks, c =>
    if c.column < indent ∧ c.peek = ' ' then blockIndent indent bound breaks c.pass
    else if isBreak c.peek then blockIndent indent bound (breaks + 1) c.passBreak
    else (breaks, c)

/-- Passes the spaces and the empty lines in front of the first line. Returns the deepest column
that was reached and the number of line breaks. The first argument bounds their number. -/
def firstIndent : Nat → Nat → Nat → Cursor → Nat × Nat × Cursor
  | 0, deepest, breaks, c => (deepest, breaks, c)
  | bound + 1, deepest, breaks, c =>
    if c.peek = ' ' then firstIndent bound deepest breaks c.pass
    else
      let deepest := max deepest c.column
      if isBreak c.peek then firstIndent bound deepest (breaks + 1) c.passBreak
      else (deepest, breaks, c)

/-- Line breaks that were read and not written yet. -/
structure Breaks where
  /-- Whether there is one after the last line. -/
  last : Bool := false
  /-- How many follow it. -/
  further : Nat := 0

/-- The text of a number of line breaks. -/
def lineBreaks (n : Nat) : List Char :=
  List.replicate n '\n'

/-- The text of line breaks. -/
def Breaks.chars (b : Breaks) : List Char :=
  lineBreaks ((if b.last then 1 else 0) + b.further)

/-- What line breaks fold to in front of a line. Next to a line that begins with a blank they
stay. -/
def Breaks.before (b : Breaks) (literal blankBefore blankHere : Bool) : List Char :=
  if !literal && b.last && !blankBefore && !blankHere then
    if b.further = 0 then [' '] else lineBreaks b.further
  else b.chars

/-- The lines of a block scalar, the line breaks after the last one, and the cursor there. The
first argument bounds the number of lines. -/
def blockLines (literal : Bool) (indent : Nat) :
    Nat → Breaks → (blankBefore : Bool) → Cursor → List Char × Breaks × Cursor
  | 0, breaks, _, c => ([], breaks, c)
  | bound + 1, breaks, blankBefore, c =>
    if c.column ≠ indent || isEnd c.peek then ([], breaks, c)
    else if indent = 0 && c.atDocumentMark then ([], breaks, c)
    else
      let blankHere := isBlank c.peek
      let lead := breaks.before literal blankBefore blankHere
      let (line, d) := c.takeMarks fun x => !isLineEnd x
      if isEnd d.peek then (lead ++ line, {}, d)
      else
        let (further, d) := blockIndent indent (d.rest.length + 1) 0 d.passBreak
        let (text, breaks, d) := blockLines literal indent bound ⟨true, further⟩ blankHere d
        (lead ++ line ++ text, breaks, d)

/-- The text of a block scalar that has no lines. -/
def emptyBlock (chomping : Chomping) (sameLine : Bool) (headBreak : List Char) (breaks : Nat) :
    List Char :=
  match chomping with
  | .strip => []
  | .clip => if sameLine then [] else headBreak
  | .keep => if sameLine then [] else if breaks = 0 then headBreak else lineBreaks breaks

/-- A block scalar, at its indicator: its text and the state after it. -/
def block (l : Lexer) (literal : Bool) : Except Error (String × Lexer) := do
  let start := l.cursor.mark
  let l := { l with cursor := l.cursor.passMark }.unrollLoose
  let (chomping, increment, c) ← blockHeader start l.cursor
  let (_, c) ← c.passGap true
  if !isLineEnd c.peek then
    .error ⟨start, "while scanning a block scalar, did not find expected comment or line break"⟩
  else
    let headBreak := if isBreak c.peek then ['\n'] else []
    let c := c.passBreak
    if c.peek = '\t' then .error ⟨start, "a block scalar content cannot start with a tab"⟩
    else
      let bound := c.rest.length + 1
      let (indent, breaks, c) :=
        -- the indentation is given, or it is that of the first line with text
        if 0 < increment then
          let indent := if (0 : Int) ≤ l.indent then l.indent.toNat + increment else increment
          let (breaks, c) := blockIndent indent bound 0 c
          (indent, breaks, c)
        else
          let (deepest, breaks, c) := firstIndent bound 0 0 c
          (max deepest (l.indent + 1).toNat, breaks, c)
      if isEnd c.peek then
        let text := emptyBlock chomping (c.mark.line = start.line) headBreak breaks
        return (String.ofList text, { l with cursor := c })
      else if c.column < indent ∧ l.indent < (c.column : Int) then
        c.fail "wrongly indented line in block scalar"
      else
        let (text, rest, c) := blockLines literal indent bound ⟨false, breaks⟩ false c
        let final := isEnd c.peek && max indent 1 ≤ c.column
        let tail :=
          (if chomping = .strip then []
            else (if rest.last then ['\n'] else []) ++ (if final then ['\n'] else [])) ++
          (if chomping = .keep then lineBreaks rest.further else [])
        return (String.ofList (text ++ tail), { l with cursor := c })

end ClusterWatch.Yaml.Lexer
