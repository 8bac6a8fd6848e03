import ClusterWatch.Yaml.Token
/-!
# Quoted scalars

Scalars between single or double quotes. Line breaks are folded: one becomes a space, and of
several the first is dropped.

- `Lexer.quoted`: the text between quotes and the cursor after them.
-/

namespace ClusterWatch.Yaml.Lexer

/-- The value of a run of hexadecimal digits of the given length. -/
def codeOf? (c : Cursor) (length : Nat) : Option Nat :=
  let digits := c.rest.take length
  if digits.length = length then Text.natural? 16 digits else none

/-- The character of a number, when it has one. -/
def charOf? (n : Nat) : Option Char :=
  if h : n.isValidChar then some (Char.ofNatAux n h) else none

/-- The character of an escape that is written with one character. -/
def shortEscape? : Char → Option Char
  | '0' => some '\x00'
  | 'a' => some '\x07'
  | 'b' => some '\x08'
  | 't' => some '\t'
  | '\t' => some '\t'
  | 'n' => some '\n'
  | 'v' => some '\x0b'
  | 'f' => some '\x0c'
  | 'r' => some '\r'
  | 'e' => some '\x1b'
  | ' ' => some ' '
  | '"' => some '"'
  | '/' => some '/'
  | '\\' => some '\\'
  | 'N' => some '\x85'
  | '_' => some '\xa0'
  | 'L' => some '\u2028'
  | 'P' => some '\u2029'
  | _ => none

/-- The number of digits of an escape that gives a code point. -/
def escapeLength? : Char → Option Nat
  | 'x' => some 2
  | 'u' => some 4
  | 'U' => some 8
  | _ => none

/-- The character of an escape, at its backslash. -/
def escape (start : Mark) (c : Cursor) : Except Error (Char × Cursor) :=
  match shortEscape? (c.peekAt 1), escapeLength? (c.peekAt 1) with
  | some d, _ => .ok (d, c.passMarks 2)
  | none, some length =>
    let c := c.passMarks 2
    match codeOf? c length with
    | none =>
      .error ⟨start, "while parsing a quoted scalar, did not find expected hexadecimal number"⟩
    | some n =>
      match charOf? n with
      | some d => .ok (d, c.passMarks length)
      | none => .error
          ⟨start, "while parsing a quoted scalar, found invalid Unicode character escape code"⟩
  | none, none =>
    .error ⟨start, "while parsing a quoted scalar, found unknown escape character"⟩

/-- The characters up to the next blank, line end or closing quote, and whether they end with an
escaped line break. The first argument bounds their number. -/
def quotedWord (single : Bool) (start : Mark) :
    Nat → Cursor → Except Error (List Char × Bool × Cursor)
  | 0, c => .ok ([], false, c)
  | bound + 1, c =>
    let d := c.peek
    let more (d : Char) (c : Cursor) : Except Error (List Char × Bool × Cursor) := do
      let (word, broken, c) ← quotedWord single start bound c
      return (d :: word, broken, c)
    if isWordEnd d then .ok ([], false, c)
    else if single then
      if d = '\'' then
        if c.peekAt 1 = '\'' then more '\'' (c.passMarks 2) else .ok ([], false, c)
      else more d c.passMark
    else if d = '"' then .ok ([], false, c)
    else if d = '\\' then
      if isBreak (c.peekAt 1) then .ok ([], true, c.passMark.passBreak)
      else
        match escape start c with
        | .ok (d, c) => more d c
        | .error e => .error e
    else more d c.passMark

/-- The blanks and line breaks between two words of a scalar. -/
structure Space where
  /-- The blanks of the line, when there is no line break. -/
  blanks : List Char := []
  /-- Whether a line break was read. -/
  broken : Bool := false
  /-- Whether the first line break is one of the text and not an escaped one. -/
  leading : Bool := false
  /-- The further line breaks. -/
  breaks : Nat := 0

/-- What blanks and line breaks fold to. -/
def Space.folded (s : Space) : List Char :=
  if s.broken then
    if !s.leading || 0 < s.breaks then List.replicate s.breaks '\n' else [' ']
  else s.blanks

/-- Passes blanks and line breaks. The first argument bounds their number. -/
def quotedSpace (l : Lexer) : Nat → Space → Cursor → Except Error (Space × Cursor)
  | 0, s, c => .ok (s, c)
  | bound + 1, s, c =>
    if isBlank c.peek then
      if s.broken then
        if c.peek = '\t' ∧ (c.column : Int) < l.indent then
          c.fail "tab cannot be used as indentation"
        else quotedSpace l bound s c.pass
      else quotedSpace l bound { s with blanks := s.blanks ++ [c.peek] } c.pass
    else if isBreak c.peek then
      let s := if s.broken then { s with breaks := s.breaks + 1 }
        else { s with blanks := [], broken := true, leading := true }
      quotedSpace l bound s c.passBreak
    else .ok (s, c)

/-- The words of a quoted scalar up to its closing quote. The first argument bounds their
number. -/
def quotedBody (l : Lexer) (single : Bool) (start : Mark) :
    Nat → Cursor → Except Error (List Char × Cursor)
  | 0, c => .ok ([], c)
  | bound + 1, c => do
    if c.atDocumentMark then
      .error ⟨start, "while scanning a quoted scalar, found unexpected document indicator"⟩
    else if isEnd c.peek then
      .error ⟨start, "while scanning a quoted scalar, found unexpected end of stream"⟩
    else if (c.column : Int) < l.indent then
      .error ⟨start, "invalid indentation in quoted scalar"⟩
    else
      let (word, broken, c) ← quotedWord single start (c.rest.length + 1) c
      if c.peek = (if single then '\'' else '"') then return (word, c)
      else
        let (space, c) ← quotedSpace l (c.rest.length + 1) { broken } c
        let (body, c) ← quotedBody l single start bound c
        return (word ++ space.folded ++ body, c)

/-- A quoted scalar at its opening quote: its text and the cursor after the blanks that follow
it. -/
def quoted (l : Lexer) (single : Bool) : Except Error (String × Cursor) := do
  let start := l.cursor.mark
  let c := l.cursor.passMark
  let (body, c) ← quotedBody l single start (c.rest.length + 1) c
  let (_, c) ← c.passMark.passGap true
  let d := c.peek
  let follows := isLineEnd d || (d = ':' && (l.inFlow || start.line = c.mark.line)) ||
    (l.inFlow && (d = ',' || d = '\x7d' || d = ']'))
  if follows then return (String.ofList body, c)
  else c.fail "invalid trailing content after double-quoted scalar"

end ClusterWatch.Yaml.Lexer
