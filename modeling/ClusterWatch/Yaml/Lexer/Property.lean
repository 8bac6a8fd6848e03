import ClusterWatch.Yaml.Lexer.Quoted
/-!
# Anchors, tags and directives

- `Lexer.anchorName`: the name of an anchor or an alias.
- `Lexer.tagProperty`: a tag.
- `Lexer.directive`: a directive.
-/

namespace ClusterWatch.Yaml.Lexer

/-- The name of an anchor or an alias, at its indicator. -/
def anchorName (c : Cursor) : Except Error (String × Cursor) :=
  let (name, d) := c.passMark.takeMarks isAnchorChar
  if name.isEmpty then
    .error ⟨c.mark, "while scanning an anchor or alias, did not find expected alphabetic or " ++
      "numeric character"⟩
  else .ok (String.ofList name, d)

/-- The number of bytes of a character, by its first byte. -/
def byteCount? (byte : Nat) : Option Nat :=
  if byte < 0x80 then some 1
  else if byte / 0x20 = 0x6 then some 2
  else if byte / 0x10 = 0xe then some 3
  else if byte / 0x8 = 0x1e then some 4
  else none

/-- One byte that is written as a percent sign and two digits. -/
def percentByte (start : Mark) (c : Cursor) : Except Error (Nat × Cursor) :=
  match if c.peek = '%' then codeOf? c.pass 2 else none with
  | some byte => .ok (byte, c.passMarks 3)
  | none => .error ⟨start, "while parsing a tag, found an invalid escape sequence"⟩

/-- The following bytes of a character. -/
def percentRest (start : Mark) : Nat → Nat → Cursor → Except Error (Nat × Cursor)
  | 0, code, c => .ok (code, c)
  | n + 1, code, c => do
    let (byte, c) ← percentByte start c
    if byte / 0x40 = 2 then percentRest start n (code * 0x100 + byte) c
    else .error ⟨start, "while parsing a tag, found an incorrect trailing UTF-8 byte"⟩

/-- A character that is written with percent signs. -/
def percentChar (start : Mark) (c : Cursor) : Except Error (Char × Cursor) := do
  let (byte, c) ← percentByte start c
  match byteCount? byte with
  | none => .error ⟨start, "while parsing a tag, found an incorrect leading UTF-8 byte"⟩
  | some n =>
    let (code, c) ← percentRest start (n - 1) byte c
    match charOf? code with
    | some d => return (d, c)
    | none => .error ⟨start, "while parsing a tag, found an invalid UTF-8 codepoint"⟩

/-- The characters of a tag while they are in a class. The first argument bounds their number. -/
def tagChars (start : Mark) (p : Char → Bool) : Nat → Cursor → Except Error (List Char × Cursor)
  | 0, c => .ok ([], c)
  | bound + 1, c =>
    if !p c.peek then .ok ([], c)
    else do
      let (d, c) ← if c.peek = '%' then percentChar start c else .ok (c.peek, c.passMark)
      let (rest, c) ← tagChars start p bound c
      return (d :: rest, c)

/-- The handle of a tag. In a directive it has to end with an exclamation mark. -/
def tagHandle (inDirective : Bool) (start : Mark) (c : Cursor) :
    Except Error (List Char × Cursor) :=
  if c.peek ≠ '!' then .error ⟨start, "while scanning a tag, did not find expected '!'"⟩
  else
    let (name, c) := c.passMark.takeMarks isNameChar
    if c.peek = '!' then .ok ('!' :: name ++ ['!'], c.passMark)
    else if inDirective && !name.isEmpty then
      .error ⟨start, "while parsing a tag directive, did not find expected '!'"⟩
    else .ok ('!' :: name, c)

/-- A tag between angle brackets, at its exclamation mark. -/
def verbatimTag (start : Mark) (c : Cursor) : Except Error (List Char × Cursor) := do
  let c := c.passMarks 2
  let (address, c) ← tagChars start isAddressChar (c.rest.length + 1) c
  if c.peek = '>' then return (address, c.passMark)
  else .error ⟨start, "while scanning a verbatim tag, did not find the expected '>'"⟩

/-- A tag with or without a handle of its own. -/
def shorthandTag (start : Mark) (c : Cursor) : Except Error (List Char × List Char × Cursor) := do
  let (handle, c) ← tagHandle false start c
  let (suffix, c) ← tagChars start isTagChar (c.rest.length + 1) c
  if 2 ≤ handle.length ∧ handle.getLast? = some '!' then
    if suffix.isEmpty then
      .error ⟨start, "while parsing a tag, did not find expected tag URI"⟩
    else return (handle, suffix, c)
  else
    let suffix := handle.tail ++ suffix
    return if suffix.isEmpty then ([], ['!'], c) else (['!'], suffix, c)

/-- A tag, at its exclamation mark. -/
def tagProperty (l : Lexer) : Except Error (Token × Cursor) := do
  let start := l.cursor.mark
  let (handle, suffix, c) ←
    if l.cursor.peekAt 1 = '<' then
      (verbatimTag start l.cursor).map fun (address, c) => ([], address, c)
    else shorthandTag start l.cursor
  if isWordEnd c.peek || (l.inFlow && isFlow c.peek) then
    return (.tag (String.ofList handle) (String.ofList suffix), c)
  else .error ⟨start, "while scanning a tag, did not find expected whitespace or line break"⟩

/-- A number of a version. -/
def versionNumber (start : Mark) (c : Cursor) : Except Error Cursor :=
  let (digits, c) := c.takeMarks Char.isDigit
  if 9 < digits.length then
    .error ⟨start, "while scanning a YAML directive, found extremely long version number"⟩
  else if digits.isEmpty then
    .error ⟨start, "while scanning a YAML directive, did not find expected version number"⟩
  else .ok c

/-- The value of a version directive. -/
def versionValue (start : Mark) (c : Cursor) : Except Error (Token × Cursor) := do
  let c ← versionNumber start c.passBlanks
  if c.peek ≠ '.' then
    .error ⟨start, "while scanning a YAML directive, did not find expected digit or '.' " ++
      "character"⟩
  else
    let c ← versionNumber start c.passMark
    return (.versionDirective, c)

/-- The address of a tag directive. -/
def tagAddress (start : Mark) (c : Cursor) : Except Error (List Char × Cursor) :=
  if c.peek ≠ '!' ∧ !isTagChar c.peek then .error ⟨start, "invalid global tag character"⟩
  else do
    let (first, c) ← if c.peek = '%' then percentChar start c else .ok (c.peek, c.passMark)
    let (rest, c) ← tagChars start isAddressChar (c.rest.length + 1) c
    return (first :: rest, c)

/-- The value of a tag directive. -/
def tagValue (start : Mark) (c : Cursor) : Except Error (Token × Cursor) := do
  let (handle, c) ← tagHandle true start c.passBlanks
  let (address, c) ← tagAddress start c.passBlanks
  if isWordEnd c.peek then
    return (.tagDirective (String.ofList handle) (String.ofList address), c)
  else .error ⟨start, "while scanning TAG, did not find expected whitespace or line break"⟩

/-- A directive, at its percent sign. One of an unknown name counts as an empty tag directive. -/
def directive (c : Cursor) : Except Error (Token × Cursor) := do
  let start := c.mark
  let (name, c) := c.passMark.takeMarks isNameChar
  if name.isEmpty then
    .error ⟨start, "while scanning a directive, could not find expected directive name"⟩
  else if !isWordEnd c.peek then
    .error ⟨start, "while scanning a directive, found unexpected non-alphabetical character"⟩
  else
    let (token, c) ←
      if name = "YAML".toList then versionValue start c
      else if name = "TAG".toList then tagValue start c
      else .ok (.tagDirective "" "", c.passComment)
    let (_, c) ← c.passGap true
    if isLineEnd c.peek then return (token, c.passBreak)
    else
      .error ⟨start, "while scanning a directive, did not find expected comment or line break"⟩

end ClusterWatch.Yaml.Lexer
