import ClusterWatch.Yaml.Token
/-!
# Indicators

The punctuation that gives a YAML text its structure: brackets and commas, entries of block
sequences, keys and values. Each function stands at its indicator.

- `Lexer.openFlow`, `Lexer.closeFlow`, `Lexer.flowEntry`: flow collections.
- `Lexer.blockEntry`: an entry of a block sequence.
- `Lexer.explicitKey`, `Lexer.value`, `Lexer.flowValue`: the parts of mappings.
-/

namespace ClusterWatch.Yaml.Lexer

/-- Says whether a key may begin here. -/
def allowKey (l : Lexer) (allowed : Bool) : Lexer :=
  { l with keyAllowed := allowed }

/-- Moves the cursor. -/
def move (l : Lexer) (f : Cursor → Cursor) : Lexer :=
  { l with cursor := f l.cursor }

/-- Passes blanks and a comment. -/
def passGap (l : Lexer) (tabs : Bool) : Except Error (Cursor.Gap × Lexer) :=
  (l.cursor.passGap tabs).map fun (gap, cursor) => (gap, { l with cursor })

/-! ### Flow collections -/

/-- How many flow collections may be open at the same time. -/
def maxFlowLevel : Nat := 255

/-- The beginning of a flow collection. -/
def openFlow (l : Lexer) (isMapping : Bool) : Except Error Lexer :=
  let start := l.cursor.mark
  let l := l.saveKey.rollOne
  if maxFlowLevel ≤ l.flowLevel then l.fail "recursion limit exceeded"
  else do
    let l := { l with flowLevel := l.flowLevel + 1, keys := {} :: l.keys, keyAllowed := true }
    let l := l.move Cursor.passMark
    let l :=
      if isMapping then { l with mappingBegun := true }
      else { l with implicitMappings := false :: l.implicitMappings }
    let (_, l) ← l.passGap true
    return l.push start (if isMapping then .flowMappingStart else .flowSequenceStart)

/-- Ends a mapping without braces in a flow sequence, if one is open. -/
def endImplicitMapping (l : Lexer) (mark : Mark) : Lexer :=
  match l.implicitMappings with
  | true :: rest =>
    { l with mappingBegun := false, implicitMappings := false :: rest }.push mark .flowMappingEnd
  | _ => l

/-- The end of a flow collection. A colon right after it separates a value. -/
def closeFlow (l : Lexer) (isMapping : Bool) : Except Error Lexer := do
  let l ← l.removeKey
  let l := if l.inFlow then { l with flowLevel := l.flowLevel - 1, keys := l.keys.tail } else l
  let start := l.cursor.mark
  let l := l.allowKey false
  let l :=
    if isMapping then l
    else
      let l := l.endImplicitMapping start
      { l with implicitMappings := l.implicitMappings.tail }
  let (_, l) ← (l.move Cursor.passMark).passGap true
  let l := if l.inFlow then { l with adjacentAt := l.cursor.mark.index } else l
  return l.push start (if isMapping then .flowMappingEnd else .flowSequenceEnd)

/-- A comma between the entries of a flow collection. -/
def flowEntry (l : Lexer) : Except Error Lexer := do
  let l ← l.removeKey
  let start := l.cursor.mark
  let l := (l.allowKey true).endImplicitMapping start
  let (_, l) ← (l.move Cursor.passMark).passGap true
  return l.push start .flowEntry

/-! ### Block sequences -/

/-- The place of an anchor or a tag that was read last. -/
def propertyMark? (l : Lexer) : Option Mark :=
  match l.tokens.back? with
  | some (mark, .anchor _) => some mark
  | some (mark, .tag _ _) => some mark
  | _ => none

/-- The place of an anchor or a tag in front of a dash, both at the beginning of their lines
inside a block. -/
def looseProperty? (l : Lexer) : Option Mark :=
  if l.cursor.column = 0 ∧ (-1 : Int) < l.indent then
    l.propertyMark?.filter fun mark => mark.column = 0
  else none

/-- The dash in front of an entry of a block sequence. -/
def blockEntry (l : Lexer) : Except Error Lexer :=
  let start := l.cursor.mark
  if l.inFlow then l.fail "\"-\" is only valid inside a block"
  else if !l.keyAllowed then l.fail "block sequence entries are not allowed in this context"
  else
    match l.looseProperty? with
    | some mark => .error ⟨mark, "invalid indentation for anchor"⟩
    | none => do
      let l := (l.move Cursor.passMark).roll start.column l.tokens.size start .blockSequenceStart
      let (gap, l) ← l.passGap true
      if gap.tab && l.cursor.peek = '-' && isWordEnd (l.cursor.peekAt 1) then
        l.fail "'-' must be followed by a valid YAML whitespace"
      else
        let (_, l) ← l.passGap false
        let l := if isBreak l.cursor.peek || isFlow l.cursor.peek then l.rollOne else l
        let l ← l.removeKey
        return (l.allowKey true).push l.cursor.mark .blockEntry

/-! ### Mappings -/

/-- Passes the blanks, line breaks and comments after a question mark, and tells whether there
were some. The first argument bounds the number of characters. -/
def passSpace : Nat → Bool → Lexer → Bool × Lexer
  | 0, found, l => (found, l)
  | bound + 1, found, l =>
    let c := l.cursor
    if c.peek = ' ' then passSpace bound true { l with cursor := c.pass }
    else if isBreak c.peek then
      passSpace bound true { l with cursor := c.passBreak, keyAllowed := l.keyAllowed || !l.inFlow }
    else if c.peek = '#' then passSpace bound found { l with cursor := c.passComment }
    else (found, l)

/-- The question mark in front of a key. -/
def explicitKey (l : Lexer) : Except Error Lexer := do
  let start := l.cursor.mark
  let l ←
    if l.inFlow then .ok { l with mappingBegun := true }
    else if !l.keyAllowed then l.fail "mapping keys are not allowed in this context"
    else .ok (l.roll start.column l.tokens.size start .blockMappingStart)
  let l ← l.removeKey
  let l := (l.allowKey !l.inFlow).move Cursor.passMark
  let (found, l) := l.passSpace (l.cursor.rest.length + 1) false
  if !found then l.fail "expected whitespace"
  else if l.cursor.peek = '\t' then l.fail "tabs disallowed in this context"
  else return l.push start .key

/-- Passes the tabs after a colon. What they separate may not look like a block or a word. -/
def passTabs (l : Lexer) : Except Error Lexer :=
  if l.cursor.peek ≠ '\t' then .ok l
  else do
    let (gap, l) ← l.passGap true
    if !gap.space && isNameChar l.cursor.peek then
      l.fail "':' must be followed by a valid YAML whitespace"
    else return l

/-- Makes what was read since the innermost key place a key. -/
def insertKey (l : Lexer) (k : KeyPlace) (start : Mark) (implicit : Bool) : Except Error Lexer :=
  let l := l.insertAt k.number k.mark .key
  let finish (l : Lexer) : Lexer :=
    let l := (l.roll k.mark.column k.number k.mark .blockMappingStart).rollOne
    (l.setKeyPlace { k with possible := false }).allowKey false
  if !implicit then .ok (finish l)
  else if k.mark.line < start.line then l.fail "illegal placement of ':' indicator"
  else .ok (finish (l.insertAt k.number l.cursor.mark .flowMappingStart))

/-- The colon after a key that was announced by a question mark, or after no key at all. -/
def valueWithoutKey (l : Lexer) (start : Mark) (implicit : Bool) : Except Error Lexer :=
  let l := if implicit then l.push l.cursor.mark .flowMappingStart else l
  if l.inFlow then .ok (l.rollOne.allowKey false)
  else if !l.keyAllowed then l.fail "mapping values are not allowed in this context"
  else
    let l := l.roll start.column l.tokens.size start .blockMappingStart
    .ok (l.rollOne.allowKey true)

/-- The colon in front of a value. -/
def value (l : Lexer) : Except Error Lexer := do
  let k := l.keyPlace
  let start := l.cursor.mark
  let implicit := !l.implicitMappings.isEmpty && !l.mappingBegun
  let l :=
    if implicit then { l with implicitMappings := true :: l.implicitMappings.tail } else l
  let l ← (l.move Cursor.passMark).passTabs
  let l ← if k.possible then l.insertKey k start implicit else l.valueWithoutKey start implicit
  return l.push start .value

/-- A colon in a flow collection without a blank after it. -/
def flowValue (l : Lexer) : Except Error Lexer :=
  let next := l.cursor.peekAt 1
  if l.cursor.mark.index ≠ l.adjacentAt ∧ (next = '[' ∨ next = '\x7b') then
    l.fail "':' may not precede any of `[\x7b` in flow mapping"
  else l.value

end ClusterWatch.Yaml.Lexer
