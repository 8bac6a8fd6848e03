import ClusterWatch.Json.Value
import ClusterWatch.Text.Integer
/-!
# Reading JSON

A reader for JSON texts. Members keep the order and the repetitions of the text; what a repeated
member means is decided where the value is used.

- `ReadError`: why a text is not JSON.
- `readValue`: one value and the text after it.
- `read`: a text that holds one value and nothing else but blanks.
-/

namespace ClusterWatch.Json

/-- Why a text is not JSON. -/
inductive ReadError where
  | unexpectedEnd
  | unexpectedCharacter
  | badEscape
  | controlCharacter
  | badNumber
  | numberOutOfRange
  | tooDeep
  | trailingCharacters
  deriving DecidableEq, Repr

/-- The blanks between the tokens of a JSON text. -/
def isBlank (c : Char) : Bool :=
  c = ' ' || c = '\n' || c = '\t' || c = '\r'

/-- Drops the blanks at the start. -/
def skipBlanks (cs : List Char) : List Char :=
  cs.dropWhile isBlank

/-- The four hexadecimal digits of a `\u` escape. -/
def readUnit : List Char → Except ReadError (Nat × List Char)
  | a :: b :: c :: d :: rest =>
    match Text.natural? 16 [a, b, c, d] with
    | some unit => .ok (unit, rest)
    | none => .error .badEscape
  | _ => .error .badEscape

/-- The character of a `\u` escape, which takes a pair of escapes beyond the basic plane. -/
def readUnicode (cs : List Char) : Except ReadError (Char × List Char) := do
  let (unit, rest) ← readUnit cs
  -- half of a character that takes two escapes
  if 0xd800 ≤ unit ∧ unit < 0xdc00 then
    match rest with
    | '\\' :: 'u' :: rest =>
      let (low, rest) ← readUnit rest
      if 0xdc00 ≤ low ∧ low < 0xe000 then
        return (Char.ofNat (0x10000 + (unit - 0xd800) * 0x400 + (low - 0xdc00)), rest)
      else throw .badEscape
    | _ => throw .badEscape
  else if 0xdc00 ≤ unit ∧ unit < 0xe000 then throw .badEscape
  else return (Char.ofNat unit, rest)

/-- The character of an escape, after its backslash. -/
def readEscape : List Char → Except ReadError (Char × List Char)
  | '"' :: rest => .ok ('"', rest)
  | '\\' :: rest => .ok ('\\', rest)
  | '/' :: rest => .ok ('/', rest)
  | 'b' :: rest => .ok ('\x08', rest)
  | 'f' :: rest => .ok ('\x0c', rest)
  | 'n' :: rest => .ok ('\n', rest)
  | 'r' :: rest => .ok ('\r', rest)
  | 't' :: rest => .ok ('\t', rest)
  | 'u' :: rest => readUnicode rest
  | _ => .error .badEscape

/-- The body of a string literal up to its closing quote. The first argument bounds the number of
characters. -/
def readBody : Nat → List Char → Except ReadError (List Char × List Char)
  | 0, _ => .error .unexpectedEnd
  | _, [] => .error .unexpectedEnd
  | _, '"' :: rest => .ok ([], rest)
  | bound + 1, '\\' :: rest => do
    let (c, rest) ← readEscape rest
    let (body, rest) ← readBody bound rest
    return (c :: body, rest)
  | bound + 1, c :: rest =>
    if c.toNat < 0x20 then .error .controlCharacter
    else do
      let (body, rest) ← readBody bound rest
      return (c :: body, rest)

/-- A string literal, after its opening quote. -/
def readString (cs : List Char) : Except ReadError (String × List Char) := do
  let (body, rest) ← readBody (cs.length + 1) cs
  return (String.ofList body, rest)

/-- The value of a run of decimal digits. -/
def digitsValue (cs : List Char) : Nat :=
  (Text.naturalFrom? 10 0 cs).getD 0

/-- The digits after the point, when there is one. -/
def readFraction : List Char → Except ReadError (Option (List Char) × List Char)
  | '.' :: rest =>
    match rest.span Text.isDigit with
    | ([], _) => .error .badNumber
    | (digits, rest) => .ok (some digits, rest)
  | rest => .ok (none, rest)

/-- The exponent, when there is one. -/
def readExponent : List Char → Except ReadError (Option Int × List Char)
  | e :: rest =>
    if e = 'e' ∨ e = 'E' then
      let (negative, rest) :=
        match rest with
        | '-' :: rest => (true, rest)
        | '+' :: rest => (false, rest)
        | rest => (false, rest)
      match rest.span Text.isDigit with
      | ([], _) => .error .badNumber
      | (digits, rest) =>
        let value : Int := digitsValue digits
        .ok (some (if negative then -value else value), rest)
    else .ok (none, e :: rest)
  | [] => .ok (none, [])

/-- A number from its sign, digits, fraction and exponent. An integer that does not fit 64 bits is
read as a floating point number, and so is a negative zero. -/
def numberOf (negative : Bool) (whole : List Char) (fraction : Option (List Char))
    (exponent : Option Int) : Except ReadError Number :=
  let asFloat : Except ReadError Number :=
    let digits := whole ++ fraction.getD []
    let shift : Int := exponent.getD 0 - (fraction.getD []).length
    match Binary64.ofDecimal? negative (digitsValue digits) digits.length shift with
    | some x => .ok (.float x)
    | none => .error .numberOutOfRange
  match fraction, exponent with
  | none, none =>
    let n := digitsValue whole
    -- a negative zero has no integer of its own
    if negative then
      if 0 < n ∧ n ≤ Text.int64Min.natAbs then .ok (.integer (-(n : Int))) else asFloat
    else if n < UInt64.size then .ok (.integer n) else asFloat
  | _, _ => asFloat

/-- A number. -/
def readNumber (cs : List Char) : Except ReadError (Number × List Char) := do
  let (negative, cs) :=
    match cs with
    | '-' :: cs => (true, cs)
    | cs => (false, cs)
  match cs.span Text.isDigit with
  | ([], _) => throw .badNumber
  | (whole, rest) =>
    if whole.head? = some '0' ∧ 1 < whole.length then throw .badNumber
    let (fraction, rest) ← readFraction rest
    let (exponent, rest) ← readExponent rest
    return (← numberOf negative whole fraction exponent, rest)

/-- How deeply arrays and objects may be nested. -/
def depthLimit : Nat := 128

mutual

/-- One value and the text after it. The first argument bounds the number of calls, the second
the depth. -/
def readValue : Nat → Nat → List Char → Except ReadError (Value × List Char)
  | 0, _, _ => .error .tooDeep
  | bound + 1, depth, cs =>
    match skipBlanks cs with
    | [] => .error .unexpectedEnd
    | 'n' :: 'u' :: 'l' :: 'l' :: rest => .ok (.null, rest)
    | 't' :: 'r' :: 'u' :: 'e' :: rest => .ok (.bool true, rest)
    | 'f' :: 'a' :: 'l' :: 's' :: 'e' :: rest => .ok (.bool false, rest)
    | '"' :: rest => do
      let (s, rest) ← readString rest
      return (.string s, rest)
    | '[' :: rest =>
      match depth with
      | 0 => .error .tooDeep
      | depth + 1 =>
        match skipBlanks rest with
        | ']' :: rest => .ok (.array [], rest)
        | rest => do
          let (items, rest) ← readItems bound depth rest
          return (.array items, rest)
    | '\x7b' :: rest =>
      match depth with
      | 0 => .error .tooDeep
      | depth + 1 =>
        match skipBlanks rest with
        | '\x7d' :: rest => .ok (.object [], rest)
        | rest => do
          let (members, rest) ← readMembers bound depth rest
          return (.object members, rest)
    | c :: rest =>
      if c = '-' ∨ Text.isDigit c then do
        let (n, rest) ← readNumber (c :: rest)
        return (.number n, rest)
      else .error .unexpectedCharacter

/-- The items of an array up to its closing bracket. -/
def readItems : Nat → Nat → List Char → Except ReadError (List Value × List Char)
  | 0, _, _ => .error .tooDeep
  | bound + 1, depth, cs => do
    let (v, rest) ← readValue bound depth cs
    match skipBlanks rest with
    | ',' :: rest =>
      let (items, rest) ← readItems bound depth rest
      return (v :: items, rest)
    | ']' :: rest => return ([v], rest)
    | [] => throw .unexpectedEnd
    | _ => throw .unexpectedCharacter

/-- The members of an object up to its closing brace. -/
def readMembers : Nat → Nat → List Char → Except ReadError (List (String × Value) × List Char)
  | 0, _, _ => .error .tooDeep
  | bound + 1, depth, cs =>
    match skipBlanks cs with
    | '"' :: rest => do
      let (name, rest) ← readString rest
      match skipBlanks rest with
      | ':' :: rest =>
        let (v, rest) ← readValue bound depth rest
        match skipBlanks rest with
        | ',' :: rest =>
          let (members, rest) ← readMembers bound depth rest
          return ((name, v) :: members, rest)
        | '\x7d' :: rest => return ([(name, v)], rest)
        | [] => throw .unexpectedEnd
        | _ => throw .unexpectedCharacter
      | [] => throw .unexpectedEnd
      | _ => throw .unexpectedCharacter
    | [] => .error .unexpectedEnd
    | _ => .error .unexpectedCharacter

end

/-- The value that is the whole text. -/
def readChars (cs : List Char) : Except ReadError Value := do
  let (v, rest) ← readValue (2 * cs.length + 1) depthLimit cs
  match skipBlanks rest with
  | [] => return v
  | _ => throw .trailingCharacters

/-- The value that is the whole text. -/
def read (s : String) : Except ReadError Value :=
  readChars s.toList

end ClusterWatch.Json
