import ClusterWatch.Json.Value
import ClusterWatch.Text.Integer
/-!
# Writing JSON

The compact text of a JSON value: no blanks, members in their order.

- `escape`: the characters of a string literal's body. A quote, a backslash and the control
  characters are escaped, everything else stands for itself.
- `Number.text`: integers in decimal; a floating point number with the fewest digits that read
  back, positionally while its decimal exponent lies between -5 and 15.
- `Value.chars`, `Value.text`: the text of a tree.
-/

namespace ClusterWatch.Json

/-- A hexadecimal digit in lower case. -/
def hexDigit (n : Nat) : Char :=
  if n < 10 then Char.ofNat ('0'.toNat + n) else Char.ofNat ('a'.toNat + (n - 10))

/-- How one character stands in a string literal. -/
def escapeChar (c : Char) : List Char :=
  if c = '"' then ['\\', '"']
  else if c = '\\' then ['\\', '\\']
  else if c = '\x08' then ['\\', 'b']
  else if c = '\x0c' then ['\\', 'f']
  else if c = '\n' then ['\\', 'n']
  else if c = '\r' then ['\\', 'r']
  else if c = '\t' then ['\\', 't']
  else if c.toNat < 0x20 then
    ['\\', 'u', '0', '0', hexDigit (c.toNat / 16), hexDigit (c.toNat % 16)]
  else [c]

/-- The body of a string literal. -/
def escape (cs : List Char) : List Char :=
  cs.flatMap escapeChar

/-- A string literal. -/
def quote (s : String) : List Char :=
  '"' :: escape s.toList ++ ['"']

/-- The exponent mark of a floating point number: a sign always, two digits at least. -/
def exponentMark (e : Int) : List Char :=
  'e' :: (if e < 0 then '-' else '+') :: Text.padded 2 e.natAbs

/-- A floating point number with the fewest digits that read back. A number without a fraction
keeps `.0`, and the positional form ends where the decimal exponent leaves -5 to 15. -/
def floatText (x : Binary64) : List Char :=
  let sign := if x.negative then ['-'] else []
  if x.mantissa = 0 then sign ++ ['0', '.', '0']
  else
    let (digits, scale) := x.shortest
    let ds := Text.decimal digits
    let point : Int := ds.length + scale
    sign ++
      (if 0 ≤ scale ∧ point ≤ 16 then ds ++ List.replicate scale.toNat '0' ++ ['.', '0']
      else if 0 < point ∧ point ≤ 16 then ds.take point.toNat ++ '.' :: ds.drop point.toNat
      else if -5 < point ∧ point ≤ 0 then
        '0' :: '.' :: List.replicate (-point).toNat '0' ++ ds
      else
        (match ds with
          | [] => []
          | [d] => [d]
          | d :: rest => d :: '.' :: rest) ++ exponentMark (point - 1))

/-- The text of a number. -/
def Number.text : Number → List Char
  | integer n => Text.integer n
  | float x => floatText x

namespace Value

mutual

/-- The characters of a value. -/
def chars : Value → List Char
  | null => ['n', 'u', 'l', 'l']
  | bool true => ['t', 'r', 'u', 'e']
  | bool false => ['f', 'a', 'l', 's', 'e']
  | number n => n.text
  | string s => quote s
  | array items => '[' :: itemChars items ++ [']']
  | object members => '\x7b' :: memberChars members ++ ['\x7d']

/-- The items of an array, with commas between them. -/
def itemChars : List Value → List Char
  | [] => []
  | [v] => v.chars
  | v :: rest => v.chars ++ ',' :: itemChars rest

/-- The members of an object, with commas between them. -/
def memberChars : List (String × Value) → List Char
  | [] => []
  | [(n, v)] => quote n ++ ':' :: v.chars
  | (n, v) :: rest => quote n ++ ':' :: v.chars ++ ',' :: memberChars rest

end

/-- The compact text of a value. -/
def text (v : Value) : String :=
  String.ofList v.chars

end Value

end ClusterWatch.Json
