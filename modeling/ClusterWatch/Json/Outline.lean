import ClusterWatch.Json.Reader
/-!
# Outlines of JSON texts

Who looks for one value among others passes over the others. They have to be values, but nobody asks
what they are: a number may be beyond every format then, an escape may stand for half of a
character, and nothing is nested too deeply.

- `skipValue`: the text after a value.
- `readTexts`, `readText`: the members of an object, with the texts of their values, and the text of
  an item.
- `soleText?`: the text of the only value that matters.
- `truth?`: the truth value that a text spells.
-/

namespace ClusterWatch.Json

/-- The text after the body of a string literal. -/
def skipBody : List Char → Option (List Char)
  | [] => none
  | '"' :: rest => some rest
  | '\\' :: 'u' :: a :: b :: c :: d :: rest =>
    if (Text.natural? 16 [a, b, c, d]).isSome then skipBody rest else none
  | '\\' :: c :: rest => if "\"\\/bfnrt".toList.contains c then skipBody rest else none
  | c :: rest => if c.toNat < 0x20 then none else skipBody rest

/-- The text after a number without a sign. -/
def skipUnsigned (cs : List Char) : Option (List Char) :=
  match cs.span Text.isDigit with
  | ([], _) => none
  | (whole, rest) =>
    if whole.head? = some '0' ∧ 1 < whole.length then none
    else ((readFraction rest).bind fun (_, rest) => readExponent rest).toOption.map (·.2)

/-- The text after a number. -/
def skipNumber : List Char → Option (List Char)
  | '-' :: cs => skipUnsigned cs
  | cs => skipUnsigned cs

mutual

/-- The text after a value. The first argument bounds the number of calls. -/
def skipValue : Nat → List Char → Option (List Char)
  | 0, _ => none
  | bound + 1, cs =>
    match skipBlanks cs with
    | [] => none
    | 'n' :: 'u' :: 'l' :: 'l' :: rest => some rest
    | 't' :: 'r' :: 'u' :: 'e' :: rest => some rest
    | 'f' :: 'a' :: 'l' :: 's' :: 'e' :: rest => some rest
    | '"' :: rest => skipBody rest
    | '[' :: rest =>
      match skipBlanks rest with
      | ']' :: rest => some rest
      | rest => skipItems bound rest
    | '\x7b' :: rest =>
      match skipBlanks rest with
      | '\x7d' :: rest => some rest
      | rest => skipMembers bound rest
    | c :: rest => if c = '-' ∨ Text.isDigit c then skipNumber (c :: rest) else none

/-- The text after the items of an array and its closing bracket. -/
def skipItems : Nat → List Char → Option (List Char)
  | 0, _ => none
  | bound + 1, cs =>
    match (skipValue bound cs).map skipBlanks with
    | some (',' :: rest) => skipItems bound rest
    | some (']' :: rest) => some rest
    | _ => none

/-- The text after the members of an object and its closing brace. -/
def skipMembers : Nat → List Char → Option (List Char)
  | 0, _ => none
  | bound + 1, cs =>
    match skipBlanks cs with
    | '"' :: rest =>
      match (skipBody rest).map skipBlanks with
      | some (':' :: rest) =>
        match (skipValue bound rest).map skipBlanks with
        | some (',' :: rest) => skipMembers bound rest
        | some ('\x7d' :: rest) => some rest
        | _ => none
      | _ => none
    | _ => none

end

/-- The text of a value, of which the text after it is known. -/
def textBefore (cs rest : List Char) : List Char :=
  cs.take (cs.length - rest.length)

/-- The members of an object up to its closing brace, with the texts of their values. Names are read
in full. -/
def readTexts : Nat → List Char → Option (List (String × List Char) × List Char)
  | 0, _ => none
  | bound + 1, cs =>
    match skipBlanks cs with
    | '"' :: rest => do
      let (name, rest) ← (readString rest).toOption
      match skipBlanks rest with
      | ':' :: value =>
        let rest ← skipValue bound value
        let text := textBefore value rest
        match skipBlanks rest with
        | ',' :: rest =>
          let (texts, rest) ← readTexts bound rest
          return ((name, text) :: texts, rest)
        | '\x7d' :: rest => return ([(name, text)], rest)
        | _ => none
      | _ => none
    | _ => none

/-- The text of the only item of an array, up to its closing bracket. -/
def readText : Nat → List Char → Option (List Char × List Char)
  | 0, _ => none
  | bound + 1, cs => do
    let rest ← skipValue bound cs
    match skipBlanks rest with
    | ']' :: after => return (textBefore cs rest, after)
    | _ => none

/-- The texts of the values under a name, if a text is an object, or of the only item, if it is an
array of one. -/
def textsOf? (name : String) (cs : List Char) : Option (List (List Char) × List Char) :=
  match skipBlanks cs with
  | '\x7b' :: rest =>
    match skipBlanks rest with
    | '\x7d' :: rest => some ([], rest)
    | rest => (readTexts (2 * cs.length) rest).map fun (texts, rest) =>
        ((texts.filter fun m => m.1 == name).map (·.2), rest)
  -- an array may stand for the object, by position
  | '[' :: rest => (readText (2 * cs.length) rest).map fun (text, rest) => ([text], rest)
  | _ => none

/-- The text of the only value that matters, which has to be given once. The list of just that value
is accepted in place of the object. -/
def soleText? (name : String) (cs : List Char) : Option (List Char) :=
  match textsOf? name cs with
  | some ([text], rest) => if skipBlanks rest = [] then some text else none
  | _ => none

/-- The truth value that a text spells. -/
def truth? (text : List Char) : Option Bool :=
  if skipBlanks text = ['t', 'r', 'u', 'e'] then some true
  else if skipBlanks text = ['f', 'a', 'l', 's', 'e'] then some false
  else none

end ClusterWatch.Json
