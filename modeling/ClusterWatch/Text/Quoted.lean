import ClusterWatch.Text.Printable
/-!
# Quoted text in messages

How a message shows a text that it quotes: between double quotes, with the characters that would
be misread written as escapes.

- `quoteChar`: one character of the body.
- `quoted`: the text between quotes.
-/

namespace ClusterWatch.Text

/-- The lower-case hexadecimal digits of a number. -/
def hexadecimal (n : Nat) : List Char :=
  Nat.toDigits 16 n

/-- How one character stands in a quoted text: a quote, a backslash, a tab and the line ends have
short escapes, and a character that cannot be shown is written as its code point. -/
def quoteChar (c : Char) : List Char :=
  if c = '"' then ['\\', '"']
  else if c = '\\' then ['\\', '\\']
  else if c = '\x00' then ['\\', '0']
  else if c = '\t' then ['\\', 't']
  else if c = '\r' then ['\\', 'r']
  else if c = '\n' then ['\\', 'n']
  else if isPrintable c then [c]
  else ['\\', 'u', '\x7b'] ++ hexadecimal c.toNat ++ ['\x7d']

/-- A text as a message quotes it. -/
def quoted (s : String) : String :=
  String.ofList ('"' :: s.toList.flatMap quoteChar ++ ['"'])

end ClusterWatch.Text
