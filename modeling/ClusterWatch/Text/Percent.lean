import ClusterWatch.Text.Integer
import ClusterWatch.Text.Utf8
/-!
# Percent signs

Bytes that may not stand for themselves in an address, written as a percent sign and two
hexadecimal digits.

- `Percent.encode`: writes the characters that are not to be kept that way.
- `Percent.decode`: the bytes of a text in which some are written that way.
- `Percent.formEncode`, `Percent.formDecode`: the variant for form fields, in which a space becomes
  a plus sign.
-/

namespace ClusterWatch.Text.Percent

/-- A byte between 0 and 255 in hexadecimal digits. -/
def escapeByte (b : UInt8) : List Char :=
  let digit (n : Nat) : Char := if n < 10 then Char.ofNat (n + 48) else Char.ofNat (n + 55)
  ['%', digit (b.toNat / 16), digit (b.toNat % 16)]

/-- The bytes of a character, each as an escape. -/
def escape (c : Char) : List Char :=
  (String.utf8EncodeChar c).flatMap escapeByte

/-- Keeps the characters of a class and escapes the others. -/
def encode (keep : Char → Bool) (cs : List Char) : List Char :=
  cs.flatMap fun c => if keep c then [c] else escape c

/-- The bytes of a text. A percent sign without two digits after it stands for itself. -/
def decode : List Char → List UInt8
  | '%' :: a :: b :: rest =>
    match hexValue? a, hexValue? b with
    | some high, some low => UInt8.ofNat (16 * high + low) :: decode rest
    | _, _ => 0x25 :: decode (a :: b :: rest)
  | c :: rest => String.utf8EncodeChar c ++ decode rest
  | [] => []

/-- Whether a character stands for itself in a form field. -/
def isFormChar (c : Char) : Bool :=
  c.isAlphanum || c = '*' || c = '-' || c = '.' || c = '_'

/-- A form field. -/
def formEncode (s : String) : String :=
  String.ofList (s.toList.flatMap fun c =>
    if c = ' ' then ['+'] else if isFormChar c then [c] else escape c)

/-- The text of a form field. -/
def formDecode (cs : List Char) : String :=
  String.ofList (Utf8.decodeLossy (decode (cs.map fun c => if c = '+' then ' ' else c)))

end ClusterWatch.Text.Percent
