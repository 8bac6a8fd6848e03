import ClusterWatch.Text.Utf8
/-!
# Base 64

Bytes as characters that every header can carry.

- `Base64.encode`: four characters for each three bytes, filled up with `=`.
-/

namespace ClusterWatch.Text.Base64

/-- The character of six bits. -/
def digit (n : Nat) : Char :=
  if n < 26 then Char.ofNat ('A'.toNat + n)
  else if n < 52 then Char.ofNat ('a'.toNat + (n - 26))
  else if n < 62 then Char.ofNat ('0'.toNat + (n - 52))
  else if n = 62 then '+' else '/'

/-- The first characters of a number of 24 bits. -/
def digits (count n : Nat) : List Char :=
  (List.range count).map fun i => digit (n / Nat.pow 64 (3 - i) % 64)

/-- The characters of bytes. -/
def encodeBytes : List UInt8 → List Char
  | [] => []
  | [a] => digits 2 (a.toNat * 0x10000) ++ ['=', '=']
  | [a, b] => digits 3 (a.toNat * 0x10000 + b.toNat * 0x100) ++ ['=']
  | a :: b :: c :: rest =>
    digits 4 (a.toNat * 0x10000 + b.toNat * 0x100 + c.toNat) ++ encodeBytes rest

/-- The characters of the bytes of a text. -/
def encode (s : String) : String :=
  String.ofList (encodeBytes (Utf8.encode s.toList))

end ClusterWatch.Text.Base64
