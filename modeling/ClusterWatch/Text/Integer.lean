/-!
# Integers in text

Reading and writing integers in positional notation.

- `isDigit`: whether a character is a decimal digit.
- `digitValue?`: the value of one digit in a radix up to sixteen.
- `natural?`: a non-empty run of digits that is the whole text.
- `signed?`: a natural number after an optional sign.
- `int64?`, `unsigned64?`: the readings whose value fits the width.
- `padded`: a natural number filled up with zeros on the left.
-/

namespace ClusterWatch.Text

/-- Whether a character is a decimal digit. -/
def isDigit (c : Char) : Bool :=
  '0' ≤ c && c ≤ '9'

/-- The value of a hexadecimal digit. -/
def hexValue? (c : Char) : Option Nat :=
  if '0' ≤ c ∧ c ≤ '9' then some (c.toNat - '0'.toNat)
  else if 'a' ≤ c ∧ c ≤ 'f' then some (c.toNat - 'a'.toNat + 10)
  else if 'A' ≤ c ∧ c ≤ 'F' then some (c.toNat - 'A'.toNat + 10)
  else none

/-- The value of a digit in the given radix. -/
def digitValue? (radix : Nat) (c : Char) : Option Nat :=
  (hexValue? c).filter (· < radix)

/-- Continues a positional reading from the value of the digits before. -/
def naturalFrom? (radix : Nat) : Nat → List Char → Option Nat
  | value, [] => some value
  | value, c :: cs =>
    match digitValue? radix c with
    | some d => naturalFrom? radix (value * radix + d) cs
    | none => none

/-- A non-empty text of digits only. -/
def natural? (radix : Nat) : List Char → Option Nat
  | [] => none
  | c :: cs => naturalFrom? radix 0 (c :: cs)

/-- Digits after an optional sign. -/
def signed? (radix : Nat) : List Char → Option Int
  | '-' :: cs => (natural? radix cs).map fun n => -(n : Int)
  | '+' :: cs => (natural? radix cs).map Int.ofNat
  | cs => (natural? radix cs).map Int.ofNat

/-- The least signed 64-bit integer. -/
def int64Min : Int := -9223372036854775808

/-- The greatest signed 64-bit integer. -/
def int64Max : Int := 9223372036854775807

/-- A signed reading that fits 64 bits. -/
def int64? (radix : Nat) (cs : List Char) : Option Int :=
  (signed? radix cs).filter fun n => int64Min ≤ n ∧ n ≤ int64Max

/-- Digits after an optional plus sign, whose value fits 64 bits. -/
def unsigned64? : List Char → Option Nat
  | '+' :: cs => (natural? 10 cs).filter (· < UInt64.size)
  | cs => (natural? 10 cs).filter (· < UInt64.size)

/-- The decimal digits of a natural number. -/
def decimal (n : Nat) : List Char :=
  Nat.toDigits 10 n

/-- The decimal digits, with zeros in front up to `width` characters. -/
def padded (width n : Nat) : List Char :=
  List.replicate (width - (decimal n).length) '0' ++ decimal n

/-- The decimal text of an integer, with a sign only when it is negative. -/
def integer (n : Int) : List Char :=
  if n < 0 then '-' :: decimal n.natAbs else decimal n.natAbs

end ClusterWatch.Text
