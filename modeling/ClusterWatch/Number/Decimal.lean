import ClusterWatch.Number.Binary64
import ClusterWatch.Text.Integer
/-!
# Decimal numbers

Numbers in decimal notation with a fraction and a power of ten.

- `Decimal`: the value `± digits · 10 ^ exponent`.
- `Decimal.ofChars?`: reads an optional sign, digits around an optional point, at least one of them,
  and an optional exponent.
- `Decimal.toBinary64?`: the nearest finite floating point number.
-/

namespace ClusterWatch

/-- A number in decimal notation. -/
structure Decimal where
  negative : Bool
  digits : Nat
  /-- How many digits were written. -/
  width : Nat
  exponent : Int
  deriving DecidableEq, Repr

namespace Decimal

/-- A sign, if there is one, and the text after it. -/
def splitSign : List Char → Bool × List Char
  | '-' :: rest => (true, rest)
  | '+' :: rest => (false, rest)
  | cs => (false, cs)

/-- The exponent at the end of a number. -/
def exponent? : List Char → Option Int
  | [] => some 0
  | 'e' :: rest => Text.signed? 10 rest
  | 'E' :: rest => Text.signed? 10 rest
  | _ => none

/-- Reads a decimal number that is the whole text. -/
def ofChars? (cs : List Char) : Option Decimal :=
  let (negative, cs) := splitSign cs
  let (whole, cs) := cs.span Text.isDigit
  let (places, cs) :=
    match cs with
    | '.' :: rest => rest.span Text.isDigit
    | cs => ([], cs)
  match Text.natural? 10 (whole ++ places), exponent? cs with
  | some digits, some exponent =>
    some ⟨negative, digits, whole.length + places.length, exponent - places.length⟩
  | _, _ => none

/-- The nearest finite floating point number, unless the magnitude is too large. -/
def toBinary64? (d : Decimal) : Option Binary64 :=
  Binary64.ofDecimal? d.negative d.digits d.width d.exponent

end Decimal

end ClusterWatch
