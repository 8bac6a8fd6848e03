import ClusterWatch.Json.Text
import ClusterWatch.Text.Quoted
/-!
# Why a JSON value does not fit

The ways in which a well-formed JSON value can fail to be a value of the expected type, and how
each is reported.

- `DecodeError`: the causes.
- `DecodeError.message`: the wording, which shows the offending value in one line.
-/

namespace ClusterWatch.Json

/-- Why a JSON value is not a value of the expected type. -/
inductive DecodeError where
  /-- The value is of another JSON type than expected. -/
  | wrongType (found : Value) (expected : String)
  /-- The value has the right JSON type and cannot be used all the same. -/
  | wrongValue (found : Value) (expected : String)
  /-- The name is none of the alternatives. -/
  | unknownName (name : String) (alternatives : List String)
  /-- The array has more items than the record has fields. -/
  | tooManyItems (count : Nat)
  /-- The array ends before a required field. -/
  | tooFewItems (count : Nat) (expected : String)
  /-- A required field is absent. -/
  | missingField (name : String)
  deriving Repr

/-- How a message shows a value: scalars in full, trees by their type only. -/
def Value.summary : Value → String
  | .null => "null"
  | .bool b => if b then "boolean `true`" else "boolean `false`"
  | .number (.integer n) => "integer `" ++ String.ofList (Text.integer n) ++ "`"
  | .number (.float x) => "floating point `" ++ String.ofList (floatText x) ++ "`"
  | .string s => "string " ++ Text.quoted s
  | .array _ => "sequence"
  | .object _ => "map"

/-- How a message lists alternatives. -/
def alternativesText : List String → String
  | [] => "there are no variants"
  | [a] => "expected `" ++ a ++ "`"
  | [a, b] => "expected `" ++ a ++ "` or `" ++ b ++ "`"
  | names => "expected one of " ++ ", ".intercalate (names.map fun n => "`" ++ n ++ "`")

/-- The wording of a cause. -/
def DecodeError.message : DecodeError → String
  | wrongType found expected => "invalid type: " ++ found.summary ++ ", expected " ++ expected
  | wrongValue found expected => "invalid value: " ++ found.summary ++ ", expected " ++ expected
  | unknownName name alternatives =>
    "unknown variant `" ++ name ++ "`, " ++ alternativesText alternatives
  | tooManyItems count =>
    "invalid length " ++ toString count ++ ", expected fewer elements in array"
  | tooFewItems count expected => "invalid length " ++ toString count ++ ", expected " ++ expected
  | missingField name => "missing field `" ++ name ++ "`"

end ClusterWatch.Json
