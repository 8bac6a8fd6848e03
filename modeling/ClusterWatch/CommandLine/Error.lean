import ClusterWatch.CommandLine.Switch
import ClusterWatch.Text.Integer
/-!
# Errors on the command line

- `CommandLine.ValueError`: why a value is not what a setting takes.
- `CommandLine.Error`: why a command line cannot be read.
- `Error.text`: the complaint about it.
-/

namespace ClusterWatch.CommandLine

/-- Why a value is not what a setting takes. -/
inductive ValueError where
  | empty
  | badDigit
  | tooLarge
  | tooSmall
  /-- The number is one of the machine, and still too large or too small. -/
  | outOfRange (n low high : Int)
  deriving DecidableEq, Repr

/-- The text of an integer. -/
def integerText (n : Int) : String :=
  String.ofList (Text.integer n)

/-- The wording of an error. -/
def ValueError.message : ValueError → String
  | empty => "cannot parse integer from empty string"
  | badDigit => "invalid digit found in string"
  | tooLarge => "number too large to fit in target type"
  | tooSmall => "number too small to fit in target type"
  | outOfRange n low high =>
    integerText n ++ " is not in " ++ integerText low ++ "..=" ++ integerText high

/-- Why a command line cannot be read. -/
inductive Error where
  /-- An argument that means nothing. `similar` is a switch that may have been meant, and `used`
  are the switches before it. -/
  | unknown (argument : String) (similar : Option Switch) (used : List Switch)
  | noValue (s : Setting)
  | badValue (s : Setting) (value : String) (e : ValueError)
  | repeated (s : Setting)
  /-- An inquiry takes no value. -/
  | unwantedValue (i : Inquiry) (value : String) (used : List Switch)
  deriving DecidableEq, Repr

namespace Error

/-- The wording of an error, with the ways to call the program that it reminds of. -/
def paragraphs : Error → List String
  | unknown argument none used =>
    ["error: unexpected argument '" ++ argument ++ "' found", usage used]
  | unknown argument (some similar) used =>
    ["error: unexpected argument '" ++ argument ++ "' found",
      "  tip: a similar argument exists: '--" ++ similar.name ++ "'",
      usage (if similar ∈ used then used else used ++ [similar])]
  | noValue s =>
    ["error: a value is required for '" ++ (Switch.setting s).text ++ "' but none was supplied"]
  | badValue s value e =>
    ["error: invalid value '" ++ value ++ "' for '" ++ (Switch.setting s).text ++ "': " ++
      e.message]
  | repeated s =>
    ["error: the argument '" ++ (Switch.setting s).text ++ "' cannot be used multiple times",
      usage []]
  | unwantedValue i value used =>
    ["error: unexpected value '" ++ value ++ "' for '" ++ (Switch.inquiry i).text ++
      "' found; no more were expected", usage (used ++ [.inquiry i])]

/-- The complaint about an error. -/
def text (e : Error) : String :=
  "\n\n".intercalate (e.paragraphs ++ ["For more information, try '--help'.\n"])

end Error

end ClusterWatch.CommandLine
