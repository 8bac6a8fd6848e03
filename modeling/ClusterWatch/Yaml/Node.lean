import ClusterWatch.Number.Decimal
import ClusterWatch.Text.Quoted
import ClusterWatch.Yaml.Token
/-!
# Nodes of YAML documents

- `Yaml.Node`: a tree. The number of a `real` is kept as it was written.
- `Node.ofPlain`: what a plain scalar means.
- `Node.ofScalar`: what a scalar with or without a tag means.
- `Node.text`: how a message shows a node.
-/

namespace ClusterWatch.Yaml

/-- A tree. -/
inductive Node where
  | null
  | bool (value : Bool)
  | integer (value : Int)
  | real (text : String)
  | string (text : String)
  | sequence (items : List Node)
  | mapping (members : List (Node × Node))
  /-- A scalar that its tag does not fit, or an alias to a node that contains it. -/
  | unsupported
  deriving Inhabited, Repr

namespace Node

mutual

/-- Whether two nodes are written alike, up to the style of their scalars. -/
def same : Node → Node → Bool
  | null, null => true
  | bool a, bool b => a = b
  | integer a, integer b => a = b
  | real a, real b => a = b
  | string a, string b => a = b
  | sequence a, sequence b => sameItems a b
  | mapping a, mapping b => sameMembers a b
  | unsupported, unsupported => true
  | _, _ => false

/-- `same` for all items. -/
def sameItems : List Node → List Node → Bool
  | [], [] => true
  | a :: as, b :: bs => same a b && sameItems as bs
  | _, _ => false

/-- `same` for all members. -/
def sameMembers : List (Node × Node) → List (Node × Node) → Bool
  | [], [] => true
  | (k, v) :: as, (l, w) :: bs => same k l && same v w && sameMembers as bs
  | _, _ => false

end

/-! ### Scalars -/

/-- The integer that a text denotes: hexadecimal after `0x`, octal after `0o`, decimal otherwise.
A second sign may follow a plus sign. -/
def integer? (text : List Char) : Option Int :=
  let marked :=
    match text with
    | '0' :: 'x' :: rest => Text.int64? 16 rest
    | '0' :: 'o' :: rest => Text.int64? 8 rest
    | '+' :: rest => Text.int64? 10 rest
    | _ => none
  marked <|> Text.int64? 10 text

/-- The texts of infinity and of what is not a number. -/
def specialReals : List String :=
  [".inf", ".Inf", ".INF", "+.inf", "+.Inf", "+.INF", "-.inf", "-.Inf", "-.INF", ".nan", ".NaN",
    ".NAN"]

/-- Whether a text denotes a number with a fraction or an exponent. -/
def isReal (text : String) : Bool :=
  text ∈ specialReals || (Decimal.ofChars? text.toList).isSome

/-- What a plain scalar means. -/
def ofPlain (text : String) : Node :=
  if text ∈ ["", "~", "null"] then null
  else if text ∈ ["true", "True", "TRUE"] then bool true
  else if text ∈ ["false", "False", "FALSE"] then bool false
  else
    match integer? text.toList with
    | some n => integer n
    | none => if isReal text then real text else string text

/-- The address of the tags that YAML itself defines. -/
def coreAddress : String := "tag:yaml.org,2002:"

/-- What a plain scalar means under one of YAML's own tags. -/
def ofTagged (suffix text : String) : Node :=
  match suffix with
  | "bool" =>
    if text = "true" then bool true else if text = "false" then bool false else unsupported
  | "int" =>
    match Text.int64? 10 text.toList with
    | some n => integer n
    | none => unsupported
  | "float" => if isReal text then real text else unsupported
  | "null" => if text = "~" ∨ text = "null" then null else unsupported
  | _ => string text

/-- What a scalar means. A tag is its address and its suffix. -/
def ofScalar (style : Style) (tag : Option (String × String)) (text : String) : Node :=
  match style, tag with
  | .plain, none => ofPlain text
  | .plain, some (address, suffix) =>
    if address = coreAddress then ofTagged suffix text else string text
  | _, _ => string text

/-! ### In messages -/

mutual

/-- How a message shows a node. -/
def text : Node → String
  | null => "Null"
  | bool b => "Boolean(" ++ (if b then "true" else "false") ++ ")"
  | integer n => "Integer(" ++ String.ofList (Text.integer n) ++ ")"
  | real s => "Real(" ++ Text.quoted s ++ ")"
  | string s => "String(" ++ Text.quoted s ++ ")"
  | sequence items => "Array([" ++ ", ".intercalate (itemTexts items) ++ "])"
  | mapping members => "Hash(\x7b" ++ ", ".intercalate (memberTexts members) ++ "\x7d)"
  | unsupported => "BadValue"

/-- `text` of all items. -/
def itemTexts : List Node → List String
  | [] => []
  | v :: rest => text v :: itemTexts rest

/-- `text` of all members. -/
def memberTexts : List (Node × Node) → List String
  | [] => []
  | (k, v) :: rest => (text k ++ ": " ++ text v) :: memberTexts rest

end

end Node

end ClusterWatch.Yaml
