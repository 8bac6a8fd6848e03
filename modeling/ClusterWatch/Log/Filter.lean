import ClusterWatch.Log.Line
import ClusterWatch.Text.Integer
import ClusterWatch.Text.Search
/-!
# Log filters

Which log lines are shown. A filter is written as directives between commas; each is a level, a
source, or a source and a level with an equals sign between them.

- `Log.Directive`: how much is shown of what some sources say.
- `Log.Filter`: the directives. Of those that fit a source, the most specific one counts.
- `Filter.parse?`: the filter that a text spells.
- `Filter.choose`: the filter of the environment, else that of the configuration.
- `Filter.shows`: whether a line is shown.
-/

namespace ClusterWatch.Log

/-- How much is shown of what the sources below one say. The empty source is above all. -/
structure Directive where
  source : String
  verbosity : Nat
  deriving DecidableEq, Repr

namespace Directive

/-- The verbosity that a word names, in letters of any case or as a number. -/
def verbosity? (word : String) : Option Nat :=
  match word.toLower with
  | "off" => some 0
  | "error" => some 1
  | "warn" => some 2
  | "info" => some 3
  | "debug" => some 4
  | "trace" => some 5
  | digits => (Text.natural? 10 digits.toList).filter (· ≤ 5)

/-- The verbosity of a level as it is written in a directive, where a number has one digit. -/
def level? (word : List Char) : Option Nat :=
  if word.length = 1 ∨ word.all Char.isAlpha then verbosity? (String.ofList word) else none

/-- Whether a character may stand in the name of a source. Characters beyond ASCII may. -/
def isSourceChar (c : Char) : Bool :=
  c.isAlphanum || c = '_' || c = ':' || c = '-' || 0x80 ≤ c.toNat

/-- A part of a directive before its level: the name of a source, or, in square brackets, a
condition on the work that is going on. -/
inductive Scope where
  | source (name : List Char)
  | condition
  deriving DecidableEq, Repr

/-- The scope at the start of a text, and what follows it. -/
def scope? : List Char → Option (Scope × List Char)
  | '[' :: text =>
    match text.dropWhile (· ≠ ']') with
    | ']' :: rest => some (.condition, rest)
    | _ => none
  | text =>
    match text.span isSourceChar with
    | ([], _) => none
    | (name, rest) => some (.source name, rest)

/-- The one or two scopes at the start of a text, and what follows them. -/
def scopes? (text : List Char) : Option (List Scope × List Char) := do
  let (first, rest) ← scope? text
  match scope? rest with
  | some (second, rest) => return ([first, second], rest)
  | none => return ([first], rest)

/-- The verbosity after the scopes; everything is shown if there is none. -/
def verbosityAfter? : List Char → Option Nat
  | [] => some 5
  | ['='] => some 5
  | '=' :: word => level? word
  | _ => none

/-- The source of a directive with the given scopes. The name of a level is no source. One with a
condition concerns no lines. -/
def ofScopes (scopes : List Scope) (verbosity : Nat) : Option Directive :=
  match scopes with
  | [.source name] =>
    let name := String.ofList name
    some ⟨if (verbosity? name).isSome then "" else name, verbosity⟩
  | _ => none

/-- The directive that a text spells, if it spells one, and if that concerns any lines. -/
def parse? (text : List Char) : Option (Option Directive) :=
  match level? text with
  | some verbosity => some (some ⟨"", verbosity⟩)
  | none => do
    let (scopes, rest) ← scopes? text
    return ofScopes scopes (← verbosityAfter? rest)

end Directive

/-- The directives by which lines are shown. -/
structure Filter where
  directives : List Directive
  deriving DecidableEq, Repr

namespace Filter

/-- The filter that a text spells. An empty one shows errors only. -/
def parse? (text : String) : Option Filter :=
  match (Text.split ',' text.toList).filter (· ≠ []) with
  | [] => some ⟨[⟨"", 1⟩]⟩
  | parts => (parts.mapM Directive.parse?).map fun ds => ⟨ds.filterMap id⟩

/-- The filter of a configuration that names a level: what others say about their work on the
network is shown only if it is worth it. -/
def ofLevel? (level : String) : Option Filter :=
  parse? (level ++ ",kube=info,tower=warn,hyper=warn")

/-- The environment variable that spells a filter. -/
def environmentVariable : String := "RUST_LOG"

/-- The filter of the environment, else that of the configuration, as far as they can be read. -/
def choose (environment : Option String) (level : String) : Filter :=
  (environment.bind parse? <|> ofLevel? level).getD ⟨[⟨"", 3⟩]⟩

/-- The directive for a source: the most specific one that fits, and of several alike the last. -/
def directive? (f : Filter) (source : String) : Option Directive :=
  f.directives.foldl (fun best d =>
    if source.startsWith d.source ∧ best.all (·.source.length ≤ d.source.length) then some d
    else best) none

/-- Whether a line is shown. -/
def shows (f : Filter) (line : Line) : Bool :=
  (f.directive? line.source).any fun d => line.level.verbosity ≤ d.verbosity

end Filter

end ClusterWatch.Log
