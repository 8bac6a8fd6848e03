import ClusterWatch.CommandLine.Error
import ClusterWatch.Text.Similarity
/-!
# Arguments

What the arguments of the program ask for. The value of a setting stands in the same argument or in
the next one; a value in the next argument is looked at only once it is clear that nothing else
comes in between.

- `CommandLine.Settings`: the values of the settings that were made.
- `CommandLine.Task`: what the program is asked to do.
- `CommandLine.read`: what the arguments ask for.
-/

namespace ClusterWatch.CommandLine

/-- The values of the settings that were made. -/
structure Settings where
  config : Option String := none
  workers : Option UInt64 := none
  httpPort : Option UInt16 := none
  deriving DecidableEq, Repr

/-- What the program is asked to do. -/
inductive Task where
  | answer (i : Inquiry)
  | watch (settings : Settings)
  deriving DecidableEq, Repr

/-! ### Values -/

/-- Continues to read digits after a number, away from zero and not beyond the bounds. -/
def digitsFrom (negative : Bool) (low high : Int) : Int → List Char → Except ValueError Int
  | n, [] => .ok n
  | n, c :: rest =>
    match Text.digitValue? 10 c with
    | none => .error .badDigit
    | some d =>
      let n := if negative then n * 10 - d else n * 10 + d
      if n < low then .error .tooSmall
      else if high < n then .error .tooLarge
      else digitsFrom negative low high n rest

/-- The integer that a text spells. A minus sign is read only where numbers can be negative. -/
def integer (low high : Int) (text : String) : Except ValueError Int :=
  match text.toList with
  | [] => .error .empty
  | ['+'] => .error .badDigit
  | ['-'] => .error .badDigit
  | '+' :: digits => digitsFrom false low high 0 digits
  | '-' :: digits => if low < 0 then digitsFrom true low high 0 digits else .error .badDigit
  | digits => digitsFrom false low high 0 digits

/-- The port that a text spells. -/
def port (text : String) : Except ValueError UInt16 := do
  let n ← integer Text.int64Min Text.int64Max text
  if 0 ≤ n ∧ n ≤ 65535 then .ok (UInt16.ofNat n.toNat) else .error (.outOfRange n 0 65535)

/-- Makes a setting. -/
def Settings.set (settings : Settings) (s : Setting) (value : String) : Except Error Settings :=
  match s with
  | .config =>
    if value = "" then .error (.noValue s) else .ok { settings with config := some value }
  | .workers =>
    match integer 0 (UInt64.size - 1) value with
    | .ok n => .ok { settings with workers := some (UInt64.ofNat n.toNat) }
    | .error e => .error (.badValue s value e)
  | .httpPort =>
    match port value with
    | .ok n => .ok { settings with httpPort := some n }
    | .error e => .error (.badValue s value e)

/-! ### Reading -/

/-- How far the arguments have been read. -/
structure Reading where
  settings : Settings := {}
  /-- The switches whose values were looked at. -/
  used : List Switch := []
  /-- A setting whose value comes in an argument of its own, and that value. -/
  pending : Option (Setting × Option String) := none

namespace Reading

/-- Makes a setting that has not been made before. -/
def make (r : Reading) (s : Setting) (value : String) : Reading × Except Error Unit :=
  if Switch.setting s ∈ r.used then
    ({ r with used := r.used.erase (Switch.setting s) }, .error (.repeated s))
  else
    let r := { r with used := r.used ++ [Switch.setting s] }
    match r.settings.set s value with
    | .ok settings => ({ r with settings }, .ok ())
    | .error e => (r, .error e)

/-- Looks at the value that is pending. -/
def resolve (r : Reading) : Reading × Except Error Unit :=
  let after := { r with pending := none }
  match r.pending with
  | none => (after, .ok ())
  | some (s, none) => (after, .error (.noValue s))
  | some (s, some value) => after.make s value

/-- Looks at the value that is pending, if there was nothing wrong before. -/
def settle (r : Reading) : Except Error Reading :=
  match r.resolve with
  | (r, .ok ()) => .ok r
  | (_, .error e) => .error e

/-- A setting with its value. -/
def attach (r : Reading) (s : Setting) (value : String) : Except Error Reading := do
  match (← r.settle).make s value with
  | (r, .ok ()) => .ok r
  | (_, .error e) => .error e

/-- A setting whose value is to follow. -/
def await (r : Reading) (s : Setting) : Except Error Reading := do
  return { ← r.settle with pending := some (s, none) }

/-- The setting whose value has to come next, if there is one. -/
def awaited? (r : Reading) : Option Setting :=
  match r.pending with
  | some (s, none) => some s
  | _ => none

end Reading

/-- What an argument leads to: an answer at once, or more to read. -/
abbrev Progress := Except Error (Inquiry ⊕ Reading)

/-- How alike a word and the name of a switch are at least if the one may be meant by the other. -/
def similarityLimit : Rat := 7 / 10

/-- The switch that a word may stand for: the most similar one, and of several the last. -/
def similar? (word : String) : Option Switch :=
  let likeness (s : Switch) := Text.similarity word.toList s.name.toList
  Switch.all.foldl (fun best s =>
    if similarityLimit < likeness s ∧ best.all (likeness · ≤ likeness s) then some s else best) none

/-- An argument that begins with two hyphens. -/
def readLong (r : Reading) (body : List Char) : Progress :=
  let name := String.ofList (body.takeWhile (· ≠ '='))
  let value? :=
    match body.dropWhile (· ≠ '=') with
    | '=' :: value => some (String.ofList value)
    | _ => none
  match Switch.named? name, value? with
  | some (.setting s), some value => (r.attach s value).map .inr
  | some (.setting s), none => (r.await s).map .inr
  | some (.inquiry i), none => r.settle.map fun _ => .inl i
  | some (.inquiry i), some value => .error (.unwantedValue i value r.used)
  | none, _ => .error (.unknown ("--" ++ name) (similar? name) r.resolve.1.used)

/-- An argument that begins with one hyphen. The letter of a setting takes the rest for its value,
and that of an inquiry does not wait for it. -/
def readShort (r : Reading) (letter : Char) (rest : List Char) : Progress :=
  match Switch.lettered? letter, rest with
  | some (.inquiry i), _ => r.settle.map fun _ => .inl i
  | some (.setting s), [] => (r.await s).map .inr
  | some (.setting s), '=' :: value => (r.attach s (String.ofList value)).map .inr
  | some (.setting s), value => (r.attach s (String.ofList value)).map .inr
  | none, _ => .error (.unknown (String.ofList ['-', letter]) none [])

/-- An argument that begins with no hyphen or is nothing else. -/
def readPlain (r : Reading) (argument : String) : Progress :=
  match r.awaited? with
  | some s => .ok (.inr { r with pending := some (s, some argument) })
  | none => .error (.unknown argument none [])

/-- An argument. -/
def readArgument (r : Reading) (argument : String) : Progress :=
  match argument.toList with
  | '-' :: '-' :: body => readLong r body
  | '-' :: letter :: rest => readShort r letter rest
  | _ => readPlain r argument

/-- The end of the arguments. The path of the configuration may come from the environment. -/
def finish (environment : Option String) (r : Reading) : Except Error Settings := do
  let r ← r.settle
  match environment with
  | some path =>
    if Switch.setting .config ∈ r.used then .ok r.settings else r.settings.set .config path
  | none => .ok r.settings

/-- Reads the arguments that are left. Two hyphens alone end the switches; nothing may follow. -/
def readFrom (environment : Option String) : Reading → List String → Except Error Task
  | r, [] => (finish environment r).map .watch
  | r, "--" :: rest =>
    match rest with
    | [] => (finish environment r).map .watch
    | argument :: _ => .error (.unknown argument none [])
  | r, argument :: rest =>
    match readArgument r argument with
    | .ok (.inl i) => .ok (.answer i)
    | .ok (.inr r) => readFrom environment r rest
    | .error e => .error e

/-- What the arguments ask for. `environment` is the path of the configuration in the
environment. -/
def read (environment : Option String) (arguments : List String) : Except Error Task :=
  readFrom environment {} arguments

end ClusterWatch.CommandLine
