import ClusterWatch.Text.Percent
import ClusterWatch.Text.Search
/-!
# Hosts

The part of an address that names a machine.

- `Http.Host`: a name or a numeric address.
- `Http.HostError`: why a text names no machine.
- `Host.ofChars`: the host of an address whose scheme knows the domain name system.
- `Host.ofOpaque`: the host of an address of any other scheme.
-/

namespace ClusterWatch.Http

/-- A machine, or no machine at all if the name is empty. -/
inductive Host where
  | domain (name : String)
  /-- A number of 32 bits. -/
  | v4 (address : Nat)
  /-- Eight numbers of 16 bits. -/
  | v6 (pieces : List Nat)
  deriving DecidableEq, Repr

/-- Why a text names no machine. -/
inductive HostError where
  | empty
  | badName
  | badCharacter
  | badV4
  | badV6
  deriving DecidableEq, Repr

namespace Host

/-! ### Numeric addresses -/

/-- A number in an address: hexadecimal after `0x`, octal after `0`, decimal otherwise. -/
def number? : List Char → Option Nat
  | [] => none
  | ['0'] => some 0
  | ['0', 'x'] => some 0
  | ['0', 'X'] => some 0
  | '0' :: 'x' :: digits => Text.natural? 16 digits
  | '0' :: 'X' :: digits => Text.natural? 16 digits
  | '0' :: digits => Text.natural? 8 digits
  | digits => Text.natural? 10 digits

/-- The parts of a name, without an empty one at its end. -/
def parts (name : List Char) : List (List Char) :=
  let parts := Text.split '.' name
  if 1 < parts.length ∧ parts.getLast? = some [] then parts.dropLast else parts

/-- Whether a name looks like a numeric address: its last part is a number. -/
def endsInNumber (name : List Char) : Bool :=
  match (parts name).getLast? with
  | some last => (!last.isEmpty && last.all Text.isDigit) || (number? last).isSome
  | none => false

/-- The address of up to four numbers. All but the last give one byte each, and the last gives the
remaining ones. -/
def v4Of? (numbers : List Nat) : Option Nat :=
  match numbers.getLast? with
  | none => none
  | some last =>
    let leading := numbers.dropLast
    let free := 4 - leading.length
    if 3 < leading.length ∨ leading.any (255 < ·) ∨ Nat.pow 256 free ≤ last then none
    else
      some (leading.zipIdx.foldl (fun total (n, i) => total + n * Nat.pow 256 (3 - i)) last)

/-- The address that a name spells. -/
def v4? (name : List Char) : Option Nat :=
  ((parts name).mapM number?).bind v4Of?

/-- A byte in decimal digits, without zeros in front. -/
def byte? (digits : List Char) : Option Nat :=
  if 1 < digits.length ∧ digits.head? = some '0' then none
  else (Text.natural? 10 digits).filter (· ≤ 255)

/-- The numbers that one group of a long address gives. -/
def group? (group : List Char) : Option (List Nat) :=
  if 4 < group.length then none else (Text.natural? 16 group).map ([·])

/-- The numbers of the last group of a long address, which may be a short address. -/
def lastGroup? (group : List Char) : Option (List Nat) :=
  if group.contains '.' then
    match (Text.split '.' group).mapM byte? with
    | some [a, b, c, d] => some [a * 256 + b, c * 256 + d]
    | _ => none
  else group? group

/-- The numbers of groups between colons; of no group at all if the text is empty. -/
def groups? (last : List Char → Option (List Nat)) (cs : List Char) : Option (List Nat) :=
  if cs.isEmpty then some []
  else
    let groups := Text.split ':' cs
    match groups.dropLast.mapM group?, (groups.getLast?).bind last with
    | some firsts, some lasts => some (firsts.flatten ++ lasts)
    | _, _ => none

/-- The long address that a text spells. A pair of colons stands for at least one zero. -/
def v6? (cs : List Char) : Option (List Nat) :=
  match Text.cut? [':', ':'] cs with
  | none => (groups? lastGroup? cs).filter (·.length = 8)
  | some (before, after) =>
    match groups? group? before, groups? lastGroup? after with
    | some before, some after =>
      let zeros := 8 - (before.length + after.length)
      if zeros = 0 then none else some (before ++ List.replicate zeros 0 ++ after)
    | _, _ => none

/-- The host of a text in square brackets. -/
def bracketed (cs : List Char) : Except HostError Host :=
  match if cs.getLast? = some ']' then v6? cs.tail.dropLast else none with
  | some pieces => .ok (.v6 pieces)
  | none => .error .badV6

/-! ### Names -/

/-- Whether a character may not stand in the name of a machine. -/
def isForbidden (c : Char) : Bool :=
  c.toNat ≤ 0x20 || c.toNat = 0x7f || "%#/:<>?@[\\]^|".toList.contains c

/-- The host of an address whose scheme knows the domain name system. Letters of a name are
lowered. -/
def ofChars (cs : List Char) : Except HostError Host :=
  if cs.head? = some '[' then bracketed cs
  else
    match Text.Utf8.decode? (Text.Percent.decode cs) with
    | none => .error .badName
    | some name =>
      if name.any isForbidden then .error .badName
      else if name.isEmpty then .error .empty
      else
        let name := name.map Char.toLower
        -- what looks like an address of four numbers has to be one
        if endsInNumber name then
          match v4? name with
          | some address => .ok (.v4 address)
          | none => .error .badV4
        else .ok (.domain (String.ofList name))

/-- Whether a character may not stand in a name that means something to a scheme only. -/
def isForbiddenOpaque (c : Char) : Bool :=
  c = '\x00' || "\t\n\r #/:<>?@[\\]^|".toList.contains c

/-- The host of an address of any other scheme. -/
def ofOpaque (cs : List Char) : Except HostError Host :=
  if cs.head? = some '[' then bracketed cs
  else if cs.any isForbiddenOpaque then .error .badCharacter
  else .ok (.domain (String.ofList cs))

end Host

end ClusterWatch.Http
