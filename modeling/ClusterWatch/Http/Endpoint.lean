/-!
# Endpoints

Which texts are accepted as the address of a server to connect to. Unlike an `Http.Url`, such an
address is taken as it is, and a machine without a scheme is one as well.

- `Http.EndpointError`: why a text is no such address.
- `Endpoint.check`: accepts a text or tells why not.
-/

namespace ClusterWatch.Http

/-- Why a text is no address of a server. -/
inductive EndpointError where
  | empty
  | tooLong
  | longScheme
  | badCharacter
  | badAuthority
  | badFormat
  deriving DecidableEq, Repr

/-- The wording of an error. -/
def EndpointError.message : EndpointError → String
  | empty => "empty string"
  | tooLong => "uri too long"
  | longScheme => "scheme too long"
  | badCharacter => "invalid uri character"
  | badAuthority => "invalid authority"
  | badFormat => "invalid format"

namespace Endpoint

/-! ### Schemes -/

/-- The longest scheme. -/
def schemeLimit : Nat := 64

/-- Whether a character may stand in a scheme. -/
def isSchemeChar (c : Char) : Bool :=
  c.isAlphanum || c = '+' || c = '-' || c = '.' || c = '~'

/-- What follows the scheme and its mark, if there is a scheme. -/
def afterScheme? (cs : List Char) : Except EndpointError (Option (List Char)) :=
  match cs.span isSchemeChar with
  | (scheme, ':' :: '/' :: '/' :: rest) =>
    if schemeLimit < scheme.length then .error .longScheme else .ok (some rest)
  | _ => .ok none

/-! ### Authorities -/

/-- Whether a character may stand in the part of an address that names the machine. -/
def isAuthorityChar (c : Char) : Bool :=
  c.isAlphanum || "!$&'()*+,-.:;=@[]_~".toList.contains c

/-- What has been seen of the part of an address that names the machine. A user's name and the
name of a machine in square brackets are forgotten once they end. -/
structure Authority where
  colons : Nat := 0
  opened : Bool := false
  closed : Bool := false
  escaped : Bool := false

/-- The most colons that can follow one another in the name of a machine. -/
def colonLimit : Nat := 8

/-- Takes one more character into account. -/
def Authority.push (a : Authority) (c : Char) : Except EndpointError Authority :=
  match c with
  | ':' =>
    if colonLimit ≤ a.colons then .error .badAuthority else .ok { a with colons := a.colons + 1 }
  | '[' => if a.escaped || a.opened then .error .badAuthority else .ok { a with opened := true }
  | ']' =>
    if !a.opened || a.closed then .error .badAuthority
    else .ok { a with closed := true, colons := 0, escaped := false }
  | '@' => .ok { a with colons := 0, escaped := false }
  | '%' => .ok { a with escaped := true }
  | c => if isAuthorityChar c then .ok a else .error .badCharacter

/-- Accepts the name of a machine with what may surround it: brackets have to match, a port
follows at most one colon, something follows a user, and only a user's name has escapes. -/
def checkAuthority (cs : List Char) : Except EndpointError Unit := do
  let a ← cs.foldlM Authority.push {}
  if a.opened ≠ a.closed ∨ 1 < a.colons ∨ cs.getLast? = some '@' ∨ a.escaped then
    .error .badAuthority
  else .ok ()

/-! ### Paths -/

/-- Whether a character may stand in a path. -/
def isPathChar (c : Char) : Bool :=
  0x21 ≤ c.toNat && !"#<>?`".toList.contains c

/-- Whether a character may stand in a query. -/
def isQueryChar (c : Char) : Bool :=
  0x21 ≤ c.toNat && !"\"#<>".toList.contains c

/-- Accepts a path with a query. What follows a number sign does not count. -/
def checkPath (cs : List Char) : Except EndpointError Unit :=
  match cs.dropWhile isPathChar with
  | [] => .ok ()
  | '#' :: _ => .ok ()
  | '?' :: query =>
    match query.dropWhile isQueryChar with
    | [] => .ok ()
    | '#' :: _ => .ok ()
    | _ => .error .badCharacter
  | _ => .error .badCharacter

/-! ### Addresses -/

/-- The longest address. -/
def lengthLimit : Nat := 65534

/-- Whether a character ends the part of an address that names the machine. -/
def endsAuthority (c : Char) : Bool :=
  c = '/' || c = '?' || c = '#'

/-- Accepts an address with a scheme, or one that is just the name of a machine. -/
def checkFull (cs : List Char) : Except EndpointError Unit := do
  let after ← afterScheme? cs
  let (authority, rest) := (after.getD cs).span fun c => !endsAuthority c
  checkAuthority authority
  if after.isNone then
    if rest.isEmpty then .ok () else .error .badFormat
  else if authority.isEmpty then .error .badFormat
  else checkPath rest

/-- Accepts the address of a server or tells why a text is none. -/
def check (text : String) : Except EndpointError Unit :=
  if lengthLimit < text.utf8ByteSize then .error .tooLong
  else
    match text.toList with
    | [] => .error .empty
    | ['/'] => .ok ()
    | ['*'] => .ok ()
    | [c] => if endsAuthority c then .error .badCharacter else checkAuthority [c]
    | '/' :: path => checkPath ('/' :: path)
    | cs => checkFull cs

end Endpoint

end ClusterWatch.Http
