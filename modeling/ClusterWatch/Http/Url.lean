import ClusterWatch.Http.Host
/-!
# Addresses

Addresses of resources on the web.

- `Http.Url`: an address.
- `Http.UrlError`: why a text is no address.
- `Url.parse`: the address that a text spells. Blanks at its ends and line breaks in it do not
  count. What could not stand for itself is escaped.
- `Url.appendQuery`, `Url.appendSegments`: longer addresses.
- `Url.target`: the part of an address that a request names.
-/

namespace ClusterWatch.Http

/-- Why a text is no address. -/
inductive UrlError where
  | noScheme
  | host (e : HostError)
  | badPort
  deriving DecidableEq, Repr

/-- The wording of an error. -/
def UrlError.message : UrlError → String
  | noScheme => "relative URL without a base"
  | host .empty => "empty host"
  | host .badName => "invalid international domain name"
  | host .badCharacter => "invalid domain character"
  | host .badV4 => "invalid IPv4 address"
  | host .badV6 => "invalid IPv6 address"
  | badPort => "invalid port number"

/-- The path of an address. -/
inductive Path where
  /-- A path that only the scheme understands. -/
  | opaquePath (text : String)
  /-- The parts between the slashes. -/
  | segments (segments : List String)
  deriving DecidableEq, Repr

/-- An address. What a fragment or the name of a user adds to it is dropped. -/
structure Url where
  scheme : String
  host : Option Host
  /-- The port, if it is not the usual one of the scheme. -/
  port : Option Nat := none
  path : Path
  query : Option String := none
  deriving DecidableEq, Repr

namespace Url

/-! ### Escapes -/

/-- Whether a character is one of ASCII that can be seen. -/
def isVisible (c : Char) : Bool :=
  0x21 ≤ c.toNat && c.toNat ≤ 0x7e

/-- Whether a character stands for itself in a path. -/
def isPathChar (c : Char) : Bool :=
  isVisible c && !"\"<>`#?\x7b\x7d".toList.contains c

/-- Whether a character stands for itself in a part of a path that is added to an address. -/
def isSegmentChar (special : Bool) (c : Char) : Bool :=
  isPathChar c && c ≠ '/' && c ≠ '%' && !(special && c = '\\')

/-- Whether a character stands for itself in a query. -/
def isQueryChar (special : Bool) (c : Char) : Bool :=
  isVisible c && !"\"<>#".toList.contains c && !(special && c = '\'')

/-- Escapes the characters outside of a class. -/
def escaped (keep : Char → Bool) (cs : List Char) : String :=
  String.ofList (Text.Percent.encode keep cs)

/-! ### Schemes -/

/-- The usual port of a scheme that knows the domain name system. -/
def defaultPort? : String → Option Nat
  | "http" => some 80
  | "https" => some 443
  | "ws" => some 80
  | "wss" => some 443
  | "ftp" => some 21
  | _ => none

/-- Whether a backslash counts as a slash and a path is never empty. -/
def isSpecialScheme (scheme : String) : Bool :=
  scheme = "file" || (defaultPort? scheme).isSome

/-- The scheme of an address and what follows its colon. -/
def splitScheme (cs : List Char) : Option (String × List Char) :=
  let isSchemeChar (c : Char) := c.isAlphanum || c = '+' || c = '-' || c = '.'
  match cs.span isSchemeChar with
  | (first :: rest, ':' :: after) =>
    if first.isAlpha then some (String.ofList ((first :: rest).map Char.toLower), after) else none
  | _ => none

/-! ### Authorities -/

/-- Whether a character ends the part of an address that names the machine. -/
def endsAuthority (special : Bool) (c : Char) : Bool :=
  c = '/' || c = '?' || c = '#' || (special && c = '\\')

/-- Drops the name and the password of a user. Returns whether there was one as well. -/
def dropUser (special : Bool) (cs : List Char) : Except UrlError (Bool × List Char) :=
  let (authority, rest) := cs.span fun c => !endsAuthority special c
  -- of several at signs the last one counts
  if !authority.contains '@' then .ok (false, cs)
  else
    let user := (authority.reverse.dropWhile (· ≠ '@')).tail.reverse
    let machine := (authority.reverse.takeWhile (· ≠ '@')).reverse ++ rest
    match user, machine with
    | [], c :: _ => if endsAuthority special c then .error (.host .empty) else .ok (false, machine)
    | user, machine => .ok (!user.isEmpty && user ≠ [':'], machine)

/-- The text of a machine's name. A colon inside square brackets belongs to it. The argument
before the last tells whether a bracket is open. -/
def hostText (special : Bool) : Bool → List Char → List Char × List Char
  | _, [] => ([], [])
  | inside, c :: rest =>
    if (c = ':' && !inside) || endsAuthority special c then ([], c :: rest)
    else
      let (text, rest) := hostText special (if c = '[' then true else if c = ']' then false
        else inside) rest
      (c :: text, rest)

/-- The port after a machine's name. -/
def readPort (usual : Option Nat) (cs : List Char) : Except UrlError (Option Nat × List Char) :=
  match cs with
  | ':' :: rest =>
    let (digits, rest) := rest.span Text.isDigit
    let port := Text.natural? 10 digits
    -- digits up to the end of the authority, and none at all are the usual port
    if port.any (65535 < ·) || (rest.head?.any fun c => !endsAuthority true c) then .error .badPort
    else .ok (if port = usual then none else port, rest)
  | rest => .ok (none, rest)

/-- The machine and the port of an address, and what follows them. -/
def readAuthority (scheme : String) (cs : List Char) :
    Except UrlError (Option Host × Option Nat × List Char) := do
  let special := isSpecialScheme scheme
  let (hasUser, cs) ← dropUser special cs
  let (text, rest) := hostText special false cs
  if text.isEmpty && (special || hasUser || rest.head? = some ':') then .error (.host .empty)
  else
    let host ← (if special then Host.ofChars text else Host.ofOpaque text).mapError UrlError.host
    let (port, rest) ← readPort (defaultPort? scheme) rest
    return (if text.isEmpty then none else some host, port, rest)

/-! ### Paths and queries -/

/-- Whether a part of a path stands for the same place. -/
def isSingleDot (segment : String) : Bool :=
  segment.toLower ∈ [".", "%2e"]

/-- Whether a part of a path stands for the place above. -/
def isDoubleDot (segment : String) : Bool :=
  segment.toLower ∈ ["..", ".%2e", "%2e.", "%2e%2e"]

/-- Follows the parts of a path from the parts before, which are given from their end. -/
def resolveDots : List String → List String → List String
  | above, [] => above.reverse
  | above, segment :: rest =>
    -- dots at the end leave an empty part, which is a slash
    let above :=
      if isDoubleDot segment then (if rest.isEmpty then "" :: above.tail else above.tail)
      else if isSingleDot segment then (if rest.isEmpty then "" :: above else above)
      else segment :: above
    resolveDots above rest

/-- Cuts a path at its slashes. -/
def splitPath (special : Bool) (cs : List Char) : List (List Char) :=
  Text.split '/' (if special then cs.map fun c => if c = '\\' then '/' else c else cs)

/-- The path of a text between a machine and a query. -/
def readPath (special : Bool) (cs : List Char) : Path :=
  let cs := if cs.head?.any (fun c => c = '/' || (special && c = '\\')) then cs.tail else cs
  .segments (resolveDots [] ((splitPath special cs).map (escaped isPathChar)))

/-- The query of a text after a path. -/
def readQuery (special : Bool) (cs : List Char) : Option String :=
  match cs with
  | '?' :: rest => some (escaped (isQueryChar special) (rest.takeWhile (· ≠ '#')))
  | _ => none

/-- The path and the query of a text. -/
def readTarget (special : Bool) (cs : List Char) : Path × Option String :=
  let (path, rest) := cs.span fun c => c ≠ '?' && c ≠ '#'
  (if path.isEmpty && !special then .segments [] else readPath special path,
    readQuery special rest)

/-! ### Addresses -/

/-- The characters of a text that count. -/
def significant (cs : List Char) : List Char :=
  let isEdge (c : Char) := c.toNat ≤ 0x20
  let cs := ((cs.dropWhile isEdge).reverse.dropWhile isEdge).reverse
  cs.filter fun c => c ≠ '\t' && c ≠ '\n' && c ≠ '\r'

/-- An address with a machine. -/
def readHierarchical (scheme : String) (cs : List Char) : Except UrlError Url := do
  let (host, port, rest) ← readAuthority scheme cs
  let (path, query) := readTarget (isSpecialScheme scheme) rest
  return { scheme, host, port, path, query }

/-- An address of a file. The machine may be left out. -/
def readFile (cs : List Char) : Except UrlError Url := do
  let isSlash (c : Char) := c = '/' || c = '\\'
  match cs with
  | a :: b :: rest =>
    if isSlash a && isSlash b then
      let (text, rest) := hostText true true rest
      let host ← if text.isEmpty then .ok none
        else ((Host.ofChars text).mapError UrlError.host).map some
      let (path, query) := readTarget true rest
      -- the local machine counts as none
      return { scheme := "file", host := host.filter (· ≠ .domain "localhost"), path, query }
    else
      let (path, query) := readTarget true cs
      return { scheme := "file", host := none, path, query }
  | cs =>
    let (path, query) := readTarget true cs
    return { scheme := "file", host := none, path, query }

/-- An address without a machine. -/
def readPathOnly (scheme : String) (cs : List Char) : Url :=
  match cs with
  | '/' :: _ =>
    let (path, query) := readTarget false cs
    { scheme, host := none, path, query }
  | _ =>
    let (path, rest) := cs.span fun c => c ≠ '?' && c ≠ '#'
    let isKept (c : Char) := c = ' ' || isVisible c
    { scheme, host := none, path := .opaquePath (escaped isKept path),
      query := readQuery false rest }

/-- The address that a text spells. -/
def parse (text : String) : Except UrlError Url :=
  match splitScheme (significant text.toList) with
  | none => .error .noScheme
  | some (scheme, rest) =>
    if scheme = "file" then readFile rest
    else if isSpecialScheme scheme then
      readHierarchical scheme (rest.dropWhile fun c => c = '/' || c = '\\')
    else
      match rest with
      | '/' :: '/' :: rest => readHierarchical scheme rest
      | rest => .ok (readPathOnly scheme rest)

/-! ### Longer addresses -/

/-- The text of form fields. -/
def formText (fields : List (String × String)) : String :=
  "&".intercalate (fields.map fun (name, value) =>
    Text.Percent.formEncode name ++ "=" ++ Text.Percent.formEncode value)

/-- The address with form fields after its query. -/
def appendQuery (u : Url) (fields : List (String × String)) : Url :=
  let before := u.query.getD ""
  { u with query := some (if before = "" then formText fields else before ++ "&" ++
      formText fields) }

/-- Puts a part at the end of a path. An empty part in first place is filled. -/
def appendSegment (special : Bool) (path : List String) (segment : String) : List String :=
  let escapedSegment := escaped (isSegmentChar special) (significantInside segment)
  if segment ∈ [".", ".."] then path
  else if path = [""] then [escapedSegment]
  else path ++ [escapedSegment]
where
  /-- Line breaks do not count inside a part either. -/
  significantInside (s : String) : List Char :=
    s.toList.filter fun c => c ≠ '\t' && c ≠ '\n' && c ≠ '\r'

/-- The address with parts at the end of its path, which then does not end with a slash before
them; none if only the scheme understands the path. -/
def appendSegments (u : Url) (segments : List String) : Option Url :=
  match u.path with
  | .opaquePath _ => none
  | .segments path =>
    let path := if 1 < path.length ∧ path.getLast? = some "" then path.dropLast else path
    let special := isSpecialScheme u.scheme
    some { u with path := .segments (segments.foldl (appendSegment special) path) }

/-- The text of a path. -/
def pathText (u : Url) : String :=
  match u.path with
  | .opaquePath text => text
  | .segments segments => String.join (segments.map ("/" ++ ·))

/-- The path and the query of an address. -/
def target (u : Url) : String :=
  u.pathText ++ (match u.query with
    | some query => "?" ++ query
    | none => "")

end Url

end ClusterWatch.Http
