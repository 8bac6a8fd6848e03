import ClusterWatch.Http.Url
import ClusterWatch.Json.Text
import ClusterWatch.Text.Base64
/-!
# Messages

What is sent to a web server and what it answers.

- `Http.Request`: a request.
- `Http.Status`: the outcome that an answer reports.
- `Http.Reply`: an answer.
- `Http.Network`: a way to get answers, with a state of its own.
- `Network.silent`: the network on which nobody answers.
-/

namespace ClusterWatch.Http

/-- What a request asks for. -/
inductive Method where
  | post
  | put
  deriving DecidableEq, Repr

/-- The name of a method in a request. -/
def Method.name : Method → String
  | post => "POST"
  | put => "PUT"

/-- A request. -/
structure Request where
  method : Method
  url : Url
  contentType : Option String := none
  authorization : Option String := none
  body : String := ""
  deriving DecidableEq, Repr

namespace Request

/-- A request to an address, which has to name a machine. -/
def ofUrl? (method : Method) (url : Url) : Option Request :=
  if url.host.isSome then some { method, url } else none

/-- A request to the address that a text spells. -/
def to? (method : Method) (address : String) : Option Request :=
  match Url.parse address with
  | .ok url => ofUrl? method url
  | .error _ => none

/-- The request with a JSON tree as its body. -/
def withJson (r : Request) (v : Json.Value) : Request :=
  { r with contentType := some "application/json", body := v.text }

/-- The request with form fields in its address. -/
def withQuery (r : Request) (fields : List (String × String)) : Request :=
  { r with url := r.url.appendQuery fields }

/-- The request with a user's name and password. -/
def withUser (r : Request) (name password : String) : Request :=
  { r with authorization := some ("Basic " ++ Text.Base64.encode (name ++ ":" ++ password)) }

end Request

/-- The outcome that an answer reports, as a number from 100 to 999. -/
structure Status where
  code : Nat
  deriving DecidableEq, Repr

namespace Status

/-- The names of the outcomes that have one. -/
def reasons : List (Nat × String) :=
  [(100, "Continue"), (101, "Switching Protocols"), (102, "Processing"), (200, "OK"),
    (201, "Created"), (202, "Accepted"), (203, "Non Authoritative Information"),
    (204, "No Content"), (205, "Reset Content"), (206, "Partial Content"), (207, "Multi-Status"),
    (208, "Already Reported"), (226, "IM Used"), (300, "Multiple Choices"),
    (301, "Moved Permanently"), (302, "Found"), (303, "See Other"), (304, "Not Modified"),
    (305, "Use Proxy"), (307, "Temporary Redirect"), (308, "Permanent Redirect"),
    (400, "Bad Request"), (401, "Unauthorized"), (402, "Payment Required"), (403, "Forbidden"),
    (404, "Not Found"), (405, "Method Not Allowed"), (406, "Not Acceptable"),
    (407, "Proxy Authentication Required"), (408, "Request Timeout"), (409, "Conflict"),
    (410, "Gone"), (411, "Length Required"), (412, "Precondition Failed"),
    (413, "Payload Too Large"), (414, "URI Too Long"), (415, "Unsupported Media Type"),
    (416, "Range Not Satisfiable"), (417, "Expectation Failed"), (418, "I'm a teapot"),
    (421, "Misdirected Request"), (422, "Unprocessable Entity"), (423, "Locked"),
    (424, "Failed Dependency"), (425, "Too Early"), (426, "Upgrade Required"),
    (428, "Precondition Required"), (429, "Too Many Requests"),
    (431, "Request Header Fields Too Large"), (451, "Unavailable For Legal Reasons"),
    (500, "Internal Server Error"), (501, "Not Implemented"), (502, "Bad Gateway"),
    (503, "Service Unavailable"), (504, "Gateway Timeout"), (505, "HTTP Version Not Supported"),
    (506, "Variant Also Negotiates"), (507, "Insufficient Storage"), (508, "Loop Detected"),
    (510, "Not Extended"), (511, "Network Authentication Required")]

/-- An outcome with its name. -/
def text (s : Status) : String :=
  toString s.code ++ " " ++ (reasons.lookup s.code).getD "<unknown status code>"

/-- Whether the request was served. -/
def isSuccess (s : Status) : Bool :=
  200 ≤ s.code && s.code < 300

/-- Whether sending the request again cannot help: it was refused, and not because the server was
short of time. -/
def isPermanent (s : Status) : Bool :=
  400 ≤ s.code && s.code < 500 && s.code ≠ 408 && s.code ≠ 429

end Status

/-- An answer. -/
structure Reply where
  status : Status
  body : String := ""
  deriving DecidableEq, Repr

/-- A way to get answers: none when no answer comes. -/
abbrev Network (σ : Type) := Request → σ → Option Reply × σ

/-- The network on which nobody answers. -/
def Network.silent {σ : Type} : Network σ :=
  fun _ s => (none, s)

end ClusterWatch.Http
