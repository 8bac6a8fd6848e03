import ClusterWatch.Http.Message
/-!
# Scripted servers

A network with one server that answers from a script and remembers what it was asked. Requests
belong to groups by the first part of their path, and each group has answers of its own.

- `Http.Script`: the answers to come and the requests so far.
- `Script.network`: the network of a server.
-/

namespace ClusterWatch.Http

/-- The answers to come and the requests so far. -/
structure Script where
  /-- The server; without one no request gets an answer. -/
  server : Option Host := none
  /-- The answers of each group. -/
  replies : List (String × List Reply) := []
  /-- What a group answers that has no other answers left. -/
  otherwise : Reply
  /-- The requests, the last first. -/
  requests : List (String × Request) := []

namespace Script

/-- The group of a request. -/
def groupOf (r : Request) : String :=
  match r.url.path with
  | .segments (first :: _) => first
  | _ => ""

/-- Takes the next answer of a group. -/
def take (otherwise : Reply) (group : String) :
    List (String × List Reply) → Reply × List (String × List Reply)
  | [] => (otherwise, [])
  | (name, replies) :: rest =>
    if name = group then
      match replies with
      | reply :: replies => (reply, (name, replies) :: rest)
      | [] => (otherwise, (name, []) :: rest)
    else
      let (reply, rest) := take otherwise group rest
      (reply, (name, replies) :: rest)

/-- The network of a server. -/
def network : Network Script := fun r s =>
  if s.server.isSome ∧ s.server = r.url.host then
    let group := groupOf r
    let (reply, replies) := take s.otherwise group s.replies
    (some reply, { s with replies, requests := (group, r) :: s.requests })
  else (none, s)

/-- The requests so far by group, both in order. -/
def requestsByGroup (s : Script) : List (String × List Request) :=
  let groups := (s.requests.map (·.1)).eraseDups
  groups.map fun g => (g, ((s.requests.filter (·.1 == g)).map (·.2)).reverse)

end Script

end ClusterWatch.Http
