import ClusterWatch.Fault
/-!
# Listening for clients

- `Api.ListenError`: why the query interface cannot take an address.
- `Api.listen`: what follows for the query interface.
-/

namespace ClusterWatch.Api

/-- Why an address cannot be taken. -/
inductive ListenError where
  /-- Another program has taken it. -/
  | inUse
  /-- The program may not take it. -/
  | denied
  deriving DecidableEq, Repr

/-- The wording of an error. -/
def ListenError.message : ListenError → String
  | inUse => "Address already in use (os error 98)"
  | denied => "Permission denied (os error 13)"

/-- The query interface is up once it has taken its address. -/
def listen (address : String) (taken : Except ListenError Unit) : Except Fault Unit :=
  taken.mapError fun e => .internal "api" ("failed to bind " ++ address ++ ": " ++ e.message)

end ClusterWatch.Api
