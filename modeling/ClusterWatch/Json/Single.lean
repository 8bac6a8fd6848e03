import ClusterWatch.Json.Value
/-!
# Objects with one member

Answers of servers of which only one member matters.

- `Json.single?`: the value of that member.
-/

namespace ClusterWatch.Json

/-- The value of the only member that matters, which has to be given once. The list of just that
value is accepted in place of the object. -/
def single? (name : String) : Value → Option Value
  | .object members =>
    match members.filter fun m => m.1 == name with
    | [(_, v)] => some v
    | _ => none
  | .array [v] => some v
  | _ => none

end ClusterWatch.Json
