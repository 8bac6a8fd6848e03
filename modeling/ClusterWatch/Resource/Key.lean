import ClusterWatch.Resource.Basic
import ClusterWatch.Text.Search
/-!
# Object keys

The key of an object in a cache and in a queue: namespace and name with a slash between them, or
the name alone when there is no namespace.

- `Resource.keyOf`: the key of an object's metadata.
- `Resource.splitKey`: the namespace and the name of a key.
-/

namespace ClusterWatch.Resource

/-- The key of a name in a namespace. -/
def joinKey (namespaceName : Option String) (name : String) : String :=
  match namespaceName with
  | none => name
  | some ns => if ns.isEmpty then name else ns ++ "/" ++ name

/-- The key of an object. An absent name counts as empty. -/
def keyOf (metadata : Metadata) : String :=
  joinKey metadata.namespaceName (metadata.name.getD "")

/-- The namespace and the name of a key: what stands before and after its first slash. -/
def splitKey (key : String) : Option String × String :=
  match Text.cut? ['/'] key.toList with
  | some (ns, name) => (some (String.ofList ns), String.ofList name)
  | none => (none, key)

end ClusterWatch.Resource
