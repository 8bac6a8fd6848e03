import ClusterWatch.Fault
import ClusterWatch.Resource.Basic
/-!
# Caches

What a controller sees of the local copy of the cluster's objects.

- `Cache`: the answer for every key, and whether the first listing is complete.
- `MemoryCache`: a cache that holds its objects in a list, and whose answers for some keys can be
  made to fail.
-/

namespace ClusterWatch

/-- Read access to the objects of one kind. -/
structure Cache where
  lookup : String → Except Fault (Option Resource)
  synced : Bool

instance : Inhabited Cache := ⟨⟨fun _ => .ok none, false⟩⟩

/-- A cache in memory. -/
structure MemoryCache where
  objects : List (String × Resource) := []
  /-- The keys whose lookups fail, with the messages. -/
  broken : List (String × String) := []
  synced : Bool := false
  deriving Inhabited

namespace MemoryCache

/-- Removes a key from a list of pairs. -/
def without {α : Type} (key : String) (pairs : List (String × α)) : List (String × α) :=
  pairs.filter fun p => p.1 != key

/-- Puts an object under a key. -/
def put (c : MemoryCache) (key : String) (r : Resource) : MemoryCache :=
  { c with objects := (key, r) :: without key c.objects }

/-- Removes the object of a key. -/
def remove (c : MemoryCache) (key : String) : MemoryCache :=
  { c with objects := without key c.objects }

/-- Makes the lookups of a key fail. -/
def fail (c : MemoryCache) (key message : String) : MemoryCache :=
  { c with broken := (key, message) :: without key c.broken }

/-- Lets the lookups of a key succeed again. -/
def heal (c : MemoryCache) (key : String) : MemoryCache :=
  { c with broken := without key c.broken }

/-- The answer for a key. -/
def lookup (c : MemoryCache) (key : String) : Except Fault (Option Resource) :=
  match c.broken.lookup key with
  | some message => .error (.cache key message)
  | none => .ok (c.objects.lookup key)

/-- What a controller sees. -/
def toCache (c : MemoryCache) : Cache :=
  ⟨c.lookup, c.synced⟩

end MemoryCache

end ClusterWatch
