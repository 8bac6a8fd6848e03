import ClusterWatch.Controller.Cache
import ClusterWatch.Watch.Translator
/-!
# The copy of the cluster's objects

The objects that a watch has reported, found by namespace and name.

- `Watch.Reference`: a namespace, which may be absent, and a name.
- `Watch.Store`: the objects, and those of a listing in progress.
- `Watch.Store.apply`: the store after a watch event. A listing replaces the objects only when it
  is complete.
- `Watch.Store.get?`: the object of a reference.
-/

namespace ClusterWatch.Watch

/-- What identifies an object of a kind. -/
structure Reference where
  namespaceName : Option String
  name : String
  deriving DecidableEq, Repr, Inhabited

/-- The reference of an object. -/
def Reference.ofResource (r : Resource) : Reference :=
  let metadata := r.metadata?.getD {}
  ⟨metadata.namespaceName, metadata.name.getD ""⟩

/-- The reference that a key stands for. -/
def Reference.ofKey (key : String) : Reference :=
  let (namespaceName, name) := Resource.splitKey key
  ⟨namespaceName, name⟩

/-- Objects by reference. -/
abbrev Objects := List (Reference × Resource)

/-- Removes the object of a reference. -/
def Objects.remove (objects : Objects) (r : Reference) : Objects :=
  objects.filter fun p => p.1 ≠ r

/-- Puts an object under its reference. -/
def Objects.put (objects : Objects) (object : Resource) : Objects :=
  (Reference.ofResource object, object) :: Objects.remove objects (Reference.ofResource object)

/-- The objects that a watch has reported. -/
structure Store where
  objects : Objects := []
  /-- The objects of the listing in progress. -/
  listing : Objects := []
  deriving Inhabited

namespace Store

/-- The store after a watch event. -/
def apply (s : Store) : Event → Store
  | .init => { s with listing := [] }
  | .initApply r => { s with listing := Objects.put s.listing r }
  | .initDone => ⟨s.listing, []⟩
  | .apply r => { s with objects := Objects.put s.objects r }
  | .delete r => { s with objects := Objects.remove s.objects (.ofResource r) }

/-- The object of a reference. The namespace counts for nothing where the objects have none. -/
def get? (s : Store) (r : Reference) : Option Resource :=
  (s.objects.lookup r).or (s.objects.lookup { r with namespaceName := none })

/-- The object of a key. -/
def find? (s : Store) (key : String) : Option Resource :=
  s.get? (.ofKey key)

/-- What a controller sees of the store. -/
def toCache (s : Store) (synced : Bool) : Cache :=
  ⟨fun key => .ok (s.find? key), synced⟩

/-- An object under its own reference comes before one without a namespace. -/
theorem get?_eq_some {s : Store} {r : Reference} {object : Resource}
    (h : s.objects.lookup r = some object) : s.get? r = some object := by
  rw [get?, h, Option.some_or]

/-- Where all objects have namespaces, an object is found under its own reference only. -/
theorem get?_eq_lookup {s : Store} (h : ∀ name, s.objects.lookup ⟨none, name⟩ = none)
    (r : Reference) : s.get? r = s.objects.lookup r := by
  rw [get?, h, Option.or_none]

end Store

end ClusterWatch.Watch
