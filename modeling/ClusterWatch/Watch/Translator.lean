import ClusterWatch.Controller.Basic
import ClusterWatch.Resource.Key
/-!
# From watch events to notifications

A watch lists the objects of a kind and then reports their changes; when it loses touch it lists
them again. The translator remembers the version of every object it knows, so that a new listing
turns into notifications about what is new, changed or gone.

- `Watch.Event`: what a watch reports.
- `Watch.Call`: a notification for a controller.
- `Translator`: the known versions and the listing in progress.
- `Translator.handle`: the notifications of an event.
-/

namespace ClusterWatch

open Std (TreeMap)

namespace Watch

/-- What a watch reports. -/
inductive Event where
  /-- A listing begins. -/
  | init
  /-- An object of the listing. -/
  | initApply (object : Resource)
  /-- The listing is complete. -/
  | initDone
  /-- An object was added or changed. -/
  | apply (object : Resource)
  /-- An object was removed. -/
  | delete (object : Resource)
  deriving Repr

/-- A notification for a controller. -/
inductive Call where
  | add (key : String) (version : Option String)
  | update (key : String) (old new : Option String)
  | delete (key : String) (version : Option String)
  deriving DecidableEq, Repr

/-- The key that a notification is about. -/
def Call.key : Call → String
  | add key _ => key
  | update key _ _ => key
  | delete key _ => key

/-- Notifies a controller. -/
def Call.notify (c : Controller) : Call → Controller
  | add key version => c.onAdd key version
  | update key old new => c.onUpdate key old new
  | delete key version => c.onDelete key version

/-- The key of an object. -/
def keyOf (r : Resource) : String :=
  Resource.keyOf (r.metadata?.getD {})

/-- Versions by key. An object may have none. -/
abbrev Versions := TreeMap String (Option String)

/-- Turns watch events into notifications. -/
structure Translator where
  /-- The last known version of every object. -/
  known : Versions := {}
  /-- The listing in progress. -/
  listing : Option Versions := none
  /-- Whether a listing was completed. -/
  synced : Bool := false

instance : Inhabited Translator := ⟨{}⟩

namespace Translator

/-- The notification that an object has a version. -/
def applied (t : Translator) (key : String) (version : Option String) : Call :=
  match t.known[key]? with
  | some old => .update key old version
  | none => .add key version

/-- The notifications of a completed listing: one for each listed object and one for each known
object that is missing. -/
def listed (t : Translator) (listing : Versions) : List Call :=
  listing.toList.map (fun (key, version) => t.applied key version) ++
    (t.known.toList.filter fun (key, _) => !listing.contains key).map fun (key, version) =>
      .delete key version

/-- The notifications of an event, and the translator after it. -/
def handle (t : Translator) : Event → Translator × List Call
  | .init => ({ t with listing := some {} }, [])
  | .initApply r =>
    ({ t with listing := some ((t.listing.getD {}).insert (keyOf r) r.version?) }, [])
  -- what was known is replaced, so that what is missing from the listing is deleted
  | .initDone =>
    let listing := t.listing.getD {}
    ({ known := listing, listing := none, synced := true }, t.listed listing)
  | .apply r =>
    ({ t with known := t.known.insert (keyOf r) r.version? }, [t.applied (keyOf r) r.version?])
  | .delete r =>
    ({ t with known := t.known.erase (keyOf r) }, [.delete (keyOf r) r.version?])

end Translator

end Watch

end ClusterWatch
