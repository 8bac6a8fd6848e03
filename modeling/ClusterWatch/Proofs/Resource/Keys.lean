import ClusterWatch.Proofs.Event.Shapes
import ClusterWatch.Proofs.Watch.Replica
/-!
# Keys identify objects

The key of an object is all that a queue, a cache and the record of a deletion know of it. A key is
a namespace and a name with a slash between them, and it is taken apart at the first slash: that
leads back to the object as long as no slash stands where it could be taken for that one.

- `Metadata.scope`: the namespace, where an empty one counts as none.
- `Metadata.Separable`: no slash stands before the one that ends the namespace.
- `splitKey_keyOf`: a key gives back the namespace and the name.
- `record_of_gone`: the record of a deletion names the object that was there.
- `ofKey_keyOf`: the reference that a cache is asked for.

Main result: `keyOf_identifies`.
-/

namespace ClusterWatch

namespace Resource

/-- The namespace of an object. An empty one counts as none. -/
def Metadata.scope (m : Metadata) : Option String :=
  m.namespaceName.filter fun ns => !ns.isEmpty

/-- The first slash of the key is the one that ends the namespace. -/
structure Metadata.Separable (m : Metadata) : Prop where
  namespaceName : ∀ ns, m.namespaceName = some ns → '/' ∉ ns.toList
  name : m.scope = none → '/' ∉ (m.name.getD "").toList

variable {m : Metadata}

theorem Metadata.scope_eq_none_iff :
    m.scope = none ↔ m.namespaceName = none ∨ m.namespaceName = some "" := by
  cases h : m.namespaceName with
  | none => simp [scope, h]
  | some ns => simp [scope, h, Option.filter_some]

/-- Texts that need a namespace show an empty one for none. -/
theorem Metadata.getD_scope (m : Metadata) : m.scope.getD "" = m.namespaceName.getD "" := by
  cases hscope : m.scope with
  | none => rcases scope_eq_none_iff.mp hscope with h | h <;> simp [h]
  | some ns => simp [(Option.filter_eq_some_iff.mp hscope).1]

/-- The key of an object without a namespace is its name. -/
theorem keyOf_of_scope_eq_none (h : m.scope = none) : keyOf m = m.name.getD "" := by
  rcases Metadata.scope_eq_none_iff.mp h with h | h <;> simp [keyOf, joinKey, h]

/-- The key of an object in a namespace has both parts. -/
theorem keyOf_of_scope_eq_some {ns : String} (h : m.scope = some ns) :
    m.namespaceName = some ns ∧ keyOf m = ns ++ "/" ++ m.name.getD "" := by
  obtain ⟨hname, hne⟩ := Option.filter_eq_some_iff.mp h
  refine ⟨hname, ?_⟩
  simp only [keyOf, joinKey, hname]
  rw [if_neg (by simpa using hne)]

/-- A key gives back the namespace and the name. -/
theorem splitKey_keyOf (hm : m.Separable) : splitKey (keyOf m) = (m.scope, m.name.getD "") := by
  cases hscope : m.scope with
  | none =>
    rw [keyOf_of_scope_eq_none hscope, splitKey, Text.cut?_eq_none (hm.name hscope)]
  | some ns =>
    obtain ⟨hns, hkey⟩ := keyOf_of_scope_eq_some hscope
    have hlist : (keyOf m).toList = ns.toList ++ '/' :: (m.name.getD "").toList := by
      simp [hkey]
    rw [splitKey, hlist, Text.cut?_append (hm.namespaceName ns hns)]
    simp

/-- Different objects have different keys. -/
theorem keyOf_inj {m' : Metadata} (hm : m.Separable) (hm' : m'.Separable) :
    keyOf m = keyOf m' ↔ m.scope = m'.scope ∧ m.name.getD "" = m'.name.getD "" := by
  constructor
  · intro hkey
    have hparts : (m.scope, m.name.getD "") = (m'.scope, m'.name.getD "") := by
      rw [← splitKey_keyOf hm, ← splitKey_keyOf hm', hkey]
    exact Prod.ext_iff.mp hparts
  · rintro ⟨hscope, hname⟩
    cases h : m.scope with
    | none => rw [keyOf_of_scope_eq_none h, keyOf_of_scope_eq_none (hscope ▸ h), hname]
    | some ns =>
      rw [(keyOf_of_scope_eq_some h).2, (keyOf_of_scope_eq_some (hscope ▸ h)).2, hname]

/-- The record of a deletion names the object that was there. -/
theorem record_of_gone (hm : m.Separable) {r : Resource} (hr : r.metadata? = some m)
    (action action' : Action) :
    (Event.ofResource (.deleted r.kindName (keyOf m)) action).kind =
        (Event.ofResource r action').kind ∧
      (Event.ofResource (.deleted r.kindName (keyOf m)) action).namespaceName =
        (Event.ofResource r action').namespaceName ∧
      (Event.ofResource (.deleted r.kindName (keyOf m)) action).name =
        (Event.ofResource r action').name := by
  obtain ⟨hkind, hnamespace, hname⟩ :=
    Event.ofResource_heading (.deleted r.kindName (keyOf m)) action
  obtain ⟨hkind', hnamespace', hname'⟩ := Event.ofResource_heading r action'
  have hlive := Event.heading_identifies hr action'
  rw [hkind, hnamespace, hname, hkind', hnamespace', hname', hlive.namespaceName, hlive.name]
  -- the heading of the stand-in has the parts of the key
  simp only [Event.heading, splitKey_keyOf hm, Metadata.getD_scope, kindName, and_self]

/-- The reference that a cache is asked for with a key. -/
theorem ofKey_keyOf (hm : m.Separable) (hne : m.namespaceName ≠ some "") :
    Watch.Reference.ofKey (keyOf m) = ⟨m.namespaceName, m.name.getD ""⟩ := by
  have hscope : m.scope = m.namespaceName := by
    cases h : m.namespaceName with
    | none => rw [Metadata.scope, h, Option.filter_none]
    | some ns =>
      rw [Metadata.scope, h, Option.filter_some, if_pos (by simpa [h] using hne)]
  rw [Watch.Reference.ofKey, splitKey_keyOf hm, hscope]

/-- An object that was reported is found under its key. -/
theorem lookup_apply (hm : m.Separable) (hne : m.namespaceName ≠ some "") {r : Resource}
    (hr : r.metadata? = some m) (s : Watch.Store) (synced : Bool) :
    ((s.apply (.apply r)).toCache synced).lookup (keyOf m) = .ok (some r) := by
  have hreference : Watch.Reference.ofResource r = .ofKey (keyOf m) := by
    rw [ofKey_keyOf hm hne, Watch.Reference.ofResource, hr, Option.getD_some]
  have hput : (s.objects.put r).lookup (.ofKey (keyOf m)) = some r := by
    rw [Watch.Objects.lookup_put, if_pos hreference]
  exact congrArg Except.ok (Watch.Store.get?_eq_some hput)

/-- **A key stands for one object everywhere.** It gives back the namespace and the name, no other
object has it, the record of a deletion made from it names the object that was there, and a cache
that is asked for it looks for just that namespace and name, where it finds the object once that
was reported. -/
theorem keyOf_identifies (hm : m.Separable) :
    splitKey (keyOf m) = (m.scope, m.name.getD "") ∧
      (∀ m' : Metadata, m'.Separable →
        (keyOf m = keyOf m' ↔ m.scope = m'.scope ∧ m.name.getD "" = m'.name.getD "")) ∧
      (∀ (r : Resource) (action action' : Action), r.metadata? = some m →
        let gone := Event.ofResource (.deleted r.kindName (keyOf m)) action
        let live := Event.ofResource r action'
        gone.kind = live.kind ∧ gone.namespaceName = live.namespaceName ∧
          gone.name = live.name) ∧
      (m.namespaceName ≠ some "" → ∀ (s : Watch.Store) (synced : Bool),
        (s.toCache synced).lookup (keyOf m) = .ok (s.get? ⟨m.namespaceName, m.name.getD ""⟩) ∧
          ∀ r : Resource, r.metadata? = some m →
            ((s.apply (.apply r)).toCache synced).lookup (keyOf m) = .ok (some r)) := by
  refine ⟨splitKey_keyOf hm, fun m' hm' => keyOf_inj hm hm', ?_, ?_⟩
  · intro r action action' hr
    exact record_of_gone hm hr action action'
  · intro hne s synced
    refine ⟨?_, fun r hr => lookup_apply hm hne hr s synced⟩
    rw [← ofKey_keyOf hm hne]
    rfl

/-- In a namespace, a name may have slashes in it. -/
theorem keyOf_identifies_slashed :
    let m : Metadata := { namespaceName := some "shop", name := some "web/1" }
    let m' : Metadata := { name := some "shop" }
    m.Separable ∧ m'.Separable ∧ splitKey (keyOf m) = (some "shop", "web/1") ∧
      keyOf m ≠ keyOf m' ∧
      (Event.ofResource (.deleted "pods" (keyOf m)) .delete).name =
        (Event.ofResource (.live m (.pod none [])) .create).name ∧
      ((({} : Watch.Store).apply (.apply (.live m (.pod none [])))).toCache true).lookup
        (keyOf m) = .ok (some (.live m (.pod none []))) := by
  intro m m'
  have hm : m.Separable :=
    ⟨fun ns hns => by obtain rfl := Option.some.inj hns; decide, nofun⟩
  have hm' : m'.Separable := ⟨nofun, fun _ => by decide⟩
  obtain ⟨hsplit, hinj, hgone, hfind⟩ := keyOf_identifies hm
  refine ⟨hm, hm', hsplit, ?_, (hgone (.live m (.pod none [])) .delete .create rfl).2.2, ?_⟩
  · intro hkey
    exact absurd ((hinj m' hm').mp hkey).1 (by decide)
  · exact (hfind (by decide) {} true).2 _ rfl

end Resource

end ClusterWatch
