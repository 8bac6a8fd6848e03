import ClusterWatch.Watch.Store
import Mathlib.Data.List.Nodup
import Mathlib.Logic.Function.Basic
/-!
# What a watch has reported

A watch reports objects; everything behind it goes by their keys. `Replica` is the plain content of
a watch, one object for each key, with the listing in progress beside it. The translator, which only
keeps versions, and the store, which goes by references, both follow it:

- `Replica`, `Replica.apply`: the content of a watch, and what an event makes of it.
- `Translator.Follows`: the translator knows the keys of the replica with their versions.
- `Call.Fits`, `Leads`: notifications that agree with what the ones before them said.
- `Translator.about_handle`: an event makes at most one notification about a key, and it fits.
- `Named`, `Store.Follows`: the store answers as the replica does, for objects whose keys tell their
  references apart.
-/

namespace ClusterWatch.Watch

open Std (TreeMap)

/-- The objects that a watch has reported, by key, and those of a listing in progress. -/
structure Replica where
  objects : String → Option Resource := fun _ => none
  listing : String → Option Resource := fun _ => none

/-- The replica after a watch event. A listing replaces the objects only when it is complete. -/
def Replica.apply (m : Replica) : Event → Replica
  | .init => { m with listing := fun _ => none }
  | .initApply r => { m with listing := Function.update m.listing (keyOf r) (some r) }
  | .initDone => { objects := m.listing }
  | .apply r => { m with objects := Function.update m.objects (keyOf r) (some r) }
  | .delete r => { m with objects := Function.update m.objects (keyOf r) none }

variable {m : Replica}

/-! ### Notifications about one key -/

/-- The notifications about a key. -/
def about (key : String) (calls : List Call) : List Call :=
  calls.filter fun call => call.key = key

@[simp] theorem about_append (key : String) (calls calls' : List Call) :
    about key (calls ++ calls') = about key calls ++ about key calls' :=
  List.filter_append ..

theorem about_cons (key : String) (call : Call) (calls : List Call) :
    about key (call :: calls) =
      if call.key = key then call :: about key calls else about key calls := by
  simp [about, List.filter_cons]

namespace Call

/-- What is known of a key after a notification about it. -/
def result : Call → Option (Option String)
  | add _ version => some version
  | update _ _ new => some new
  | delete .. => none

/-- Whether a notification agrees with what was known of its key: objects are added when they were
unknown, and updated from their last known version. -/
def Fits (known : Option (Option String)) : Call → Prop
  | add .. => known = none
  | update _ old _ => known = some old
  | delete .. => True

end Call

/-- Notifications about one key that agree, one after the other, with what was known before, and
what is known after them. -/
def Leads (known : Option (Option String)) : List Call → Option (Option String) → Prop
  | [], known' => known = known'
  | call :: calls, known' => call.Fits known ∧ Leads call.result calls known'

theorem Leads.append {a b c : Option (Option String)} {calls calls' : List Call}
    (h : Leads a calls b) (h' : Leads b calls' c) : Leads a (calls ++ calls') c := by
  induction calls generalizing a with
  | nil =>
    obtain rfl : a = b := h
    exact h'
  | cons call calls ih => exact ⟨h.1, ih h.2⟩

/-! ### The translator -/

namespace Translator

variable {t : Translator}

@[simp] theorem key_applied (t : Translator) (key : String) (version : Option String) :
    (t.applied key version).key = key := by
  unfold applied
  split <;> rfl

@[simp] theorem result_applied (t : Translator) (key : String) (version : Option String) :
    (t.applied key version).result = some version := by
  unfold applied
  split <;> rfl

theorem fits_applied (t : Translator) (key : String) (version : Option String) :
    (t.applied key version).Fits t.known[key]? := by
  unfold applied
  split
  · next old hold => exact hold
  · next hnone => exact hnone

/-- The entries of a key in a map: one or none. -/
theorem filter_toList {β : Type} (versions : TreeMap String β) (key : String) :
    versions.toList.filter (fun p => p.1 = key) = (versions[key]?.map (key, ·)).toList := by
  have hmem : ∀ p : String × β, p ∈ versions.toList.filter (fun p => p.1 = key) ↔
      p.1 = key ∧ versions[key]? = some p.2 := by
    rintro ⟨k, v⟩
    rw [List.mem_filter, TreeMap.mem_toList_iff_getElem?_eq_some, decide_eq_true_eq, and_comm]
    refine and_congr_right fun hk => ?_
    subst hk
    rfl
  cases hv : versions[key]? with
  | none =>
    refine List.eq_nil_iff_forall_not_mem.mpr fun p hp => ?_
    have hsome := ((hmem p).mp hp).2
    rw [hv] at hsome
    cases hsome
  | some v =>
    -- the entry occurs, nothing else does, and no key occurs twice
    have hnodup : versions.toList.Nodup := by
      refine TreeMap.distinct_keys_toList.imp fun hne heq => hne ?_
      rw [heq, Std.compare_eq_iff_eq]
    refine List.perm_singleton.mp ((List.perm_ext_iff_of_nodup (hnodup.filter _)
      (List.nodup_singleton _)).mpr fun p => ?_)
    rw [hmem, hv, List.mem_singleton, Option.some.injEq, Prod.ext_iff, eq_comm (a := v)]

/-- A completed listing makes one notification about each key that is listed or was known. -/
theorem about_listed (t : Translator) (listing : Versions) (key : String) :
    about key (t.listed listing) =
      ((listing[key]?.map (t.applied key)).or (t.known[key]?.map (Call.delete key))).toList := by
  have hlisted : about key (listing.toList.map fun p => t.applied p.1 p.2) =
      (listing[key]?.map (t.applied key)).toList := by
    have hkeys : ((fun call : Call => decide (call.key = key)) ∘
        fun p : String × Option String => t.applied p.1 p.2) = fun p => decide (p.1 = key) := by
      funext p
      simp
    rw [about, List.filter_map, hkeys, filter_toList]
    cases listing[key]? <;> rfl
  -- what is listed is updated, also when it was known
  have hgone : about key
      ((t.known.toList.filter fun p => !listing.contains p.1).map fun p => .delete p.1 p.2) =
      if listing[key]?.isSome then [] else (t.known[key]?.map (Call.delete key)).toList := by
    have hkeys : ((fun call : Call => decide (call.key = key)) ∘
        fun p : String × Option String => .delete p.1 p.2) = fun p => decide (p.1 = key) := rfl
    rw [about, List.filter_map, hkeys, List.filter_comm, filter_toList]
    have hcontains := TreeMap.contains_eq_isSome_getElem? (t := listing) (a := key)
    cases t.known[key]? <;> cases hv : listing[key]? <;> simp [hcontains, hv]
  show about key ((listing.toList.map fun p => t.applied p.1 p.2) ++
    (t.known.toList.filter fun p => !listing.contains p.1).map fun p => .delete p.1 p.2) = _
  rw [about_append, hlisted, hgone]
  cases listing[key]? with
  | some version => rfl
  | none => rfl

/-- An event makes at most one notification about a key. It fits what was known of the key and says
what is known afterwards; without one the key is known as before. -/
theorem about_handle (t : Translator) (e : Event) (key : String) :
    (about key (t.handle e).2 = [] ∧ (t.handle e).1.known[key]? = t.known[key]?) ∨
    ∃ call, about key (t.handle e).2 = [call] ∧ call.Fits t.known[key]? ∧
      call.result = (t.handle e).1.known[key]? := by
  cases e with
  | init => exact .inl ⟨rfl, rfl⟩
  | initApply r => exact .inl ⟨rfl, rfl⟩
  -- the new list decides, and what was known but is not listed has gone
  | initDone =>
    simp only [handle, about_listed]
    cases hlisted : (t.listing.getD {})[key]? with
    | some version =>
      exact .inr ⟨_, rfl, t.fits_applied key version, t.result_applied key version⟩
    | none =>
      cases hknown : t.known[key]? with
      | some version => exact .inr ⟨_, rfl, trivial, rfl⟩
      | none => exact .inl ⟨rfl, rfl⟩
  | apply r =>
    simp only [handle, about_cons, key_applied]
    by_cases hkey : keyOf r = key
    · subst hkey
      exact .inr ⟨_, if_pos rfl, t.fits_applied _ _, by simp⟩
    · exact .inl ⟨if_neg hkey, by simp [TreeMap.getElem?_insert, hkey]⟩
  | delete r =>
    simp only [handle, about_cons, Call.key]
    by_cases hkey : keyOf r = key
    · subst hkey
      exact .inr ⟨_, if_pos rfl, trivial, by simp [Call.result]⟩
    · exact .inl ⟨if_neg hkey, by simp [TreeMap.getElem?_erase, hkey]⟩

/-- The translator knows the keys of a replica, with the versions of their objects. -/
structure Follows (t : Translator) (m : Replica) : Prop where
  known : ∀ key, t.known[key]? = (m.objects key).map (·.version?)
  listing : ∀ key, (t.listing.getD {})[key]? = (m.listing key).map (·.version?)

theorem follows_start : Follows {} {} where
  known := fun _ => by simp
  listing := fun _ => by simp

/-- The translator follows the replica through every event. -/
theorem Follows.handle (h : t.Follows m) (e : Event) : (t.handle e).1.Follows (m.apply e) := by
  cases e with
  | init => exact ⟨h.known, fun _ => by simp [Translator.handle, Replica.apply]⟩
  | initApply r =>
    refine ⟨h.known, fun key => ?_⟩
    have hlisting := h.listing key
    by_cases hkey : keyOf r = key
    · simp [Translator.handle, Replica.apply, hkey]
    · simp [Translator.handle, Replica.apply, TreeMap.getElem?_insert, hkey, Ne.symm hkey,
        hlisting]
  | initDone => exact ⟨h.listing, fun _ => by simp [Translator.handle, Replica.apply]⟩
  | apply r =>
    refine ⟨fun key => ?_, h.listing⟩
    have hknown := h.known key
    by_cases hkey : keyOf r = key
    · simp [Translator.handle, Replica.apply, hkey]
    · simp [Translator.handle, Replica.apply, TreeMap.getElem?_insert, hkey, Ne.symm hkey, hknown]
  | delete r =>
    refine ⟨fun key => ?_, h.listing⟩
    have hknown := h.known key
    by_cases hkey : keyOf r = key
    · simp [Translator.handle, Replica.apply, hkey]
    · simp [Translator.handle, Replica.apply, TreeMap.getElem?_erase, hkey, Ne.symm hkey, hknown]

end Translator

/-! ### The store -/

/-- Different keys stand for different references. -/
theorem Reference.ofKey_injective : Function.Injective Reference.ofKey := by
  intro key key' heq
  simp only [ofKey, Resource.splitKey] at heq
  cases hcut : Text.cut? ['/'] key.toList with
  | none =>
    cases hcut' : Text.cut? ['/'] key'.toList with
    | none => simpa [hcut, hcut'] using heq
    | some p => simp [hcut, hcut'] at heq
  | some p =>
    cases hcut' : Text.cut? ['/'] key'.toList with
    | none => simp [hcut, hcut'] at heq
    | some p' =>
      -- the two parts give the key back
      have hparts : p = p' := by
        simpa [hcut, hcut', Prod.ext_iff, String.ofList_inj] using heq
      have hkey := Text.eq_append_of_cut? hcut
      have hkey' := Text.eq_append_of_cut? hcut'
      rw [hparts, ← hkey'] at hkey
      exact String.toList_inj.mp hkey

namespace Objects

theorem lookup_remove (objects : Objects) (r r' : Reference) :
    (objects.remove r).lookup r' = if r = r' then none else objects.lookup r' := by
  induction objects with
  | nil => simp [remove]
  | cons p objects ih =>
    obtain ⟨found, object⟩ := p
    change (List.filter _ _).lookup r' = _ at ih
    rw [remove, List.filter_cons]
    by_cases hfound : found = r
    · subst hfound
      by_cases hr : found = r'
      · simpa [hr] using ih
      · simpa [hr, List.lookup_cons, beq_false_of_ne (Ne.symm hr)] using ih
    · by_cases hr : r = r'
      · subst hr
        simpa [hfound, List.lookup_cons, beq_false_of_ne (Ne.symm hfound)] using ih
      · rw [if_neg hr] at ih ⊢
        rw [if_pos (by simpa using hfound), List.lookup_cons, List.lookup_cons, ih]

theorem lookup_put (objects : Objects) (object : Resource) (r : Reference) :
    (objects.put object).lookup r =
      if Reference.ofResource object = r then some object else objects.lookup r := by
  rw [put, List.lookup_cons, lookup_remove]
  by_cases hr : Reference.ofResource object = r
  · simp [hr]
  · simp [hr, beq_false_of_ne (Ne.symm hr)]

end Objects

/-- An object whose key leads back to its reference: its namespace has no slash in it and is not
empty, or it has no namespace and its name has no slash in it. -/
def Named (r : Resource) : Prop :=
  Reference.ofKey (keyOf r) = Reference.ofResource r

instance (r : Resource) : Decidable (Named r) :=
  inferInstanceAs (Decidable (_ = _))

/-- An event about an object that is named so, or about none. -/
def Event.Named : Event → Prop
  | .initApply r | .apply r | .delete r => Watch.Named r
  | .init | .initDone => True

instance : DecidablePred Event.Named
  | .initApply r | .apply r | .delete r => inferInstanceAs (Decidable (Watch.Named r))
  | .init | .initDone => inferInstanceAs (Decidable True)

namespace Store

/-- The store has the objects of a replica under the references that their keys stand for. -/
structure Follows (s : Store) (m : Replica) : Prop where
  objects : ∀ key, s.objects.lookup (.ofKey key) = m.objects key
  listing : ∀ key, s.listing.lookup (.ofKey key) = m.listing key

variable {s : Store}

theorem follows_start : Follows {} {} where
  objects := fun _ => rfl
  listing := fun _ => rfl

theorem lookup_put_ofKey {objects : Objects} {content : String → Option Resource}
    (h : ∀ key, objects.lookup (.ofKey key) = content key) {r : Resource} (hr : Named r)
    (key : String) :
    (objects.put r).lookup (.ofKey key) = Function.update content (keyOf r) (some r) key := by
  rw [Objects.lookup_put, ← hr, Function.update_apply]
  by_cases hkey : keyOf r = key
  · rw [if_pos (congrArg _ hkey), if_pos hkey.symm]
  · rw [if_neg fun heq => hkey (Reference.ofKey_injective heq), if_neg (Ne.symm hkey), h]

theorem lookup_remove_ofKey {objects : Objects} {content : String → Option Resource}
    (h : ∀ key, objects.lookup (.ofKey key) = content key) {r : Resource} (hr : Named r)
    (key : String) :
    (objects.remove (.ofResource r)).lookup (.ofKey key) =
      Function.update content (keyOf r) none key := by
  rw [Objects.lookup_remove, ← hr, Function.update_apply]
  by_cases hkey : keyOf r = key
  · rw [if_pos (congrArg _ hkey), if_pos hkey.symm]
  · rw [if_neg fun heq => hkey (Reference.ofKey_injective heq), if_neg (Ne.symm hkey), h]

/-- The store follows the replica through every event about objects that their keys tell apart. -/
theorem Follows.apply (h : s.Follows m) {e : Event} (he : e.Named) :
    (s.apply e).Follows (m.apply e) := by
  cases e with
  | init => exact ⟨h.objects, fun _ => rfl⟩
  | initApply r => exact ⟨h.objects, lookup_put_ofKey h.listing he⟩
  | initDone => exact ⟨h.listing, fun _ => rfl⟩
  | apply r => exact ⟨lookup_put_ofKey h.objects he, h.listing⟩
  | delete r => exact ⟨lookup_remove_ofKey h.objects he, h.listing⟩

/-- What a controller finds in the store of a kind whose objects have namespaces. -/
theorem Follows.lookup (h : s.Follows m) (hscoped : ∀ name, s.objects.lookup ⟨none, name⟩ = none)
    (synced : Bool) (key : String) : (s.toCache synced).lookup key = .ok (m.objects key) :=
  congrArg Except.ok ((get?_eq_lookup hscoped _).trans (h.objects key))

end Store

end ClusterWatch.Watch
