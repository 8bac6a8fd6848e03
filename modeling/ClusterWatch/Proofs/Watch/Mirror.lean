import ClusterWatch.Fleet.Basic
import ClusterWatch.Proofs.Queue.Operations
import ClusterWatch.Proofs.Watch.Replica
import Mathlib.Data.List.Induction
/-!
# The translator mirrors a watch

A translator turns the events of a watch, which may come in any order, into notifications. The
notifications of one listing come in any order, and the flag that a listing is complete is set when
they were made.

- `Deed`, `Deed.perform`: a notification is made, or the flag is set.
- `Translation`: the deeds of a sequence of events. `translation_absorb` says that what a watch does
  to its controller is one.
- `replay`: what is known of the objects by the notifications alone.
- `WorkQueue.SameQueued`: two queues with the same items, whose keys wait in any order.
  `sameQueued_of_perm` says that the order of notifications about different keys is no matter.

Main result: `Translation.mirrors`.
-/

namespace ClusterWatch

/-! ### Notifications in another order -/

namespace WorkQueue

variable {q q' q'' : WorkQueue}

/-- Two queues with the same items and the same keys in process. As many keys wait, in any order. -/
structure SameQueued (q q' : WorkQueue) : Prop where
  waiting : q'.waiting.Perm q.waiting
  items : ∀ key : String, q'.items[key]? = q.items[key]?
  processing : q'.processing = q.processing
  closed : q'.closed = q.closed

theorem SameQueued.refl (q : WorkQueue) : q.SameQueued q :=
  ⟨.refl _, fun _ => rfl, rfl, rfl⟩

theorem SameQueued.trans (h : q.SameQueued q') (h' : q'.SameQueued q'') : q.SameQueued q'' :=
  ⟨h'.waiting.trans h.waiting, fun key => (h'.items key).trans (h.items key),
    h'.processing.trans h.processing, h'.closed.trans h.closed⟩

/-- Whether a key starts to wait is the same in both queues. -/
theorem SameQueued.known_iff (h : q.SameQueued q') (key : String) :
    key ∈ q'.items ∨ key ∈ q'.processing ↔ key ∈ q.items ∨ key ∈ q.processing := by
  rw [Std.TreeMap.mem_iff_isSome_getElem?, h.items, ← Std.TreeMap.mem_iff_isSome_getElem?,
    h.processing]

theorem SameQueued.insert (h : q.SameQueued q') (item : WorkItem) :
    (q.insert item).1.SameQueued (q'.insert item).1 := by
  refine ⟨?_, fun key => ?_, by simp [h.processing], by simp [h.closed]⟩
  · rw [waiting_insert, waiting_insert]
    by_cases hknown : item.key ∈ q.items ∨ item.key ∈ q.processing
    · rw [if_pos hknown, if_pos ((h.known_iff item.key).mpr hknown)]
      exact h.waiting
    · rw [if_neg hknown, if_neg (mt (h.known_iff item.key).mp hknown)]
      exact h.waiting.append_right _
  · simp [Std.TreeMap.getElem?_insert, h.items]

theorem SameQueued.add (h : q.SameQueued q') (item : WorkItem) :
    (q.add item).1.SameQueued (q'.add item).1 := by
  cases hclosed : q.closed with
  | true =>
    rw [add_of_closed hclosed, add_of_closed (h.closed.trans hclosed)]
    exact h
  | false =>
    rw [add_of_open hclosed, add_of_open (h.closed.trans hclosed)]
    exact h.insert item

/-- Two items of different keys are inserted in one order or in the other one. -/
theorem sameQueued_insert_swap (q : WorkQueue) {a b : WorkItem} (hne : a.key ≠ b.key) :
    ((q.insert a).1.insert b).1.SameQueued ((q.insert b).1.insert a).1 := by
  refine ⟨?_, fun key => ?_, by simp, by simp⟩
  · have ha : a.key ∈ (q.insert b).1.items ∨ a.key ∈ (q.insert b).1.processing ↔
        a.key ∈ q.items ∨ a.key ∈ q.processing := by simp [Ne.symm hne]
    have hb : b.key ∈ (q.insert a).1.items ∨ b.key ∈ (q.insert a).1.processing ↔
        b.key ∈ q.items ∨ b.key ∈ q.processing := by simp [hne]
    simp only [waiting_insert, ha, hb]
    by_cases haknown : a.key ∈ q.items ∨ a.key ∈ q.processing
    · simp only [if_pos haknown]
      exact .refl _
    · by_cases hbknown : b.key ∈ q.items ∨ b.key ∈ q.processing
      · simp only [if_pos hbknown]
        exact .refl _
      · simp only [if_neg haknown, if_neg hbknown, List.append_assoc]
        exact (List.Perm.swap ..).append_left _
  · simp only [items_insert, Std.TreeMap.getElem?_insert, Std.compare_eq_iff_eq]
    by_cases hkey : a.key = key
    · have hother : b.key ≠ key := fun heq => hne (hkey.trans heq.symm)
      simp only [if_pos hkey, if_neg hother]
    · simp only [if_neg hkey]

theorem sameQueued_add_swap (q : WorkQueue) {a b : WorkItem} (hne : a.key ≠ b.key) :
    ((q.add a).1.add b).1.SameQueued ((q.add b).1.add a).1 := by
  cases hclosed : q.closed with
  | true => simpa only [add_of_closed hclosed] using SameQueued.refl q
  | false =>
    have hopen : ∀ item, (q.insert item).1.closed = false := fun item => by simp [hclosed]
    rw [add_of_open hclosed, add_of_open hclosed, add_of_open (hopen a), add_of_open (hopen b)]
    exact sameQueued_insert_swap q hne

end WorkQueue

namespace Watch

open Std (TreeMap)

variable {c c' : Controller}

namespace Call

/-- The item that a notification makes. -/
def item? (kind : Resource.Kind) : Call → Option WorkItem
  | add key version => some ⟨key, kind, .create, version⟩
  | update key old new => if old.isSome ∧ old = new then none else some ⟨key, kind, .update, new⟩
  | delete key version => some ⟨key, kind, .delete, version⟩

theorem key_of_item? {call : Call} {kind : Resource.Kind} {item : WorkItem}
    (h : call.item? kind = some item) : item.key = call.key := by
  cases call with
  | add | delete =>
    obtain rfl := Option.some.inj h
    rfl
  | update key old new =>
    simp only [item?] at h
    split at h
    · cases h
    · obtain rfl := Option.some.inj h
      rfl

@[simp] theorem kind_notify (call : Call) (c : Controller) : (call.notify c).kind = c.kind := by
  cases call with
  | add | delete => rfl
  | update key old new =>
    simp only [notify, Controller.onUpdate]
    split <;> rfl

/-- A notification makes its item, if it makes one. -/
theorem queue_notify (call : Call) (c : Controller) :
    (call.notify c).queue = (call.item? c.kind).elim c.queue fun item => (c.queue.add item).1 := by
  cases call with
  | add | delete => rfl
  | update key old new =>
    simp only [notify, Controller.onUpdate, item?]
    split <;> rfl

/-- Two controllers of one kind get the same notification. -/
theorem sameQueued_notify (call : Call) (hkind : c'.kind = c.kind)
    (h : c.queue.SameQueued c'.queue) :
    (call.notify c).queue.SameQueued (call.notify c').queue := by
  rw [queue_notify, queue_notify, hkind]
  cases call.item? c.kind with
  | none => exact h
  | some item => exact h.add item

/-- Notifications about different keys come in one order or in the other one. -/
theorem sameQueued_swap (c : Controller) {call call' : Call} (hne : call.key ≠ call'.key) :
    (call'.notify (call.notify c)).queue.SameQueued (call.notify (call'.notify c)).queue := by
  simp only [queue_notify, kind_notify]
  cases hitem : call.item? c.kind with
  | none => exact .refl _
  | some item =>
    cases hitem' : call'.item? c.kind with
    | none => exact .refl _
    | some item' =>
      refine WorkQueue.sameQueued_add_swap c.queue ?_
      rw [key_of_item? hitem, key_of_item? hitem']
      exact hne

@[simp] theorem kind_foldl (calls : List Call) (c : Controller) :
    (calls.foldl notify c).kind = c.kind := by
  induction calls generalizing c with
  | nil => rfl
  | cons call calls ih => exact (ih (call.notify c)).trans (kind_notify call c)

/-- Two controllers of one kind get the same notifications. -/
theorem sameQueued_foldl {calls : List Call} (hkind : c'.kind = c.kind)
    (h : c.queue.SameQueued c'.queue) :
    (calls.foldl notify c).queue.SameQueued (calls.foldl notify c').queue := by
  induction calls generalizing c c' with
  | nil => exact h
  | cons call calls ih => exact ih (by simpa using hkind) (call.sameQueued_notify hkind h)

/-- Notifications about different keys come in any order. -/
theorem sameQueued_of_perm {calls calls' : List Call} (hperm : calls.Perm calls')
    (hkeys : (calls.map Call.key).Nodup) (c : Controller) :
    (calls.foldl notify c).queue.SameQueued (calls'.foldl notify c).queue := by
  induction hperm generalizing c with
  | nil => exact .refl _
  | cons call _ ih => exact ih (List.nodup_cons.mp hkeys).2 (call.notify c)
  | swap a b calls =>
    have hne : b.key ≠ a.key := by
      simp only [List.map_cons, List.nodup_cons, List.mem_cons, not_or] at hkeys
      exact hkeys.1.1
    exact sameQueued_foldl (by simp) (sameQueued_swap c hne)
  | trans hfirst _ ih ih' =>
    exact (ih hkeys c).trans (ih' ((hfirst.map Call.key).nodup_iff.mp hkeys) c)

end Call

/-! ### Deeds -/

/-- What the translator does: it makes a notification, or says that a listing is complete. -/
inductive Deed where
  | notify (call : Call)
  | sync
  deriving DecidableEq, Repr

namespace Deed

/-- The notification that is made. -/
def call? : Deed → Option Call
  | notify call => some call
  | sync => none

/-- What a deed does to a controller and to the flag that says that a listing was completed. -/
def perform : Controller × Bool → Deed → Controller × Bool
  | (c, synced), notify call => (call.notify c, synced)
  | (c, _), sync => (c, true)

end Deed

/-- What is said after the notifications of an event. -/
def Event.signal : Event → List Deed
  | .initDone => [.sync]
  | .init | .initApply _ | .apply _ | .delete _ => []

/-- The translator after a sequence of events, with all its deeds so far. The notifications of one
event come in any order. -/
inductive Translation : List Event → Translator → List Deed → Prop
  | start : Translation [] {} []
  | event {events : List Event} {t : Translator} {deeds : List Deed} (e : Event)
      (made : List Call) :
      Translation events t deeds → made.Perm (t.handle e).2 →
      Translation (events ++ [e]) (t.handle e).1 (deeds ++ (made.map .notify ++ e.signal))

/-- The translator after a sequence of events and its deeds, the notifications of each event in the
order of `Translator.handle`. -/
def translate (events : List Event) : Translator × List Deed :=
  events.foldl (fun (t, deeds) e =>
    ((t.handle e).1, deeds ++ ((t.handle e).2.map .notify ++ e.signal))) ({}, [])

/-- Every sequence of events is translated. -/
theorem translation_translate (events : List Event) :
    Translation events (translate events).1 (translate events).2 := by
  induction events using List.reverseRecOn with
  | nil => exact .start
  | append_singleton events e ih =>
    rw [translate, List.foldl_append]
    exact .event e _ ih (.refl _)

/-- The notifications among the deeds. -/
def callsOf (deeds : List Deed) : List Call :=
  deeds.filterMap Deed.call?

/-- What is known after a notification. -/
def Call.record (versions : Versions) : Call → Versions
  | .add key version => versions.insert key version
  | .update key _ new => versions.insert key new
  | .delete key _ => versions.erase key

/-- What is known by the notifications alone. -/
def replay (calls : List Call) : Versions :=
  calls.foldl Call.record {}

theorem getElem?_record (versions : Versions) (call : Call) (key : String) :
    (call.record versions)[key]? = if call.key = key then call.result else versions[key]? := by
  by_cases hkey : call.key = key
  · subst hkey
    cases call <;> simp [Call.record, Call.key, Call.result]
  · rw [if_neg hkey]
    cases call <;> simp only [Call.key] at hkey <;>
      simp [Call.record, TreeMap.getElem?_insert, TreeMap.getElem?_erase, hkey]

/-- Notifications that fit lead to what is known by them. -/
theorem Leads.replay {calls : List Call} {key : String} {versions : Versions}
    {known known' : Option (Option String)} (h : Leads known (about key calls) known')
    (hknown : versions[key]? = known) : (calls.foldl Call.record versions)[key]? = known' := by
  induction calls generalizing versions known with
  | nil => exact hknown.trans h
  | cons call calls ih =>
    rw [about_cons] at h
    by_cases hkey : call.key = key
    · rw [if_pos hkey] at h
      exact ih h.2 (by rw [getElem?_record, if_pos hkey])
    · rw [if_neg hkey] at h
      exact ih h (by rw [getElem?_record, if_neg hkey, hknown])

/-- Notifications that fit can be taken apart. -/
theorem Leads.split {known known' : Option (Option String)} {calls calls' : List Call}
    (h : Leads known (calls ++ calls') known') :
    ∃ between, Leads known calls between ∧ Leads between calls' known' := by
  induction calls generalizing known with
  | nil => exact ⟨known, rfl, h⟩
  | cons call calls ih =>
    obtain ⟨between, hfirst, hrest⟩ := ih h.2
    exact ⟨between, ⟨h.1, hfirst⟩, hrest⟩

theorem callsOf_event (deeds : List Deed) (made : List Call) (e : Event) :
    callsOf (deeds ++ (made.map .notify ++ e.signal)) = callsOf deeds ++ made := by
  have hsignal : e.signal.filterMap Deed.call? = [] := by
    cases e <;> rfl
  have hmade : (made.map Deed.notify).filterMap Deed.call? = made := by
    rw [List.filterMap_map]
    exact List.filterMap_some
  rw [callsOf, List.filterMap_append, List.filterMap_append, hmade, hsignal, List.append_nil]
  rfl

/-- At most one notification about a key is the same one in any order. -/
theorem about_of_perm {made calls : List Call} (hperm : made.Perm calls) {key : String}
    (hone : (about key calls).length ≤ 1) : about key made = about key calls := by
  have habout : (about key made).Perm (about key calls) := hperm.filter _
  cases hcalls : about key calls with
  | nil => exact List.perm_nil.mp (hcalls ▸ habout)
  | cons call rest =>
    rw [hcalls, List.length_cons] at hone
    obtain rfl := List.eq_nil_of_length_eq_zero (Nat.le_zero.mp (Nat.le_of_succ_le_succ hone))
    exact List.perm_singleton.mp (hcalls ▸ habout)

theorem length_about_handle (t : Translator) (e : Event) (key : String) :
    (about key (t.handle e).2).length ≤ 1 := by
  rcases t.about_handle e key with ⟨hnone, -⟩ | ⟨call, hone, -⟩
  · rw [hnone]
    exact Nat.zero_le _
  · rw [hone]
    exact Nat.le_refl _

namespace Translation

variable {events : List Event} {t : Translator} {deeds : List Deed}

/-- The translator follows the replica of the watch. -/
theorem follows (h : Translation events t deeds) : t.Follows (events.foldl Replica.apply {}) := by
  induction h with
  | start => exact Translator.follows_start
  | event e made _ _ ih =>
    rw [List.foldl_append]
    exact ih.handle e

/-- The notifications about each key fit, and lead to what the translator knows of it. -/
theorem leads (h : Translation events t deeds) (key : String) :
    Leads none (about key (callsOf deeds)) t.known[key]? := by
  induction h with
  | start => simp [Leads, callsOf, about]
  | @event events t deeds e made _ hperm ih =>
    rw [callsOf_event, about_append, about_of_perm hperm (length_about_handle t e key)]
    refine ih.append ?_
    rcases t.about_handle e key with ⟨hnone, hsame⟩ | ⟨call, hone, hfits, hresult⟩
    · rw [hnone]
      exact hsame.symm
    · rw [hone]
      exact ⟨hfits, hresult⟩

/-- What is known by the notifications alone is what the translator knows. -/
theorem replayed (h : Translation events t deeds) (key : String) :
    (replay (callsOf deeds))[key]? = t.known[key]? :=
  (h.leads key).replay (by simp)

/-- Each notification fits what is known by the ones before it. -/
theorem fits (h : Translation events t deeds) {before after : List Call} {call : Call}
    (hcalls : callsOf deeds = before ++ call :: after) :
    call.Fits (replay before)[call.key]? := by
  have hleads := h.leads call.key
  rw [hcalls, about_append, about_cons, if_pos rfl] at hleads
  obtain ⟨between, hbefore, hfits, -⟩ := hleads.split
  rw [replay, hbefore.replay (by simp)]
  exact hfits

/-! ### The flag -/

theorem synced_handle (t : Translator) (e : Event) :
    (t.handle e).1.synced = true ↔ t.synced = true ∨ e = .initDone := by
  cases e <;> simp [Translator.handle]

/-- The flag is set once a listing was completed, and stays so. -/
theorem synced_iff (h : Translation events t deeds) : t.synced = true ↔ .initDone ∈ events := by
  induction h with
  | start => simp
  | event e made _ _ ih =>
    rw [synced_handle, ih, List.mem_append, List.mem_singleton, eq_comm (a := e)]

/-- The deeds of an event make its notifications and set the flag after a listing. -/
theorem perform_event (t : Translator) (e : Event) (made : List Call) (c : Controller) :
    (made.map Deed.notify ++ e.signal).foldl Deed.perform (c, t.synced) =
      (made.foldl Call.notify c, (t.handle e).1.synced) := by
  have hmade : ∀ c, (made.map Deed.notify).foldl Deed.perform (c, t.synced) =
      (made.foldl Call.notify c, t.synced) := by
    intro c
    induction made generalizing c with
    | nil => rfl
    | cons call made ih => exact ih (call.notify c)
  rw [List.foldl_append, hmade]
  cases e <;> rfl

theorem perform (h : Translation events t deeds) (c : Controller) :
    deeds.foldl Deed.perform (c, false) = ((callsOf deeds).foldl Call.notify c, t.synced) := by
  induction h with
  | start => rfl
  | @event events t deeds e made _ _ ih =>
    rw [List.foldl_append, ih, perform_event, callsOf_event, List.foldl_append]

/-- A watch hands an event on by the deeds of its translator. -/
theorem absorb_eq_perform (m : Fleet.Member) (w : Fleet.Watcher) (e : Event) :
    ((Fleet.absorb m w e).1.controller, (Fleet.absorb m w e).1.cache.synced) =
      ((w.translator.handle e).2.map Deed.notify ++ e.signal).foldl Deed.perform
        (m.controller, w.translator.synced) := by
  rw [perform_event]
  rfl

/-- What a watch does with its events from the beginning is a translation of them. -/
theorem translation_absorb (events : List Event) {m : Fleet.Member} {w : Fleet.Watcher}
    (hnew : w.translator = {}) (hsynced : m.cache.synced = false) :
    let handed := events.foldl (fun (m, w) e => Fleet.absorb m w e) (m, w)
    ∃ deeds, Translation events handed.2.translator deeds ∧
      (handed.1.controller, handed.1.cache.synced) =
        deeds.foldl Deed.perform (m.controller, false) := by
  induction events using List.reverseRecOn with
  | nil => exact ⟨[], hnew ▸ .start, by rw [← hsynced]; rfl⟩
  | append_singleton events e ih =>
    obtain ⟨deeds, htranslation, hdone⟩ := ih
    rw [List.foldl_append]
    generalize events.foldl (fun (m, w) e => Fleet.absorb m w e) (m, w) = handed at *
    refine ⟨_, htranslation.event e _ (.refl _), ?_⟩
    rw [List.foldl_append, htranslation.perform]
    rw [htranslation.perform] at hdone
    rw [← (Prod.mk.inj hdone).1]
    exact absorb_eq_perform handed.1 handed.2 e

theorem last {e : Event} (h : Translation (events ++ [e]) t deeds) :
    ∃ (t' : Translator) (before : List Deed) (made : List Call), Translation events t' before ∧
      made.Perm (t'.handle e).2 ∧ t = (t'.handle e).1 ∧
      deeds = before ++ (made.map .notify ++ e.signal) := by
  generalize hall : events ++ [e] = all at h
  cases h with
  | start => simp at hall
  | @event events' t' before e' made hbefore hperm =>
    obtain ⟨rfl, hlast⟩ := List.append_inj' hall rfl
    obtain rfl := (List.cons.inj hlast).1
    exact ⟨t', before, made, hbefore, hperm, rfl, rfl⟩

/-- A translation of more events goes on from a translation of the first ones. -/
theorem split {first later : List Event} (h : Translation (first ++ later) t deeds) :
    ∃ u done more, Translation first u done ∧ deeds = done ++ more := by
  induction later using List.reverseRecOn generalizing t deeds with
  | nil => exact ⟨t, deeds, [], List.append_nil first ▸ h, (List.append_nil _).symm⟩
  | append_singleton later e ih =>
    rw [← List.append_assoc] at h
    obtain ⟨t', before, made, hbefore, -, -, rfl⟩ := h.last
    obtain ⟨u, done, more, hdone, rfl⟩ := ih hbefore
    exact ⟨u, done, _, hdone, List.append_assoc ..⟩

/-- Before a listing is complete, all deeds are notifications. -/
theorem eq_notify (h : Translation events t deeds) (hnever : .initDone ∉ events) :
    deeds = (callsOf deeds).map Deed.notify := by
  induction h with
  | start => rfl
  | @event events t deeds e made _ _ ih =>
    rw [List.mem_append, List.mem_singleton, not_or] at hnever
    have hsignal : e.signal = [] := by
      cases e with
      | initDone => exact absurd rfl hnever.2
      | init | initApply | apply | delete => rfl
    rw [callsOf_event, List.map_append, ← ih hnever.1, hsignal, List.append_nil]

/-- The flag is set when all notifications of the first listing were made. -/
theorem first_sync {first later : List Event}
    (h : Translation (first ++ .initDone :: later) t deeds) (hnever : .initDone ∉ first) :
    ∃ (u : Translator) (calls : List Call) (more : List Deed),
      Translation (first ++ [.initDone]) u (calls.map .notify ++ [.sync]) ∧
        deeds = calls.map .notify ++ .sync :: more := by
  rw [List.append_cons] at h
  obtain ⟨u, done, more, hdone, rfl⟩ := h.split
  obtain ⟨t', before, made, hbefore, hperm, rfl, rfl⟩ := hdone.last
  refine ⟨(t'.handle .initDone).1, callsOf before ++ made, more, ?_, ?_⟩
  · rw [List.map_append, ← hbefore.eq_notify hnever, List.append_assoc]
    exact hdone
  · rw [List.map_append, ← hbefore.eq_notify hnever]
    simp [Event.signal]

/-! ### One notification about each key -/

/-- A listing makes one notification about each key that was known or is listed. -/
theorem length_about_listed {m : Replica} (h : t.Follows m) {made : List Call}
    (hperm : made.Perm (t.handle .initDone).2) (key : String) :
    (about key made).length =
      if (m.objects key).isSome ∨ (m.listing key).isSome then 1 else 0 := by
  have hknown := h.known key
  have hlisting := h.listing key
  rw [about_of_perm hperm (length_about_handle t .initDone key)]
  simp only [Translator.handle, Translator.about_listed, hknown, hlisting]
  cases m.objects key <;> cases m.listing key <;> rfl

theorem nodup_keys {calls : List Call} (h : ∀ key, (about key calls).length ≤ 1) :
    (calls.map Call.key).Nodup := by
  rw [List.nodup_iff_count_le_one]
  intro key
  have hsame : ((fun k => k == key) ∘ Call.key) = fun call : Call => decide (call.key = key) := by
    funext call
    exact beq_eq_decide ..
  rw [List.count_eq_countP, List.countP_map, List.countP_eq_length_filter, hsame]
  exact h key

/-- The notifications of an event come in one order or in another one. -/
theorem sameQueued_event (t : Translator) {e : Event} {made made' : List Call}
    (hmade : made.Perm (t.handle e).2) (hmade' : made'.Perm (t.handle e).2) (c : Controller) :
    (made.foldl Call.notify c).queue.SameQueued (made'.foldl Call.notify c).queue := by
  refine Call.sameQueued_of_perm (hmade.trans hmade'.symm) (nodup_keys fun key => ?_) c
  rw [about_of_perm hmade (length_about_handle t e key)]
  exact length_about_handle t e key

/-- Two translations of the same events leave the same to do. -/
theorem sameQueued {t' : Translator} {deeds' : List Deed} (h : Translation events t deeds)
    (h' : Translation events t' deeds') (c : Controller) :
    t' = t ∧ ((callsOf deeds).foldl Call.notify c).queue.SameQueued
      ((callsOf deeds').foldl Call.notify c).queue := by
  induction h generalizing t' deeds' with
  | start =>
    generalize hevents : [] = events' at h'
    cases h' with
    | start => exact ⟨rfl, .refl _⟩
    | event => simp at hevents
  | @event events t deeds e made _ hperm ih =>
    obtain ⟨u, before, made', hbefore, hperm', rfl, rfl⟩ := h'.last
    obtain ⟨rfl, hsame⟩ := ih hbefore
    refine ⟨rfl, ?_⟩
    rw [callsOf_event, callsOf_event, List.foldl_append, List.foldl_append]
    exact (Call.sameQueued_foldl (by simp) hsame).trans (sameQueued_event u hperm hperm' _)

/-- **The translator is a mirror of the watch.** Whatever events a watch reports in whatever order,
after each of them the translator knows the keys of the watch's objects with their versions, and so
does who goes by the notifications alone, each of which fits the ones before it. The end of a
listing makes one notification about each key that was known or is listed. The order of those makes
no difference to what is queued, neither after the listing nor after all the events. The flag is set
at the end of the first listing, when all notifications up to there were made, and stays so. What
the watch of a controller does with the events is one of their translations. -/
theorem mirrors (h : Translation events t deeds) :
    (∀ key, t.known[key]? = ((events.foldl Replica.apply {}).objects key).map (·.version?)) ∧
    (∀ key : String, (replay (callsOf deeds))[key]? = t.known[key]?) ∧
    (∀ (before : List Call) (call : Call) (after : List Call),
      callsOf deeds = before ++ call :: after → call.Fits (replay before)[call.key]?) ∧
    (∀ made : List Call, made.Perm (t.handle .initDone).2 →
      (∀ key, (about key made).length =
        if ((events.foldl Replica.apply {}).objects key).isSome ∨
          ((events.foldl Replica.apply {}).listing key).isSome then 1 else 0) ∧
      ∀ made' : List Call, made'.Perm (t.handle .initDone).2 → ∀ c : Controller,
        (made.foldl Call.notify c).queue.SameQueued (made'.foldl Call.notify c).queue) ∧
    (∀ (t' : Translator) (deeds' : List Deed), Translation events t' deeds' → ∀ c : Controller,
      t' = t ∧ ((callsOf deeds).foldl Call.notify c).queue.SameQueued
        ((callsOf deeds').foldl Call.notify c).queue) ∧
    (t.synced = true ↔ .initDone ∈ events) ∧
    (∀ c, deeds.foldl Deed.perform (c, false) =
      ((callsOf deeds).foldl Call.notify c, t.synced)) ∧
    (∀ first later : List Event, events = first ++ .initDone :: later → .initDone ∉ first →
      ∃ (u : Translator) (calls : List Call) (more : List Deed),
        Translation (first ++ [.initDone]) u (calls.map .notify ++ [.sync]) ∧
          deeds = calls.map .notify ++ .sync :: more) ∧
    ∀ (m : Fleet.Member) (w : Fleet.Watcher), w.translator = {} → m.cache.synced = false →
      let handed := events.foldl (fun (m, w) e => Fleet.absorb m w e) (m, w)
      ∃ done, Translation events handed.2.translator done ∧
        (handed.1.controller, handed.1.cache.synced) =
          done.foldl Deed.perform (m.controller, false) := by
  refine ⟨h.follows.known, h.replayed, fun before call after => h.fits, fun made hmade => ⟨?_, ?_⟩,
    fun t' deeds' => h.sameQueued, h.synced_iff, h.perform, ?_,
    fun m w hnew hsynced => translation_absorb events hnew hsynced⟩
  · exact length_about_listed h.follows hmade
  · intro made' hmade' c
    exact sameQueued_event t hmade hmade' c
  · rintro first later rfl hnever
    exact h.first_sync hnever

/-- Two listings, the first of which never began: it lists one object twice. The notifications of
the second one, in which another object took the place of those before it, come in reverse order. -/
theorem mirrors_relist :
    let secret (name version : String) : Resource :=
      .live { name := some name, namespaceName := some "ns", version := some version } .secret
    let first : List Event :=
      [.initApply (secret "x" "1"), .initApply (secret "x" "2"), .apply (secret "y" "1")]
    let later : List Event :=
      [.init, .init, .initApply (secret "z" "1"), .delete (secret "y" "1"), .apply (secret "w" "1")]
    ∃ t deeds, Translation (first ++ .initDone :: (later ++ [.initDone])) t deeds ∧
      callsOf deeds =
        [.add "ns/y" (some "1"), .add "ns/x" (some "2"), .delete "ns/y" (some "1"),
          .delete "ns/y" (some "1"), .add "ns/w" (some "1"),
          .delete "ns/x" (some "2"), .delete "ns/w" (some "1"), .add "ns/z" (some "1")] ∧
      t.synced = true ∧ t.known["ns/x"]? = none ∧
      (replay (callsOf deeds))["ns/z"]? = some (some "1") ∧
      ∃ (u : Translator) (calls : List Call) (more : List Deed),
        Translation (first ++ [.initDone]) u (calls.map .notify ++ [.sync]) ∧
          deeds = calls.map .notify ++ .sync :: more := by
  intro secret first later
  let before := translate (first ++ .initDone :: later)
  let made : List Call :=
    [.delete "ns/x" (some "2"), .delete "ns/w" (some "1"), .add "ns/z" (some "1")]
  have htranslated : Translation (first ++ .initDone :: (later ++ [.initDone]))
      (before.1.handle .initDone).1 (before.2 ++ (made.map .notify ++ [.sync])) :=
    (translation_translate (first ++ .initDone :: later)).event .initDone made (by decide)
  obtain ⟨hknown, hreplayed, -, -, -, hsynced, -, hfirst, -⟩ := mirrors htranslated
  refine ⟨_, _, htranslated, by decide, hsynced.mpr (by simp), ?_, ?_,
    hfirst first _ rfl (by simp [first])⟩
  · rw [hknown]
    rfl
  · rw [hreplayed, hknown]
    rfl

end Translation

end Watch

end ClusterWatch
