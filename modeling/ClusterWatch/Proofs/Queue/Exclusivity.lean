import ClusterWatch.Proofs.Queue.Session
import Mathlib.Data.List.Nodup
/-!
# Keys are worked on by one worker at a time

The fields of a work queue overlap: a key may wait, have a pending item and be in process. Two
invariants say how they fit together, in every session in which keys are released by their holders
only:

- `Consistent`: a waiting key waits once, has an item and is not in process, and as long as the
  queue is open every pending item belongs to a key that waits or is in process.
- `Session.Tidy`: the keys in process are those that workers hold, each held once.

Main result: `Session.Reachable.held_once_and_tracked`.
-/

namespace ClusterWatch.WorkQueue

variable {q q' : WorkQueue} {item : WorkItem} {key : String}

/-! ### The fields of a queue fit together -/

/-- How the waiting keys, the pending items and the keys in process fit together. -/
structure Consistent (q : WorkQueue) : Prop where
  waiting_nodup : q.waiting.Nodup
  not_processing : ∀ key ∈ q.waiting, key ∉ q.processing
  has_item : ∀ key ∈ q.waiting, key ∈ q.items
  tracked : q.closed = false → ∀ key ∈ q.items, key ∈ q.waiting ∨ key ∈ q.processing
  labelled : ∀ (key : String) (item : WorkItem), q.items[key]? = some item → item.key = key

theorem consistent_empty : Consistent {} where
  waiting_nodup := List.nodup_nil
  not_processing := fun _ h => nomatch h
  has_item := fun _ h => nomatch h
  tracked := fun _ _ h => absurd h (by simp)
  labelled := fun _ _ h => by simp at h

/-- Operations that only keep books keep the fields consistent. -/
theorem Consistent.of_sameWork (h : q.Consistent) (hsame : q.SameWork q') : q'.Consistent := by
  refine { waiting_nodup := ?_, not_processing := ?_, has_item := ?_, tracked := ?_,
           labelled := ?_ }
  · rw [hsame.waiting]
    exact h.waiting_nodup
  · rw [hsame.waiting, hsame.processing]
    exact h.not_processing
  · rw [hsame.waiting, hsame.items]
    exact h.has_item
  · rw [hsame.waiting, hsame.items, hsame.processing, hsame.closed]
    exact h.tracked
  · rw [hsame.items]
    exact h.labelled

/-- An insertion keeps the fields consistent, whatever state its key is in. -/
theorem Consistent.insert (h : q.Consistent) (item : WorkItem) :
    (q.insert item).1.Consistent := by
  have hwaiting := waiting_insert q item
  refine { waiting_nodup := ?_, not_processing := ?_, has_item := ?_, tracked := ?_,
           labelled := ?_ }
  · rw [hwaiting]
    split
    · exact h.waiting_nodup
    · next hknown =>
      -- a key that starts to wait has no item, so it did not wait before
      have hnew : item.key ∉ q.waiting := fun hw => hknown (.inl (h.has_item _ hw))
      exact List.nodup_append.mpr ⟨h.waiting_nodup, List.nodup_singleton _, by
        intro a ha b hb hab
        rw [List.mem_singleton] at hb
        exact hnew (hb ▸ hab ▸ ha)⟩
  · intro key hkey
    rw [processing_insert]
    rw [hwaiting] at hkey
    split at hkey
    · exact h.not_processing key hkey
    · next hknown =>
      rcases List.mem_append.mp hkey with hold | hnew
      · exact h.not_processing key hold
      · rw [List.mem_singleton] at hnew
        exact hnew ▸ fun hp => hknown (.inr hp)
  · intro key hkey
    rw [items_insert, Std.TreeMap.mem_insert, Std.compare_eq_iff_eq]
    rw [hwaiting] at hkey
    split at hkey
    · exact .inr (h.has_item key hkey)
    · rcases List.mem_append.mp hkey with hold | hnew
      · exact .inr (h.has_item key hold)
      · exact .inl (List.mem_singleton.mp hnew).symm
  · intro hopen key hkey
    rw [closed_insert] at hopen
    rw [items_insert, Std.TreeMap.mem_insert, Std.compare_eq_iff_eq] at hkey
    rw [hwaiting, processing_insert]
    by_cases hknown : item.key ∈ q.items ∨ item.key ∈ q.processing
    · rw [if_pos hknown]
      rcases hkey with rfl | hold
      · exact hknown.elim (h.tracked hopen _) .inr
      · exact h.tracked hopen key hold
    · rw [if_neg hknown]
      rcases hkey with rfl | hold
      · exact .inl (List.mem_append_right _ (List.mem_singleton.mpr rfl))
      · exact (h.tracked hopen key hold).imp_left (List.mem_append_left _)
  · intro key other hkey
    rw [items_insert, Std.TreeMap.getElem?_insert] at hkey
    split at hkey
    · next heq =>
      obtain rfl := Option.some.inj hkey
      exact Std.compare_eq_iff_eq.mp heq
    · exact h.labelled key other hkey

/-- A waiting key that is handed out first is the one in front: none in front of it is skipped. -/
theorem Consistent.skipped_eq_nil (h : q.Consistent) {skipped rest : List String}
    (hwaiting : q.waiting = skipped ++ rest) (hskipped : ∀ k ∈ skipped, k ∉ q.items) :
    skipped = [] := by
  refine List.eq_nil_iff_forall_not_mem.mpr fun k hk => hskipped k hk (h.has_item k ?_)
  rw [hwaiting]
  exact List.mem_append_left _ hk

/-- The key of an item that is handed out was waiting. -/
theorem Consistent.mem_of_take (h : q.Consistent) {item : WorkItem}
    (htake : q.take = (q', .item item)) : item.key ∈ q.waiting := by
  rcases q.take_cases with ⟨-, hclosed⟩ | ⟨-, -, hempty⟩ |
    ⟨-, skipped, key, rest, item', hwaiting, -, hitem, hfound⟩
  · cases htake.symm.trans hclosed
  · cases htake.symm.trans hempty
  · obtain rfl := Taken.item.inj (Prod.mk.inj (htake.symm.trans hfound)).2
    rw [h.labelled key item hitem, hwaiting]
    exact List.mem_append_right _ List.mem_cons_self

/-- What is handed out is the pending item of the front key. -/
theorem Consistent.eq_of_take (h : q.Consistent) {item : WorkItem}
    (htake : q.take = (q', .item item)) :
    q.items[item.key]? = some item ∧ ∃ rest, q.waiting = item.key :: rest ∧
      q' = { q with
        waiting := rest
        items := q.items.erase item.key
        processing := q.processing.insert item.key } := by
  rcases q.take_cases with ⟨-, hclosed⟩ | ⟨-, -, hempty⟩ |
    ⟨-, skipped, key, rest, item', hwaiting, hskipped, hitem, hfound⟩
  · cases htake.symm.trans hclosed
  · cases htake.symm.trans hempty
  · obtain ⟨rfl, heq⟩ := Prod.mk.inj (htake.symm.trans hfound)
    obtain rfl := Taken.item.inj heq
    obtain rfl := h.labelled key item hitem
    obtain rfl := h.skipped_eq_nil hwaiting hskipped
    exact ⟨hitem, rest, hwaiting, rfl⟩

/-- Handing out the front key keeps the fields consistent. -/
theorem Consistent.take (h : q.Consistent) {rest : List String}
    (hwaiting : q.waiting = key :: rest) :
    Consistent
      { q with
        waiting := rest
        items := q.items.erase key
        processing := q.processing.insert key } := by
  obtain ⟨hkey, hrest⟩ := List.nodup_cons.mp (hwaiting ▸ h.waiting_nodup)
  have hmem : ∀ k ∈ rest, k ∈ q.waiting := fun k hk => hwaiting ▸ List.mem_cons_of_mem _ hk
  have hne : ∀ k ∈ rest, key ≠ k := fun k hk he => hkey (he ▸ hk)
  refine { waiting_nodup := hrest, not_processing := ?_, has_item := ?_, tracked := ?_,
           labelled := ?_ }
  · intro k hk
    have hidle := h.not_processing k (hmem k hk)
    simp [hne k hk, hidle]
  · intro k hk
    have hitem := h.has_item k (hmem k hk)
    simp [hne k hk, hitem]
  · intro hopen k hk
    obtain ⟨hk, hitem⟩ : key ≠ k ∧ k ∈ q.items := by simpa using hk
    rcases h.tracked hopen k hitem with hw | hp
    · rw [hwaiting] at hw
      exact .inl ((List.mem_cons.mp hw).resolve_left (Ne.symm hk))
    · exact .inr (by simp [hp])
  · intro k item hk
    rw [Std.TreeMap.getElem?_erase] at hk
    split at hk
    · cases hk
    · exact h.labelled k item hk

/-- Releasing a key in process keeps the fields consistent. A key that is not in process may wait
already and would wait twice. -/
theorem Consistent.done (h : q.Consistent) (hkey : key ∈ q.processing) :
    (q.done key).1.Consistent := by
  have hidle : key ∉ q.waiting := fun hw => h.not_processing key hw hkey
  rw [done_fst]
  refine { waiting_nodup := ?_, not_processing := ?_, has_item := ?_, tracked := ?_,
           labelled := h.labelled }
  · show (if _ then _ else _ : List String).Nodup
    split
    · exact List.nodup_append.mpr ⟨h.waiting_nodup, List.nodup_singleton _, by
        intro a ha b hb hab
        rw [List.mem_singleton] at hb
        exact hidle (hb ▸ hab ▸ ha)⟩
    · exact h.waiting_nodup
  · intro k hk
    -- the key waits again if it has an item, and no other key starts to wait
    have hk' : k ∈ q.waiting ∨ k = key := by
      change k ∈ (if _ then _ else _ : List String) at hk
      split at hk
      · simpa using hk
      · exact .inl hk
    show k ∉ q.processing.erase key
    rcases hk' with hw | rfl
    · have hnot := h.not_processing k hw
      simp [hnot]
    · simp
  · intro k hk
    change k ∈ (if _ then _ else _ : List String) at hk
    split at hk
    · next hitem =>
      rcases List.mem_append.mp hk with hw | hnew
      · exact h.has_item k hw
      · exact List.mem_singleton.mp hnew ▸ hitem.1
    · exact h.has_item k hk
  · intro hopen k hk
    show k ∈ (if _ then _ else _ : List String) ∨ k ∈ q.processing.erase key
    by_cases hkk : key = k
    · -- the released key itself: with an item it waits now
      subst hkk
      rw [if_pos ⟨hk, hopen⟩]
      exact .inl (by simp)
    · rcases h.tracked hopen k hk with hw | hp
      · refine .inl ?_
        split
        · exact List.mem_append_left _ hw
        · exact hw
      · exact .inr (by simp [hkk, hp])

theorem Consistent.shutDown (h : q.Consistent) : q.shutDown.Consistent :=
  { h with tracked := fun hopen => (nomatch hopen) }

theorem Consistent.add (h : q.Consistent) (item : WorkItem) : (q.add item).1.Consistent := by
  cases hclosed : q.closed with
  | true =>
    rw [add_of_closed hclosed]
    exact h
  | false =>
    rw [add_of_open hclosed]
    exact h.insert item

theorem Consistent.mature (h : q.Consistent) (r : Retry) : (q.mature r).1.Consistent := by
  by_cases hr : q.Admits r
  · rw [mature_of_admits hr]
    exact (h.of_sameWork (sameWork_endRetry q r.item.key)).insert r.item
  · exact h.of_sameWork (sameWork_mature hr)

/-! ### The keys that workers hold -/

theorem processing_add (q : WorkQueue) (item : WorkItem) :
    (q.add item).1.processing = q.processing := by
  cases hclosed : q.closed with
  | true => rw [add_of_closed hclosed]
  | false => rw [add_of_open hclosed, processing_insert]

theorem processing_mature (q : WorkQueue) (r : Retry) :
    (q.mature r).1.processing = q.processing := by
  by_cases hr : q.Admits r
  · rw [mature_of_admits hr, processing_insert, (sameWork_endRetry q r.item.key).processing]
  · exact (sameWork_mature hr).processing

namespace Session

variable {s : Session}

/-- The keys that workers hold, once for each hold. -/
def heldKeys (s : Session) : List String :=
  s.holds.map (·.item.key)

theorem map_key_settle (holds : List Hold) (worker : Nat) (key : String) :
    (settle holds worker key).map (·.item.key) = holds.map (·.item.key) := by
  rw [settle, List.map_map]
  refine List.map_congr_left fun h _ => ?_
  by_cases hh : h.worker = worker ∧ h.item.key = key
  · simp [hh]
  · simp [hh]

/-- After a release the other keys are still held and the released one is not: only one hold of it
existed. -/
theorem mem_map_key_release {holds : List Hold} {worker : Nat} {key k : String}
    (hnodup : (holds.map (·.item.key)).Nodup)
    (hheld : ∃ h ∈ holds, h.worker = worker ∧ h.item.key = key) :
    k ∈ (release holds worker key).map (·.item.key) ↔ k ≠ key ∧ k ∈ holds.map (·.item.key) := by
  obtain ⟨held, hmem, hworker, hkey⟩ := hheld
  constructor
  · intro hk
    obtain ⟨h, hh, rfl⟩ := List.mem_map.mp hk
    obtain ⟨hh, hother⟩ := List.mem_filter.mp hh
    refine ⟨fun heq => ?_, List.mem_map_of_mem hh⟩
    -- two holds of one key would be the same hold
    have hsame : h = held := List.inj_on_of_nodup_map hnodup hh hmem (heq.trans hkey.symm)
    simp [hsame, hworker, hkey] at hother
  · rintro ⟨hne, hk⟩
    obtain ⟨h, hh, rfl⟩ := List.mem_map.mp hk
    exact List.mem_map_of_mem (List.mem_filter.mpr ⟨hh, by simp [hne]⟩)

/-- The queue's books agree with who holds what. -/
structure Tidy (s : Session) : Prop where
  consistent : s.queue.Consistent
  held_iff : ∀ key, key ∈ s.queue.processing ↔ key ∈ s.heldKeys
  held_once : s.heldKeys.Nodup

theorem tidy_start (backoff : Backoff) : Tidy { backoff } where
  consistent := consistent_empty
  held_iff := fun _ => by simp [heldKeys]
  held_once := List.nodup_nil

/-- A key that waits is held by nobody. -/
theorem Tidy.not_held (h : s.Tidy) {key : String} (hkey : key ∈ s.queue.waiting) :
    key ∉ s.heldKeys :=
  fun hheld => h.consistent.not_processing key hkey ((h.held_iff key).mpr hheld)

/-- Taking an item from an open queue whose fields are consistent: either nothing waits and nothing
changes, or the item of the key in front is handed out. -/
theorem Tidy.applyTake_cases (h : s.Tidy) (worker : Nat) :
    s.applyTake worker = s ∨
    ∃ key rest item, s.queue.closed = false ∧ s.queue.waiting = key :: rest ∧
      s.queue.items[key]? = some item ∧ item.key = key ∧
      s.applyTake worker =
        { s with
          queue :=
            { s.queue with
              waiting := rest
              items := s.queue.items.erase key
              processing := s.queue.processing.insert key }
          holds := ⟨worker, item, s.pendingNumber key, false⟩ :: s.holds
          history := .handed worker item (s.pendingNumber key) :: s.history } := by
  rcases s.applyTake_cases worker with ⟨-, htake⟩ | ⟨-, hnone, htake⟩ |
    ⟨hopen, skipped, key, rest, item, hwaiting, hskipped, hitem, htake⟩
  · exact .inl htake
  · -- a waiting key has an item, so here no key waits
    have hempty : s.queue.waiting = [] :=
      List.eq_nil_iff_forall_not_mem.mpr fun k hk => hnone k hk (h.consistent.has_item k hk)
    refine .inl ?_
    rw [htake, ← hempty]
  · obtain rfl := h.consistent.skipped_eq_nil hwaiting hskipped
    obtain rfl := h.consistent.labelled key item hitem
    exact .inr ⟨item.key, rest, item, hopen, hwaiting, hitem, rfl, htake⟩

/-- Every operation under the promise keeps the books in order. -/
theorem tidy_step {op : Operation} (h : s.Tidy) (hop : s.Exclusive op) : (s.apply op).Tidy := by
  cases op with
  | add item =>
    refine ⟨h.consistent.add item, fun key => ?_, h.held_once⟩
    show key ∈ (s.queue.add item).1.processing ↔ key ∈ s.heldKeys
    rw [processing_add]
    exact h.held_iff key
  | take worker =>
    show (s.applyTake worker).Tidy
    rcases h.applyTake_cases worker with htake | ⟨key, rest, item, -, hwaiting, -, rfl, htake⟩
    · rw [htake]
      exact h
    · rw [htake]
      have hidle := h.not_held (hwaiting ▸ List.mem_cons_self)
      refine ⟨h.consistent.take hwaiting, fun k => ?_, List.nodup_cons.mpr ⟨hidle, h.held_once⟩⟩
      have hk := h.held_iff k
      show k ∈ s.queue.processing.insert item.key ↔ k ∈ item.key :: s.heldKeys
      rw [Std.TreeSet.mem_insert, Std.compare_eq_iff_eq, List.mem_cons, hk, eq_comm]
  -- a hold that is settled is still a hold
  | retry worker item number =>
    have hkeys := map_key_settle s.holds worker item.key
    refine ⟨h.consistent.of_sameWork (sameWork_addRateLimited _ s.backoff item), fun key => ?_, ?_⟩
    · show key ∈ s.queue.processing ↔ key ∈ (settle s.holds worker item.key).map (·.item.key)
      rw [hkeys]
      exact h.held_iff key
    · show ((settle s.holds worker item.key).map (·.item.key)).Nodup
      rw [hkeys]
      exact h.held_once
  | mature position =>
    simp only [apply]
    split
    · next t _ =>
      refine ⟨h.consistent.mature t.retry, fun key => ?_, h.held_once⟩
      show key ∈ (s.queue.mature t.retry).1.processing ↔ key ∈ s.heldKeys
      rw [processing_mature]
      exact h.held_iff key
    · exact h
  | forget worker key =>
    have hkeys := map_key_settle s.holds worker key
    have hsame := sameWork_forget s.queue key
    refine ⟨h.consistent.of_sameWork hsame, fun k => ?_, ?_⟩
    · show k ∈ (s.queue.forget key).processing ↔ k ∈ (settle s.holds worker key).map (·.item.key)
      rw [hkeys, hsame.processing]
      exact h.held_iff k
    · show ((settle s.holds worker key).map (·.item.key)).Nodup
      rw [hkeys]
      exact h.held_once
  -- the holder releases the key, and as the key is held once, nobody holds it any more
  | done worker key =>
    have hheld : key ∈ s.heldKeys := by
      obtain ⟨hold, hmem, -, rfl⟩ := hop
      exact List.mem_map_of_mem hmem
    refine ⟨h.consistent.done ((h.held_iff key).mpr hheld), fun k => ?_, ?_⟩
    · show k ∈ (s.queue.done key).1.processing ↔
        k ∈ (release s.holds worker key).map (·.item.key)
      have hk := h.held_iff k
      rw [mem_map_key_release h.held_once hop, done_fst]
      show k ∈ s.queue.processing.erase key ↔ k ≠ key ∧ k ∈ s.heldKeys
      rw [Std.TreeSet.mem_erase, Ne, Std.compare_eq_iff_eq, hk, eq_comm]
    · exact h.held_once.sublist (List.filter_sublist.map _)
  | shutDown => exact ⟨h.consistent.shutDown, h.held_iff, h.held_once⟩

/-- The books are in order in every state of every run. -/
theorem Reachable.tidy {backoff : Backoff} (h : Reachable Exclusive backoff s) : s.Tidy := by
  induction h with
  | start => exact tidy_start backoff
  | step _ hop ih => exact tidy_step ih hop

/-- **A key is out once at a time, and the fields of the queue fit together.** In every run in which
keys are released by their holders only: no key is held twice; what is handed out next is held by
nobody; no key waits twice; no waiting key is in process; every waiting key has an item; and until
the queue is shut down every key with an item waits or is in process. -/
theorem Reachable.held_once_and_tracked {backoff : Backoff}
    (h : Reachable Exclusive backoff s) :
    s.heldKeys.Nodup ∧
    (∀ queue item, s.queue.take = (queue, .item item) → item.key ∉ s.heldKeys) ∧
    s.queue.waiting.Nodup ∧
    (∀ key ∈ s.queue.waiting, key ∉ s.queue.processing) ∧
    (∀ key ∈ s.queue.waiting, ∃ item, s.queue.items[key]? = some item ∧ item.key = key) ∧
    (s.queue.closed = false →
      ∀ key ∈ s.queue.items, key ∈ s.queue.waiting ∨ key ∈ s.queue.processing) := by
  have ht := h.tidy
  have hc := ht.consistent
  refine ⟨ht.held_once, fun queue item htake => ?_, hc.waiting_nodup, hc.not_processing,
    fun key hkey => ?_, hc.tracked⟩
  · rcases take_cases s.queue with ⟨-, hnone⟩ | ⟨-, -, hnone⟩ |
      ⟨-, skipped, key, rest, found, hwaiting, -, hitem, hfound⟩
    · simp [hnone] at htake
    · simp [hnone] at htake
    · obtain rfl : found = item := by simpa using (Prod.ext_iff.mp (hfound.symm.trans htake)).2
      obtain rfl := hc.labelled key found hitem
      exact ht.not_held (by simp [hwaiting])
  · obtain ⟨item, hitem⟩ : ∃ item, s.queue.items[key]? = some item :=
      Option.isSome_iff_exists.mp (Std.TreeMap.mem_iff_isSome_getElem?.mp (hc.has_item key hkey))
    exact ⟨item, hitem, hc.labelled key item hitem⟩

/-- One worker holds a key for which another item came in, while a second key waits: the first is
parked and only the second can be handed out. -/
theorem held_once_and_tracked_parked :
    let s := ((((({} : Session).apply (.add ⟨"ns/a", .pods, .create, some "1"⟩)).apply
      (.take 0)).apply (.add ⟨"ns/a", .pods, .update, some "2"⟩)).apply
      (.add ⟨"ns/b", .pods, .create, some "3"⟩))
    Reachable Exclusive {} s ∧ s.heldKeys = ["ns/a"] ∧ s.queue.waiting = ["ns/b"] ∧
      (s.queue.take.2 = .item ⟨"ns/b", .pods, .create, some "3"⟩ → "ns/b" ∉ s.heldKeys) ∧
      "ns/a" ∈ s.queue.items ∧ ("ns/a" ∈ s.queue.waiting ∨ "ns/a" ∈ s.queue.processing) := by
  intro s
  have hrun : Reachable Exclusive {} s :=
    .step (.step (.step (.step .start trivial) trivial) trivial) trivial
  have hsound := hrun.held_once_and_tracked
  have hitem : "ns/a" ∈ s.queue.items := by decide
  exact ⟨hrun, by decide, by decide, fun htake => hsound.2.1 _ _ (Prod.ext rfl htake), hitem,
    hsound.2.2.2.2.2 (by decide) _ hitem⟩

end Session

end ClusterWatch.WorkQueue
