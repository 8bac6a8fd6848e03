import ClusterWatch.Proofs.Queue.Exclusivity
import Mathlib.Data.Finset.Card
/-!
# A plain queue that coalesces by key

A work queue splits one pending item over a list of keys, a map of items and a set of keys in
process. Seen from outside it is a plain queue: per key it holds at most the item that was inserted
last, and keys leave it in the order in which they started to wait. What such a queue holds is a
function of its history (`History.pending?`, `History.isOut`, `History.started`,
`History.handedKeys`), and in every session in which keys are released by their holders only, the
fields are what that function says.

- `Session.Recorded`: the refinement relation between the fields and the history.
- `History.Served`: every hand-out so far was that of the pending item.

Main result: `Session.Reachable.coalesces`.
-/

namespace ClusterWatch.WorkQueue

open History

/-! ### What was handed out -/

namespace History

/-- Every item that was handed out was the one pending for its key. -/
def Served : History → Prop
  | [] => True
  | .handed _ item number :: h => pending? item.key h = some (item, number) ∧ Served h
  | .inserted .. :: h | .retried .. :: h | .released .. :: h => Served h

theorem Served.append {newer older : History} (h : Served (newer ++ older)) : Served older := by
  induction newer with
  | nil => exact h
  | cons e newer ih =>
    cases e with
    | handed => exact ih h.2
    | _ => exact ih h

/-- Entries that neither insert nor hand out a key do not change what is pending for it. -/
theorem pending?_cons_of_other {key : String} {e : Entry} (hinserts : ¬ e.Inserts key)
    (hhands : ¬ e.HandsOut key) (h : History) : pending? key (e :: h) = pending? key h := by
  cases e with
  | inserted => exact if_neg hinserts
  | handed => exact if_neg hhands
  | retried => rfl
  | released => rfl

/-- An item is pending for a key when its insertion is the most recent one for the key and the key
was not handed out since. -/
theorem pending?_eq_some_iff {key : String} {h : History} {item : WorkItem} {number : Nat} :
    pending? key h = some (item, number) ↔
      item.key = key ∧ ∃ between returned before,
        h = between ++ .inserted item number returned :: before ∧
          ∀ e ∈ between, ¬ e.Inserts key ∧ ¬ e.HandsOut key := by
  constructor
  -- induction on the history, the last entry first
  · intro hp
    induction h with
    | nil => cases hp
    | cons e h ih =>
      by_cases hother : ¬ e.Inserts key ∧ ¬ e.HandsOut key
      · rw [pending?_cons_of_other hother.1 hother.2] at hp
        obtain ⟨hkey, between, returned, before, rfl, hbetween⟩ := ih hp
        exact ⟨hkey, e :: between, returned, before, rfl,
          List.forall_mem_cons.mpr ⟨hother, hbetween⟩⟩
      · -- the entry itself decides
        cases e with
        | inserted found n returned =>
          have hkey : found.key = key := Classical.byContradiction fun hk => hother ⟨hk, id⟩
          rw [pending?, if_pos hkey] at hp
          obtain ⟨rfl, rfl⟩ := Prod.mk.inj (Option.some.inj hp)
          exact ⟨hkey, [], returned, h, rfl, fun _ he => nomatch he⟩
        | handed worker found n =>
          have hkey : found.key = key := Classical.byContradiction fun hk => hother ⟨id, hk⟩
          rw [pending?, if_pos hkey] at hp
          cases hp
        | retried => exact absurd ⟨id, id⟩ hother
        | released => exact absurd ⟨id, id⟩ hother
  · rintro ⟨hkey, between, returned, before, rfl, hbetween⟩
    induction between with
    | nil => exact if_pos hkey
    | cons e between ih =>
      obtain ⟨⟨hinserts, hhands⟩, hbetween⟩ := List.forall_mem_cons.mp hbetween
      rw [List.cons_append, pending?_cons_of_other hinserts hhands]
      exact ih hbetween

end History

/-! ### The fields are what the history says -/

namespace Session

variable {s : Session}

/-- The refinement relation: items, keys in process and waiting keys are those of a plain queue
after the same history. A closed queue no longer lets released keys wait. -/
structure Recorded (s : Session) : Prop where
  items : ∀ key, s.queue.items[key]? = (pending? key s.history).map (·.1)
  out : ∀ key, isOut key s.history = true ↔ key ∈ s.queue.processing
  order : s.queue.closed = false →
    started s.history = handedKeys s.history ++ s.queue.waiting
  served : Served s.history

theorem recorded_start (backoff : Backoff) : Recorded { backoff } where
  items := fun _ => by simp [pending?]
  out := fun _ => by simp [isOut]
  order := fun _ => rfl
  served := trivial

/-- Nothing is pending for a key exactly when the queue has no item for it. -/
theorem Recorded.pending_eq_none_iff (h : s.Recorded) {key : String} :
    pending? key s.history = none ↔ key ∉ s.queue.items := by
  have hitems := h.items key
  rw [Std.TreeMap.mem_iff_isSome_getElem?, hitems]
  cases pending? key s.history <;> simp

/-- An insertion into the queue and into the history. It may come from a notification or from a
retry; what the queue keeps about retries does not matter. -/
theorem Recorded.insert {q : WorkQueue} (h : s.Recorded) (hsame : s.queue.SameWork q)
    (item : WorkItem) (number : Nat) (returned : Bool) (s' : Session)
    (hqueue : s'.queue = (q.insert item).1)
    (hhistory : s'.history = .inserted item number returned :: s.history) : s'.Recorded := by
  refine { items := fun key => ?_, out := fun key => ?_, order := fun hopen => ?_, served := ?_ }
  · have hitems := h.items key
    rw [hqueue, hhistory, items_insert, hsame.items, Std.TreeMap.getElem?_insert, pending?]
    by_cases hkey : item.key = key
    · simp [hkey]
    · simp [hkey, hitems]
  · rw [hqueue, hhistory, processing_insert, hsame.processing]
    exact h.out key
  · rw [hqueue, closed_insert, hsame.closed] at hopen
    rw [hqueue, hhistory, waiting_insert, hsame.items, hsame.processing, hsame.waiting, started,
      handedKeys, h.order hopen]
    -- the key starts to wait in the history exactly when the queue appends it
    have hstart : (pending? item.key s.history = none ∧ isOut item.key s.history = false) ↔
        ¬(item.key ∈ s.queue.items ∨ item.key ∈ s.queue.processing) := by
      rw [h.pending_eq_none_iff, not_or, ← h.out, Bool.not_eq_true]
    by_cases hnew : item.key ∈ s.queue.items ∨ item.key ∈ s.queue.processing
    · rw [if_neg (fun hs => hstart.mp hs hnew), if_pos hnew]
    · rw [if_pos (hstart.mpr hnew), if_neg hnew, List.append_assoc]
  · rw [hhistory]
    exact h.served

/-- What only keeps books about retries and failures leaves the fields as the history says. -/
theorem Recorded.of_sameWork (h : s.Recorded) {s' : Session}
    (hsame : s.queue.SameWork s'.queue) (hhistory : s'.history = s.history) : s'.Recorded := by
  refine { items := ?_, out := ?_, order := ?_, served := hhistory ▸ h.served }
  · rw [hsame.items, hhistory]
    exact h.items
  · rw [hsame.processing, hhistory]
    exact h.out
  · rw [hsame.closed, hsame.waiting, hhistory]
    exact h.order

/-- Handing out the pending item of the key in front. -/
theorem Recorded.take (h : s.Recorded) {worker : Nat} {key : String} {rest : List String}
    {item : WorkItem} (hwaiting : s.queue.waiting = key :: rest)
    (hitem : s.queue.items[key]? = some item) (hkey : item.key = key) (s' : Session)
    (hqueue : s'.queue =
      { s.queue with
        waiting := rest
        items := s.queue.items.erase key
        processing := s.queue.processing.insert key })
    (hhistory : s'.history = .handed worker item (s.pendingNumber key) :: s.history) :
    s'.Recorded := by
  subst hkey
  have hpending : pending? item.key s.history = some (item, s.pendingNumber item.key) := by
    have hitems := (h.items item.key).symm.trans hitem
    obtain ⟨⟨found, number⟩, hfound, rfl⟩ := Option.map_eq_some_iff.mp hitems
    rw [pendingNumber, hfound]
    rfl
  refine { items := fun k => ?_, out := fun k => ?_, order := fun hopen => ?_, served := ?_ }
  · have hitems := h.items k
    rw [hqueue, hhistory, pending?]
    show (s.queue.items.erase item.key)[k]? = _
    rw [Std.TreeMap.getElem?_erase]
    by_cases hk : item.key = k
    · simp [hk]
    · simp [hk, hitems]
  · have hout := h.out k
    rw [hqueue, hhistory, isOut]
    show _ ↔ k ∈ s.queue.processing.insert item.key
    rw [Std.TreeSet.mem_insert, Std.compare_eq_iff_eq]
    by_cases hk : item.key = k
    · simp [hk]
    · simp [hk, hout]
  -- the key moves from the front of those that wait to the end of those handed out
  · rw [hqueue] at hopen
    have horder := h.order hopen
    rw [hqueue, hhistory, started, handedKeys, horder, hwaiting, List.append_assoc]
    rfl
  · rw [hhistory]
    exact ⟨hpending, h.served⟩

/-- Releasing a key. -/
theorem Recorded.done (h : s.Recorded) (worker : Nat) (key : String) :
    (s.apply (.done worker key)).Recorded := by
  refine { items := fun k => ?_, out := fun k => ?_, order := fun hopen => ?_,
           served := h.served }
  · show (s.queue.done key).1.items[k]? = _
    rw [done_fst]
    exact h.items k
  · have hout := h.out k
    show isOut k (.released worker key :: s.history) = true ↔ k ∈ (s.queue.done key).1.processing
    rw [done_fst, isOut]
    show _ ↔ k ∈ s.queue.processing.erase key
    rw [Std.TreeSet.mem_erase, Ne, Std.compare_eq_iff_eq]
    by_cases hk : key = k
    · simp [hk]
    · simp [hk, hout]
  · have hqueue : s.queue.closed = false := by
      have hclosed : (s.queue.done key).1.closed = false := hopen
      rw [done_fst] at hclosed
      exact hclosed
    show started (.released worker key :: s.history) =
      handedKeys s.history ++ (s.queue.done key).1.waiting
    rw [done_fst, started, h.order hqueue]
    show _ = handedKeys s.history ++ if _ then _ else _
    -- a key with a pending item starts to wait at its release, in the history and in the queue
    by_cases hitem : key ∈ s.queue.items
    · rw [if_neg (fun hp => h.pending_eq_none_iff.mp hp hitem), if_pos ⟨hitem, hqueue⟩,
        List.append_assoc]
    · rw [if_pos (h.pending_eq_none_iff.mpr hitem), if_neg (fun hp => hitem hp.1)]

/-- Every operation under the promise keeps the fields what the history says. -/
theorem recorded_step {op : Operation} (ht : s.Tidy) (h : s.Recorded) : (s.apply op).Recorded := by
  cases op with
  | add item =>
    cases hclosed : s.queue.closed with
    | true =>
      refine h.of_sameWork ?_ (by simp [apply, hclosed])
      show s.queue.SameWork (s.queue.add item).1
      rw [add_of_closed hclosed]
      exact ⟨rfl, rfl, rfl, rfl⟩
    | false =>
      refine h.insert (q := s.queue) ⟨rfl, rfl, rfl, rfl⟩ item (accepted item.key s.history + 1)
        false _ ?_ (by simp [apply, hclosed])
      show (s.queue.add item).1 = (s.queue.insert item).1
      rw [add_of_open hclosed]
  | take worker =>
    show (s.applyTake worker).Recorded
    rcases ht.applyTake_cases worker with htake | ⟨key, rest, item, -, hwaiting, hitem, hkey, htake⟩
    · rw [htake]
      exact h
    · exact h.take hwaiting hitem hkey _ (by rw [htake]) (by rw [htake])
  | retry worker item number =>
    -- asking for a retry inserts nothing, the end of its backoff may
    have hsame := sameWork_addRateLimited s.queue s.backoff item
    refine { items := ?_, out := ?_, order := ?_, served := h.served }
    · exact hsame.items ▸ h.items
    · exact hsame.processing ▸ h.out
    · exact h.order
  | mature position =>
    simp only [apply]
    split
    · next t _ =>
      by_cases hr : s.queue.Admits t.retry
      · exact h.insert (sameWork_endRetry s.queue t.retry.item.key) t.retry.item t.number true _
          (mature_of_admits hr) (by simp [applyMature, hr])
      · exact h.of_sameWork (sameWork_mature hr) (by simp [applyMature, hr])
    · exact h
  | forget worker key => exact h.of_sameWork (sameWork_forget s.queue key) rfl
  | done worker key => exact h.done worker key
  | shutDown =>
    refine ⟨h.items, h.out, fun hopen => ?_, h.served⟩
    cases (hopen : true = false)

/-- The fields are what the history says in every state of every run. -/
theorem Reachable.recorded {backoff : Backoff} (h : Reachable Exclusive backoff s) :
    s.Recorded := by
  induction h with
  | start => exact recorded_start backoff
  | step hrun _ ih => exact recorded_step hrun.tidy ih

/-! ### What the users see -/

/-- A key with a pending item waits, or is parked until its holder releases it. -/
theorem Reachable.waits_or_parked {backoff : Backoff} (h : Reachable Exclusive backoff s)
    (hopen : s.queue.closed = false) {key : String} (hitem : key ∈ s.queue.items) :
    (s.queue.waiting.count key = 1 ∧ key ∉ s.heldKeys) ∨
      (key ∈ s.heldKeys ∧ key ∉ s.queue.waiting ∧
        (s.queue.done key).1.waiting = s.queue.waiting ++ [key]) := by
  have ht := h.tidy
  rcases ht.consistent.tracked hopen key hitem with hwaiting | hprocessing
  · exact .inl ⟨List.count_eq_one_of_mem ht.consistent.waiting_nodup hwaiting,
      ht.not_held hwaiting⟩
  · refine .inr ⟨(ht.held_iff key).mp hprocessing,
      fun hw => ht.consistent.not_processing key hw hprocessing, ?_⟩
    rw [done_fst]
    exact if_pos ⟨hitem, hopen⟩

/-- **The queue is a plain first-in-first-out queue that coalesces by key.** In every run in which
keys are released by their holders only, as long as the queue is open:

1. whatever was handed out was the item of the most recent insertion for its key, made after the
   previous hand-out of the key;
2. an item that was inserted since the last hand-out of its key, with none inserted later, is the
   item of the key, and the key waits exactly once or is parked and starts to wait at its release;
3. a key without such an item does not wait;
4. the keys were handed out in the order in which they started to wait, and those that are left wait
   in that order;
5. an insertion for a waiting key does not move it;
6. the length of the queue is the number of distinct keys that wait. -/
theorem Reachable.coalesces {backoff : Backoff} (h : Reachable Exclusive backoff s)
    (hopen : s.queue.closed = false) :
    (∀ newer worker item number older,
      s.history = newer ++ .handed worker item number :: older →
      ∃ between returned before, older = between ++ .inserted item number returned :: before ∧
        ∀ e ∈ between, ¬ e.Inserts item.key ∧ ¬ e.HandsOut item.key) ∧
    (∀ between item number returned before,
      s.history = between ++ .inserted item number returned :: before →
      (∀ e ∈ between, ¬ e.Inserts item.key ∧ ¬ e.HandsOut item.key) →
      s.queue.items[item.key]? = some item ∧
        ((s.queue.waiting.count item.key = 1 ∧ item.key ∉ s.heldKeys) ∨
          (item.key ∈ s.heldKeys ∧ item.key ∉ s.queue.waiting ∧
            (s.queue.done item.key).1.waiting = s.queue.waiting ++ [item.key]))) ∧
    (∀ key, pending? key s.history = none → key ∉ s.queue.waiting) ∧
    started s.history = handedKeys s.history ++ s.queue.waiting ∧
    (∀ item, item.key ∈ s.queue.waiting →
      (s.queue.insert item).1.waiting = s.queue.waiting) ∧
    s.queue.length = s.queue.waiting.toFinset.card := by
  have hr := h.recorded
  have hc := h.tidy.consistent
  refine ⟨fun newer worker item number older hhistory => ?_,
    fun between item number returned before hhistory hbetween => ?_, fun key hnone hwaiting => ?_,
    hr.order hopen, fun item hwaiting => ?_, ?_⟩
  · have hserved : Served (.handed worker item number :: older) :=
      (hhistory ▸ hr.served : Served (newer ++ _)).append
    exact (pending?_eq_some_iff.mp hserved.1).2
  · have hpending : pending? item.key s.history = some (item, number) :=
      pending?_eq_some_iff.mpr ⟨rfl, between, returned, before, hhistory, hbetween⟩
    have hitem : s.queue.items[item.key]? = some item := by
      rw [hr.items, hpending]
      rfl
    exact ⟨hitem, h.waits_or_parked hopen
      (Std.TreeMap.mem_iff_isSome_getElem?.mpr (by rw [hitem]; rfl))⟩
  · exact hr.pending_eq_none_iff.mp hnone (hc.has_item key hwaiting)
  · rw [waiting_insert, if_pos (.inl (hc.has_item _ hwaiting))]
  · exact (List.toFinset_card_of_nodup hc.waiting_nodup).symm

/-- Two notifications of one key with another key's between them: the later one is handed out, in
the place of the earlier one. -/
theorem coalesces_two_keys :
    let s := ((((({} : Session).apply (.add ⟨"ns/a", .pods, .create, some "1"⟩)).apply
      (.add ⟨"ns/b", .pods, .create, some "2"⟩)).apply
      (.add ⟨"ns/a", .pods, .update, some "3"⟩)).apply (.take 0))
    Reachable Exclusive {} s ∧ s.queue.closed = false ∧
      s.history.head? = some (.handed 0 ⟨"ns/a", .pods, .update, some "3"⟩ 2) ∧
      (∃ between returned before,
        s.history.tail =
          between ++ .inserted ⟨"ns/a", .pods, .update, some "3"⟩ 2 returned :: before ∧
        ∀ e ∈ between, ¬ e.Inserts "ns/a" ∧ ¬ e.HandsOut "ns/a") ∧
      ["ns/a", "ns/b"] = ["ns/a"] ++ s.queue.waiting := by
  intro s
  have hrun : Reachable Exclusive {} s :=
    .step (.step (.step (.step .start trivial) trivial) trivial) trivial
  have hopen : s.queue.closed = false := by decide
  have hqueue := hrun.coalesces hopen
  have hhead : s.history =
      [] ++ .handed 0 ⟨"ns/a", .pods, .update, some "3"⟩ 2 :: s.history.tail := by decide
  have hstarted : started s.history = ["ns/a", "ns/b"] := by decide
  have hhanded : handedKeys s.history = ["ns/a"] := by decide
  refine ⟨hrun, hopen, by rw [hhead]; rfl, hqueue.1 _ _ _ _ _ hhead, ?_⟩
  rw [← hstarted, ← hhanded]
  exact hqueue.2.2.2.1

end Session

end ClusterWatch.WorkQueue
