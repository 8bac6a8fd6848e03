import ClusterWatch.Proofs.Queue.Bookkeeping
import ClusterWatch.Proofs.Queue.Exclusivity
/-!
# Keys at rest

The queue keeps three books by key: the failures since the last success, the number of the last
insertion, and the retries that are backing off. Entries are made at every insertion and every
failure, and they are taken out in three places under different conditions. In the workers' protocol
no entry outlives the work for its key:

- `Session.Pressing`: a key has an item that no worker has dealt with yet.
- `Session.Elsewhere`: an operation that concerns one key leaves the other keys alone.
- `Session.Accounted`: as long as the queue is open, each entry of the books is there for the sake
  of an item that presses or of a retry. Failures need more than any retry: after the last attempt
  failed, its own retry is backing off and nothing was inserted since, so that it will be inserted.

Main result: `Session.Reachable.books_only_outstanding`.
-/

namespace ClusterWatch.WorkQueue

namespace Session

open History

variable {s s' : Session} {key : String} {backoff : Backoff}

/-- A key has a pending item, or one that was handed out and that its worker has not dealt with. -/
def Pressing (s : Session) (key : String) : Prop :=
  key ∈ s.queue.items ∨ ∃ hold ∈ s.holds, hold.item.key = key ∧ hold.settled = false

/-- Every entry of a key in the books has a reason. -/
structure Accounted (s : Session) (key : String) : Prop where
  /-- A key that has failed is to be worked on, or a retry of it will be inserted. -/
  failed : key ∈ s.queue.failures → s.Pressing key ∨
    ∃ t ∈ s.timers, t.key = key ∧ insertions key t.asked = insertions key s.history
  /-- A key whose last insertion is known is to be worked on, or a retry of it compares with it. -/
  numbered : key ∈ s.queue.added → s.Pressing key ∨ ∃ t ∈ s.timers, t.key = key

theorem accounted_start (backoff : Backoff) (key : String) : Accounted { backoff } key where
  failed := fun hkey => by simp at hkey
  numbered := fun hkey => by simp at hkey

/-! ### Operations on other keys -/

/-- Two sessions that differ in what concerns one key only, as far as the books go. -/
structure Elsewhere (s s' : Session) (key : String) : Prop where
  items : ∀ k ≠ key, k ∈ s.queue.items → k ∈ s'.queue.items
  holds : ∀ hold ∈ s.holds, hold.item.key ≠ key → hold ∈ s'.holds
  timers : ∀ t ∈ s.timers, t.key ≠ key → t ∈ s'.timers
  insertions : ∀ k ≠ key, insertions k s'.history = insertions k s.history
  failures : ∀ k ≠ key, k ∈ s'.queue.failures → k ∈ s.queue.failures
  added : ∀ k ≠ key, k ∈ s'.queue.added → k ∈ s.queue.added

theorem Elsewhere.pressing (he : s.Elsewhere s' key) {k : String} (hk : k ≠ key)
    (hp : s.Pressing k) : s'.Pressing k := by
  rcases hp with hitem | ⟨hold, hmem, rfl, hopen⟩
  · exact .inl (he.items k hk hitem)
  · exact .inr ⟨hold, he.holds hold hmem hk, rfl, hopen⟩

/-- An operation that concerns one key only has to be accounted for if it is that key. -/
theorem Accounted.of_elsewhere (h : s.Accounted key) (about : String)
    (he : s.Elsewhere s' about)
    (hfailed : about = key → key ∈ s'.queue.failures → s'.Pressing key ∨
      ∃ t ∈ s'.timers, t.key = key ∧ History.insertions key t.asked =
        History.insertions key s'.history)
    (hnumbered : about = key → key ∈ s'.queue.added →
      s'.Pressing key ∨ ∃ t ∈ s'.timers, t.key = key) : s'.Accounted key := by
  by_cases hk : key = about
  · exact ⟨hfailed hk.symm, hnumbered hk.symm⟩
  refine { failed := fun hkey => ?_, numbered := fun hkey => ?_ }
  · rcases h.failed (he.failures key hk hkey) with hp | ⟨t, ht, rfl, hsame⟩
    · exact .inl (he.pressing hk hp)
    · refine .inr ⟨t, he.timers t ht hk, rfl, ?_⟩
      rw [he.insertions t.key hk, hsame]
  · rcases h.numbered (he.added key hk hkey) with hp | ⟨t, ht, rfl⟩
    · exact .inl (he.pressing hk hp)
    · exact .inr ⟨t, he.timers t ht hk, rfl⟩

/-- What other keys' holds are after a worker has dealt with its item. -/
theorem mem_settle_of_ne {holds : List Hold} {hold : Hold} (hmem : hold ∈ holds) (worker : Nat)
    (hne : hold.item.key ≠ key) : hold ∈ settle holds worker key := by
  refine List.mem_map.mpr ⟨hold, hmem, ?_⟩
  rw [if_neg fun hboth => hne hboth.2]

/-- What other keys' holds are after a worker has released its key. -/
theorem mem_release_of_ne {holds : List Hold} {hold : Hold} (hmem : hold ∈ holds) (worker : Nat)
    (hne : hold.item.key ≠ key) : hold ∈ release holds worker key := by
  refine List.mem_filter.mpr ⟨hmem, ?_⟩
  simp [hne]

/-- A timer that is not the one that fires stays. -/
theorem mem_eraseIdx_of_ne {timers : List Timer} {position : Nat} {t t' : Timer}
    (ht : timers[position]? = some t) (hmem : t' ∈ timers) (hne : t' ≠ t) :
    t' ∈ timers.eraseIdx position := by
  obtain ⟨hlt, rfl⟩ := List.getElem?_eq_some_iff.mp ht
  have hperm := List.getElem_cons_eraseIdx_perm hlt
  exact (List.mem_cons.mp (hperm.mem_iff.mpr hmem)).resolve_left hne

/-! ### Operations -/

/-- An insertion makes its key press, whatever else was about it. -/
theorem Accounted.insert (h : s.Accounted key) {q : WorkQueue} (item : WorkItem) (number : Nat)
    (returned : Bool) (hsame : s.queue.SameWork q) (hfailures : q.failures = s.queue.failures)
    (hadded : q.added = s.queue.added) (hqueue : s'.queue = (q.insert item).1)
    (hhistory : s'.history = .inserted item number returned :: s.history)
    (hholds : s'.holds = s.holds)
    (htimers : ∀ t ∈ s.timers, t.key ≠ item.key → t ∈ s'.timers) : s'.Accounted key := by
  have hpressing : s'.Pressing item.key := by
    refine .inl ?_
    rw [hqueue, items_insert]
    simp
  refine h.of_elsewhere item.key ?_ (fun heq _ => .inl (heq ▸ hpressing))
    fun heq _ => .inl (heq ▸ hpressing)
  refine { items := fun k hk hitem => ?_, holds := fun hold hmem _ => hholds ▸ hmem,
           timers := htimers, insertions := fun k hk => ?_, failures := fun k hk hkey => ?_,
           added := fun k hk hkey => ?_ }
  · rw [hqueue, items_insert, hsame.items]
    simp [hitem]
  · rw [hhistory, History.insertions, if_neg (Ne.symm hk)]
  · rw [hqueue, failures_insert, hfailures] at hkey
    exact hkey
  · rw [hqueue, added_insert, hadded] at hkey
    simpa [Ne.symm hk] using hkey

/-- A hand-out turns a pending item into one that its worker has to deal with. -/
theorem Accounted.take (h : s.Accounted key) (ht : s.Tidy) (worker : Nat) :
    (s.applyTake worker).Accounted key := by
  rcases ht.applyTake_cases worker with htake | ⟨_, rest, item, -, -, -, rfl, htake⟩
  · rw [htake]
    exact h
  · rw [htake]
    have hpressing : Pressing { s with
        queue := { s.queue with
          waiting := rest
          items := s.queue.items.erase item.key
          processing := s.queue.processing.insert item.key }
        holds := ⟨worker, item, s.pendingNumber item.key, false⟩ :: s.holds
        history := .handed worker item (s.pendingNumber item.key) :: s.history } item.key :=
      .inr ⟨_, List.mem_cons_self, rfl, rfl⟩
    refine h.of_elsewhere item.key ?_ (fun heq _ => .inl (heq ▸ hpressing))
      fun heq _ => .inl (heq ▸ hpressing)
    refine { items := fun k hk hitem => ?_, holds := fun _ hmem _ => List.mem_cons_of_mem _ hmem,
             timers := fun _ ht _ => ht, insertions := fun _ _ => rfl,
             failures := fun _ _ hkey => hkey, added := fun _ _ hkey => hkey }
    show k ∈ s.queue.items.erase item.key
    simp [Ne.symm hk, hitem]

/-- The retry that was asked for last is one that nothing was inserted since. -/
theorem Accounted.retry (h : s.Accounted key) (worker : Nat) (item : WorkItem) (number : Nat) :
    (s.applyRetry worker item number).Accounted key := by
  have hnew : ∃ t ∈ (s.applyRetry worker item number).timers, t.key = item.key ∧
      insertions item.key t.asked =
        insertions item.key (s.applyRetry worker item number).history :=
    ⟨_, List.mem_append_right _ (List.mem_singleton.mpr rfl), rfl, rfl⟩
  refine h.of_elsewhere item.key ?_ (fun heq _ => .inr (heq ▸ hnew)) fun heq _ => ?_
  · refine { items := fun _ _ hitem => hitem,
             holds := fun _ hmem hne => mem_settle_of_ne hmem worker hne,
             timers := fun _ ht _ => List.mem_append_left _ ht, insertions := fun _ _ => rfl,
             failures := fun k hk hkey => ?_, added := fun _ _ hkey => hkey }
    change k ∈ s.queue.failures.insert item.key _ at hkey
    simpa [Ne.symm hk] using hkey
  · obtain ⟨t, ht, hkey, -⟩ := hnew
    exact .inr ⟨t, ht, hkey.trans heq⟩

/-- A retry that is dropped is not the one that will be inserted, and it takes the number of the
last insertion along when nobody else needs it. -/
theorem Accounted.drop (h : s.Accounted key) {position : Nat} {t : Timer}
    (hb : Booked key s.queue s.timers s.history) (ht : s.timers[position]? = some t)
    (hopen : s.queue.closed = false) (hr : ¬ s.queue.Admits t.retry)
    (hsince : t.key = key → insertions t.key t.asked ≠ insertions t.key s.history) :
    (s.applyMature position t).Accounted key := by
  have hqueue : (s.queue.mature t.retry).1 = (s.queue.endRetry t.key).dropSequence t.key := by
    rw [mature_of_not_admits hr, if_neg (by simp [hopen])]
    rfl
  have hhistory : (s.applyMature position t).history = s.history := by simp [applyMature, hr]
  have hother : ∀ t' ∈ s.timers, t' ≠ t → t' ∈ (s.applyMature position t).timers :=
    fun t' hmem hne => mem_eraseIdx_of_ne ht hmem hne
  have hitems : (s.applyMature position t).queue.items = s.queue.items := (sameWork_mature hr).items
  have hfailures : (s.applyMature position t).queue.failures = s.queue.failures := by
    show (s.queue.mature t.retry).1.failures = _
    rw [hqueue, failures_dropSequence, failures_endRetry]
  have hadded : ∀ k, k ∈ (s.applyMature position t).queue.added → k ∈ s.queue.added := by
    intro k hkey
    change k ∈ (s.queue.mature t.retry).1.added at hkey
    rw [hqueue, Std.TreeMap.mem_iff_isSome_getElem?] at hkey
    rw [Std.TreeMap.mem_iff_isSome_getElem?]
    rcases added_dropSequence (s.queue.endRetry t.key) t.key k with hsame | ⟨-, -, hnone⟩
    · rw [hsame, added_endRetry] at hkey
      exact hkey
    · rw [hnone] at hkey
      cases hkey
  have hpressing : ∀ k, s.Pressing k → (s.applyMature position t).Pressing k := by
    rintro k (hitem | hheld)
    · exact .inl (hitems ▸ hitem)
    · exact .inr hheld
  -- the failures are still accounted for, by the retry that counts or by pressing work
  have hfailed : t.key = key → key ∈ s.queue.failures → (s.applyMature position t).Pressing key ∨
      ∃ t' ∈ (s.applyMature position t).timers, t'.key = key ∧
        insertions key t'.asked = insertions key (s.applyMature position t).history := by
    rintro rfl hkey
    rcases h.failed hkey with hp | ⟨t', hmem, hkey', hsame⟩
    · exact .inl (hpressing _ hp)
    · -- nothing was inserted since the retry that counts, so it is another one
      have hne : t' ≠ t := by
        rintro rfl
        exact hsince rfl hsame
      exact .inr ⟨t', hother t' hmem hne, hkey', hhistory ▸ hsame⟩
  refine h.of_elsewhere t.key ?_ (fun heq hkey => hfailed heq (hfailures ▸ hkey))
    fun heq hkey => ?_
  · refine { items := fun _ _ hitem => hitems ▸ hitem, holds := fun _ hmem _ => hmem,
             timers := fun t' hmem hne => hother t' hmem fun heq => hne (heq ▸ rfl),
             insertions := fun _ _ => by rw [hhistory],
             failures := fun _ _ hkey => hfailures ▸ hkey, added := fun k _ => hadded k }
  · -- the number stays for the sake of another retry or of the failures
    subst heq
    by_cases hretrying : t.key ∈ (s.queue.endRetry t.key).retrying
    · exact .inr ((hb.endRetry ht).exists_timer hretrying)
    · have hkept : t.key ∈ (s.queue.endRetry t.key).failures := by
        by_contra hfail
        change t.key ∈ (s.queue.mature t.retry).1.added at hkey
        rw [hqueue] at hkey
        exact not_mem_added_dropSequence hretrying hfail hkey
      rw [failures_endRetry] at hkept
      rcases hfailed rfl hkept with hp | ⟨t', hmem, hkey', -⟩
      · exact .inl hp
      · exact .inr ⟨t', hmem, hkey'⟩

/-- Clearing the failures of a key leaves the number of its last insertion to the retries that are
backing off. -/
theorem Accounted.forget (h : s.Accounted key) (hb : Booked key s.queue s.timers s.history)
    (worker : Nat) (about : String) : (s.apply (.forget worker about)).Accounted key := by
  have hsame := sameWork_forget s.queue about
  refine h.of_elsewhere about ?_ (fun heq hkey => ?_) fun heq hkey => ?_
  · refine { items := fun k _ hitem => ?_,
             holds := fun _ hmem hne => mem_settle_of_ne hmem worker hne,
             timers := fun _ ht _ => ht, insertions := fun _ _ => rfl,
             failures := fun k hk hkey => ?_, added := fun k hk hkey => ?_ }
    · show k ∈ (s.queue.forget about).items
      rw [hsame.items]
      exact hitem
    · change k ∈ (s.queue.forget about).failures at hkey
      rw [failures_forget] at hkey
      exact (Std.TreeMap.mem_erase.mp hkey).2
    · change k ∈ (s.queue.forget about).added at hkey
      rw [Std.TreeMap.mem_iff_isSome_getElem?, added_forget,
        if_neg fun hboth => hk hboth.1.symm] at hkey
      exact Std.TreeMap.mem_iff_isSome_getElem?.mpr hkey
  · subst heq
    change about ∈ (s.queue.forget about).failures at hkey
    rw [failures_forget] at hkey
    simp at hkey
  · subst heq
    change about ∈ (s.queue.forget about).added at hkey
    -- the number outlives the failures only for a retry that is backing off
    have hretrying : about ∈ s.queue.retrying := by
      by_contra hnot
      rw [Std.TreeMap.mem_iff_isSome_getElem?, added_forget, if_pos ⟨rfl, hnot⟩] at hkey
      cases hkey
    exact .inr (hb.exists_timer hretrying)

/-- A worker that releases its key has dealt with the item, so that no item is pressing for the sake
of which an entry stays. -/
theorem Accounted.done (h : s.Accounted key) (ht : s.Tidy) {worker : Nat} {about : String}
    (hop : s.Protocol (.done worker about)) : (s.apply (.done worker about)).Accounted key := by
  have hqueue : (s.apply (.done worker about)).queue = (s.queue.done about).1 := rfl
  have hpressing : s.Pressing about → (s.apply (.done worker about)).Pressing about := by
    rintro (hitem | ⟨hold, hmem, hkey, hopen⟩)
    · refine .inl ?_
      rw [hqueue, done_fst]
      exact hitem
    · -- the key is held once, by a worker that has dealt with its item
      obtain ⟨held, hmem', -, hkey', hsettled⟩ := hop
      have hsame : hold = held :=
        List.inj_on_of_nodup_map ht.held_once hmem hmem' (hkey.trans hkey'.symm)
      rw [hsame, hsettled] at hopen
      cases hopen
  refine h.of_elsewhere about ?_ (fun heq hkey => ?_) fun heq hkey => ?_
  · refine { items := fun k _ hitem => ?_,
             holds := fun _ hmem hne => mem_release_of_ne hmem worker hne,
             timers := fun _ ht _ => ht, insertions := fun _ _ => rfl,
             failures := fun k _ hkey => ?_, added := fun k _ hkey => ?_ }
    · rw [hqueue, done_fst]
      exact hitem
    · rw [hqueue, done_fst] at hkey
      exact hkey
    · rw [hqueue, done_fst] at hkey
      exact hkey
  · subst heq
    rw [hqueue, done_fst] at hkey
    exact (h.failed hkey).imp_left hpressing
  · subst heq
    rw [hqueue, done_fst] at hkey
    exact (h.numbered hkey).imp_left hpressing

/-! ### Runs -/

/-- Every operation of the protocol that leaves the queue open keeps the books accounted for. -/
theorem accounted_step {op : Operation} (hrun : Reachable ReturningProtocol backoff s)
    (h : s.Accounted key) (hopen : s.queue.closed = false) (hop : s.Protocol op)
    (hopen' : (s.apply op).queue.closed = false) : (s.apply op).Accounted key := by
  have ht := (hrun.mono fun _ _ hop => Protocol.exclusive hop.1).tidy
  have hreturns : Reachable Returns backoff s := hrun.mono fun _ _ => And.right
  cases op with
  | add item =>
    refine h.insert (q := s.queue) item (accepted item.key s.history + 1) false
      ⟨rfl, rfl, rfl, rfl⟩ rfl rfl ?_ ?_ rfl fun _ hmem _ => hmem
    · show (s.queue.add item).1 = _
      rw [add_of_open hopen]
    · simp only [apply, hopen]
      rfl
  | take worker => exact h.take ht worker
  | retry worker item number => exact h.retry worker item number
  | mature position =>
    simp only [apply]
    split
    · next t htimer =>
      -- a retry is dropped only when something was inserted for its key since
      by_cases hr : s.queue.Admits t.retry
      · refine h.insert t.retry.item t.number true (sameWork_endRetry s.queue t.key)
          (failures_endRetry _ _) (added_endRetry _ _) (mature_of_admits hr)
          (by simp [applyMature, hr]) rfl
          fun t' hmem hne => mem_eraseIdx_of_ne htimer hmem ?_
        rintro rfl
        exact hne rfl
      · refine h.drop hreturns.booked htimer hopen hr ?_
        rintro rfl hsame
        exact hr ((hreturns.admits_iff (List.mem_of_getElem? htimer)).mpr ⟨hopen, hsame⟩)
    · exact h
  | forget worker about => exact h.forget hreturns.booked worker about
  | done worker about => exact h.done ht hop
  | shutDown => cases hopen'

/-- In every state of every run of the protocol, up to the shutdown, the books are accounted for. -/
theorem Reachable.accounted (hrun : Reachable ReturningProtocol backoff s)
    (hopen : s.queue.closed = false) : s.Accounted key := by
  induction hrun with
  | start => exact accounted_start backoff key
  | @step s op hrun hop ih =>
    have hbefore : s.queue.closed = false := by
      by_contra hclosed
      rw [s.closed_apply (by simpa using hclosed) op] at hopen
      cases hopen
    exact accounted_step hrun (ih hbefore) hbefore hop.1 hopen

end Session

end ClusterWatch.WorkQueue
