import ClusterWatch.Proofs.Queue.Bookkeeping
import ClusterWatch.Proofs.Queue.Coalescing
/-!
# Retries and newer notifications

A retry should neither replace nor follow the item of a newer notification of its key. The queue
drops a retry when something was inserted for its key since the retry was *asked for*; but a newer
notification may also have come in before that, while the attempt that failed was still in process.
Such a retry is overtaken from the start, and the queue does not notice.

- `History.Forward`: no retry that was inserted was behind a pending item or a hand-out of its key.
- `History.InOrder`: no item of a key was handed out after one of a newer notification.
- `History.NeverOvertaken`: whenever a retry was asked for, its notification was still the newest.

Main result: `Session.Reachable.retries_forward_exactly`. In the workers' protocol, with operations
that return, the order breaks at the end of a backoff exactly when the retry was overtaken when it
was asked for and nothing was inserted for its key since. `retry_replaces_newer` is such a run.
-/

namespace ClusterWatch.WorkQueue

namespace History

/-! ### The numbers in a history -/

/-- Notifications are numbered in the order in which they were accepted, and a retry carries the
number of a notification that was accepted before. -/
def Numbered : History → Prop
  | [] => True
  | .inserted item number returned :: h =>
    (if returned = true then number ≤ accepted item.key h
      else number = accepted item.key h + 1) ∧ Numbered h
  | .handed .. :: h | .retried .. :: h | .released .. :: h => Numbered h

/-- A number that is not behind the pending item of a key, nor behind an item of the key that was
handed out. -/
def NotBehind (key : String) (number : Nat) (h : History) : Prop :=
  (∀ item n, pending? key h = some (item, n) → n ≤ number) ∧
    ∀ worker item n, .handed worker item n ∈ h → item.key = key → n ≤ number

/-- No retry of a key was inserted that replaced the item of a newer notification or came after
such an item was handed out. -/
def Forward (key : String) : History → Prop
  | [] => True
  | .inserted item number returned :: h =>
    (returned = true → item.key = key → NotBehind key number h) ∧ Forward key h
  | .handed .. :: h | .retried .. :: h | .released .. :: h => Forward key h

/-- No item of a key was handed out after one of a newer notification. -/
def InOrder (key : String) : History → Prop
  | [] => True
  | .handed _ item number :: h =>
    (item.key = key → ∀ worker other n, .handed worker other n ∈ h → other.key = key → n ≤ number) ∧
      InOrder key h
  | .inserted .. :: h | .retried .. :: h | .released .. :: h => InOrder key h

/-- Whenever a retry of a key was asked for, no newer notification of the key had been accepted. -/
def NeverOvertaken (key : String) : History → Prop
  | [] => True
  | .retried _ item number :: h =>
    (item.key = key → accepted key h ≤ number) ∧ NeverOvertaken key h
  | .inserted .. :: h | .handed .. :: h | .released .. :: h => NeverOvertaken key h

variable {key : String} {h : History}

theorem accepted_le_cons (key : String) (e : Entry) (h : History) :
    accepted key h ≤ accepted key (e :: h) := by
  cases e with
  | inserted item number returned =>
    rw [accepted]
    split
    · exact Nat.le_succ _
    · exact Nat.le_refl _
  | handed => exact Nat.le_refl _
  | retried => exact Nat.le_refl _
  | released => exact Nat.le_refl _

/-- Between two moments at least as much was inserted for a key as notifications of it were
accepted. -/
theorem accepted_append_le (key : String) (newer h : History) :
    accepted key h ≤ accepted key (newer ++ h) ∧
      accepted key (newer ++ h) + insertions key h ≤
        accepted key h + insertions key (newer ++ h) := by
  induction newer with
  | nil => exact ⟨Nat.le_refl _, Nat.le_refl _⟩
  | cons e newer ih =>
    cases e with
    | inserted item number returned =>
      rw [List.cons_append, accepted, insertions]
      by_cases hkey : item.key = key
      · rw [if_pos hkey]
        split
        · omega
        · omega
      · rw [if_neg hkey, if_neg fun hk => hkey hk.1]
        exact ih
    | handed => exact ih
    | retried => exact ih
    | released => exact ih

theorem accepted_le_of_suffix {h' : History} (hs : h <:+ h') :
    accepted key h ≤ accepted key h' := by
  obtain ⟨newer, rfl⟩ := hs
  exact (accepted_append_le key newer h).1

/-- When nothing was inserted for a key, no notification of it was accepted either. -/
theorem accepted_eq_of_insertions_eq {h' : History} (hs : h <:+ h')
    (heq : insertions key h = insertions key h') : accepted key h = accepted key h' := by
  obtain ⟨newer, rfl⟩ := hs
  have hle := accepted_append_le key newer h
  omega

/-- What is pending was accepted. -/
theorem Numbered.pending_le (hn : Numbered h) {item : WorkItem} {number : Nat}
    (hp : pending? key h = some (item, number)) : number ≤ accepted key h := by
  induction h with
  | nil => cases hp
  | cons e h ih =>
    cases e with
    | inserted other n returned =>
      obtain ⟨hnumber, hn⟩ := hn
      rw [pending?] at hp
      rw [accepted]
      by_cases hkey : other.key = key
      · subst hkey
        rw [if_pos rfl] at hp
        obtain ⟨-, rfl⟩ := Prod.mk.inj (Option.some.inj hp)
        -- a retry keeps its old number, an accepted item gets the next one
        cases returned with
        | true => simpa using hnumber
        | false => simp_all
      · rw [if_neg hkey] at hp
        rw [if_neg fun hk => hkey hk.1]
        exact ih hn hp
    | handed worker other n =>
      rw [pending?] at hp
      split at hp
      · cases hp
      · exact ih hn hp
    | retried => exact ih hn hp
    | released => exact ih hn hp

/-- What was handed out was accepted. -/
theorem Numbered.handed_le (hn : Numbered h) (hs : Served h) {worker number : Nat}
    {item : WorkItem} (hmem : .handed worker item number ∈ h) :
    number ≤ accepted item.key h := by
  induction h with
  | nil => cases hmem
  | cons e h ih =>
    have hold : Numbered h → Served h → .handed worker item number ∈ h →
        number ≤ accepted item.key (e :: h) := fun hn hs hmem =>
      (ih hn hs hmem).trans (accepted_le_cons _ e h)
    cases e with
    | inserted => exact hold hn.2 hs (by simpa using hmem)
    | handed w other n =>
      rcases List.mem_cons.mp hmem with heq | hmem
      · obtain ⟨rfl, rfl, rfl⟩ := Entry.handed.inj heq
        exact Numbered.pending_le (h := h) hn hs.1
      · exact hold hn hs.2 hmem
    | retried => exact hold hn hs (by simpa using hmem)
    | released => exact hold hn hs (by simpa using hmem)

/-! ### What a history in order looks like -/

/-- As long as retries were never behind, the newest notification of a key is the pending one or
was handed out. -/
theorem Forward.newest (hf : Forward key h) (hn : Numbered h) (hs : Served h) :
    accepted key h = 0 ∨ (∃ item, pending? key h = some (item, accepted key h)) ∨
      ∃ worker item, .handed worker item (accepted key h) ∈ h ∧ item.key = key := by
  induction h with
  | nil => exact .inl rfl
  | cons e h ih =>
    cases e with
    | inserted item number returned =>
      have hprev := ih hf.2 hn.2 hs
      rw [accepted, pending?]
      by_cases hkey : item.key = key
      · subst hkey
        rw [if_pos rfl]
        cases returned with
        | false => exact .inr (.inl ⟨item, by simp_all [Numbered]⟩)
        | true =>
          -- a retry that is not behind the newest notification is of that notification
          have hle : number ≤ accepted item.key h := by simpa using hn.1
          have hnot := hf.1 rfl rfl
          rcases hprev with hzero | ⟨other, hp⟩ | ⟨worker, other, hmem, hother⟩
          · exact .inl (by simpa using hzero)
          · have hge := hnot.1 other _ hp
            exact .inr (.inl ⟨item, by simp [Nat.le_antisymm hle hge]⟩)
          · have hge := hnot.2 worker other _ hmem hother
            exact .inr (.inl ⟨item, by simp [Nat.le_antisymm hle hge]⟩)
      · rw [if_neg hkey, if_neg fun hk => hkey hk.1]
        rcases hprev with hzero | hp | ⟨worker, other, hmem, hother⟩
        · exact .inl hzero
        · exact .inr (.inl hp)
        · exact .inr (.inr ⟨worker, other, List.mem_cons_of_mem _ hmem, hother⟩)
    | handed worker item number =>
      rw [accepted, pending?]
      rcases ih hf hn hs.2 with hzero | ⟨other, hp⟩ | ⟨w, other, hmem, hother⟩
      · exact .inl hzero
      · by_cases hkey : item.key = key
        · -- the pending item is the one that is handed out
          subst hkey
          have hsame := hs.1.symm.trans hp
          obtain ⟨rfl, rfl⟩ := Prod.mk.inj (Option.some.inj hsame)
          exact .inr (.inr ⟨worker, item, List.mem_cons_self, rfl⟩)
        · exact .inr (.inl ⟨other, by rw [if_neg hkey, hp]⟩)
      · exact .inr (.inr ⟨w, other, List.mem_cons_of_mem _ hmem, hother⟩)
    | retried =>
      rcases ih hf hn hs with hzero | hp | ⟨w, other, hmem, hother⟩
      · exact .inl hzero
      · exact .inr (.inl hp)
      · exact .inr (.inr ⟨w, other, List.mem_cons_of_mem _ hmem, hother⟩)
    | released =>
      rcases ih hf hn hs with hzero | hp | ⟨w, other, hmem, hother⟩
      · exact .inl hzero
      · exact .inr (.inl hp)
      · exact .inr (.inr ⟨w, other, List.mem_cons_of_mem _ hmem, hother⟩)

/-- As long as retries were never behind, nothing was handed out that is newer than what is
pending. -/
theorem Forward.handed_le_pending (hf : Forward key h) (hn : Numbered h) (hs : Served h)
    {item other : WorkItem} {number worker n : Nat} (hp : pending? key h = some (item, number))
    (hmem : .handed worker other n ∈ h) (hother : other.key = key) : n ≤ number := by
  induction h with
  | nil => cases hmem
  | cons e h ih =>
    cases e with
    | inserted found m returned =>
      have hmem' : .handed worker other n ∈ h := by simpa using hmem
      rw [pending?] at hp
      by_cases hkey : found.key = key
      · rw [if_pos hkey] at hp
        obtain ⟨rfl, rfl⟩ := Prod.mk.inj (Option.some.inj hp)
        cases returned with
        | true => exact (hf.1 rfl hkey).2 worker other n hmem' hother
        | false =>
          -- a notification has a number of its own, above all that were handed out
          have hle := hn.2.handed_le hs hmem'
          have hm : m = accepted found.key h + 1 := by simpa using hn.1
          rw [hother, ← hkey] at hle
          omega
      · rw [if_neg hkey] at hp
        exact ih hf.2 hn.2 hs hp hmem'
    | handed w found m =>
      rw [pending?] at hp
      by_cases hkey : found.key = key
      · rw [if_pos hkey] at hp
        cases hp
      · rw [if_neg hkey] at hp
        rcases List.mem_cons.mp hmem with heq | hmem'
        · obtain ⟨-, rfl, -⟩ := Entry.handed.inj heq
          exact absurd hother hkey
        · exact ih hf hn hs.2 hp hmem'
    | retried => exact ih hf hn hs hp (by simpa using hmem)
    | released => exact ih hf hn hs hp (by simpa using hmem)

/-- As long as retries were never behind, the next one is behind exactly when a newer notification
was accepted. -/
theorem Forward.notBehind_iff (hf : Forward key h) (hn : Numbered h) (hs : Served h)
    (number : Nat) : NotBehind key number h ↔ accepted key h ≤ number := by
  constructor
  · intro hnot
    rcases hf.newest hn hs with hzero | ⟨item, hp⟩ | ⟨worker, item, hmem, hkey⟩
    · omega
    · exact hnot.1 item _ hp
    · exact hnot.2 worker item _ hmem hkey
  · intro hle
    refine ⟨fun item n hp => (hn.pending_le hp).trans hle, fun worker item n hmem hkey => ?_⟩
    subst hkey
    exact (hn.handed_le hs hmem).trans hle

/-- A retry that is inserted breaks the order of its own key only, and only when it is behind. -/
theorem Forward.behind_of_breaks (hf : Forward key h) {item : WorkItem} {number : Nat}
    (hbreak : ¬ Forward key (.inserted item number true :: h)) :
    item.key = key ∧ ¬ NotBehind key number h := by
  by_contra hall
  exact hbreak ⟨fun _ hkey => Classical.byContradiction fun hnot => hall ⟨hkey, hnot⟩, hf⟩

theorem NeverOvertaken.append {newer : History} (hno : NeverOvertaken key (newer ++ h)) :
    NeverOvertaken key h := by
  induction newer with
  | nil => exact hno
  | cons e newer ih =>
    cases e with
    | retried => exact ih hno.2
    | _ => exact ih hno

/-- As long as retries were never behind, items were handed out in the order of their
notifications. -/
theorem Forward.inOrder (hf : Forward key h) (hn : Numbered h) (hs : Served h) :
    InOrder key h := by
  induction h with
  | nil => trivial
  | cons e h ih =>
    cases e with
    | inserted => exact ih hf.2 hn.2 hs
    | handed worker item number =>
      refine ⟨fun hkey w other n hmem hother => ?_, ih hf hn hs.2⟩
      subst hkey
      exact Forward.handed_le_pending (h := h) hf hn hs.2 hs.1 hmem hother
    | retried => exact ih hf hn hs
    | released => exact ih hf hn hs

end History

/-! ### Runs of the workers' protocol -/

namespace Session

open History

variable {s s' : Session}

theorem exists_of_mem_settle {holds : List Hold} {worker : Nat} {key : String} {hold : Hold}
    (hmem : hold ∈ settle holds worker key) :
    ∃ old ∈ holds, old.item = hold.item ∧ old.number = hold.number := by
  obtain ⟨old, hold', rfl⟩ := List.mem_map.mp hmem
  refine ⟨old, hold', ?_⟩
  split
  · exact ⟨rfl, rfl⟩
  · exact ⟨rfl, rfl⟩

/-- All numbers that are about are those of notifications that were accepted, and every timer goes
back to a request in the history. -/
structure WellNumbered (s : Session) : Prop where
  history : Numbered s.history
  holds : ∀ hold ∈ s.holds, hold.number ≤ accepted hold.item.key s.history
  timers : ∀ t ∈ s.timers, t.number ≤ accepted t.key t.asked
  asked : ∀ t ∈ s.timers, ∃ worker,
    .retried worker t.retry.item t.number :: t.asked <:+ s.history

theorem wellNumbered_start (backoff : Backoff) : WellNumbered { backoff } where
  history := trivial
  holds := fun _ hmem => nomatch hmem
  timers := fun _ hmem => nomatch hmem
  asked := fun _ hmem => nomatch hmem

/-- Numbers that were accepted stay so when the history grows. -/
theorem WellNumbered.advance (h : s.WellNumbered) (hhistory : Numbered s'.history)
    (hsuffix : s.history <:+ s'.history)
    (hholds : ∀ hold ∈ s'.holds, hold.number ≤ accepted hold.item.key s.history)
    (htimers : ∀ t ∈ s'.timers, t ∈ s.timers ∨ t.number ≤ accepted t.key t.asked ∧
      ∃ worker, .retried worker t.retry.item t.number :: t.asked <:+ s'.history) :
    s'.WellNumbered where
  history := hhistory
  holds := fun hold hmem => (hholds hold hmem).trans (accepted_le_of_suffix hsuffix)
  timers := fun t ht => (htimers t ht).elim (h.timers t) And.left
  asked := fun t ht => by
    rcases htimers t ht with hold | ⟨-, hnew⟩
    · obtain ⟨worker, hasked⟩ := h.asked t hold
      exact ⟨worker, hasked.trans hsuffix⟩
    · exact hnew

/-- The number that a hand-out gets is that of an accepted notification. -/
theorem WellNumbered.pendingNumber_le (h : s.WellNumbered) (key : String) :
    s.pendingNumber key ≤ accepted key s.history := by
  unfold pendingNumber
  cases hp : pending? key s.history with
  | none => exact Nat.zero_le _
  | some p =>
    obtain ⟨item, number⟩ := p
    exact h.history.pending_le hp

/-- Every operation of the protocol keeps the numbers right. -/
theorem wellNumbered_step {op : Operation} (h : s.WellNumbered) (hop : s.Protocol op) :
    (s.apply op).WellNumbered := by
  cases op with
  | add item =>
    cases hclosed : s.queue.closed with
    | true =>
      have hsame : (s.apply (.add item)).history = s.history := by simp [apply, hclosed]
      exact h.advance (hsame ▸ h.history) (hsame ▸ List.suffix_refl _) h.holds fun _ => .inl
    | false =>
      have hgrow : (s.apply (.add item)).history =
          .inserted item (accepted item.key s.history + 1) false :: s.history := by
        simp [apply, hclosed]
      refine h.advance ?_ (hgrow ▸ List.suffix_cons _ _) h.holds fun _ => .inl
      rw [hgrow]
      exact ⟨by simp, h.history⟩
  | take worker =>
    show (s.applyTake worker).WellNumbered
    rcases s.applyTake_cases worker with ⟨-, htake⟩ | ⟨-, -, htake⟩ |
      ⟨-, skipped, key, rest, item, -, -, -, htake⟩
    · rw [htake]
      exact h
    · rw [htake]
      exact ⟨h.history, h.holds, h.timers, h.asked⟩
    · rw [htake]
      refine h.advance h.history (List.suffix_cons _ _) (fun hold hmem => ?_) fun _ => .inl
      rcases List.mem_cons.mp hmem with rfl | hold'
      · exact h.pendingNumber_le item.key
      · exact h.holds hold hold'
  | retry worker item number =>
    have hnumber : number ≤ accepted item.key s.history := h.holds _ hop
    refine h.advance h.history (List.suffix_cons _ _) (fun hold hmem => ?_) fun t ht => ?_
    · obtain ⟨old, hold', hitem, hsame⟩ := exists_of_mem_settle hmem
      rw [← hitem, ← hsame]
      exact h.holds old hold'
    · rcases List.mem_append.mp ht with hold | hnew
      · exact .inl hold
      · rw [List.mem_singleton] at hnew
        subst hnew
        exact .inr ⟨hnumber, worker, List.suffix_refl _⟩
  | mature position =>
    simp only [apply]
    split
    · next t ht =>
      have ht := List.mem_of_getElem? ht
      have htimers : ∀ t' ∈ s.timers.eraseIdx position, t' ∈ s.timers :=
        fun _ => List.mem_of_mem_eraseIdx
      by_cases hr : s.queue.Admits t.retry
      · have hgrow : (s.applyMature position t).history =
            .inserted t.retry.item t.number true :: s.history := by simp [applyMature, hr]
        refine h.advance ?_ (hgrow ▸ List.suffix_cons _ _) h.holds fun t' ht' =>
          .inl (htimers t' ht')
        obtain ⟨worker, hasked⟩ := h.asked t ht
        have hsuffix := (List.suffix_cons _ _).trans hasked
        -- the number was accepted when the retry was asked for, and stays so
        rw [hgrow]
        refine ⟨?_, h.history⟩
        rw [if_pos rfl]
        exact (h.timers t ht).trans (accepted_le_of_suffix hsuffix)
      · have hsame : (s.applyMature position t).history = s.history := by simp [applyMature, hr]
        exact h.advance (hsame ▸ h.history) (hsame ▸ List.suffix_refl _) h.holds fun t' ht' =>
          .inl (htimers t' ht')
    · exact h
  | forget worker key =>
    refine h.advance h.history (List.suffix_refl _) (fun hold hmem => ?_) fun _ => .inl
    obtain ⟨old, hold', hitem, hsame⟩ := exists_of_mem_settle hmem
    rw [← hitem, ← hsame]
    exact h.holds old hold'
  | done worker key =>
    exact h.advance h.history (List.suffix_cons _ _)
      (fun hold hmem => h.holds hold (List.mem_filter.mp hmem).1) fun _ => .inl
  | shutDown => exact ⟨h.history, h.holds, h.timers, h.asked⟩

theorem Reachable.wellNumbered {backoff : Backoff} (hrun : Reachable Protocol backoff s) :
    s.WellNumbered := by
  induction hrun with
  | start => exact wellNumbered_start backoff
  | step _ hop ih => exact wellNumbered_step ih hop

theorem Reachable.served {backoff : Backoff} (hrun : Reachable Protocol backoff s) :
    Served s.history :=
  (hrun.mono fun _ _ => Protocol.exclusive).recorded.served

/-! ### When the order breaks -/

/-- Either a backoff ends and the retry is inserted, or no order breaks. -/
theorem history_apply_cases (s : Session) (op : Operation) :
    (∃ position t, op = .mature position ∧ s.timers[position]? = some t ∧
      s.queue.Admits t.retry ∧
      (s.apply op).history = .inserted t.retry.item t.number true :: s.history) ∨
    (∀ position t, op = .mature position → s.timers[position]? = some t →
      ¬ s.queue.Admits t.retry) ∧
      s.history <:+ (s.apply op).history ∧
      ∀ key, Forward key s.history → Forward key (s.apply op).history := by
  by_cases hinserts : ∃ position t, op = .mature position ∧ s.timers[position]? = some t ∧
      s.queue.Admits t.retry
  · obtain ⟨position, t, rfl, ht, hr⟩ := hinserts
    exact .inl ⟨position, t, rfl, ht, hr, by simp [apply, ht, applyMature, hr]⟩
  · refine .inr ⟨fun position t hop ht hr => hinserts ⟨position, t, hop, ht, hr⟩, ?_⟩
    -- without such a retry the history grows by what keeps it going forward, if at all
    cases op with
    | add item =>
      by_cases hclosed : s.queue.closed = true
      · simp [apply, hclosed]
      · simp [apply, hclosed, Forward]
    | take worker =>
      show s.history <:+ (s.applyTake worker).history ∧
        ∀ key, Forward key s.history → Forward key (s.applyTake worker).history
      rcases s.applyTake_cases worker with ⟨-, htake⟩ | ⟨-, -, htake⟩ |
        ⟨-, skipped, key, rest, item, -, -, -, htake⟩
      · simp [htake]
      · simp [htake]
      · simp [htake, Forward]
    | retry worker item number => exact ⟨List.suffix_cons _ _, fun _ hf => hf⟩
    | mature position =>
      have hsame : (s.apply (.mature position)).history = s.history := by
        cases ht : s.timers[position]? with
        | none => simp [apply, ht]
        | some t =>
          have hr : ¬ s.queue.Admits t.retry := fun hr => hinserts ⟨position, t, rfl, ht, hr⟩
          simp [apply, ht, applyMature, hr]
      rw [hsame]
      exact ⟨List.suffix_refl _, fun _ hf => hf⟩
    | forget worker key => exact ⟨List.suffix_refl _, fun _ hf => hf⟩
    | done worker key => exact ⟨List.suffix_cons _ _, fun _ hf => hf⟩
    | shutDown => exact ⟨List.suffix_refl _, fun _ hf => hf⟩

/-- A retry that was overtaken when it was asked for, and that is inserted all the same: the queue
is open, and nothing was inserted for its key since. -/
def Unnoticed (s : Session) (key : String) (t : Timer) : Prop :=
  t.key = key ∧ s.queue.closed = false ∧ t.number < accepted key t.asked ∧
    insertions key t.asked = insertions key s.history

/-- The order of a key breaks exactly when an overtaken retry of it is inserted unnoticed. -/
theorem Reachable.breaks_iff {backoff : Backoff} {key : String}
    (hrun : Reachable ReturningProtocol backoff s) (hf : Forward key s.history)
    (op : Operation) :
    ¬ Forward key (s.apply op).history ↔
      ∃ position t, op = .mature position ∧ s.timers[position]? = some t ∧ s.Unnoticed key t := by
  have hreturns : Reachable Returns backoff s := hrun.mono fun _ _ => And.right
  have hrun : Reachable Protocol backoff s := hrun.mono fun _ _ => And.left
  have hn := hrun.wellNumbered
  rcases s.history_apply_cases op with ⟨position, t, rfl, ht, hr, hgrow⟩ | ⟨hquiet, -, hkeeps⟩
  · have hmem := List.mem_of_getElem? ht
    have hbehind := hf.notBehind_iff hn.history hrun.served t.number
    -- when nothing was inserted since, what was newest then is newest now
    have hnewest (hsince : insertions t.key t.asked = insertions t.key s.history) :
        accepted t.key t.asked = accepted t.key s.history := by
      obtain ⟨worker, hasked⟩ := hn.asked t hmem
      exact accepted_eq_of_insertions_eq ((List.suffix_cons _ _).trans hasked) hsince
    rw [hgrow]
    constructor
    · intro hbreak
      obtain ⟨rfl, hnot⟩ : t.key = key ∧ ¬ NotBehind key t.number s.history :=
        hf.behind_of_breaks hbreak
      obtain ⟨hopen, hsince⟩ := (hreturns.admits_iff hmem).mp hr
      rw [hbehind, ← hnewest hsince, Nat.not_le] at hnot
      exact ⟨position, t, rfl, ht, rfl, hopen, hnot, hsince⟩
    · rintro ⟨position', t', heq, ht', rfl, -, hless, hsince⟩ hforward
      obtain rfl := Operation.mature.inj heq
      obtain rfl := Option.some.inj (ht.symm.trans ht')
      have hsame := hnewest hsince
      have hle := hbehind.mp (hforward.1 rfl rfl)
      omega
  · refine iff_of_false (fun hbreak => hbreak (hkeeps key hf)) ?_
    rintro ⟨position, t, rfl, ht, rfl, hopen, -, hsince⟩
    exact hquiet position t rfl ht
      ((hreturns.admits_iff (List.mem_of_getElem? ht)).mpr ⟨hopen, hsince⟩)

/-- As long as no retry of a key was overtaken when it was asked for, its order does not break. -/
theorem Reachable.forward_of_neverOvertaken {backoff : Backoff} {key : String}
    (hrun : Reachable ReturningProtocol backoff s) (hno : NeverOvertaken key s.history) :
    Forward key s.history := by
  induction hrun with
  | start => trivial
  | @step s op hrun _ ih =>
    rcases s.history_apply_cases op with ⟨position, t, rfl, ht, hr, hgrow⟩ | ⟨-, hsuffix, hkeeps⟩
    · have hbefore : NeverOvertaken key s.history := by
        rw [hgrow] at hno
        exact hno
      have hf := ih hbefore
      by_contra hbreak
      obtain ⟨position', t', -, ht', rfl, -, hless, -⟩ := (hrun.breaks_iff hf _).mp hbreak
      -- the request of the retry is in the history, where it was not overtaken
      have hnumbered : s.WellNumbered := (hrun.mono fun _ _ => And.left).wellNumbered
      obtain ⟨worker, newer, hasked⟩ := hnumbered.asked t' (List.mem_of_getElem? ht')
      have hasked : NeverOvertaken t'.key (.retried worker t'.retry.item t'.number :: t'.asked) :=
        NeverOvertaken.append (hasked.symm ▸ hbefore)
      exact Nat.not_lt.mpr (hasked.1 rfl) hless
    · obtain ⟨newer, hnewer⟩ := hsuffix
      exact hkeeps key (ih (NeverOvertaken.append (hnewer.symm ▸ hno)))

/-- When the order breaks, either the item of a newer notification is replaced, or the pending item
is older than one that was handed out. -/
theorem Reachable.pending_of_breaks {backoff : Backoff} (hrun : Reachable Protocol backoff s)
    {key : String} (hf : Forward key s.history) {op : Operation}
    (hbreak : ¬ Forward key (s.apply op).history) :
    ∃ item number, pending? key (s.apply op).history = some (item, number) ∧
      ((∃ newer n, pending? key s.history = some (newer, n) ∧ number < n) ∨
        ∀ worker, ¬ InOrder key (.handed worker item number :: (s.apply op).history)) := by
  have hn := hrun.wellNumbered
  rcases s.history_apply_cases op with ⟨position, t, rfl, ht, -, hgrow⟩ | ⟨-, -, hkeeps⟩
  · rw [hgrow] at hbreak ⊢
    obtain ⟨rfl, hnot⟩ := hf.behind_of_breaks hbreak
    rw [hf.notBehind_iff hn.history hrun.served, Nat.not_le] at hnot
    refine ⟨t.retry.item, t.number, if_pos rfl, ?_⟩
    -- the newest notification is the pending one, or it was handed out
    rcases hf.newest hn.history hrun.served with hzero | ⟨newer, hp⟩ | ⟨w, newer, hmem, hkey⟩
    · omega
    · exact .inl ⟨newer, _, hp, hnot⟩
    · refine .inr fun worker horder => ?_
      have hle := horder.1 rfl w newer _ (List.mem_cons_of_mem _ hmem) hkey
      exact Nat.not_lt.mpr hle hnot
  · exact absurd (hkeeps key hf) hbreak

/-- **When retries stay behind newer notifications.** In every run of the workers' protocol:

1. when no retry of a key was overtaken by a newer notification before it was asked for, no retry of
   the key ever replaced the item of a newer notification or came after such an item;
2. as long as that is so, the items of the key are handed out in the order of their notifications;
3. it ceases to be so exactly when the backoff of a retry ends that *was* overtaken before it was
   asked for, on an open queue, and nothing was inserted for the key since;
4. then the item of a newer notification is replaced, or the item that is pending is older than one
   that was handed out already, so that its hand-out is out of order.

The first and the third are about runs whose operations return. -/
theorem Reachable.retries_forward_exactly {backoff : Backoff}
    (hrun : Reachable Protocol backoff s) (key : String) :
    (Reachable ReturningProtocol backoff s → NeverOvertaken key s.history →
      Forward key s.history) ∧
    (Forward key s.history → InOrder key s.history) ∧
    (Reachable ReturningProtocol backoff s → Forward key s.history → ∀ op,
      ¬ Forward key (s.apply op).history ↔
        ∃ position t, op = .mature position ∧ s.timers[position]? = some t ∧
          s.Unnoticed key t) ∧
    (Forward key s.history → ∀ op, ¬ Forward key (s.apply op).history →
      ∃ item number, pending? key (s.apply op).history = some (item, number) ∧
        ((∃ newer n, pending? key s.history = some (newer, n) ∧ number < n) ∨
          ∀ worker, ¬ InOrder key (.handed worker item number :: (s.apply op).history))) :=
  ⟨fun hreturns => hreturns.forward_of_neverOvertaken,
    fun hf => hf.inOrder hrun.wellNumbered.history hrun.served,
    fun hreturns hf op => hreturns.breaks_iff hf op,
    fun hf _ hbreak => hrun.pending_of_breaks hf hbreak⟩

/-- A newer notification comes in while an attempt is in process that then fails. The retry replaces
its item, and the older item is handed out next. -/
theorem retry_replaces_newer :
    let older : WorkItem := ⟨"ns/x", .pods, .create, some "1"⟩
    let newer : WorkItem := ⟨"ns/x", .pods, .update, some "2"⟩
    let s := ((((({} : Session).apply (.add older)).apply (.take 0)).apply (.add newer)).apply
      (.retry 0 older 1)).apply (.done 0 "ns/x")
    let s' := s.apply (.mature 0)
    Reachable Protocol {} s' ∧ pending? "ns/x" s.history = some (newer, 2) ∧
      pending? "ns/x" s'.history = some (older, 1) ∧ ¬ Forward "ns/x" s'.history ∧
      (s'.queue.take).2 = .item older := by
  intro older newer s s'
  have hrun : Reachable Protocol {} s :=
    .step (.step (.step (.step (.step .start trivial) (by decide)) trivial) (by decide))
      (by decide)
  refine ⟨.step hrun trivial, by decide, by decide, fun hforward => ?_, by decide⟩
  have hgrow : s'.history = .inserted older 1 true :: s.history := by decide
  rw [hgrow] at hforward
  have hnot : NotBehind "ns/x" 1 s.history := hforward.1 rfl rfl
  have hle : 2 ≤ 1 := hnot.1 newer 2 (by decide)
  omega

/-- A notification comes in after a retry was asked for. The retry is dropped, and the items are
handed out in order. -/
theorem retries_forward_exactly_dropped :
    let older : WorkItem := ⟨"ns/x", .pods, .create, some "1"⟩
    let newer : WorkItem := ⟨"ns/x", .pods, .update, some "2"⟩
    let s := (((((({} : Session).apply (.add older)).apply (.take 0)).apply
      (.retry 0 older 1)).apply (.add newer)).apply (.done 0 "ns/x")).apply (.mature 0)
    let s' := s.apply (.take 0)
    Reachable ReturningProtocol {} s' ∧ NeverOvertaken "ns/x" s'.history ∧
      Forward "ns/x" s'.history ∧ InOrder "ns/x" s'.history ∧
      s'.history.head? = some (.handed 0 newer 2) := by
  intro older newer s s'
  have hrun : Reachable ReturningProtocol {} s :=
    .step (.step (.step (.step (.step (.step .start (by decide)) (by decide)) (by decide))
      (by decide)) (by decide)) (by decide)
  have hreturns : Reachable ReturningProtocol {} s' := .step hrun (by decide)
  have hrun' : Reachable Protocol {} s' := hreturns.mono fun _ _ => And.left
  have hhistory : s'.history =
      [.handed 0 newer 2, .released 0 "ns/x", .inserted newer 2 false, .retried 0 older 1,
        .handed 0 older 1, .inserted older 1 false] := by decide
  have hno : NeverOvertaken "ns/x" s'.history := by
    rw [hhistory]
    exact ⟨fun _ => by decide, trivial⟩
  have hmain := hrun'.retries_forward_exactly "ns/x"
  have hf := hmain.1 hreturns hno
  exact ⟨hreturns, hno, hf, hmain.2.1 hf, by rw [hhistory]; rfl⟩

end Session

end ClusterWatch.WorkQueue
