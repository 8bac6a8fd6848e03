import ClusterWatch.Proofs.Controller.Completion
import Mathlib.Order.Nat
/-!
# Fair runs

An endless run in which nobody who can go on is left behind: each worker goes on after a while, the
sinks that it waits for finish, and each backoff ends. In such a run a failing item does come to the
end that it can come to.

- `Execution.FairRun`: the fair runs. `fairRun_of_path`: there is one along every way to rest.
- `FairRun.next_move`: a worker that can go on does so.
- `FairRun.handed_out`: a key that waits is handed out.
- `FairRun.comes_to_end`: a failing item comes to its end.

Main result: `Execution.requeues_bounded`.
-/

namespace ClusterWatch

namespace WorkQueue

variable {q : WorkQueue}

/-! ### What waits goes on waiting -/

theorem waiting_prefix_insert (q : WorkQueue) (item : WorkItem) :
    q.waiting <+: (q.insert item).1.waiting := by
  rw [waiting_insert]
  split
  · exact List.prefix_rfl
  · exact List.prefix_append _ _

theorem waiting_prefix_add (q : WorkQueue) (item : WorkItem) :
    q.waiting <+: (q.add item).1.waiting := by
  by_cases hclosed : q.closed = true
  · exact add_of_closed hclosed ▸ List.prefix_rfl
  · rw [add_of_open (Bool.eq_false_iff.mpr hclosed)]
    exact q.waiting_prefix_insert item

theorem waiting_prefix_mature (q : WorkQueue) (r : Retry) :
    q.waiting <+: (q.mature r).1.waiting := by
  by_cases hadmits : q.Admits r
  · rw [mature_of_admits hadmits, ← (sameWork_endRetry q r.item.key).waiting]
    exact waiting_prefix_insert _ _
  · exact (sameWork_mature hadmits).waiting ▸ List.prefix_rfl

end WorkQueue

namespace Controller

namespace Execution

variable {x x' y : Execution} {move : Move} {i : Nat} {w : Worker} {key : String} {item : WorkItem}
  {n : Nat} {s : Sight} {past : List (Execution × Move)} {kind : Resource.Kind} {tuning : Tuning}
  {slots : List Sink.Slot} {start : Time.Instant}

/-! ### Moves of workers -/

/-- The worker that makes a move, or for which a sink makes it. -/
def Move.worker? : Move → Option Nat
  | .act (.take i) | .act (.begin i _) | .act (.delivered i _) | .act (.settle i)
  | .act (.requeue i) | .act (.release i) => some i
  | _ => none

/-- A worker can go on. -/
def CanGoOn (x : Execution) (i : Nat) : Prop :=
  ∃ move, move.worker? = some i ∧ (x.advance? move).isSome

/-- A worker that has something to do can go on. -/
theorem canGoOn_of_work (hw : x.controller.workers[i]? = some w) {sinks : Nat}
    (hwork : w.work sinks ≠ 0) (hwaits : ∀ item, w ≠ .delivering item []) : x.CanGoOn i := by
  cases w with
  | idle | exited => exact absurd rfl hwork
  | holding item =>
    exact ⟨.act (.begin i (.error (.cache item.key ""))), rfl, by
      simp [advance?, step, stepBegin, hw, process, outcome, keep]⟩
  | delivering item pending =>
    cases pending with
    | nil => exact absurd rfl (hwaits item)
    | cons sink pending =>
      exact ⟨.act (.delivered i sink), rfl, by simp [advance?, step, stepDelivered, hw]⟩
  | settling item failure =>
    refine ⟨.act (.settle i), rfl, ?_⟩
    cases failure <;> simp [advance?, step, stepSettle, hw]
  | requeueing item failures =>
    refine ⟨.act (.requeue i), rfl, ?_⟩
    simp only [advance?, step, stepRequeue, hw]
    split <;> rfl
  | releasing key => exact ⟨.act (.release i), rfl, by simp [advance?, step, stepRelease, hw]⟩

/-- An idle worker can go on when a key waits. -/
theorem canGoOn_of_idle (hx : x.Reachable (.new kind tuning slots start))
    (hopen : x.controller.queue.closed = false) (hidle : x.controller.workers[i]? = some .idle)
    (hwaiting : x.controller.queue.waiting ≠ []) : x.CanGoOn i := by
  obtain ⟨front, rest, hfront⟩ := List.exists_cons_of_ne_nil hwaiting
  obtain ⟨item, -, -, htake⟩ := hx.consistent.take_front hopen hfront
  exact ⟨.act (.take i), rfl, by simp [advance?, step, stepTake, hidle, htake]⟩

/-- What a worker does with a move of its own: it takes an item when a key waits, it releases its
key, or it has less to do. -/
inductive Moves (x x' : Execution) : Worker → Worker → Prop
  | take (w' : Worker) : (x.controller.queue.waiting ≠ [] → ∃ item, w' = .holding item ∧
      x.controller.queue.waiting = item.key :: x'.controller.queue.waiting) →
      Moves x x' .idle w'
  | release (key : String) : x'.controller.queue = (x.controller.queue.done key).1 →
      Moves x x' (.releasing key) .idle
  | work (w w' : Worker) : 1 < w.work x.controller.enabledSinks.length →
      w'.work x.controller.enabledSinks.length < w.work x.controller.enabledSinks.length →
      Moves x x' w w'

/-- A move of a worker is one of these. -/
theorem moves_of_worker? (hx : x.Reachable (.new kind tuning slots start))
    (hopen : x.controller.queue.closed = false) (hmove : x.advance? move = some x')
    (hi : move.worker? = some i) :
    ∃ w w', x.controller.workers[i]? = some w ∧ x'.controller.workers[i]? = some w' ∧
      x.Moves x' w w' := by
  rcases advance?_cases hmove with ⟨call, rfl, -⟩ | ⟨step, c, effects, rfl, -, hdoes, rfl⟩ |
    ⟨position, retry, rfl, -, -⟩
  · cases hi
  · have hset : ∀ {w : Worker}, x.controller.workers[i]? = some w → ∀ w' : Worker,
        (x.controller.workers.set i w')[i]? = some w' := by
      intro w hw w'
      rw [getElem?_setWorker hw, if_pos rfl]
    -- a worker takes an item, releases its key, or has less work than before
    cases hdoes with
    | start | begun | late | early | tick | stop | abandon | drain | finish | mature => cases hi
    | exit j hidle hclosed => cases hopen.symm.trans hclosed
    -- a worker finds nothing only in an empty queue
    | clear j hidle htake =>
      obtain rfl := Option.some.inj hi
      exact ⟨_, _, hidle, hidle, .take _ fun hwaiting =>
        absurd (hx.consistent.waiting_eq_nil hopen htake) hwaiting⟩
    | take j queue item hidle htake =>
      obtain rfl := Option.some.inj hi
      obtain ⟨-, rest, hwaiting, rfl⟩ := hx.consistent.eq_of_take htake
      exact ⟨_, _, hidle, hset hidle _, .take _ fun _ => ⟨item, rfl, hwaiting⟩⟩
    | fail j _ _ _ hw | skip j _ _ hw =>
      obtain rfl := Option.some.inj hi
      refine ⟨_, _, hw, hset hw _, .work _ _ ?_ ?_⟩
      all_goals
        simp only [Worker.work]
        omega
    | send j found item notification event hw =>
      obtain rfl := Option.some.inj hi
      have hframe := x.controller.frame_keep item.key found (.send notification event)
      refine ⟨_, awaiting item x.controller.enabledSinks, hw, ?_, .work _ _ ?_ ?_⟩
      · show ((x.controller.keep item.key found (.send notification event)).workers.set j _)[j]? = _
        rw [hframe.workers]
        exact hset hw _
      · simp only [Worker.work]
        omega
      · rw [work_awaiting]
        simp only [Worker.work]
        omega
    | delivered j sink item pending hw hmem =>
      obtain rfl := Option.some.inj hi
      refine ⟨_, _, hw, hset hw _, .work _ _ ?_ ?_⟩
      · simp only [Worker.work]
        omega
      · rw [work_awaiting, List.length_erase_of_mem hmem]
        have hpos := List.length_pos_of_mem hmem
        simp only [Worker.work]
        omega
    | succeed j _ hw | count j _ _ hw | requeue j _ _ hw | drop j _ _ hw =>
      obtain rfl := Option.some.inj hi
      exact ⟨_, _, hw, hset hw _, .work _ _ (by simp [Worker.work]) (by simp [Worker.work])⟩
    | release j key hw =>
      obtain rfl := Option.some.inj hi
      exact ⟨_, _, hw, hset hw _, .release key rfl⟩
  · cases hi

/-- A worker stays as it is as long as others make the moves. -/
theorem getElem?_of_other (hx : x.Reachable (.new kind tuning slots start))
    (hmove : x.advance? move = some x') (hw : x.controller.workers[i]? = some w)
    (hi : move.worker? ≠ some i) : x'.controller.workers[i]? = some w := by
  rcases advance?_cases hmove with ⟨call, -, rfl⟩ | ⟨step, c, effects, rfl, -, hdoes, rfl⟩ |
    ⟨position, retry, -, -, rfl⟩
  · rcases x.controller.notify_eq call with hsame | ⟨added, -, hadd⟩
    · rw [hsame]
      exact hw
    · rw [hadd]
      exact hw
  · have hset : ∀ {j : Nat} {w₁ : Worker}, x.controller.workers[j]? = some w₁ → some j ≠ some i →
        ∀ w' : Worker, (x.controller.workers.set j w')[i]? = some w := by
      intro j w₁ hj hne w'
      rw [getElem?_setWorker hj, if_neg fun heq => hne (congrArg some heq)]
      exact hw
    cases hdoes with
    -- before the workers begin there is none to look up
    | begun now deadline hstage =>
      rw [hx.workers_eq_nil (.inr ⟨deadline, false, hstage⟩)] at hw
      cases hw
    | start | late | early | tick | stop | abandon | drain | finish | clear | mature => exact hw
    | exit j hj | take j _ _ hj => exact hset hj hi _
    | fail j _ _ _ hj | skip j _ _ hj => exact hset hj hi _
    | send j found held notification event hj =>
      have hframe := x.controller.frame_keep held.key found (.send notification event)
      show ((x.controller.keep held.key found (.send notification event)).workers.set j _)[i]? = _
      rw [hframe.workers]
      exact hset hj hi _
    | delivered j _ _ _ hj | succeed j _ hj | count j _ _ hj | requeue j _ _ hj | drop j _ _ hj
    | release j _ hj => exact hset hj hi _
  · exact hw

/-- What waits goes on waiting, but for the key in front when it is handed out. -/
theorem waiting_of_move (hx : x.Reachable (.new kind tuning slots start))
    (hmove : x.advance? move = some x') (hopen : x.controller.queue.closed = false) :
    x.controller.queue.waiting <+: x'.controller.queue.waiting ∨
      ∃ (i : Nat) (item : WorkItem), x'.controller.workers[i]? = some (.holding item) ∧
        x.controller.queue.waiting = item.key :: x'.controller.queue.waiting := by
  rcases advance?_cases hmove with ⟨call, -, rfl⟩ | ⟨step, c, effects, rfl, -, hdoes, rfl⟩ |
    ⟨position, retry, -, -, rfl⟩
  · rcases x.controller.notify_eq call with hsame | ⟨added, -, hadd⟩
    · exact .inl (hsame ▸ List.prefix_rfl)
    · rw [hadd]
      exact .inl (x.controller.queue.waiting_prefix_add added)
  -- only the hand-out takes from the front, all else leaves it or adds to the end
  · cases hdoes with
    | start | begun | late | early | tick | stop | abandon | drain | finish | exit | fail | skip
    | delivered | count | requeue => exact .inl List.prefix_rfl
    | send i found held notification event =>
      have hframe := x.controller.frame_keep held.key found (.send notification event)
      refine .inl ?_
      show _ <+: (x.controller.keep held.key found (.send notification event)).queue.waiting
      exact hframe.queue ▸ List.prefix_rfl
    | succeed i held | drop i held =>
      refine .inl ?_
      show _ <+: (x.controller.queue.forget held.key).waiting
      exact (WorkQueue.sameWork_forget _ _).waiting ▸ List.prefix_rfl
    | release i key => exact .inl (x.controller.queue.waiting_prefix_done key)
    | mature retry => exact .inl (x.controller.queue.waiting_prefix_mature retry)
    | clear i hidle htake =>
      rw [hx.consistent.waiting_eq_nil hopen htake]
      exact .inl List.nil_prefix
    | take i queue item hidle htake =>
      obtain ⟨-, rest, hwaiting, rfl⟩ := hx.consistent.eq_of_take htake
      refine .inr ⟨i, item, ?_, hwaiting⟩
      show (x.controller.workers.set i _)[i]? = _
      rw [getElem?_setWorker hidle, if_pos rfl]
  · exact .inl (x.controller.queue.waiting_prefix_mature retry)

/-- Workers that have begun work on while the queue is open. -/
theorem running_of_move (hx : x.Reachable (.new kind tuning slots start))
    (hmove : x.advance? move = some x') (hopen : x'.controller.queue.closed = false)
    (hrunning : x.controller.stage = .running) : x'.controller.stage = .running := by
  have hstaged := staged_move hx.staged hmove
  rcases advance?_cases hmove with ⟨call, -, rfl⟩ | ⟨step, c, effects, rfl, -, hdoes, rfl⟩ |
    ⟨position, retry, -, -, rfl⟩
  · rcases x.controller.notify_eq call with hsame | ⟨added, -, hadd⟩
    · rw [hsame]
      exact hrunning
    · rw [hadd]
      exact hrunning
  · rcases hdoes.stage_cases with (hsame | ⟨_, _, _, hold, -⟩) | ⟨hold, -⟩ | ⟨_, _, -, hold, -⟩ |
      ⟨_, _, _, hold, -⟩ | ⟨-, hnew⟩ | ⟨hold, -⟩
    · exact hsame.trans hrunning
    · cases hold.symm.trans hrunning
    · cases hold.symm.trans hrunning
    · cases hold.symm.trans hrunning
    · cases hold.symm.trans hrunning
    · cases hopen.symm.trans (hstaged.closed_iff.mpr (.inl hnew))
    · cases hold.symm.trans hrunning
  · exact hrunning

/-! ### Runs -/

/-- The states and moves of an endless run that is fair to workers, sinks and backoffs. -/
structure FairRun (run : Nat → Execution) (moves : Nat → Move) : Prop where
  next : ∀ t, (run t).advance? (moves t) = some (run (t + 1))
  /-- The workers begin at some time. -/
  begins : ∃ t, (run t).controller.stage = .running
  /-- At any time, each worker has a move still to come, or comes to where it has none to make. -/
  worker : ∀ i t, ∃ u, t ≤ u ∧ ((moves u).worker? = some i ∨ ¬ (run u).CanGoOn i)
  /-- Each backoff ends. -/
  timer : ∀ r t, ∃ u, t ≤ u ∧ (r ∉ (run u).retries ∨
    ∃ position, moves u = .mature position ∧ (run u).retries[position]? = some r)

variable {run : Nat → Execution} {moves : Nat → Move} {t : Nat}

namespace FairRun

theorem path (h : FairRun run moves) {x : Execution} (hx : run 0 = x) (t : Nat)
    (hdoomed : ∀ t, Doomed key [(run t, moves t)]) :
    ∃ later, Path advance? x later (run t) ∧ Doomed key later := by
  induction t with
  | zero => exact ⟨[], hx ▸ .start, fun _ hp => nomatch hp⟩
  | succ t ih =>
    obtain ⟨later, hpath, hlater⟩ := ih
    refine ⟨(run t, moves t) :: later, .move hpath (h.next t), fun p hp => ?_⟩
    rcases List.mem_cons.mp hp with rfl | hp
    · exact hdoomed t _ List.mem_cons_self
    · exact hlater p hp

theorem reachable (h : FairRun run moves) (hx : (run 0).Reachable (.new kind tuning slots start))
    (t : Nat) : (run t).Reachable (.new kind tuning slots start) := by
  induction t with
  | zero => exact hx
  | succ t ih => exact ih.move (h.next t)

section

variable (h : FairRun run moves) (hx : ∀ t, (run t).Reachable (.new kind tuning slots start))
  (hopen : ∀ t, (run t).controller.queue.closed = false)

include h hx

/-- A worker that can go on as long as it stays as it is does go on. -/
theorem next_move (hw : (run t).controller.workers[i]? = some w)
    (hcan : ∀ u, t ≤ u → (run u).controller.workers[i]? = some w → (run u).CanGoOn i) :
    ∃ u, t ≤ u ∧ (run u).controller.workers[i]? = some w ∧ (moves u).worker? = some i := by
  obtain ⟨u, hu, hfair⟩ := h.worker i t
  obtain ⟨k, rfl⟩ := Nat.exists_eq_add_of_le hu
  induction k generalizing t with
  | zero => exact ⟨t, Nat.le_refl t, hw, hfair.resolve_right (not_not_intro (hcan t hu hw))⟩
  | succ k ih =>
    by_cases hi : (moves t).worker? = some i
    · exact ⟨t, Nat.le_refl t, hw, hi⟩
    · have hw' := getElem?_of_other (hx t) (h.next t) hw hi
      have hlater : t + 1 + k = t + (k + 1) := Nat.add_right_comm t 1 k
      obtain ⟨u, hu, hnext⟩ := ih (t := t + 1) hw' (fun u hu => hcan u (Nat.le_of_succ_le hu))
        (Nat.le_add_right _ _) (hlater ▸ hfair)
      exact ⟨u, Nat.le_of_succ_le hu, hnext⟩

/-- A worker that has something to do goes on. -/
theorem work (sinks : Nat) (hw : (run t).controller.workers[i]? = some w)
    (hwork : w.work sinks ≠ 0) :
    ∃ u, t ≤ u ∧ (run u).controller.workers[i]? = some w ∧ (moves u).worker? = some i := by
  refine h.next_move hx hw fun u _ hw => canGoOn_of_work hw hwork ?_
  rintro item rfl
  exact (hx u).not_mem_delivering_nil item (List.mem_of_getElem? hw)

include hopen

/-- A worker comes to be idle. -/
theorem idle (hw : (run t).controller.workers[i]? = some w) :
    ∃ u, t ≤ u ∧ (run u).controller.workers[i]? = some .idle := by
  generalize hsinks : (Controller.new kind tuning slots start).enabledSinks.length = sinks
  induction hwork : w.work sinks using Nat.strongRecOn generalizing t w with
  | _ work ih =>
    subst hwork
    by_cases hzero : w.work sinks = 0
    · cases w with
      | idle => exact ⟨t, Nat.le_refl t, hw⟩
      | exited => cases (hopen t).symm.trans ((hx t).staged.exited (List.mem_of_getElem? hw))
      | _ => simp [Worker.work] at hzero
    · obtain ⟨u, hu, hw, hi⟩ := h.work hx sinks hw hzero
      obtain ⟨w₁, w', hw₁, hw', hmoves⟩ := moves_of_worker? (hx u) (hopen u) (h.next u) hi
      obtain rfl := Option.some.inj (hw.symm.trans hw₁)
      cases hmoves with
      | take w' => exact ⟨u, hu, hw⟩
      | release key => exact ⟨u + 1, Nat.le_succ_of_le hu, hw'⟩
      | work _ _ _ hless =>
        rw [(hx u).enabledSinks_eq, hsinks] at hless
        obtain ⟨v, hv, hidle⟩ := ih _ hless hw' rfl
        exact ⟨v, by omega, hidle⟩

/-- There comes to be a worker. -/
theorem exists_worker (t : Nat) :
    ∃ u w, t ≤ u ∧ (run u).controller.workers[0]? = some w := by
  obtain ⟨t₀, hbegun⟩ := h.begins
  have hrunning : ∀ u, t₀ ≤ u → (run u).controller.stage = .running := by
    intro u hu
    induction u, hu using Nat.le_induction with
    | base => exact hbegun
    | succ u _ ih => exact running_of_move (hx u) (h.next u) (hopen (u + 1)) ih
  have hcrew := (hx (max t t₀)).staged.crew (hrunning _ (Nat.le_max_right t t₀))
  exact ⟨max t t₀, _, Nat.le_max_left t t₀,
    List.getElem?_eq_getElem (List.length_pos_of_ne_nil hcrew)⟩

/-- Where keys wait all the time, the one in front is handed out. -/
theorem takes (hwaiting : ∀ u, t ≤ u → (run u).controller.queue.waiting ≠ []) :
    ∃ u item, t ≤ u ∧ (run (u + 1)).controller.workers[0]? = some (.holding item) ∧
      (run u).controller.queue.waiting = item.key :: (run (u + 1)).controller.queue.waiting := by
  obtain ⟨u₀, w, hu₀, hw⟩ := h.exists_worker hx hopen t
  obtain ⟨u₁, hu₁, hidle⟩ := h.idle hx hopen hw
  obtain ⟨u, hu, hidle, hi⟩ := h.next_move hx hidle fun u hu hidle =>
    canGoOn_of_idle (hx u) (hopen u) hidle (hwaiting u (by omega))
  obtain ⟨w, w', hw, hw', hmoves⟩ := moves_of_worker? (hx u) (hopen u) (h.next u) hi
  obtain rfl := Option.some.inj (hidle.symm.trans hw)
  cases hmoves with
  | take _ htakes =>
    obtain ⟨item, rfl, hfront⟩ := htakes (hwaiting u (by omega))
    exact ⟨u, item, by omega, hw', hfront⟩
  | work _ _ hmany => simp [Worker.work] at hmany

/-- A key that waits is handed out. -/
theorem handed_out {before behind : List String}
    (hwaiting : (run t).controller.queue.waiting = before ++ key :: behind) :
    ∃ (u i : Nat) (item : WorkItem), t ≤ u ∧
      (run u).controller.workers[i]? = some (.holding item) ∧ item.key = key := by
  induction hlength : before.length using Nat.strongRecOn generalizing t before behind with
  | _ length ih =>
    subst hlength
    by_contra hnever
    -- as long as it is not handed out, it does not fall back
    have hwaits : ∀ u, t ≤ u → ∃ b c, (run u).controller.queue.waiting = b ++ key :: c ∧
        b.length ≤ before.length := by
      intro u hu
      induction u, hu using Nat.le_induction with
      | base => exact ⟨before, behind, hwaiting, Nat.le_refl _⟩
      | succ u hu ihu =>
        obtain ⟨b, c, hb, hle⟩ := ihu
        rcases waiting_of_move (hx u) (h.next u) (hopen u) with ⟨more, hmore⟩ |
          ⟨i, item, hheld, hfront⟩
        · exact ⟨b, c ++ more, by rw [← hmore, hb]; simp, hle⟩
        · rw [hb] at hfront
          cases b with
          | nil =>
            exact absurd ⟨u + 1, i, item, Nat.le_succ_of_le hu, hheld,
              (List.cons.inj hfront).1.symm⟩ hnever
          | cons front b =>
            exact ⟨b, c, (List.cons.inj hfront).2.symm, Nat.le_of_succ_le hle⟩
    obtain ⟨u, item, hu, hheld, hfront⟩ := h.takes hx hopen (t := t) fun u hu => by
      obtain ⟨b, c, hb, -⟩ := hwaits u hu
      rw [hb]
      simp
    obtain ⟨b, c, hb, hle⟩ := hwaits u hu
    rw [hb] at hfront
    cases b with
    | nil =>
      exact hnever ⟨u + 1, 0, item, Nat.le_succ_of_le hu, hheld, (List.cons.inj hfront).1.symm⟩
    | cons front b =>
      obtain ⟨v, i, held, hv, hrest⟩ :=
        ih b.length hle (List.cons.inj hfront).2.symm rfl
      exact hnever ⟨v, i, held, by omega, hrest⟩

/-- A worker that is about to release its key does so. -/
theorem releases (hw : (run t).controller.workers[i]? = some (.releasing key)) :
    ∃ u, t ≤ u ∧ (run (u + 1)).controller.queue = ((run u).controller.queue.done key).1 := by
  obtain ⟨u, hu, hw, hi⟩ := h.work hx 0 hw (by simp [Worker.work])
  obtain ⟨w, w', hw₁, -, hmoves⟩ := moves_of_worker? (hx u) (hopen u) (h.next u) hi
  obtain rfl := Option.some.inj (hw.symm.trans hw₁)
  cases hmoves with
  | release _ hqueue => exact ⟨u, hu, hqueue⟩
  | work _ _ hmany => simp [Worker.work] at hmany

/-! ### A failing item -/

/-- An item that is parked comes to wait. -/
theorem comes_to_wait (hpending : ∀ u, t ≤ u → key ∈ (run u).controller.queue.items)
    (hworkers : ∀ (i : Nat) (w : Worker), (run t).controller.workers[i]? = some w →
      ¬ w.Attempts key) : ∃ u, t ≤ u ∧ key ∈ (run u).controller.queue.waiting := by
  rcases (hx t).consistent.tracked (hopen t) key (hpending t (Nat.le_refl t)) with
    hwaiting | hprocessing
  · exact ⟨t, Nat.le_refl t, hwaiting⟩
  · obtain ⟨i, w, hw, hkey⟩ := ((hx t).processing_iff key).mp hprocessing
    obtain rfl := eq_releasing (hworkers i w hw) hkey
    obtain ⟨u, hu, hqueue⟩ := h.releases hx hopen hw
    refine ⟨u + 1, Nat.le_succ_of_le hu, ?_⟩
    rw [hqueue, WorkQueue.done_fst]
    simp [hpending u hu, hopen u]

variable (hdoomed : ∀ t, Doomed item.key [(run t, moves t)])

include hdoomed

/-- An item that never comes closer to its end stays where it is. -/
theorem stays (hshows : (run t).Shows item.key s)
    (hstands : Stands tuning.maxRetries.toNat item n s)
    (hnever : ¬ ∃ u n' s', t ≤ u ∧ (run u).Shows item.key s' ∧
      Stands tuning.maxRetries.toNat item n' s' ∧
      s'.left tuning.maxRetries.toNat < s.left tuning.maxRetries.toNat)
    {u : Nat} (hu : t ≤ u) : (run u).Shows item.key s := by
  have hstays : (run u).Shows item.key s ∧ ∃ n, Stands tuning.maxRetries.toNat item n s := by
    induction u, hu using Nat.le_induction with
    | base => exact ⟨hshows, n, hstands⟩
    | succ u hu ih =>
      obtain ⟨hsame, m, hm⟩ := ih
      obtain ⟨hquiet, hfails⟩ := hdoomed u _ List.mem_cons_self
      obtain ⟨s', hshows', hstands', rfl | hless⟩ :=
        stands_move (hx u) hsame hm (h.next u) (hopen (u + 1)) hquiet hfails
      · exact ⟨hshows', _, hstands'⟩
      · exact absurd ⟨u + 1, _, s', Nat.le_succ_of_le hu, hshows', hstands', hless⟩ hnever
  exact hstays.1

/-- As long as it is not at its end, a failing item comes closer to it. -/
theorem comes_closer (hshows : (run t).Shows item.key s)
    (hstands : Stands tuning.maxRetries.toNat item n s)
    (hleft : s.left tuning.maxRetries.toNat ≠ 0) :
    ∃ u n' s', t ≤ u ∧ (run u).Shows item.key s' ∧ Stands tuning.maxRetries.toNat item n' s' ∧
      s'.left tuning.maxRetries.toNat < s.left tuning.maxRetries.toNat := by
  by_contra hnever
  have hstays : ∀ {u}, t ≤ u → (run u).Shows item.key s :=
    h.stays hx hopen hdoomed hshows hstands hnever
  -- a worker that is at work on the item goes on, and is not what it was
  have hbusy : ∀ {i : Nat} {w : Worker}, s.worker ≠ some (i, w) := by
    intro i w hseen
    obtain ⟨hw, hat⟩ := (hshows.worker i w).mpr hseen
    obtain ⟨u, hu, hw, hi⟩ := h.work hx 0 hw (Nat.ne_of_gt (Nat.lt_of_succ_lt (hat.work 0)))
    obtain ⟨w₁, w', hw₁, hw', hmoves⟩ := moves_of_worker? (hx u) (hopen u) (h.next u) hi
    obtain rfl := Option.some.inj (hw.symm.trans hw₁)
    obtain ⟨hsame, -⟩ := ((hstays (Nat.le_succ_of_le hu)).worker i w).mpr hseen
    obtain rfl := Option.some.inj (hsame.symm.trans hw')
    cases hmoves with
    | take => cases hat
    | work _ _ _ hless => exact Nat.lt_irrefl _ hless
  cases hstands with
  | pending n added hn =>
    have hitem : ∀ u, t ≤ u → item.key ∈ (run u).controller.queue.items := by
      intro u hu
      rw [Std.TreeMap.mem_iff_isSome_getElem?, (hstays hu).pending]
      rfl
    obtain ⟨u, hu, hmem⟩ := h.comes_to_wait hx hopen hitem fun i w hw hat =>
      hbusy ((hshows.worker i w).mp ⟨hw, hat⟩)
    obtain ⟨before, behind, hsplit⟩ := List.append_of_mem hmem
    obtain ⟨v, i, held, hv, hheld, hkey⟩ := h.handed_out hx hopen hsplit
    exact hbusy ((hstays (Nat.le_trans hu hv)).seen hheld rfl hkey)
  | held | failed | counted => exact hbusy rfl
  | backingOff n added hn =>
    obtain ⟨u, hu, hfair⟩ := h.timer ⟨item, added⟩ t
    have hsole : (run u).retries.filter (·.item.key = item.key) = [⟨item, added⟩] :=
      (hstays hu).retries
    have hmem : (⟨item, added⟩ : Retry) ∈ (run u).retries := by
      have hfilter := List.mem_singleton_self (⟨item, added⟩ : Retry)
      rw [← hsole] at hfilter
      exact (List.mem_filter.mp hfilter).1
    obtain ⟨position, hmove, hposition⟩ := hfair.resolve_left (not_not_intro hmem)
    have hnext := h.next u
    rw [hmove] at hnext
    rcases advance?_cases hnext with ⟨_, hother, -⟩ | ⟨_, _, _, hother, -⟩ | ⟨p, r, hp, -, hrun⟩
    · cases hother
    · cases hother
    · obtain rfl := Move.mature.inj hp
      obtain ⟨-, hnone⟩ := WorkQueue.filter_eraseIdx_of_sole (by simp) hposition hsole
      have hsole' := (hstays (Nat.le_succ_of_le hu)).retries
      rw [hrun] at hsole'
      cases hnone.symm.trans hsole'
  | gone added => exact hleft rfl

/-- A failing item comes to its end. -/
theorem comes_to_end (hshows : (run t).Shows item.key s)
    (hstands : Stands tuning.maxRetries.toNat item n s) :
    ∃ u, t ≤ u ∧ ¬ (run u).Outstanding item.key := by
  -- induction on what is left to the item, which fair moves lower until nothing is
  induction hleft : s.left tuning.maxRetries.toNat using Nat.strongRecOn generalizing t n s with
  | _ left ih =>
    subst hleft
    by_cases hzero : s.left tuning.maxRetries.toNat = 0
    · have hstays : ∀ {u}, t ≤ u → (run u).Shows item.key s :=
        h.stays hx hopen hdoomed hshows hstands (by simp [hzero])
      cases hstands with
      | gone added =>
        -- given up, but the worker may still have to release the key
        by_cases hprocessing : item.key ∈ (run t).controller.queue.processing
        · obtain ⟨i, w, hw, hkey⟩ := ((hx t).processing_iff item.key).mp hprocessing
          have hat : ¬ w.Attempts item.key := fun hat => by
            cases (hshows.worker i w).mp ⟨hw, hat⟩
          obtain rfl := eq_releasing hat hkey
          obtain ⟨u, hu, hqueue⟩ := h.releases hx hopen hw
          refine ⟨u + 1, Nat.le_succ_of_le hu,
            (hstays (Nat.le_succ_of_le hu)).not_outstanding (hx (u + 1)) rfl rfl ?_⟩
          rw [hqueue, WorkQueue.done_fst]
          simp
        · exact ⟨t, Nat.le_refl t, hshows.not_outstanding (hx t) rfl rfl hprocessing⟩
      | _ => cases hzero
    · obtain ⟨u, n', s', hu, hshows', hstands', hless⟩ :=
        h.comes_closer hx hopen hdoomed hshows hstands hzero
      obtain ⟨v, hv, hgone⟩ := ih _ hless hshows' hstands' rfl
      exact ⟨v, Nat.le_trans hu hv, hgone⟩

end

end FairRun

/-! ### There are fair runs -/

/-- A sequence that begins one earlier. -/
def earlier {α : Type} (a : α) (f : Nat → α) : Nat → α
  | 0 => a
  | t + 1 => f t

/-- A fair run can begin a move earlier. -/
theorem FairRun.earlier (h : FairRun run moves) (hmove : x.advance? move = some (run 0)) :
    FairRun (earlier x run) (earlier move moves) where
  next
    | 0 => hmove
    | t + 1 => h.next t
  begins := by
    obtain ⟨t, ht⟩ := h.begins
    exact ⟨t + 1, ht⟩
  worker i t := by
    obtain ⟨u, hu, hfair⟩ := h.worker i t
    exact ⟨u + 1, Nat.le_succ_of_le hu, hfair⟩
  timer r t := by
    obtain ⟨u, hu, hfair⟩ := h.timer r t
    exact ⟨u + 1, Nat.le_succ_of_le hu, hfair⟩

/-- A way that leads to a fair run is part of one. -/
theorem fairRun_of_path (h : Path advance? x past y) (hfair : FairRun run moves)
    (hrun : run 0 = y) :
    ∃ run' moves', FairRun run' moves' ∧ run' 0 = x ∧
      ∀ t, (run' t, moves' t) ∈ past ∨ ∃ u, run' t = run u ∧ moves' t = moves u := by
  induction h generalizing run moves with
  | start => exact ⟨run, moves, hfair, hrun, fun t => .inr ⟨t, rfl, rfl⟩⟩
  | @move past y z move hpath hmove ih =>
    obtain ⟨run', moves', hfair', hfirst, hall⟩ := ih (hfair.earlier (hrun ▸ hmove)) rfl
    refine ⟨run', moves', hfair', hfirst, fun t => ?_⟩
    rcases hall t with hmem | ⟨u, hsame, hmoves⟩
    · exact .inl (List.mem_cons_of_mem _ hmem)
    · cases u with
      | zero =>
        rw [hsame, hmoves]
        exact .inl List.mem_cons_self
      | succ u => exact .inr ⟨u, hsame, hmoves⟩

/-- The workers have nothing to do. -/
structure AtRest (x : Execution) : Prop where
  stage : x.controller.stage = .running
  workers : ∀ w ∈ x.controller.workers, w = .idle
  isOpen : x.controller.queue.closed = false
  waiting : x.controller.queue.waiting = []
  retries : x.retries = []

theorem AtRest.not_canGoOn (h : x.AtRest) (i : Nat) : ¬ x.CanGoOn i := by
  rintro ⟨move, hi, hsome⟩
  obtain ⟨x', hmove⟩ := Option.isSome_iff_exists.mp hsome
  have hidle : ∀ {j : Nat} {w : Worker}, x.controller.workers[j]? = some w → w = .idle :=
    fun hw => h.workers _ (List.mem_of_getElem? hw)
  rcases advance?_cases hmove with ⟨call, rfl, -⟩ | ⟨step, c, effects, rfl, -, hdoes, rfl⟩ |
    ⟨position, retry, rfl, -, -⟩
  · cases hi
  · cases hdoes with
    | start | begun | late | early | tick | stop | abandon | drain | finish | mature => cases hi
    | exit j hw hclosed => cases h.isOpen.symm.trans hclosed
    | clear j hw htake => simp [advance?, Controller.step, stepTake, hw, htake, h.waiting] at hmove
    | take j queue item hw htake =>
      simp [WorkQueue.take, WorkQueue.takeFrom, h.isOpen, h.waiting] at htake
    | fail _ _ _ _ hw | skip _ _ _ hw | send _ _ _ _ _ hw | delivered _ _ _ _ hw
    | succeed _ _ hw | count _ _ _ hw | requeue _ _ _ hw | drop _ _ _ hw | release _ _ hw =>
      cases hidle hw
  · cases hi

/-- A notification that says nothing new. -/
def stale (key : String) : Move :=
  .notify (.update key (some "") (some ""))

/-- An execution that gets nothing but notifications that say nothing new. -/
def resting (x : Execution) : Nat → Execution
  | 0 => x
  | t + 1 => { resting x t with controller := (resting x t).controller.record .updateSkipped }

theorem AtRest.resting (h : x.AtRest) (t : Nat) : (x.resting t).AtRest := by
  induction t with
  | zero => exact h
  | succ t ih => exact ⟨ih.stage, ih.workers, ih.isOpen, ih.waiting, ih.retries⟩

/-- Where the workers have nothing to do, a run can go on in a fair way. -/
theorem AtRest.fairRun (h : x.AtRest) (key : String) : FairRun x.resting fun _ => stale key where
  next _ := rfl
  begins := ⟨0, h.stage⟩
  worker i t := ⟨t, Nat.le_refl t, .inr ((h.resting t).not_canGoOn i)⟩
  timer r t := ⟨t, Nat.le_refl t, .inl (by simp [(h.resting t).retries])⟩

/-- **Items that fail are queued again a bounded number of times.** The count of a key's failures is
the number of its failures since its last success or drop, and no more than items are queued again.
When the result of an attempt is handled, a success clears the count, a failure of a key that has
failed that often has the item dropped and clears the count, and any other failure has the item
queued again after the backoff for the count.

Take an item that has not failed before and is all there is of its key, and let it fail whenever it
is attempted, while the queue is open and nothing new comes in for the key. There is never an
attempt beyond one more than items are queued again. Once nothing is left of the key, there were
exactly that many, and the count is clear. At any time before, the controller can go on until
nothing is left, if its run has begun or can begin, and every fair run does so. -/
theorem requeues_bounded
    (h : Path advance? { controller := .new kind tuning slots start } past x) :
    (∀ key, x.controller.queue.failureCount key = failuresSince key (handlings past) ∧
      x.controller.queue.failureCount key ≤ tuning.maxRetries.toNat) ∧
    (∀ move x' a, x.advance? move = some x' → handling? (x, move) = some a →
      ∃ v, lastVisit? a.worker (visits past) = some v ∧ v.item = a.item ∧
        a.verdict = verdict tuning (x.controller.queue.failureCount a.item.key) v.failure? ∧
        (a.verdict = .dropped → a.item.key ∉ x'.controller.queue.failures) ∧
        ∀ delay, a.verdict = .requeued delay →
          ∃ seen, x'.retries = x.retries ++ [⟨a.item, seen⟩]) ∧
    ∀ item, x.Fresh item → ∀ since y, Path advance? x since y →
      y.controller.queue.closed = false → Doomed item.key since →
        (∀ v ∈ visits since, v.item.key = item.key → v.item = item) ∧
        attempts item.key since ≤ tuning.maxRetries.toNat + 1 ∧
        (¬ y.Outstanding item.key → attempts item.key since = tuning.maxRetries.toNat + 1 ∧
          y.controller.queue.failureCount item.key = 0) ∧
        (y.controller.CanBegin → ∃ later z, Path advance? y later z ∧
          z.controller.queue.closed = false ∧ Doomed item.key later ∧
          ¬ z.Outstanding item.key) ∧
        ∀ run moves, FairRun run moves → run 0 = y →
          (∀ t, (run t).controller.queue.closed = false ∧ Doomed item.key [(run t, moves t)]) →
          ∃ t later, Path advance? y later (run t) ∧ ¬ (run t).Outstanding item.key ∧
            attempts item.key (later ++ since) = tuning.maxRetries.toNat + 1 := by
  have hx := reachable_of_path h
  refine ⟨fun key => ⟨failureCount_eq h key, hx.failureCount_le key⟩,
    fun move x' a hmove ha => handled_cases h hmove ha,
    fun item hfresh since y hpath hopen hdoomed => ?_⟩
  obtain ⟨s, hshows, hstands⟩ := hfresh.stands hx
  -- every way from the fresh item keeps the count of its attempts
  have hall : ∀ {later z}, Path advance? x later z → z.controller.queue.closed = false →
      Doomed item.key later → (∀ v ∈ visits later, v.item.key = item.key → v.item = item) ∧
        ∃ s', z.Shows item.key s' ∧
          Stands tuning.maxRetries.toNat item (attempts item.key later) s' := by
    intro later z hlater hopen' hdoomed'
    obtain ⟨hitems, s', hshows', hstands', -⟩ :=
      stands_of_path hx hshows hstands hlater hopen' hdoomed'
    rw [Nat.zero_add] at hstands'
    exact ⟨hitems, s', hshows', hstands'⟩
  obtain ⟨hitems, s', hshows', hstands'⟩ := hall hpath hopen hdoomed
  have hy := hx.path hpath
  refine ⟨hitems, hstands'.le, fun hgone => hshows'.of_not_outstanding hy hstands' hgone,
    fun hbegin => ?_, fun run moves hfair hrun hquiet => ?_⟩
  · obtain ⟨z, ⟨later, hlater, hopen', hdoomed'⟩, hgone⟩ :=
      goes_end hy hopen hbegin hshows' hstands'
    exact ⟨later, z, hlater, hopen', hdoomed', hgone⟩
  -- in a fair run no choice of moves is needed: the item comes to its end by itself
  have hreachable := hfair.reachable (hrun ▸ hy)
  obtain ⟨t, -, hgone⟩ := hfair.comes_to_end hreachable (fun t => (hquiet t).1)
    (fun t => (hquiet t).2) (hrun.symm ▸ hshows') hstands'
  obtain ⟨later, hlater, hdoomed'⟩ := hfair.path hrun t fun t => (hquiet t).2
  obtain ⟨-, s'', hshows'', hstands''⟩ := hall (hpath.append hlater) (hquiet t).1 fun p hp =>
    (List.mem_append.mp hp).elim (hdoomed' p) (hdoomed p)
  exact ⟨t, later, hlater, hgone,
    (hshows''.of_not_outstanding (hreachable t) hstands'' hgone).1⟩

/-- An item may fail once more after its first failure. It does, and is dropped the second time,
while another worker succeeds with another key and a notification for that key comes in. A fair run
that begins in this way is one of those in which the item comes to its end. -/
theorem requeues_bounded_twice :
    let item : WorkItem := ⟨"ns/x", .secrets, .create, some "1"⟩
    let tuning : Tuning := { workers := 2, maxRetries := 1 }
    ∃ past x since y, Path advance? { controller := .new .secrets tuning [] (.ofSecond 0) } past x ∧
      x.Fresh item ∧ Path advance? x since y ∧ Doomed "ns/x" since ∧
      y.controller.queue.closed = false ∧ ¬ y.Outstanding "ns/x" ∧
      handlings (since ++ past) =
        [⟨0, ⟨"ns/y", .secrets, .create, some "2"⟩, .succeeded⟩, ⟨1, item, .dropped⟩,
          ⟨1, ⟨"ns/y", .secrets, .create, some "1"⟩, .succeeded⟩,
          ⟨0, item, .requeued (.ofMillis 5)⟩] ∧
      attempts "ns/x" since = 2 ∧ y.controller.queue.failureCount "ns/x" = 0 ∧
      ∃ run moves, FairRun run moves ∧ run 0 = x ∧
        ∃ t later, Path advance? x later (run t) ∧ ¬ (run t).Outstanding "ns/x" ∧
          attempts "ns/x" later = 2 := by
  intro item tuning
  let before : List Move := [.act (.start 0), .act (.check 0 true),
    .notify (.add "ns/x" (some "1")), .notify (.add "ns/y" (some "1"))]
  let moves : List Move := [.act (.take 0), .act (.take 1),
    .act (.begin 0 (.error (.cache "ns/x" "down"))), .act (.begin 1 (.ok none)), .act (.settle 0),
    .notify (.add "ns/y" (some "2")), .act (.requeue 0), .act (.release 0), .act (.settle 1),
    .mature 0, .act (.release 1), .act (.take 1), .act (.begin 1 (.error (.cache "ns/x" "down"))),
    .act (.settle 1), .act (.requeue 1), .act (.release 1), .act (.take 0),
    .act (.begin 0 (.ok none)), .act (.settle 0), .act (.release 0)]
  let quiet (p : Execution × Move) : Bool :=
    !p.1.controller.queue.closed && (match p.2 with
      | .notify call => call.key ≠ "ns/x"
      | _ => true) && (visit? p).all fun v => v.item.key ≠ "ns/x" || !v.found.isOk
  let run := (before.foldlM (follow? advance?)
    ([], { controller := .new .secrets tuning [] (.ofSecond 0) })).bind fun way =>
      (moves.foldlM (follow? advance?) ([], way.2)).map fun later => (way, later)
  have hfirst : run.map (fun r => (r.1.2.controller.queue.failureCount "ns/x", r.1.2.retries,
      r.1.2.controller.queue.items["ns/x"]?, r.1.2.controller.workers)) =
      some (0, [], some item, [.idle, .idle]) := by decide
  have hsince : run.map (fun r => (r.2.1.all quiet, handlings (r.2.1 ++ r.1.1))) =
      some (true, [⟨0, ⟨"ns/y", .secrets, .create, some "2"⟩, .succeeded⟩, ⟨1, item, .dropped⟩,
          ⟨1, ⟨"ns/y", .secrets, .create, some "1"⟩, .succeeded⟩,
          ⟨0, item, .requeued (.ofMillis 5)⟩]) := by decide +kernel
  have hlast : run.map (fun r => (r.2.2.controller.queue.closed, r.2.2.controller.queue.waiting,
      r.2.2.controller.queue.items["ns/x"]?, r.2.2.controller.queue.processing.contains "ns/x",
      r.2.2.retries)) = some (false, [], none, false, []) := by decide
  have hlazy : run.map (fun r => (r.2.2.controller.stage, r.2.2.controller.workers)) =
      some (.running, [.idle, .idle]) := by decide
  obtain ⟨⟨⟨past, x⟩, ⟨since, y⟩⟩, hrun, hshown⟩ := Option.map_eq_some_iff.mp hfirst
  obtain ⟨way, hway, hrest⟩ := Option.bind_eq_some_iff.mp hrun
  obtain ⟨later, hlater, heq⟩ := Option.map_eq_some_iff.mp hrest
  obtain ⟨rfl, rfl⟩ := Prod.mk.inj heq
  have hpath := path_of_follow? .start hway
  have hpath' := path_of_follow? .start hlater
  rw [hrun] at hsince hlast hlazy
  simp only [Option.map_some, Option.some.injEq, Prod.mk.injEq] at hshown hsince hlast hlazy
  obtain ⟨hfailures, hretries, hitem, hworkers⟩ := hshown
  obtain ⟨hquiet, hhandlings⟩ := hsince
  obtain ⟨hopen, hwaiting, hgone, hreleased, hnone⟩ := hlast
  obtain ⟨hstage, hidle⟩ := hlazy
  have hfresh : x.Fresh item := by
    refine ⟨hfailures, fun r hr => ?_, .inl ⟨hitem, fun i w hw => ?_⟩⟩
    · rw [hretries] at hr
      cases hr
    · have hidle : w = .idle := by
        simpa [hworkers] using List.mem_of_getElem? hw
      exact hidle ▸ Worker.not_attempts rfl
  have hall : ∀ p ∈ since, p.1.controller.queue.closed = false ∧ Doomed "ns/x" [p] := by
    intro p hp
    have hp := List.all_eq_true.mp hquiet p hp
    simp only [quiet, Bool.and_eq_true, Bool.not_eq_true'] at hp
    obtain ⟨⟨hopen, hother⟩, hfails⟩ := hp
    refine ⟨hopen, fun p' hp' => ?_⟩
    obtain rfl := List.mem_singleton.mp hp'
    refine ⟨fun call hcall => ?_, fun v hv hkey => ?_⟩
    · simpa [hcall] using hother
    · rw [hv] at hfails
      cases hfound : v.found with
      | error fault => exact ⟨fault, rfl⟩
      | ok object => simp [hfound, hkey, Except.isOk, Except.toBool] at hfails
  have hdoomed : Doomed "ns/x" since := fun p hp => (hall p hp).2 p (List.mem_singleton_self p)
  have hleft : ¬ y.Outstanding "ns/x" := by
    rintro (hmem | hmem | hmem | ⟨r, hr, -⟩)
    · simp [hwaiting] at hmem
    · simp [Std.TreeMap.mem_iff_isSome_getElem?, hgone] at hmem
    · rw [Std.TreeSet.mem_iff_contains, hreleased] at hmem
      cases hmem
    · simp [hnone] at hr
  -- when all is done, a fair run gets nothing but notifications that say nothing new
  have hatRest : y.AtRest := ⟨hstage, by simp [hidle], hopen, hwaiting, hnone⟩
  obtain ⟨run', moves', hfair, hrun', hmade⟩ :=
    fairRun_of_path hpath' (hatRest.fairRun "ns/q") rfl
  have hkept : ∀ t, (run' t).controller.queue.closed = false ∧
      Doomed "ns/x" [(run' t, moves' t)] := by
    intro t
    rcases hmade t with hmem | ⟨u, hsame, hmove⟩
    · exact hall _ hmem
    · rw [hsame, hmove]
      refine ⟨(hatRest.resting u).isOpen, fun p hp => ?_⟩
      obtain rfl := List.mem_singleton.mp hp
      refine ⟨fun call hcall => ?_, fun v hv => nomatch hv⟩
      obtain rfl := Move.notify.inj hcall
      decide
  obtain ⟨-, -, hattempts⟩ := requeues_bounded hpath
  obtain ⟨-, -, hcounts, -, -⟩ := hattempts item hfresh since y hpath' hopen hdoomed
  have hxopen : x.controller.queue.closed = false :=
    (congrArg (·.controller.queue.closed) hrun').symm.trans (hkept 0).1
  obtain ⟨-, -, -, -, hfairly⟩ := hattempts item hfresh [] x .start hxopen fun _ hp => nomatch hp
  obtain ⟨t, later, hfairPath, hfairGone, hfairCount⟩ := hfairly run' moves' hfair hrun' hkept
  rw [List.append_nil] at hfairCount
  obtain ⟨htwice, hclear⟩ := hcounts hleft
  exact ⟨past, x, since, y, hpath, hfresh, hpath', hdoomed, hopen, hleft, hhandlings, htwice,
    hclear, run', moves', hfair, hrun', t, later, hfairPath, hfairGone, hfairCount⟩

end Execution

end Controller

end ClusterWatch
