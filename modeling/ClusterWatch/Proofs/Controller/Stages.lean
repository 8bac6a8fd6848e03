import ClusterWatch.Proofs.Controller.Execution
/-!
# The stages of a controller

How the stage of a run, its workers and its queue go together, whatever comes in between.

- `SameSettings`: what a controller was made with is never changed.
- `closed_add`, `closed_mature`: only the run shuts the queue down.
- `Does.stage_cases`: what a step does to the stage.
- `Staged`: the invariants. The queue is closed from the moment on when the workers are to finish, a
  worker exits only after that, and the run ends when all have.

Main result: `Execution.Reachable.staged`.
-/

namespace ClusterWatch

namespace WorkQueue

/-- A notification does not shut the queue down. -/
@[simp] theorem closed_add (q : WorkQueue) (item : WorkItem) :
    (q.add item).1.closed = q.closed := by
  by_cases hclosed : q.closed = true
  · rw [add_of_closed hclosed]
  · rw [add_of_open (Bool.eq_false_iff.mpr hclosed), closed_insert]

/-- The end of a backoff does not shut the queue down. -/
@[simp] theorem closed_mature (q : WorkQueue) (r : Retry) : (q.mature r).1.closed = q.closed := by
  by_cases hadmits : q.Admits r
  · rw [mature_of_admits hadmits, closed_insert, (sameWork_endRetry q r.item.key).closed]
  · exact (sameWork_mature hadmits).closed

end WorkQueue

namespace Controller

variable {c c' : Controller} {step : Step} {effects : List Effect}

/-! ### Settings -/

/-- Two controllers that were made alike. -/
structure SameSettings (c c' : Controller) : Prop where
  kind : c'.kind = c.kind
  tuning : c'.tuning = c.tuning
  slots : c'.slots = c.slots
  start : c'.start = c.start

theorem SameSettings.trans {c₁ c₂ c₃ : Controller} (h : c₁.SameSettings c₂)
    (h' : c₂.SameSettings c₃) : c₁.SameSettings c₃ :=
  ⟨h'.kind.trans h.kind, h'.tuning.trans h.tuning, h'.slots.trans h.slots, h'.start.trans h.start⟩

theorem Does.sameSettings (h : c.Does step c' effects) : c.SameSettings c' := by
  cases h with
  | send i found item notification event =>
    have hframe := c.frame_keep item.key found (.send notification event)
    exact ⟨hframe.kind, hframe.tuning, hframe.slots, hframe.start⟩
  | _ => exact ⟨rfl, rfl, rfl, rfl⟩

/-- What a notification does to a controller: at most an item is added. -/
theorem notify_eq (c : Controller) (call : Watch.Call) :
    call.notify c = c.record .updateSkipped ∨
      ∃ item, item.key = call.key ∧ call.notify c = { c with queue := (c.queue.add item).1 } := by
  cases call with
  | add key version => exact .inr ⟨⟨key, c.kind, .create, version⟩, rfl, rfl⟩
  | delete key version => exact .inr ⟨⟨key, c.kind, .delete, version⟩, rfl, rfl⟩
  | update key old new =>
    by_cases hsame : old.isSome ∧ old = new
    · exact .inl (if_pos hsame)
    · exact .inr ⟨⟨key, c.kind, .update, new⟩, rfl, if_neg hsame⟩

/-- A notification changes neither the settings nor the stage, and it is no request to stop. -/
theorem notify_frame (c : Controller) (call : Watch.Call) :
    c.SameSettings (call.notify c) ∧ (call.notify c).stopRequested = c.stopRequested ∧
      (call.notify c).stage = c.stage := by
  rcases c.notify_eq call with hsame | ⟨item, -, hadd⟩
  · rw [hsame]
    exact ⟨⟨rfl, rfl, rfl, rfl⟩, rfl, rfl⟩
  · rw [hadd]
    exact ⟨⟨rfl, rfl, rfl, rfl⟩, rfl, rfl⟩

/-! ### Stages, workers and the queue -/

/-- How the stage, the workers and the queue of a controller go together. -/
structure Staged (c : Controller) : Prop where
  closed_iff : c.queue.closed = true ↔
    c.stage = .draining ∨ ∃ failure, c.stage = .stopped failure
  /-- There are no workers before the cache is complete. -/
  early : c.stage = .initializing ∨ (∃ deadline resting, c.stage = .syncing deadline resting) →
    c.workers = []
  crew : c.stage = .running → c.workers ≠ []
  /-- A worker exits only from a queue that was shut down. -/
  exited : Worker.exited ∈ c.workers → c.queue.closed = true
  ended : ∀ failure, c.stage = .stopped failure → ∀ w ∈ c.workers, w = .exited

theorem staged_new (kind : Resource.Kind) (tuning : Tuning) (slots : List Sink.Slot)
    (start : Time.Instant) : (Controller.new kind tuning slots start).Staged where
  closed_iff := by simp [Controller.new]
  early := fun _ => rfl
  crew := fun h => by simp [Controller.new] at h
  exited := fun h => by simp [Controller.new] at h
  ended := fun _ h => by simp [Controller.new] at h

/-- The stage and the workers stay as they are, and so does whether the queue is closed. -/
theorem Staged.same (h : c.Staged) (hstage : c'.stage = c.stage) (hworkers : c'.workers = c.workers)
    (hclosed : c'.queue.closed = c.queue.closed) : c'.Staged where
  closed_iff := by rw [hclosed, hstage]; exact h.closed_iff
  early := by rw [hstage, hworkers]; exact h.early
  crew := by rw [hstage, hworkers]; exact h.crew
  exited := by rw [hworkers, hclosed]; exact h.exited
  ended := by rw [hstage, hworkers]; exact h.ended

/-- A worker that has not exited goes on, and does not exit while the queue is open. -/
theorem Staged.work (h : c.Staged) {i : Nat} {w w' : Worker} (hw : c.workers[i]? = some w)
    (hbusy : w ≠ .exited) (hexit : w' = .exited → c.queue.closed = true)
    (hstage : c'.stage = c.stage) (hworkers : c'.workers = c.workers.set i w')
    (hclosed : c'.queue.closed = c.queue.closed) : c'.Staged := by
  have hmem := List.mem_of_getElem? hw
  constructor
  · rw [hclosed, hstage]
    exact h.closed_iff
  · intro hearly
    rw [hstage] at hearly
    rw [hworkers, h.early hearly]
    rfl
  · intro hrunning
    rw [hstage] at hrunning
    rw [hworkers]
    simpa using h.crew hrunning
  · intro hexited
    rw [hworkers] at hexited
    rw [hclosed]
    rcases List.mem_or_eq_of_mem_set hexited with hold | hnew
    · exact h.exited hold
    · exact hexit hnew.symm
  · intro failure hstopped
    rw [hstage] at hstopped
    exact absurd (h.ended failure hstopped w hmem) hbusy

/-- Each step keeps the invariants. -/
theorem Staged.does (h : c.Staged) (hdoes : c.Does step c' effects) : c'.Staged := by
  -- the queue is open until the run drains or ends
  have hopen : (c.stage = .initializing ∨
      (∃ deadline resting, c.stage = .syncing deadline resting) ∨ c.stage = .running) →
      c.queue.closed = false := by
    intro hstage
    rw [← Bool.not_eq_true, h.closed_iff]
    rcases hstage with hstage | ⟨deadline, resting, hstage⟩ | hstage <;> simp [hstage]
  cases hdoes with
  | start now hstage =>
    have hworkers := h.early (.inl hstage)
    constructor <;> simp [hworkers, hopen (.inl hstage)]
  | begun now deadline hstage =>
    have hclosed := hopen (.inr (.inl ⟨deadline, false, hstage⟩))
    have hcrew : max c.tuning.workers 1 ≠ 0 := by omega
    constructor <;> simp [hclosed, hcrew]
  | late now deadline hstage =>
    have hworkers := h.early (.inr ⟨deadline, false, hstage⟩)
    constructor <;> simp [stopWith, WorkQueue.shutDown, hworkers]
  | early now deadline hstage =>
    have hworkers := h.early (.inr ⟨deadline, false, hstage⟩)
    constructor <;> simp [hworkers, hopen (.inr (.inl ⟨deadline, false, hstage⟩))]
  | tick deadline hstage =>
    have hworkers := h.early (.inr ⟨deadline, true, hstage⟩)
    constructor <;> simp [hworkers, hopen (.inr (.inl ⟨deadline, true, hstage⟩))]
  | stop => exact h.same rfl rfl rfl
  | abandon deadline hstop hstage =>
    have hworkers := h.early (.inr ⟨deadline, true, hstage⟩)
    constructor <;> simp [stopWith, WorkQueue.shutDown, hworkers]
  | drain hstop hstage => constructor <;> simp [WorkQueue.shutDown]
  | finish hstage hall =>
    have hclosed := h.closed_iff.mpr (.inl hstage)
    constructor <;> simp [hclosed]
    exact hall
  -- from here on one worker moves, and the stage stays
  | exit i hidle hclosed => exact h.work hidle (by simp) (fun _ => hclosed) rfl rfl rfl
  | clear i hidle htake => exact h.same rfl rfl rfl
  | take i queue item hidle htake =>
    exact h.work hidle (by simp) (by simp) rfl rfl (WorkQueue.take_item htake).2.1
  | fail i found item fault hw => exact h.work hw (by simp) (by simp) rfl rfl rfl
  | skip i found item hw => exact h.work hw (by simp) (by simp) rfl rfl rfl
  | send i found item notification event hw =>
    have hframe := c.frame_keep item.key found (.send notification event)
    refine h.work hw (by simp) (fun hexited => ?_) hframe.stage
      (congrArg (List.set · i _) hframe.workers) (congrArg (·.closed) hframe.queue)
    have hitem := item?_awaiting item c.enabledSinks
    rw [hexited] at hitem
    cases hitem
  | delivered i sink item pending hw =>
    refine h.work hw (by simp) (fun hexited => ?_) rfl rfl rfl
    have hitem := item?_awaiting item (pending.erase sink)
    rw [hexited] at hitem
    cases hitem
  | succeed i item hw =>
    exact h.work hw (by simp) (by simp) rfl rfl (WorkQueue.sameWork_forget _ _).closed
  | count i item fault hw => exact h.work hw (by simp) (by simp) rfl rfl rfl
  | requeue i item failures hw => exact h.work hw (by simp) (by simp) rfl rfl rfl
  | drop i item failures hw =>
    exact h.work hw (by simp) (by simp) rfl rfl (WorkQueue.sameWork_forget _ _).closed
  | release i key hw =>
    refine h.work hw (by simp) (by simp) rfl rfl ?_
    show (c.queue.done key).1.closed = _
    rw [WorkQueue.done_fst]
  | mature retry => exact h.same rfl rfl (WorkQueue.closed_mature _ _)

/-- What a step does to the stage: nothing but a look at the cache or a rest after one, or the next
thing in the life of a controller. The workers only begin when the cache was found complete. -/
theorem Does.stage_cases (h : c.Does step c' effects) :
    (c'.stage = c.stage ∨ ∃ deadline resting resting',
      c.stage = .syncing deadline resting ∧ c'.stage = .syncing deadline resting') ∨
    (c.stage = .initializing ∧ ∃ deadline, c'.stage = .syncing deadline false) ∨
    (∃ now deadline, step = .check now true ∧ c.stage = .syncing deadline false ∧
      c'.stage = .running) ∨
    (∃ deadline resting failure, c.stage = .syncing deadline resting ∧ c'.stage = .stopped failure ∧
      (failure = none ∨ failure = some (.cacheSync c.kind.name c.tuning.syncTimeout))) ∨
    (c.stage = .running ∧ c'.stage = .draining) ∨
    (c.stage = .draining ∧ c'.stage = .stopped none) := by
  cases h with
  | start now hstage => exact .inr (.inl ⟨hstage, _, rfl⟩)
  | begun now deadline hstage => exact .inr (.inr (.inl ⟨now, deadline, rfl, hstage, rfl⟩))
  | late now deadline hstage =>
    exact .inr (.inr (.inr (.inl ⟨deadline, false, _, hstage, rfl, .inr rfl⟩)))
  | abandon deadline hstop hstage =>
    exact .inr (.inr (.inr (.inl ⟨deadline, true, none, hstage, rfl, .inl rfl⟩)))
  | early now deadline hstage => exact .inl (.inr ⟨deadline, false, true, hstage, rfl⟩)
  | tick deadline hstage => exact .inl (.inr ⟨deadline, true, false, hstage, rfl⟩)
  | drain hstop hstage => exact .inr (.inr (.inr (.inr (.inl ⟨hstage, rfl⟩))))
  | finish hstage => exact .inr (.inr (.inr (.inr (.inr ⟨hstage, rfl⟩))))
  | send i found item notification event =>
    exact .inl (.inl (c.frame_keep item.key found (.send notification event)).stage)
  | _ => exact .inl (.inl rfl)

/-- The workers begin when the cache was found complete, and not before. -/
theorem Does.synced (h : c.Does step c' effects) (hbefore : c.phase ≠ .running)
    (hafter : c'.phase = .running) : ∃ now, step = .check now true := by
  unfold phase at hbefore hafter
  rcases h.stage_cases with (hsame | ⟨deadline, resting, resting', -, hnew⟩) |
    ⟨-, deadline, hnew⟩ | ⟨now, deadline, hstep, -, -⟩ | ⟨deadline, resting, failure, -, hnew, -⟩ |
    ⟨-, hnew⟩ | ⟨-, hnew⟩
  · rw [hsame] at hafter
    exact absurd hafter hbefore
  · rw [hnew] at hafter
    cases hafter
  · rw [hnew] at hafter
    cases hafter
  · exact ⟨now, hstep⟩
  · rw [hnew] at hafter
    cases hafter
  · rw [hnew] at hafter
    cases hafter
  · rw [hnew] at hafter
    cases hafter

namespace Execution

variable {x x' : Execution} {kind : Resource.Kind} {tuning : Tuning} {slots : List Sink.Slot}
  {start : Time.Instant}

/-- A move is a notification, a step, or the end of a backoff that was asked for. -/
theorem advance?_cases {move : Move} (h : x.advance? move = some x') :
    (∃ call, move = .notify call ∧ x' = { x with controller := call.notify x.controller }) ∨
    (∃ step c effects, move = .act step ∧ (∀ retry, step ≠ .mature retry) ∧
      x.controller.Does step c effects ∧ x' = x.after step (c, effects)) ∨
    ∃ position retry, move = .mature position ∧ x.retries[position]? = some retry ∧
      x' = { x with
        controller := { x.controller with queue := (x.controller.queue.mature retry).1 }
        retries := x.retries.eraseIdx position } := by
  cases move with
  | notify call => exact .inl ⟨call, rfl, (Option.some.inj h).symm⟩
  | act step =>
    obtain ⟨hstep, c, effects, hdoes, rfl⟩ := does_of_act h
    exact .inr (.inl ⟨step, c, effects, rfl, hstep, hdoes, rfl⟩)
  | mature position =>
    simp only [advance?] at h
    split at h
    · next retry hretry =>
      obtain rfl := Option.some.inj h
      refine .inr (.inr ⟨position, retry, rfl, hretry, ?_⟩)
      simp [after, askedRetries, dispatch?]
    · cases h

/-- A move does not change the settings. -/
theorem sameSettings {move : Move} (h : x.advance? move = some x') :
    x.controller.SameSettings x'.controller := by
  rcases advance?_cases h with ⟨call, -, rfl⟩ | ⟨step, c, effects, -, -, hdoes, rfl⟩ |
    ⟨position, retry, -, -, rfl⟩
  · rcases x.controller.notify_eq call with hsame | ⟨item, -, hadd⟩
    · rw [hsame]
      exact ⟨rfl, rfl, rfl, rfl⟩
    · rw [hadd]
      exact ⟨rfl, rfl, rfl, rfl⟩
  · exact hdoes.sameSettings
  · exact ⟨rfl, rfl, rfl, rfl⟩

theorem Reachable.sameSettings {c : Controller} (h : x.Reachable c) :
    c.SameSettings x.controller := by
  induction h with
  | start => exact ⟨rfl, rfl, rfl, rfl⟩
  | move _ hmove ih => exact ih.trans (Execution.sameSettings hmove)

/-- Each move keeps the invariants of the stages. -/
theorem staged_move {move : Move} (h : x.controller.Staged) (hmove : x.advance? move = some x') :
    x'.controller.Staged := by
  rcases advance?_cases hmove with ⟨call, -, rfl⟩ | ⟨step, c, effects, -, -, hdoes, rfl⟩ |
    ⟨position, retry, -, -, rfl⟩
  · rcases x.controller.notify_eq call with hsame | ⟨item, -, hadd⟩
    · rw [hsame]
      exact h.same rfl rfl rfl
    · rw [hadd]
      exact h.same rfl rfl (WorkQueue.closed_add _ _)
  · exact h.does hdoes
  · exact h.same rfl rfl (WorkQueue.closed_mature _ _)

/-- The stage, the workers and the queue go together in every state of every execution. -/
theorem Reachable.staged (h : x.Reachable (.new kind tuning slots start)) :
    x.controller.Staged := by
  induction h with
  | start => exact staged_new kind tuning slots start
  | move _ hmove ih => exact staged_move ih hmove

end Execution

end Controller

end ClusterWatch
