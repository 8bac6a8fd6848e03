import ClusterWatch.Proofs.Controller.Execution
import Mathlib.Data.List.Nodup
/-!
# Deliveries

What a controller has its sinks do with the items that are handed out to its workers, and when. An
execution is written down as it goes on: every move takes one unit of time, each item that is handed
out is a job of its worker, and every call of a sink is kept.

- `SinkCall`, `Job`: a call of a sink, and what became of an item.
- `Chronicle`, `Chronicle.advance?`: an execution with its jobs and calls.
- `Job.Fits`: what the job of a worker has come to, by what the worker is doing.
- `Job.Follows`: of two jobs of one worker or of one key, the first one was over before the second
  one began.
- `Chronicle.Sound`: the invariants. `Sound.work` is the step of a worker with its job.

Main result: `Chronicle.Reachable.delivers_serially`.
-/

namespace ClusterWatch.Controller

/-- A call of a sink: the method of a notification with a record. -/
structure SinkCall where
  /-- When it was made. -/
  time : Nat
  worker : Nat
  /-- The position of the sink. -/
  sink : Nat
  notification : Sink.Notification
  event : Event
  deriving DecidableEq, Repr

/-- The calls that a step asks for. -/
def madeCalls (time : Nat) (effects : List Effect) : List SinkCall :=
  effects.filterMap fun
    | .deliver worker sink notification event => some ⟨time, worker, sink, notification, event⟩
    | _ => none

/-- What became of an item that was handed out. -/
structure Job where
  worker : Nat
  item : WorkItem
  /-- When the item was handed out. -/
  handed : Nat
  /-- What the sinks were told of it, and when. -/
  told : Option (Nat × Dispatch) := none
  /-- The sinks that have finished with it, and when, the last first. -/
  finished : List (Nat × Nat) := []
  /-- When its key was released. -/
  released : Option Nat := none
  deriving DecidableEq, Repr

/-- The calls that what was told of an item comes to: one for each of the given sinks, with the same
notification and the same record. -/
def Job.calls (sinks : List Nat) (j : Job) : List SinkCall :=
  match j.told with
  | none => []
  | some (t, d) => sinks.map fun sink => ⟨t, j.worker, sink, d.notification, d.event⟩

/-- An execution that is written down. -/
structure Chronicle where
  execution : Execution
  /-- The time, which is the number of moves. -/
  now : Nat := 0
  /-- The items that were handed out, the last first. -/
  jobs : List Job := []
  /-- The calls of sinks, the first first. -/
  calls : List SinkCall := []

namespace Chronicle

/-- Amends the job that a worker is at. -/
def amend (jobs : List Job) (i : Nat) (f : Job → Job) : List Job :=
  jobs.map fun j => if j.worker = i ∧ j.released = none then f j else j

/-- The jobs after a step that led to a controller. -/
def note (x : Chronicle) (after : Controller) : Step → List Job
  | .take i =>
    match after.workers[i]? with
    | some (.holding item) => { worker := i, item, handed := x.now } :: x.jobs
    | _ => x.jobs
  | .begin i found =>
    amend x.jobs i fun j =>
      { j with told := (x.execution.controller.dispatch? (.begin i found)).map (x.now, ·) }
  | .delivered i sink =>
    amend x.jobs i fun j => { j with finished := (sink, x.now) :: j.finished }
  | .release i => amend x.jobs i fun j => { j with released := some x.now }
  | _ => x.jobs

/-- The chronicle after a step that was taken. -/
def after (x : Chronicle) (step : Step) (result : Controller × List Effect) : Chronicle where
  execution := x.execution.after step result
  now := x.now + 1
  jobs := x.note result.1 step
  calls := x.calls ++ madeCalls x.now result.2

/-- The chronicle after a move, none when it cannot be made. -/
def advance? (x : Chronicle) : Execution.Move → Option Chronicle
  | .act (.mature _) => none
  | .act step => (x.execution.controller.step step).map (x.after step)
  | move => (x.execution.advance? move).map fun execution => { x with execution, now := x.now + 1 }

/-- The chronicles of all executions of a controller from its beginning on. -/
inductive Reachable (c : Controller) : Chronicle → Prop
  | start : Reachable c { execution := { controller := c } }
  | move {x x' : Chronicle} {move : Execution.Move} :
      Reachable c x → x.advance? move = some x' → Reachable c x'

variable {x x' : Chronicle} {c : Controller} {sinks : List Nat} {i : Nat} {w w' : Worker}

/-- A chronicle only writes down what happens. -/
theorem advance?_execution (x : Chronicle) (move : Execution.Move) :
    (x.advance? move).map (·.execution) = x.execution.advance? move := by
  cases move with
  | notify call => rfl
  | mature position =>
    show ((x.execution.advance? (.mature position)).map _).map _ = _
    rw [Option.map_map]
    exact Option.map_id_apply
  | act step =>
    cases step with
    | mature retry => rfl
    | _ =>
      simp only [advance?, Execution.advance?, Option.map_map]
      rfl

theorem Reachable.execution (h : Reachable c x) : Execution.Reachable c x.execution := by
  induction h with
  | start => exact .start
  | @move x x' move _ hmove ih =>
    have hexecution := x.advance?_execution move
    rw [hmove] at hexecution
    exact ih.move hexecution.symm

/-- A step that is taken does what steps do, and is written down. -/
theorem does_of_act {step : Step} (h : x.advance? (.act step) = some x') :
    (∀ retry, step ≠ .mature retry) ∧
      ∃ c effects, x.execution.controller.Does step c effects ∧ x' = x.after step (c, effects) := by
  have hstep : (∀ retry, step ≠ .mature retry) ∧
      (x.execution.controller.step step).map (x.after step) = some x' := by
    cases step with
    | mature retry => cases h
    | _ => exact ⟨by simp, h⟩
  obtain ⟨⟨c, effects⟩, htaken, rfl⟩ := Option.map_eq_some_iff.mp hstep.2
  exact ⟨hstep.1, c, effects, does_of_step htaken, rfl⟩

end Chronicle

/-! ### Enabled sinks -/

/-- The enabled sinks are the positions of the slots that are enabled. -/
theorem mem_enabledSinks {c : Controller} {p : Nat} :
    p ∈ c.enabledSinks ↔ ∃ slot, c.slots[p]? = some slot ∧ slot.enabled = true := by
  unfold enabledSinks
  constructor
  · intro hp
    obtain ⟨⟨slot, p'⟩, hmem, rfl⟩ := List.mem_map.mp hp
    obtain ⟨hmem, henabled⟩ := List.mem_filter.mp hmem
    exact ⟨slot, List.mem_zipIdx_iff_getElem?.mp hmem, henabled⟩
  · rintro ⟨slot, hslot, henabled⟩
    refine List.mem_map.mpr ⟨(slot, p), List.mem_filter.mpr ⟨?_, henabled⟩, rfl⟩
    exact List.mem_zipIdx_iff_getElem?.mpr hslot

/-- No position is listed twice. -/
theorem nodup_enabledSinks (c : Controller) : c.enabledSinks.Nodup := by
  have hall : (c.slots.zipIdx.map (·.2)).Nodup := by
    rw [List.zipIdx_map_snd]
    exact List.nodup_range'
  exact hall.sublist (List.filter_sublist.map _)

/-! ### Jobs -/

namespace Job

variable {sinks pending : List Nat} {j : Job} {w : Worker} {now : Nat}

/-- Whether the sinks that were told and have not finished are the given ones. -/
def Awaits (sinks pending : List Nat) (j : Job) : Prop :=
  match j.told with
  | none => pending = [] ∧ j.finished = []
  | some _ => (j.finished.map (·.1) ++ pending).Perm sinks

/-- What the job of a worker has come to, by what the worker is doing. -/
def Fits (sinks : List Nat) (j : Job) : Worker → Prop
  | .holding item => item = j.item ∧ j.told = none ∧ j.finished = []
  | .delivering item pending => item = j.item ∧ j.Awaits sinks pending
  | .settling item _ | .requeueing item _ => item = j.item ∧ j.Awaits sinks []
  | .releasing key => key = j.item.key ∧ j.Awaits sinks []
  | .idle | .exited => False

/-- The times of a job are in order and not ahead of the clock, and no sink is awaited when the key
is released. -/
structure Timely (sinks : List Nat) (now : Nat) (j : Job) : Prop where
  handed : j.handed < now
  told : ∀ t d, j.told = some (t, d) → d.key = j.item.key ∧ j.handed < t ∧ t < now
  finished : ∀ f ∈ j.finished, ∃ t d, j.told = some (t, d) ∧ t < f.2 ∧ f.2 < now
  released : ∀ t, j.released = some t → t < now ∧ j.Awaits sinks [] ∧
    (∀ t' d, j.told = some (t', d) → t' < t) ∧ ∀ f ∈ j.finished, f.2 < t

/-- The order of two jobs: one for a worker that had another one, or for a key that was handed out
before, begins when that one is over. -/
def Follows (later earlier : Job) : Prop :=
  earlier.handed < later.handed ∧
    (later.worker = earlier.worker ∨ later.item.key = earlier.item.key →
      ∃ t, earlier.released = some t ∧ t < later.handed)

theorem Fits.key? (h : j.Fits sinks w) : w.key? = some j.item.key := by
  cases w with
  | idle | exited => exact h.elim
  | releasing key => exact congrArg some h.1
  | holding item | delivering item | settling item | requeueing item =>
    obtain rfl := h.1
    rfl

/-- A worker waits for the sinks that are awaited, or goes on if there are none. -/
theorem Awaits.fits (h : j.Awaits sinks pending) : j.Fits sinks (awaiting j.item pending) := by
  cases pending with
  | nil => exact ⟨rfl, h⟩
  | cons sink pending => exact ⟨rfl, h⟩

theorem Timely.mono (h : j.Timely sinks now) : j.Timely sinks (now + 1) where
  handed := Nat.lt_succ_of_lt h.handed
  told := fun t d ht => by
    obtain ⟨hkey, hhanded, hnow⟩ := h.told t d ht
    exact ⟨hkey, hhanded, Nat.lt_succ_of_lt hnow⟩
  finished := fun f hf => by
    obtain ⟨t, d, ht, hlater, hnow⟩ := h.finished f hf
    exact ⟨t, d, ht, hlater, Nat.lt_succ_of_lt hnow⟩
  released := fun t ht => by
    obtain ⟨hnow, hrest⟩ := h.released t ht
    exact ⟨Nat.lt_succ_of_lt hnow, hrest⟩

end Job

/-! ### The invariants -/

namespace Chronicle

variable {x x' : Chronicle} {c : Controller} {sinks : List Nat} {i : Nat} {w w' : Worker}

/-- What holds of the jobs and calls of every execution. -/
structure Sound (sinks : List Nat) (x : Chronicle) : Prop where
  enabled : x.execution.controller.enabledSinks = sinks
  serial : x.jobs.Pairwise Job.Follows
  timely : ∀ j ∈ x.jobs, j.Timely sinks x.now
  /-- A job that is not over is that of a worker. -/
  fits : ∀ j ∈ x.jobs, j.released = none →
    ∃ w, x.execution.controller.workers[j.worker]? = some w ∧ j.Fits sinks w
  /-- A worker that has not released its key has a job. -/
  busy : ∀ i w, x.execution.controller.workers[i]? = some w → w.key?.isSome →
    ∃ j ∈ x.jobs, j.worker = i ∧ j.released = none
  /-- Nothing else is called. -/
  calls : x.calls.Perm (x.jobs.flatMap (Job.calls sinks))

theorem sound_start (c : Controller) (hworkers : c.workers = []) :
    Sound c.enabledSinks { execution := { controller := c } } where
  enabled := rfl
  serial := .nil
  timely := fun j hj => absurd hj List.not_mem_nil
  fits := fun j hj => absurd hj List.not_mem_nil
  busy := fun i w hw => by simp [hworkers] at hw
  calls := .nil

/-- A worker has no more than one job that is not over, so that only that one is amended. -/
theorem amend_eq {jobs : List Job} {j : Job} (hserial : jobs.Pairwise Job.Follows)
    (hj : j ∈ jobs) (hopen : j.released = none) :
    ∃ later earlier, jobs = later ++ j :: earlier ∧
      (∀ j' ∈ later ++ earlier, j'.released = none → j'.worker ≠ j.worker) ∧
      ∀ f, amend jobs j.worker f = later ++ f j :: earlier := by
  obtain ⟨later, earlier, rfl⟩ := List.append_of_mem hj
  obtain ⟨-, hrest, hlater⟩ := List.pairwise_append.mp hserial
  have hother : ∀ j' ∈ later ++ earlier, j'.released = none → j'.worker ≠ j.worker := by
    intro j' hj' hopen' hsame
    rcases List.mem_append.mp hj' with hmem | hmem
    · obtain ⟨t, ht, -⟩ := (hlater j' hmem j List.mem_cons_self).2 (.inl hsame)
      cases ht.symm.trans hopen
    · obtain ⟨t, ht, -⟩ := ((List.pairwise_cons.mp hrest).1 j' hmem).2 (.inl hsame.symm)
      cases ht.symm.trans hopen'
  refine ⟨later, earlier, rfl, hother, fun f => ?_⟩
  have hsame : ∀ jobs' ⊆ later ++ earlier, amend jobs' j.worker f = jobs' := by
    intro jobs' hsub
    conv_rhs => rw [← List.map_id jobs']
    refine List.map_congr_left fun j' hj' => if_neg ?_
    rintro ⟨hworker, hopen'⟩
    exact hother j' (hsub hj') hopen' hworker
  show List.map _ (later ++ j :: earlier) = _
  rw [List.map_append, List.map_cons, if_pos ⟨rfl, hopen⟩]
  exact congrArg₂ (· ++ f j :: ·) (hsame later (List.subset_append_left _ _))
    (hsame earlier (List.subset_append_right _ _))

/-- A job that is not over may be amended without changing the order: those that follow it are of
other workers and keys. -/
theorem serial_amend {later earlier : List Job} {j j' : Job}
    (hserial : (later ++ j :: earlier).Pairwise Job.Follows) (hopen : j.released = none)
    (hworker : j'.worker = j.worker) (hitem : j'.item = j.item) (hhanded : j'.handed = j.handed) :
    (later ++ j' :: earlier).Pairwise Job.Follows := by
  obtain ⟨hlaters, hrest, hlater⟩ := List.pairwise_append.mp hserial
  obtain ⟨hearlier, hearliers⟩ := List.pairwise_cons.mp hrest
  refine List.pairwise_append.mpr ⟨hlaters, List.pairwise_cons.mpr ⟨fun e he => ?_, hearliers⟩,
    fun a ha b hb => ?_⟩
  · have hfollows := hearlier e he
    unfold Job.Follows at hfollows ⊢
    rwa [hworker, hitem, hhanded]
  · rcases List.mem_cons.mp hb with rfl | hb
    · have hfollows := hlater a ha j List.mem_cons_self
      unfold Job.Follows
      rw [hworker, hitem, hhanded]
      refine ⟨hfollows.1, fun hsame => ?_⟩
      obtain ⟨t, ht, -⟩ := hfollows.2 hsame
      cases ht.symm.trans hopen
    · exact hlater a ha b (List.mem_cons_of_mem _ hb)

/-- A worker goes on with its job, which is amended, or is over. -/
theorem Sound.work (h : x.Sound sinks) (f : Job → Job) (made : List SinkCall)
    (hw : x.execution.controller.workers[i]? = some w) (hkey : w.key?.isSome)
    (henabled : x'.execution.controller.enabledSinks = x.execution.controller.enabledSinks)
    (hworkers : x'.execution.controller.workers = x.execution.controller.workers.set i w')
    (hnow : x'.now = x.now + 1) (hjobs : x'.jobs = amend x.jobs i f)
    (hcalls : x'.calls = x.calls ++ made)
    (hkeep : ∀ j, (f j).worker = j.worker ∧ (f j).item = j.item ∧ (f j).handed = j.handed)
    (hjob : ∀ j : Job, j.worker = i → j.released = none → j.Timely sinks x.now → j.Fits sinks w →
      (f j).Timely sinks (x.now + 1) ∧ (f j).calls sinks = j.calls sinks ++ made ∧
      ((f j).released = none ∧ (f j).Fits sinks w' ∨
        (f j).released.isSome ∧ w'.key? = none)) : x'.Sound sinks := by
  -- the one job that the worker has not released is the one that the step amends
  obtain ⟨j, hj, rfl, hopen⟩ := h.busy i w hw hkey
  obtain ⟨w₁, hw₁, hfits⟩ := h.fits j hj hopen
  obtain rfl := Option.some.inj (hw.symm.trans hw₁)
  obtain ⟨htimely, hmade, hnext⟩ := hjob j rfl hopen (h.timely j hj) hfits
  obtain ⟨hworker, hitem, hhanded⟩ := hkeep j
  obtain ⟨later, earlier, hsplit, hother, hamend⟩ := amend_eq h.serial hj hopen
  rw [hamend] at hjobs
  -- the order of the jobs matters to none of the clauses but the first
  have hperm : x.jobs.Perm (j :: (later ++ earlier)) := hsplit ▸ List.perm_middle
  have hperm' : x'.jobs.Perm (f j :: (later ++ earlier)) := hjobs ▸ List.perm_middle
  refine ⟨henabled.trans h.enabled, ?_, ?_, ?_, ?_, ?_⟩
  · rw [hjobs]
    exact serial_amend (hsplit ▸ h.serial) hopen hworker hitem hhanded
  · intro j' hj'
    rw [hnow]
    rcases List.mem_cons.mp (hperm'.mem_iff.mp hj') with rfl | hj'
    · exact htimely
    · exact (h.timely j' (hperm.mem_iff.mpr (List.mem_cons_of_mem _ hj'))).mono
  · intro j' hj' hopen'
    rw [hworkers, getElem?_setWorker hw]
    rcases List.mem_cons.mp (hperm'.mem_iff.mp hj') with rfl | hj'
    · rcases hnext with ⟨-, hfits'⟩ | ⟨hover, -⟩
      · exact ⟨w', if_pos hworker.symm, hfits'⟩
      · rw [hopen'] at hover
        cases hover
    · rw [if_neg (hother j' hj' hopen').symm]
      exact h.fits j' (hperm.mem_iff.mpr (List.mem_cons_of_mem _ hj')) hopen'
  · intro k w₂ hw₂ hkey₂
    rw [hworkers, getElem?_setWorker hw] at hw₂
    split at hw₂
    · next heq =>
      obtain rfl := Option.some.inj hw₂
      rcases hnext with ⟨hopen', -⟩ | ⟨-, hnone⟩
      · exact ⟨f j, hperm'.mem_iff.mpr List.mem_cons_self, hworker.trans heq, hopen'⟩
      · rw [hnone] at hkey₂
        cases hkey₂
    · next hne =>
      obtain ⟨j', hj', hk, hopen'⟩ := h.busy k w₂ hw₂ hkey₂
      rcases List.mem_cons.mp (hperm.mem_iff.mp hj') with rfl | hj'
      · exact absurd hk hne
      · exact ⟨j', hperm'.mem_iff.mpr (List.mem_cons_of_mem _ hj'), hk, hopen'⟩
  -- the calls so far are those of all jobs, and the new ones are those of this job
  · have hbefore := h.calls.trans (hperm.flatMap_right (Job.calls sinks))
    rw [hcalls]
    refine (hbefore.append_right made).trans (.trans ?_
      (hperm'.flatMap_right (Job.calls sinks)).symm)
    rw [List.flatMap_cons, List.flatMap_cons, hmade, List.append_assoc, List.append_assoc]
    exact List.perm_append_comm.append_left _

/-- The jobs stay as they are while nobody that has one does anything. -/
theorem Sound.rest (h : x.Sound sinks)
    (henabled : x'.execution.controller.enabledSinks = x.execution.controller.enabledSinks)
    (hworkers : ∀ (k : Nat) (w : Worker), w.key?.isSome →
      (x'.execution.controller.workers[k]? = some w ↔
        x.execution.controller.workers[k]? = some w))
    (hnow : x'.now = x.now + 1) (hjobs : x'.jobs = x.jobs) (hcalls : x'.calls = x.calls) :
    x'.Sound sinks where
  enabled := henabled.trans h.enabled
  serial := hjobs ▸ h.serial
  timely := fun j hj => hnow ▸ (h.timely j (hjobs ▸ hj)).mono
  fits := fun j hj hopen => by
    obtain ⟨w, hw, hfits⟩ := h.fits j (hjobs ▸ hj) hopen
    exact ⟨w, (hworkers _ w (by rw [hfits.key?]; rfl)).mpr hw, hfits⟩
  busy := fun k w hw hkey => hjobs ▸ h.busy k w ((hworkers k w hkey).mp hw) hkey
  calls := by rw [hcalls, hjobs]; exact h.calls

/-- A worker goes on with its job, of which there is nothing to write down. -/
theorem Sound.goOn (h : x.Sound sinks) (hw : x.execution.controller.workers[i]? = some w)
    (hkey : w.key?.isSome)
    (henabled : x'.execution.controller.enabledSinks = x.execution.controller.enabledSinks)
    (hworkers : x'.execution.controller.workers = x.execution.controller.workers.set i w')
    (hnow : x'.now = x.now + 1) (hjobs : x'.jobs = x.jobs) (hcalls : x'.calls = x.calls)
    (hfits : ∀ j : Job, j.Fits sinks w → j.Fits sinks w') : x'.Sound sinks := by
  have hsame : x.jobs = amend x.jobs i id := by simp [amend]
  refine h.work id [] hw hkey henabled hworkers hnow (hjobs.trans hsame)
    (hcalls.trans (List.append_nil _).symm) (fun _ => ⟨rfl, rfl, rfl⟩)
    fun j _ hopen htimely hj => ?_
  exact ⟨htimely.mono, (List.append_nil _).symm, .inl ⟨hopen, hfits j hj⟩⟩

theorem note_take {after : Controller} {item : WorkItem}
    (h : after.workers[i]? = some (.holding item)) :
    x.note after (.take i) = ⟨i, item, x.now, none, [], none⟩ :: x.jobs := by
  simp only [note, h]

/-- An item is handed out to an idle worker. All jobs of the worker and of the key are over. -/
theorem Sound.take {kind : Resource.Kind} {tuning : Tuning} {slots : List Sink.Slot}
    {start : Time.Instant} {queue : WorkQueue} {item : WorkItem} (h : x.Sound sinks)
    (hrun : Execution.Reachable (.new kind tuning slots start) x.execution)
    (hidle : x.execution.controller.workers[i]? = some .idle)
    (htake : x.execution.controller.queue.take = (queue, .item item)) :
    (x.after (.take i)
      ({ x.execution.controller with queue }.setWorker i (.holding item), [])).Sound sinks := by
  have hjobs : (x.after (.take i) ({ x.execution.controller with queue }.setWorker i
      (.holding item), [])).jobs = ⟨i, item, x.now, none, [], none⟩ :: x.jobs := by
    have hholding : (x.execution.controller.workers.set i (.holding item))[i]? =
        some (.holding item) := by rw [getElem?_setWorker hidle, if_pos rfl]
    exact note_take hholding
  have hfree : item.key ∉ x.execution.controller.queue.processing :=
    hrun.consistent.not_processing _ (hrun.consistent.mem_of_take htake)
  refine ⟨h.enabled, ?_, ?_, ?_, ?_, ?_⟩
  · rw [hjobs]
    refine List.pairwise_cons.mpr ⟨fun e he => ⟨(h.timely e he).handed, fun hsame => ?_⟩, h.serial⟩
    cases hover : e.released with
    | some t => exact ⟨t, rfl, ((h.timely e he).released t hover).1⟩
    | none =>
      -- a worker is at it, with another key than that which was handed out
      obtain ⟨w, hw, hfits⟩ := h.fits e he hover
      rcases hsame with hworker | hkey
      · rw [← hworker] at hw
        obtain rfl := Option.some.inj (hidle.symm.trans hw)
        cases hfits.key?
      · refine absurd ?_ hfree
        have hheld : w.key? = some item.key := hfits.key?.trans (congrArg some hkey.symm)
        exact (hrun.processing_iff _).mpr ⟨e.worker, w, hw, hheld⟩
  · intro j hj
    rcases List.mem_cons.mp (hjobs ▸ hj) with rfl | hj
    · exact ⟨Nat.lt_succ_self _, nofun, fun f hf => absurd hf List.not_mem_nil, nofun⟩
    · exact (h.timely j hj).mono
  · intro j hj hopen
    show ∃ w, (x.execution.controller.workers.set i (.holding item))[j.worker]? = some w ∧ _
    rw [getElem?_setWorker hidle]
    rcases List.mem_cons.mp (hjobs ▸ hj) with rfl | hj
    · exact ⟨_, if_pos rfl, rfl, rfl, rfl⟩
    · obtain ⟨w, hw, hfits⟩ := h.fits j hj hopen
      have hne : i ≠ j.worker := by
        rintro rfl
        obtain rfl := Option.some.inj (hidle.symm.trans hw)
        cases hfits.key?
      rw [if_neg hne]
      exact ⟨w, hw, hfits⟩
  · intro k w hw hkey
    replace hw : (x.execution.controller.workers.set i (.holding item))[k]? = some w := hw
    rw [getElem?_setWorker hidle] at hw
    rw [hjobs]
    split at hw
    · next heq => exact ⟨_, List.mem_cons_self, heq, rfl⟩
    · obtain ⟨j, hj, hrest⟩ := h.busy k w hw hkey
      exact ⟨j, List.mem_cons_of_mem _ hj, hrest⟩
  · rw [hjobs, List.flatMap_cons]
    show (x.calls ++ []).Perm ([] ++ x.jobs.flatMap (Job.calls sinks))
    rw [List.append_nil, List.nil_append]
    exact h.calls

/-- Looking an item up tells the sinks nothing. -/
theorem Sound.quiet (h : x.Sound sinks) {found : Except Fault (Option Resource)}
    {item : WorkItem} {failure : Option Fault}
    (hw : x.execution.controller.workers[i]? = some (.holding item))
    (houtcome : (x.execution.controller.outcome item found).dispatch? item.key = none)
    (henabled : x'.execution.controller.enabledSinks = x.execution.controller.enabledSinks)
    (hworkers : x'.execution.controller.workers =
      x.execution.controller.workers.set i (.settling item failure))
    (hnow : x'.now = x.now + 1) (hcalls : x'.calls = x.calls)
    (hjobs : x'.jobs = x.note x'.execution.controller (.begin i found)) : x'.Sound sinks := by
  have hnone : x.execution.controller.dispatch? (.begin i found) = none := by
    simp only [dispatch?, hw, houtcome]
  refine h.work _ [] hw rfl henabled hworkers hnow hjobs
    (hcalls.trans (List.append_nil _).symm) (fun _ => ⟨rfl, rfl, rfl⟩)
    fun j _ hopen htimely hj => ?_
  obtain ⟨hitem, htold, hfinished⟩ := hj
  have hsame : { j with told := none } = j := by rw [← htold]
  rw [hnone, Option.map_none, hsame]
  refine ⟨htimely.mono, (List.append_nil _).symm, .inl ⟨hopen, hitem, ?_⟩⟩
  unfold Job.Awaits
  rw [htold]
  exact ⟨rfl, hfinished⟩

/-- All enabled sinks are called at once with what there is to tell of an item. -/
theorem Sound.send (h : x.Sound sinks) {found : Except Fault (Option Resource)}
    {item : WorkItem} {notification : Sink.Notification} {event : Event}
    (hw : x.execution.controller.workers[i]? = some (.holding item))
    (houtcome : x.execution.controller.outcome item found = .send notification event) :
    (x.after (.begin i found)
      ((x.execution.controller.keep item.key found (.send notification event)).setWorker i
          (awaiting item x.execution.controller.enabledSinks),
        x.execution.controller.enabledSinks.map fun sink =>
          .deliver i sink notification event)).Sound sinks := by
  have hframe := x.execution.controller.frame_keep item.key found (.send notification event)
  have htell : x.execution.controller.dispatch? (.begin i found) =
      some ⟨item.key, notification, event⟩ := by
    simp only [dispatch?, hw, houtcome, Outcome.dispatch?]
  -- every enabled sink is called, in the order of the sinks
  have hmade : madeCalls x.now (x.execution.controller.enabledSinks.map fun sink =>
      .deliver i sink notification event) =
      sinks.map fun sink => ⟨x.now, i, sink, notification, event⟩ := by
    rw [h.enabled]
    unfold madeCalls
    rw [List.filterMap_map]
    exact congrFun (List.filterMap_eq_map
      (f := fun sink => (⟨x.now, i, sink, notification, event⟩ : SinkCall))) sinks
  have hworkers : ((x.execution.controller.keep item.key found
        (.send notification event)).setWorker i
      (awaiting item x.execution.controller.enabledSinks)).workers =
      x.execution.controller.workers.set i (awaiting item x.execution.controller.enabledSinks) :=
    congrArg (List.set · i _) hframe.workers
  refine h.work _ _ hw rfl ?_ hworkers rfl rfl rfl (fun _ => ⟨rfl, rfl, rfl⟩)
    fun j hworker hopen htimely hj => ?_
  · show (x.execution.controller.keep item.key found _).enabledSinks = _
    rw [enabledSinks, hframe.slots, enabledSinks]
  -- the job has told nothing and finished nothing before
  · obtain ⟨rfl, htold, hfinished⟩ := hj
    rw [htell, hmade, h.enabled]
    refine ⟨⟨Nat.lt_succ_of_lt htimely.handed, fun t d ht => ?_, fun f hf => ?_, fun t ht => ?_⟩,
      ?_, .inl ⟨hopen, Job.Awaits.fits ?_⟩⟩
    · obtain ⟨rfl, rfl⟩ := Prod.mk.inj (Option.some.inj ht)
      exact ⟨rfl, htimely.handed, Nat.lt_succ_self _⟩
    · exact absurd (hfinished ▸ hf) List.not_mem_nil
    · cases hopen.symm.trans ht
    · unfold Job.calls
      rw [htold, hworker]
      rfl
    · show (j.finished.map (·.1) ++ sinks).Perm sinks
      rw [hfinished]
      exact .refl _

/-- A sink finishes. -/
theorem Sound.delivered (h : x.Sound sinks) {sink : Nat} {item : WorkItem} {pending : List Nat}
    (hw : x.execution.controller.workers[i]? = some (.delivering item pending))
    (hsink : sink ∈ pending) :
    (x.after (.delivered i sink)
      (x.execution.controller.setWorker i (awaiting item (pending.erase sink)), [])).Sound
        sinks := by
  refine h.work _ [] hw rfl rfl rfl rfl rfl rfl (fun _ => ⟨rfl, rfl, rfl⟩)
    fun j _ hopen htimely hj => ?_
  obtain ⟨rfl, hawaits⟩ := hj
  -- it was told, or it would not be awaited
  obtain ⟨⟨t, d⟩, htold⟩ : ∃ told, j.told = some told := by
    cases htold : j.told with
    | some told => exact ⟨told, rfl⟩
    | none =>
      unfold Job.Awaits at hawaits
      rw [htold] at hawaits
      exact absurd (hawaits.1 ▸ hsink) List.not_mem_nil
  have hnow := (htimely.told t d htold).2.2
  refine ⟨⟨htimely.mono.handed, htimely.mono.told, fun f hf => ?_, fun t ht => ?_⟩,
    (List.append_nil _).symm, .inl ⟨hopen, Job.Awaits.fits ?_⟩⟩
  · rcases List.mem_cons.mp hf with rfl | hf
    · exact ⟨t, d, htold, hnow, Nat.lt_succ_self _⟩
    · exact htimely.mono.finished f hf
  · cases hopen.symm.trans ht
  · unfold Job.Awaits at hawaits ⊢
    rw [htold] at hawaits
    dsimp only at hawaits ⊢
    rw [htold]
    have hmoved := (List.perm_cons_erase hsink).symm.append_left (j.finished.map (·.1))
    exact (List.perm_middle.symm.trans hmoved).trans hawaits

/-- A worker releases its key. -/
theorem Sound.release (h : x.Sound sinks) {key : String}
    (hw : x.execution.controller.workers[i]? = some (.releasing key)) :
    (x.after (.release i)
      ({ x.execution.controller with
        queue := (x.execution.controller.queue.done key).1 }.setWorker i .idle, [])).Sound
        sinks := by
  refine h.work _ [] hw rfl rfl rfl rfl rfl rfl (fun _ => ⟨rfl, rfl, rfl⟩)
    fun j _ hopen htimely hj => ?_
  refine ⟨⟨htimely.mono.handed, htimely.mono.told, htimely.mono.finished, fun t ht => ?_⟩,
    (List.append_nil _).symm, .inr ⟨rfl, rfl⟩⟩
  obtain rfl := Option.some.inj ht
  refine ⟨Nat.lt_succ_self _, hj.2, fun t' d ht' => (htimely.told t' d ht').2.2, fun f hf => ?_⟩
  obtain ⟨-, -, -, -, hnow⟩ := htimely.finished f hf
  exact hnow

section

variable {kind : Resource.Kind} {tuning : Tuning} {slots : List Sink.Slot} {start : Time.Instant}

/-- Each step keeps the invariants. -/
theorem Sound.act (h : x.Sound sinks)
    (hrun : Execution.Reachable (.new kind tuning slots start) x.execution) {step : Step}
    {effects : List Effect} (hdoes : x.execution.controller.Does step c effects)
    (hstep : ∀ retry, step ≠ .mature retry) : (x.after step (c, effects)).Sound sinks := by
  -- most steps make no calls
  have hnil : x.calls ++ [] = x.calls := List.append_nil _
  have hsame : ∀ (k : Nat) (w : Worker), w.key?.isSome →
      (x.execution.controller.workers[k]? = some w ↔
        x.execution.controller.workers[k]? = some w) := fun _ _ _ => Iff.rfl
  cases hdoes with
  | mature retry => exact absurd rfl (hstep retry)
  | start | late | early | tick | stop | abandon | drain | finish =>
    exact h.rest rfl hsame rfl rfl hnil
  | begun now deadline hstage =>
    have hnone := hrun.workers_eq_nil (.inr ⟨deadline, false, hstage⟩)
    refine h.rest rfl (fun k w hkey => ⟨fun hw => ?_, fun hw => ?_⟩) rfl rfl hnil
    · obtain rfl := List.eq_of_mem_replicate (List.mem_of_getElem? hw)
      cases hkey
    · simp [hnone] at hw
  | exit i hidle =>
    have hjobs : x.note (x.execution.controller.setWorker i .exited) (.take i) = x.jobs := by
      have hexited : (x.execution.controller.workers.set i .exited)[i]? = some .exited := by
        rw [getElem?_setWorker hidle, if_pos rfl]
      simp only [note, setWorker, hexited]
    refine h.rest rfl (fun k w hkey => ?_) rfl hjobs hnil
    show (x.execution.controller.workers.set i .exited)[k]? = some w ↔ _
    rw [getElem?_setWorker hidle]
    split
    · next heq =>
      subst heq
      rw [hidle]
      constructor
      · rintro ⟨⟩
        cases hkey
      · rintro ⟨⟩
        cases hkey
    · exact Iff.rfl
  | clear i hidle =>
    refine h.rest rfl hsame rfl ?_ hnil
    simp only [Chronicle.after, note, hidle]
  | take i queue item hidle htake => exact h.take hrun hidle htake
  | fail i found item fault hw houtcome =>
    exact h.quiet hw (by rw [houtcome]; rfl) rfl rfl rfl hnil rfl
  | skip i found item hw houtcome =>
    exact h.quiet hw (by rw [houtcome]; rfl) rfl rfl rfl hnil rfl
  | send i found item notification event hw houtcome => exact h.send hw houtcome
  | delivered i sink item pending hw hsink => exact h.delivered hw hsink
  | succeed i item hw =>
    exact h.goOn hw rfl rfl rfl rfl rfl hnil fun j hj => ⟨congrArg (·.key) hj.1, hj.2⟩
  | count i item fault hw =>
    exact h.goOn hw rfl rfl rfl rfl rfl hnil fun j hj => hj
  | requeue i item failures hw =>
    exact h.goOn hw rfl rfl rfl rfl rfl hnil fun j hj => ⟨congrArg (·.key) hj.1, hj.2⟩
  | drop i item failures hw =>
    exact h.goOn hw rfl rfl rfl rfl rfl hnil fun j hj => ⟨congrArg (·.key) hj.1, hj.2⟩
  | release i key hw => exact h.release hw

/-- Each move keeps the invariants. -/
theorem Sound.move (h : x.Sound sinks)
    (hrun : Execution.Reachable (.new kind tuning slots start) x.execution)
    {move : Execution.Move} (hmove : x.advance? move = some x') : x'.Sound sinks := by
  cases move with
  | act step =>
    obtain ⟨hstep, c, effects, hdoes, rfl⟩ := does_of_act hmove
    exact h.act hrun hdoes hstep
  | notify call =>
    obtain rfl := Option.some.inj hmove
    -- a notification changes nothing but the queue and the counters
    have hframe : (call.notify x.execution.controller).workers = x.execution.controller.workers ∧
        (call.notify x.execution.controller).slots = x.execution.controller.slots := by
      cases call with
      | add | delete => exact ⟨rfl, rfl⟩
      | update key old new =>
        simp only [Watch.Call.notify, onUpdate]
        split
        · exact ⟨rfl, rfl⟩
        · exact ⟨rfl, rfl⟩
    refine h.rest ?_ (fun k w _ => ?_) rfl rfl rfl
    · show enabledSinks (call.notify x.execution.controller) = _
      rw [enabledSinks, hframe.2, enabledSinks]
    · show (call.notify x.execution.controller).workers[k]? = some w ↔ _
      rw [hframe.1]
  | mature position =>
    replace hmove : (x.execution.advance? (.mature position)).map _ = some x' := hmove
    obtain ⟨execution, hmature, rfl⟩ := Option.map_eq_some_iff.mp hmove
    simp only [Execution.advance?] at hmature
    split at hmature
    · obtain rfl := Option.some.inj hmature
      exact h.rest rfl (fun _ _ _ => Iff.rfl) rfl rfl rfl
    · cases hmature

theorem Reachable.sound (h : Reachable (.new kind tuning slots start) x) :
    x.Sound (Controller.new kind tuning slots start).enabledSinks := by
  induction h with
  | start => exact sound_start _ rfl
  | move hrun hmove ih => exact ih.move hrun.execution hmove

/-! ### Deliveries of a key -/

/-- The sinks that have not finished with what they were told of an item are awaited by a worker. -/
theorem Sound.awaits (h : x.Sound sinks) {j : Job} (hj : j ∈ x.jobs) {told : Nat × Dispatch}
    (htold : j.told = some told) :
    ∃ pending, (j.finished.map (·.1) ++ pending).Perm sinks ∧
      (pending = [] ∨
        x.execution.controller.workers[j.worker]? = some (.delivering j.item pending)) := by
  have hperm : ∀ pending, j.Awaits sinks pending →
      (j.finished.map (·.1) ++ pending).Perm sinks := by
    intro pending hawaits
    unfold Job.Awaits at hawaits
    rw [htold] at hawaits
    exact hawaits
  cases hover : j.released with
  | some t =>
    obtain ⟨-, hawaits, -⟩ := (h.timely j hj).released t hover
    exact ⟨[], hperm [] hawaits, .inl rfl⟩
  | none =>
    obtain ⟨w, hw, hfits⟩ := h.fits j hj hover
    cases w with
    | idle | exited => exact hfits.elim
    | holding item => cases hfits.2.1.symm.trans htold
    | delivering item pending =>
      obtain ⟨rfl, hawaits⟩ := hfits
      exact ⟨pending, hperm pending hawaits, .inr hw⟩
    | settling | requeueing | releasing => exact ⟨[], hperm [] hfits.2, .inl rfl⟩

/-- When a job has followed another one of its worker or key, all sinks had finished with that. -/
theorem Sound.over (h : x.Sound sinks) {later earlier : Job} (hearlier : earlier ∈ x.jobs)
    (hfollows : later.Follows earlier)
    (hsame : later.worker = earlier.worker ∨ later.item.key = earlier.item.key)
    {t : Nat} {d : Dispatch} (htold : earlier.told = some (t, d)) :
    t < later.handed ∧
      ∀ sink ∈ sinks, ∃ t', (sink, t') ∈ earlier.finished ∧ t' < later.handed := by
  obtain ⟨r, hreleased, hless⟩ := hfollows.2 hsame
  obtain ⟨-, hawaits, hbefore, hfinished⟩ := (h.timely earlier hearlier).released r hreleased
  refine ⟨Nat.lt_trans (hbefore t d htold) hless, fun sink hsink => ?_⟩
  unfold Job.Awaits at hawaits
  rw [htold] at hawaits
  replace hawaits : (earlier.finished.map Prod.fst ++ []).Perm sinks := hawaits
  rw [List.append_nil] at hawaits
  obtain ⟨f, hf, rfl⟩ := List.mem_map.mp (hawaits.mem_iff.mpr hsink)
  exact ⟨f.2, hf, Nat.lt_trans (hfinished f hf) hless⟩

/-- A worker makes its calls for one item after the other, so that no call is made twice. -/
theorem Sound.nodup_calls (h : x.Sound sinks) (hsinks : sinks.Nodup) : x.calls.Nodup := by
  rw [h.calls.nodup_iff, List.nodup_flatMap]
  constructor
  · intro j _
    unfold Job.calls
    split
    · exact List.nodup_nil
    · exact hsinks.map fun a b hab => congrArg SinkCall.sink hab
  · refine h.serial.imp_of_mem fun {later earlier} hlater hearlier hfollows => ?_
    have htimes : ∀ {j : Job} {call : SinkCall}, call ∈ j.calls sinks →
        call.worker = j.worker ∧ ∃ d, j.told = some (call.time, d) := by
      intro j call hcall
      unfold Job.calls at hcall
      split at hcall
      · cases hcall
      · next t d htold =>
        obtain ⟨sink, -, rfl⟩ := List.mem_map.mp hcall
        exact ⟨rfl, d, htold⟩
    intro call hcall hcall'
    obtain ⟨hworker, d, htold⟩ := htimes hcall
    obtain ⟨hworker', d', htold'⟩ := htimes hcall'
    have hover := (h.over hearlier hfollows (.inl (hworker.symm.trans hworker')) htold').1
    have hhanded := ((h.timely later hlater).told _ d htold).2.1
    omega

/-- **Deliveries of one key are serialized, and each calls every enabled sink once.** In every
execution, whenever the sinks finish:

- The calls that were made are those of the items that were dispatched, none of them twice: one for
  each enabled sink, at the time of the dispatch, with the notification and the record of the
  dispatch.
- A sink finishes once with an item. One that has not finished may do so next, whatever the other
  sinks do.
- Of two items of one key, the second one is handed out when the first one was dispatched and all
  enabled sinks have finished with it. It is dispatched later. -/
theorem Reachable.delivers_serially (h : Reachable (.new kind tuning slots start) x) :
    ∃ sinks : List Nat, sinks.Nodup ∧
      (∀ p, p ∈ sinks ↔ ∃ slot, slots[p]? = some slot ∧ slot.enabled = true) ∧
      x.calls.Nodup ∧ x.calls.Perm (x.jobs.flatMap (Job.calls sinks)) ∧
      (∀ j ∈ x.jobs, ∀ t d, j.told = some (t, d) →
        d.key = j.item.key ∧ j.handed < t ∧
        (j.finished.map (·.1)).Nodup ∧ (∀ f ∈ j.finished, f.1 ∈ sinks ∧ t < f.2) ∧
        ∀ sink ∈ sinks, sink ∉ j.finished.map (·.1) →
          (x.advance? (.act (.delivered j.worker sink))).isSome) ∧
      x.jobs.Pairwise fun later earlier =>
        earlier.handed < later.handed ∧
        (later.item.key = earlier.item.key → ∀ t d, earlier.told = some (t, d) →
          t < later.handed ∧
          ∀ sink ∈ sinks, ∃ t', (sink, t') ∈ earlier.finished ∧ t' < later.handed) := by
  have hsound := h.sound
  have hsinks := nodup_enabledSinks (Controller.new kind tuning slots start)
  refine ⟨_, hsinks, fun p => mem_enabledSinks, hsound.nodup_calls hsinks, hsound.calls,
    fun j hj t d htold => ?_, ?_⟩
  · obtain ⟨hkey, hhanded, -⟩ := (hsound.timely j hj).told t d htold
    obtain ⟨pending, hperm, hpending⟩ := hsound.awaits hj htold
    have hnodup := hperm.nodup_iff.mpr hsinks
    refine ⟨hkey, hhanded, (List.nodup_append.mp hnodup).1, fun f hf => ⟨?_, ?_⟩,
      fun sink hsink hnot => ?_⟩
    · exact hperm.mem_iff.mp (List.mem_append_left _ (List.mem_map_of_mem hf))
    · obtain ⟨t', d', htold', hlater, -⟩ := (hsound.timely j hj).finished f hf
      obtain ⟨rfl, -⟩ := Prod.mk.inj (Option.some.inj (htold.symm.trans htold'))
      exact hlater
    · have hwaits : sink ∈ pending :=
        (List.mem_append.mp (hperm.mem_iff.mpr hsink)).resolve_left hnot
      rcases hpending with rfl | hw
      · cases hwaits
      · simp [advance?, step, stepDelivered, hw, hwaits]
  · refine hsound.serial.imp_of_mem fun {later earlier} _ hearlier hfollows => ?_
    exact ⟨hfollows.1, fun hkey t d htold => hsound.over hearlier hfollows (.inr hkey) htold⟩

end

theorem Reachable.foldlM (h : Reachable c x) {moves : List Execution.Move}
    (hmoves : moves.foldlM advance? x = some x') : Reachable c x' := by
  induction moves generalizing x with
  | nil =>
    obtain rfl := Option.some.inj hmoves
    exact h
  | cons move moves ih =>
    obtain ⟨x₁, hmove, hrest⟩ := Option.bind_eq_some_iff.mp hmoves
    exact ih (h.move hmove) hrest

/-- Two workers, two enabled sinks, the first of which is slow, and a disabled one between them. A
key is notified again while the slow sink is busy with it. -/
theorem delivers_serially_slow :
    let slots : List Sink.Slot := [⟨.elasticsearch, true⟩, ⟨.webhook, false⟩, ⟨.rabbitMq, true⟩]
    ∃ x later earlier, Reachable (.new .pods { workers := 2 } slots (.ofSecond 0)) x ∧
      x.jobs = [later, earlier] ∧ later.item.key = earlier.item.key ∧
      earlier.told.map (·.1) = some 4 ∧ later.handed = 10 ∧ later.told.map (·.1) = some 11 ∧
      x.calls.map (fun call => (call.time, call.sink)) = [(4, 0), (4, 2), (11, 0), (11, 2)] ∧
      x.calls.Nodup ∧ ∀ sink ∈ [0, 2], ∃ t, (sink, t) ∈ earlier.finished ∧ t < later.handed := by
  intro slots
  let moves : List Execution.Move := [.act (.start 0), .act (.check 0 true),
    .notify (.add "ns/x" (some "1")), .act (.take 0), .act (.begin 0 (.ok none)),
    .act (.delivered 0 2), .notify (.delete "ns/x" (some "2")), .act (.delivered 0 0),
    .act (.settle 0), .act (.release 0), .act (.take 1), .act (.begin 1 (.ok none))]
  let first : Chronicle :=
    { execution := { controller := .new .pods { workers := 2 } slots (.ofSecond 0) } }
  have hjobs : ((moves.foldlM advance? first).map fun x =>
      x.jobs.map fun j => (j.item.key, j.handed, j.told.map (·.1))) =
      some [("ns/x", 10, some 11), ("ns/x", 3, some 4)] := by decide
  have hcalls : ((moves.foldlM advance? first).map fun x =>
      x.calls.map fun call => (call.time, call.sink)) =
      some [(4, 0), (4, 2), (11, 0), (11, 2)] := by decide
  obtain ⟨x, hmoves, hjobs⟩ := Option.map_eq_some_iff.mp hjobs
  rw [hmoves, Option.map_some] at hcalls
  obtain ⟨later, rest, hx, hlater, hrest⟩ := List.map_eq_cons_iff.mp hjobs
  obtain ⟨earlier, others, rfl, hearlier, hnil⟩ := List.map_eq_cons_iff.mp hrest
  obtain rfl := List.map_eq_nil_iff.mp hnil
  simp only [Prod.mk.injEq] at hlater hearlier
  obtain ⟨hkey, hhanded, htold⟩ := hlater
  obtain ⟨hkey', -, htold'⟩ := hearlier
  have hsame : later.item.key = earlier.item.key := hkey.trans hkey'.symm
  have hrun : Reachable (.new .pods { workers := 2 } slots (.ofSecond 0)) x :=
    .foldlM .start hmoves
  obtain ⟨sinks, -, hsinks, hnodup, -, -, hserial⟩ := hrun.delivers_serially
  obtain ⟨⟨t, d⟩, htell, -⟩ := Option.map_eq_some_iff.mp htold'
  rw [hx] at hserial
  obtain ⟨-, hdone⟩ := (((List.pairwise_cons.mp hserial).1 earlier List.mem_cons_self).2 hsame) t d
    htell
  refine ⟨x, later, earlier, hrun, hx, hsame, htold', hhanded, htold, Option.some.inj hcalls,
    hnodup, fun sink hsink => hdone sink ((hsinks sink).mpr ?_)⟩
  -- the slots of the first and the last sink are enabled
  rcases List.mem_cons.mp hsink with rfl | hsink
  · exact ⟨_, rfl, rfl⟩
  · obtain rfl := List.mem_singleton.mp hsink
    exact ⟨_, rfl, rfl⟩

end Chronicle

end ClusterWatch.Controller
