import ClusterWatch.Proofs.Controller.Deliveries
import ClusterWatch.Proofs.Controller.Stages
import ClusterWatch.Proofs.Path
/-!
# The life of a controller

A run waits for the cache, lets its workers work until it is asked to stop, lets them finish, and
ends. The life of a controller is read off the path of its chronicle.

- `Chronicle.phases`: the phases that were shown on a path.
- `Chronicle.Course`: the ways through the phases, and what is known on each of them.
- `Chronicle.quiet_of_stopped`: nothing comes of a run that has ended.
- `Chronicle.Lived`: the invariant of a path.

Main result: `Chronicle.life_cycle`.
-/

namespace ClusterWatch.Controller

namespace Chronicle

open Execution (Move)

variable {x x' y : Chronicle} {past later : List (Chronicle × Move)} {kind : Resource.Kind}
  {tuning : Tuning} {slots : List Sink.Slot} {start : Time.Instant}

/-- The phases that were shown, the first first. A phase is shown until another one is. -/
def phases : List (Chronicle × Move) → Chronicle → List Phase
  | [], x => [x.execution.controller.phase]
  | (y, _) :: past, x =>
    if y.execution.controller.phase = x.execution.controller.phase then phases past y
    else phases past y ++ [x.execution.controller.phase]

theorem reachable_of_path {c : Controller}
    (h : Path advance? { execution := { controller := c } } past x) : x.Reachable c :=
  h.invariant .start fun hy hmove => hy.move hmove

/-- A move that is no step leaves the jobs and the calls alone, and so it does with the stage and
the workers. -/
theorem advance?_cases {move : Move} (h : x.advance? move = some x') :
    (∃ step c effects, move = .act step ∧ x.execution.controller.Does step c effects ∧
      x' = x.after step (c, effects)) ∨
    (x'.jobs = x.jobs ∧ x'.calls = x.calls ∧
      x'.execution.controller.stage = x.execution.controller.stage ∧
      x'.execution.controller.workers = x.execution.controller.workers) := by
  have hexecution := x.advance?_execution move
  rw [h] at hexecution
  cases move with
  | act step =>
    obtain ⟨-, c, effects, hdoes, rfl⟩ := does_of_act h
    exact .inl ⟨step, c, effects, rfl, hdoes, rfl⟩
  -- what is not a step leaves the stage and the workers alone
  | notify call =>
    obtain rfl := Option.some.inj h
    refine .inr ⟨rfl, rfl, ?_⟩
    rcases x.execution.controller.notify_eq call with hsame | ⟨item, -, hadd⟩
    · show (call.notify x.execution.controller).stage = _ ∧
        (call.notify x.execution.controller).workers = _
      rw [hsame]
      exact ⟨rfl, rfl⟩
    · show (call.notify x.execution.controller).stage = _ ∧
        (call.notify x.execution.controller).workers = _
      rw [hadd]
      exact ⟨rfl, rfl⟩
  | mature position =>
    obtain ⟨execution, hmature, rfl⟩ := Option.map_eq_some_iff.mp h
    rcases Execution.advance?_cases hmature with ⟨call, hmove, -⟩ | ⟨step, _, _, hmove, -⟩ |
      ⟨position, retry, -, -, rfl⟩
    · cases hmove
    · cases hmove
    · exact .inr ⟨rfl, rfl, rfl, rfl⟩

/-! ### The course of a run -/

/-- The stages of a run with the phases that were shown up to them. A run that is asked to stop
while it waits for the cache, or whose cache is not complete in time, never gets to work. -/
inductive Course (timeout : Fault) : Stage → List Phase → Prop
  | initializing : Course timeout .initializing [.initializing]
  | syncing (deadline : Nat) (resting : Bool) :
      Course timeout (.syncing deadline resting) [.initializing, .syncing]
  | running : Course timeout .running [.initializing, .syncing, .running]
  | draining : Course timeout .draining [.initializing, .syncing, .running, .draining]
  | finished :
      Course timeout (.stopped none) [.initializing, .syncing, .running, .draining, .stopped]
  | abandoned (failure : Option Fault) : failure = none ∨ failure = some timeout →
      Course timeout (.stopped failure) [.initializing, .syncing, .stopped]

/-- There are two ways through the phases. -/
theorem Course.isPrefix {timeout : Fault} {stage : Stage} {shown : List Phase}
    (h : Course timeout stage shown) :
    shown <+: [.initializing, .syncing, .running, .draining, .stopped] ∨
      shown <+: [.initializing, .syncing, .stopped] := by
  cases h with
  | initializing => exact .inl (by decide)
  | syncing deadline resting => exact .inl (by decide)
  | running => exact .inl (by decide)
  | draining => exact .inl (by decide)
  | finished => exact .inl (by decide)
  | abandoned failure hfailure => exact .inr (by decide)

/-- A run that got to work ends without a failure, and one that did not ends with no other failure
than that of the cache. -/
theorem Course.of_stopped {timeout : Fault} {failure : Option Fault} {shown : List Phase}
    (h : Course timeout (.stopped failure) shown) :
    (failure = none ∨ failure = some timeout) ∧ (failure ≠ none → .running ∉ shown) := by
  cases h with
  | finished => exact ⟨.inl rfl, fun hfailed => absurd rfl hfailed⟩
  | abandoned failure hfailure => exact ⟨hfailure, fun _ => by decide⟩

/-- A step takes a run along its course. -/
theorem Course.does {c c' : Controller} {step : Step} {effects : List Effect} {shown : List Phase}
    (h : Course (.cacheSync c.kind.name c.tuning.syncTimeout) c.stage shown)
    (hdoes : c.Does step c' effects) :
    Course (.cacheSync c.kind.name c.tuning.syncTimeout) c'.stage
      (if c.phase = c'.phase then shown else shown ++ [c'.phase]) := by
  unfold phase
  rcases hdoes.stage_cases with (hsame | ⟨deadline, resting, resting', hold, hnew⟩) |
    ⟨hold, deadline, hnew⟩ | ⟨now, deadline, -, hold, hnew⟩ |
    ⟨deadline, resting, failure, hold, hnew, hfailure⟩ | ⟨hold, hnew⟩ | ⟨hold, hnew⟩
  · rw [hsame, if_pos rfl]
    exact h
  all_goals
    rw [hold] at h
    rw [hold, hnew]
    cases h
  · exact .syncing deadline resting'
  · exact .syncing deadline false
  · exact .running
  · exact .abandoned failure hfailure
  · exact .draining
  · exact .finished

/-! ### Runs that are not at work -/

/-- While no worker is at work, a step neither hands an item out nor calls a sink. -/
theorem after_of_exited {step : Step} {c : Controller} {effects : List Effect}
    (hall : ∀ w ∈ x.execution.controller.workers, w = .exited)
    (hdoes : x.execution.controller.Does step c effects) :
    (x.after step (c, effects)).jobs = x.jobs ∧ (x.after step (c, effects)).calls = x.calls := by
  have hnil : x.calls ++ [] = x.calls := List.append_nil _
  have hnobody : ∀ (i : Nat) (w : Worker), x.execution.controller.workers[i]? = some w →
      w = .exited := fun i w hw => hall w (List.mem_of_getElem? hw)
  cases hdoes with
  | start | begun | late | early | tick | stop | abandon | drain | finish | mature =>
    exact ⟨rfl, hnil⟩
  | exit i hw | clear i hw | take i queue item hw => cases hnobody i _ hw
  | fail i found item fault hw | skip i found item hw => cases hnobody i _ hw
  | send i found item notification event hw => cases hnobody i _ hw
  | delivered i sink item pending hw => cases hnobody i _ hw
  | succeed i item hw | count i item fault hw => cases hnobody i _ hw
  | requeue i item failures hw | drop i item failures hw => cases hnobody i _ hw
  | release i key hw => cases hnobody i _ hw

/-- Nor does anything else that may happen. -/
theorem quiet_of_exited {move : Move}
    (hall : ∀ w ∈ x.execution.controller.workers, w = .exited) (hmove : x.advance? move = some x') :
    x'.jobs = x.jobs ∧ x'.calls = x.calls := by
  rcases advance?_cases hmove with ⟨step, c, effects, -, hdoes, rfl⟩ | ⟨hjobs, hcalls, -, -⟩
  · exact after_of_exited hall hdoes
  · exact ⟨hjobs, hcalls⟩

/-- A run that is over stays so, and nothing comes of what is left of it. -/
theorem quiet_of_stopped {failure : Option Fault}
    (hstaged : x.execution.controller.Staged)
    (hstage : x.execution.controller.stage = .stopped failure)
    (h : Path advance? x later y) :
    y.execution.controller.stage = .stopped failure ∧ y.jobs = x.jobs ∧ y.calls = x.calls := by
  have hkept : y.execution.controller.Staged ∧ y.execution.controller.stage = .stopped failure ∧
      y.jobs = x.jobs ∧ y.calls = x.calls := by
    refine h.invariant (P := fun y => y.execution.controller.Staged ∧
      y.execution.controller.stage = .stopped failure ∧ y.jobs = x.jobs ∧ y.calls = x.calls)
      ⟨hstaged, hstage, rfl, rfl⟩ ?_
    rintro y z move ⟨hstaged, hstage, hjobs, hcalls⟩ hmove
    have hexecution := y.advance?_execution move
    rw [hmove] at hexecution
    obtain ⟨hjobs', hcalls'⟩ := quiet_of_exited (hstaged.ended failure hstage) hmove
    refine ⟨Execution.staged_move hstaged hexecution.symm, ?_, hjobs'.trans hjobs,
      hcalls'.trans hcalls⟩
    rcases advance?_cases hmove with ⟨step, c, effects, -, hdoes, rfl⟩ | ⟨-, -, hsame, -⟩
    · -- the only thing that may happen to the stage is nothing
      rcases hdoes.stage_cases with (hsame | ⟨_, _, _, hold, -⟩) | ⟨hold, -⟩ |
        ⟨_, _, -, hold, -⟩ | ⟨_, _, _, hold, -⟩ | ⟨hold, -⟩ | ⟨hold, -⟩
      · exact hsame.trans hstage
      all_goals cases hold.symm.trans hstage
    · exact hsame.trans hstage
  exact hkept.2

/-! ### The invariants -/

/-- What is known of a run on its course. -/
structure Lived (timeout : Fault) (past : List (Chronicle × Move)) (x : Chronicle) : Prop where
  course : Course timeout x.execution.controller.stage (phases past x)
  /-- Before the workers begin, nothing is handed out and no sink is called. -/
  idle : .running ∉ phases past x → x.jobs = [] ∧ x.calls = []
  /-- The workers begin when the cache was found complete. -/
  synced : .running ∈ phases past x → ∃ y now, (y, .act (.check now true)) ∈ past

/-- A run that has not been at work has no workers that could do anything. -/
theorem Course.exited {timeout : Fault} {c : Controller} {shown : List Phase}
    (h : Course timeout c.stage shown) (hstaged : c.Staged) (hidle : .running ∉ shown) :
    ∀ w ∈ c.workers, w = .exited := by
  intro w hw
  cases hstage : c.stage with
  | initializing =>
    rw [hstaged.early (.inl hstage)] at hw
    cases hw
  | syncing deadline resting =>
    rw [hstaged.early (.inr ⟨deadline, resting, hstage⟩)] at hw
    cases hw
  | stopped failure => exact hstaged.ended failure hstage w hw
  | running =>
    rw [hstage] at h
    cases h
    simp at hidle
  | draining =>
    rw [hstage] at h
    cases h
    simp at hidle

/-- A phase that is shown stays among those that were shown. -/
theorem phases_cons (x x' : Chronicle) (move : Move) (past : List (Chronicle × Move)) :
    phases ((x, move) :: past) x' =
      if x.execution.controller.phase = x'.execution.controller.phase then phases past x
      else phases past x ++ [x'.execution.controller.phase] :=
  rfl

theorem mem_phases_cons {phase : Phase} {move : Move} :
    phase ∈ phases ((x, move) :: past) x' ↔ phase ∈ phases past x ∨
      x.execution.controller.phase ≠ x'.execution.controller.phase ∧
        phase = x'.execution.controller.phase := by
  rw [phases_cons]
  split
  · next hsame => simp [hsame]
  · next hother => simp [hother]

/-- Each move keeps what is known. -/
theorem Lived.move {move : Move}
    (h : x.Lived (.cacheSync x.execution.controller.kind.name
      x.execution.controller.tuning.syncTimeout) past)
    (hstaged : x.execution.controller.Staged) (hmove : x.advance? move = some x') :
    x'.Lived (.cacheSync x.execution.controller.kind.name
      x.execution.controller.tuning.syncTimeout) ((x, move) :: past) := by
  constructor
  · rw [phases_cons]
    rcases advance?_cases hmove with ⟨step, c, effects, -, hdoes, rfl⟩ | ⟨-, -, hsame, -⟩
    · exact h.course.does hdoes
    · rw [phase, phase, hsame, if_pos rfl]
      exact h.course
  · intro hidle
    have hbefore : .running ∉ phases past x := fun hmem => hidle (mem_phases_cons.mpr (.inl hmem))
    obtain ⟨hjobs, hcalls⟩ := h.idle hbefore
    obtain ⟨hjobs', hcalls'⟩ := quiet_of_exited (h.course.exited hstaged hbefore) hmove
    exact ⟨hjobs'.trans hjobs, hcalls'.trans hcalls⟩
  · intro hrunning
    rcases mem_phases_cons.mp hrunning with hbefore | ⟨hnew, hphase⟩
    · obtain ⟨y, now, hmem⟩ := h.synced hbefore
      exact ⟨y, now, List.mem_cons_of_mem _ hmem⟩
    · rw [← hphase] at hnew
      rcases advance?_cases hmove with ⟨step, c, effects, rfl, hdoes, rfl⟩ | ⟨-, -, hsame, -⟩
      · obtain ⟨now, rfl⟩ := hdoes.synced hnew hphase.symm
        exact ⟨x, now, List.mem_cons_self⟩
      · rw [phase, hsame] at hphase
        exact absurd hphase.symm hnew

theorem lived_of_path
    (h : Path advance? { execution := { controller := .new kind tuning slots start } } past x) :
    x.Lived (.cacheSync kind.name tuning.syncTimeout) past := by
  induction h with
  | start =>
    constructor
    · exact .initializing
    · exact fun _ => ⟨rfl, rfl⟩
    · intro hrunning
      simp [phases, Controller.new, phase, Stage.phase] at hrunning
  | @move past x x' move hpath hmove ih =>
    have hrun := (reachable_of_path hpath).execution
    have hsettings := hrun.sameSettings
    have hkind : x.execution.controller.kind = kind := hsettings.kind
    have htuning : x.execution.controller.tuning = tuning := hsettings.tuning
    rw [← hkind, ← htuning] at ih ⊢
    exact ih.move hrun.staged hmove

/-- **The life of a controller.** On every path of a run:

- The phases that are shown are those of a run that gets to work, or of one that does not, as far as
  it has come.
- No sink is called before the cache was found complete.
- When the run is over, its phase says so, the queue is shut down, and the only failure there can be
  is that the cache was not complete in time. After that failure, and after a stop that came before
  the workers had begun, nothing was handed out and no sink was called. Every item that was handed
  out has been released, each enabled sink having finished with what it was told of it.
- Nothing that happens after a run is over has a sink called or an item handed out. -/
theorem life_cycle
    (h : Path advance? { execution := { controller := .new kind tuning slots start } } past x) :
    (phases past x <+: [.initializing, .syncing, .running, .draining, .stopped] ∨
      phases past x <+: [.initializing, .syncing, .stopped]) ∧
    (x.calls ≠ [] → ∃ y now, (y, .act (.check now true)) ∈ past) ∧
    ∀ failure, x.execution.controller.stage = .stopped failure →
      x.execution.controller.phase = .stopped ∧ x.execution.controller.queue.closed = true ∧
      (failure = none ∨ failure = some (.cacheSync kind.name tuning.syncTimeout)) ∧
      (failure ≠ none ∨ .running ∉ phases past x → x.jobs = [] ∧ x.calls = []) ∧
      (∀ j ∈ x.jobs, j.released.isSome ∧ ∀ told, j.told = some told →
        ∀ p slot, slots[p]? = some slot → slot.enabled = true → p ∈ j.finished.map (·.1)) ∧
      (∀ key, key ∉ x.execution.controller.queue.processing) ∧
      ∀ later y, Path advance? x later y →
        y.execution.controller.stage = .stopped failure ∧ y.jobs = x.jobs ∧ y.calls = x.calls := by
  have hlived := lived_of_path h
  have hrun := reachable_of_path h
  have hstaged := hrun.execution.staged
  refine ⟨hlived.course.isPrefix, fun hcalls => ?_, fun failure hstage => ?_⟩
  · by_cases hrunning : .running ∈ phases past x
    · exact hlived.synced hrunning
    · exact absurd (hlived.idle hrunning).2 hcalls
  have hcourse := hlived.course
  rw [hstage] at hcourse
  obtain ⟨hfailure, hearly⟩ := hcourse.of_stopped
  -- nobody is at work any more
  have hnobody : ∀ (i : Nat) (w : Worker), x.execution.controller.workers[i]? = some w →
      w.key? = none := by
    intro i w hw
    rw [hstaged.ended failure hstage w (List.mem_of_getElem? hw)]
    rfl
  refine ⟨congrArg Stage.phase hstage, hstaged.closed_iff.mpr (.inr ⟨failure, hstage⟩), hfailure,
    fun hnever => ?_, fun j hj => ?_, fun key hkey => ?_, fun later y hlater => ?_⟩
  · exact hlived.idle (hnever.elim hearly id)
  · have hreleased : ∃ t, j.released = some t := by
      rw [← Option.ne_none_iff_exists']
      intro hopen
      obtain ⟨w, hw, hfits⟩ := hrun.sound.fits j hj hopen
      cases (hnobody _ w hw).symm.trans hfits.key?
    obtain ⟨t, ht⟩ := hreleased
    refine ⟨by rw [ht]; rfl, fun told htold p slot hslot henabled => ?_⟩
    obtain ⟨-, hawaits, -⟩ := (hrun.sound.timely j hj).released t ht
    unfold Job.Awaits at hawaits
    rw [htold] at hawaits
    replace hawaits : (j.finished.map Prod.fst ++ []).Perm
        (Controller.new kind tuning slots start).enabledSinks := hawaits
    rw [List.append_nil] at hawaits
    exact hawaits.mem_iff.mpr (mem_enabledSinks.mpr ⟨slot, hslot, henabled⟩)
  · obtain ⟨i, w, hw, hheld⟩ := (hrun.execution.processing_iff key).mp hkey
    cases (hnobody i w hw).symm.trans hheld
  · exact quiet_of_stopped hstaged hstage hlater

/-- Two workers are busy when the run is asked to stop, one with a failed item and the other one
with two sinks, and a third key waits. The run ends when both have finished; the retry of the failed
item and a late notification come to nothing. -/
theorem life_cycle_busy :
    let slots : List Sink.Slot := [⟨.elasticsearch, true⟩, ⟨.webhook, false⟩, ⟨.rabbitMq, true⟩]
    ∃ past x later y,
      Path advance?
        { execution := { controller := .new .pods { workers := 2 } slots (.ofSecond 0) } } past x ∧
      Path advance? x later y ∧
      phases past x = [.initializing, .syncing, .running, .draining, .stopped] ∧
      x.execution.controller.stage = .stopped none ∧
      x.execution.controller.queue.waiting = ["ns/z"] ∧ x.execution.retries.length = 1 ∧
      y.execution.retries.length = 0 ∧ x.calls.length = 2 ∧
      (∃ z now, (z, .act (.check now true)) ∈ past) ∧
      (∀ j ∈ x.jobs, j.released.isSome ∧ ∀ told, j.told = some told → 2 ∈ j.finished.map (·.1)) ∧
      y.calls = x.calls := by
  intro slots
  let moves : List Move := [.act (.start 0), .act (.check 0 false), .act .tick,
    .act (.check 100 true), .notify (.add "ns/x" (some "1")), .notify (.add "ns/y" (some "1")),
    .notify (.add "ns/z" (some "1")), .act (.take 0), .act (.take 1),
    .act (.begin 0 (.error (.cache "ns/x" "down"))), .act (.begin 1 (.ok none)),
    .act (.settle 0), .act (.requeue 0), .act .stop, .act .halt, .act (.release 0),
    .act (.take 0), .act (.delivered 1 2), .act (.delivered 1 0), .act (.settle 1),
    .act (.release 1), .act (.take 1), .act .finish]
  let first : Chronicle :=
    { execution := { controller := .new .pods { workers := 2 } slots (.ofSecond 0) } }
  -- the run up to the end, and a timer and a notification after it
  have hmoves : ((moves.foldlM (follow? advance?) ([], first)).bind fun way =>
      ([.mature 0, .notify (.add "ns/x" (some "2"))].foldlM (follow? advance?) ([], way.2)).map
        fun after =>
      (phases way.1 way.2, way.2.execution.controller.stage,
        way.2.execution.controller.queue.waiting, way.2.execution.retries.length,
        after.2.execution.retries.length, way.2.calls.length)) =
      some ([.initializing, .syncing, .running, .draining, .stopped], .stopped none, ["ns/z"], 1, 0,
        2) := by decide
  obtain ⟨⟨past, x⟩, hway, hrest⟩ := Option.bind_eq_some_iff.mp hmoves
  obtain ⟨⟨later, y⟩, hafter, hshown⟩ := Option.map_eq_some_iff.mp hrest
  simp only [Prod.mk.injEq] at hshown
  obtain ⟨hphases, hstage, hwaiting, hretries, hnone, hcount⟩ := hshown
  have hpath := path_of_follow? .start hway
  have hlater := path_of_follow? .start hafter
  obtain ⟨-, hsynced, hover⟩ := life_cycle hpath
  obtain ⟨-, -, -, -, hjobs, -, hquiet⟩ := hover none hstage
  have hcalled : x.calls ≠ [] := by
    intro hnil
    rw [hnil] at hcount
    cases hcount
  refine ⟨past, x, later, y, hpath, hlater, hphases, hstage, hwaiting, hretries, hnone, hcount,
    hsynced hcalled, fun j hj => ⟨(hjobs j hj).1, fun told htold => ?_⟩,
    (hquiet later y hlater).2.2⟩
  exact (hjobs j hj).2 told htold 2 _ rfl rfl

end Chronicle

end ClusterWatch.Controller
