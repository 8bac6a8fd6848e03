import ClusterWatch.Proofs.Controller.Deliveries
import ClusterWatch.Proofs.Controller.Processing
import ClusterWatch.Proofs.Controller.Stages
import ClusterWatch.Proofs.Path
/-!
# What the workers looked up

The lookups of an execution, read off its path: which item a worker had, what it found and what it
made of it.

- `Visit`: a lookup of a worker. `Execution.visits`: those of a path.
- `Execution.received`: what a sink was called with, by what the steps of a path asked for.
- `Execution.received_eq`: the enabled sinks all get the notifications of the visits, in their
  order, and the other sinks get nothing.
- `Execution.dealsWith_of_path`: what a worker is dealing with is the outcome of its last visit.
-/

namespace ClusterWatch

open Sink (Notification)

namespace Controller

/-- A worker has looked its item up. -/
structure Visit where
  worker : Nat
  item : WorkItem
  found : Except Fault (Option Resource)
  outcome : Outcome

namespace Visit

/-- The object that was found. -/
def object? (v : Visit) : Option Resource :=
  match v.found with
  | .ok object => object
  | .error _ => none

/-- The version of the object that was found. -/
def version? (v : Visit) : Option String :=
  v.object?.bind (·.version?)

/-- The failure of the lookup. -/
def failure? (v : Visit) : Option Fault :=
  match v.outcome with
  | .failed fault => some fault
  | .skipped | .send .. => none

/-- What the sinks are told. -/
def told? (v : Visit) : Option (Notification × Event) :=
  match v.outcome with
  | .send notification event => some (notification, event)
  | .failed _ | .skipped => none

/-- The notification of the sinks. -/
def notification? (v : Visit) : Option Notification :=
  v.told?.map (·.1)

end Visit

namespace Execution

/-- The visit that a move makes. -/
def visit? : Execution × Move → Option Visit
  | (x, .act (.begin i found)) =>
    match x.controller.workers[i]? with
    | some (.holding item) => some ⟨i, item, found, x.controller.outcome item found⟩
    | _ => none
  | _ => none

/-- The visits of a path, the last first. -/
def visits (past : List (Execution × Move)) : List Visit :=
  past.filterMap visit?

/-- What a move asks for. -/
def asks : Execution × Move → List Effect
  | (x, .act step) => ((x.controller.step step).map (·.2)).getD []
  | _ => []

/-- What an effect has a sink called with. -/
def callOf? (sink : Nat) : Effect → Option (Notification × Event)
  | .deliver _ sink' notification event => if sink' = sink then some (notification, event) else none
  | .checkAt _ | .matureAfter .. => none

/-- What a sink was called with, the last first. -/
def received (sink : Nat) (past : List (Execution × Move)) : List (Notification × Event) :=
  past.flatMap fun p => (asks p).filterMap (callOf? sink)

end Execution

namespace Execution

variable {c : Controller} {x x' : Execution} {past : List (Execution × Move)}

theorem reachable_of_path (h : Path advance? { controller := c } past x) : x.Reachable c :=
  h.invariant .start fun hy hmove => hy.move hmove

theorem visits_cons (p : Execution × Move) (past : List (Execution × Move)) :
    visits (p :: past) = (visit? p).toList ++ visits past := by
  unfold visits
  rw [List.filterMap_cons]
  cases visit? p <;> rfl

theorem visit?_eq_some_iff {p : Execution × Move} {v : Visit} :
    visit? p = some v ↔ ∃ i found item, p.2 = .act (.begin i found) ∧
      p.1.controller.workers[i]? = some (.holding item) ∧
      v = ⟨i, item, found, p.1.controller.outcome item found⟩ := by
  obtain ⟨x, move⟩ := p
  constructor
  · intro hv
    cases move with
    | notify call => cases hv
    | mature position => cases hv
    | act step =>
      cases step with
      | begin i found =>
        simp only [visit?] at hv
        split at hv
        · next item hw => exact ⟨i, found, item, rfl, hw, (Option.some.inj hv).symm⟩
        · cases hv
      | _ => cases hv
  · rintro ⟨i, found, item, hmove, hw, rfl⟩
    obtain rfl : move = .act (.begin i found) := hmove
    simp only [visit?, hw]

/-- Each visit of a path was made by a move, and the visits before it by the moves before that. -/
theorem exists_of_visits_eq {newer older : List Visit} {v : Visit}
    (h : visits past = newer ++ v :: older) :
    ∃ later p earlier, past = later ++ p :: earlier ∧ visit? p = some v ∧
      visits earlier = older := by
  obtain ⟨later, rest, rfl, -, hrest⟩ := List.filterMap_eq_append_iff.mp h
  obtain ⟨skipped, p, earlier, rfl, -, hv, holder⟩ := List.filterMap_eq_cons_iff.mp hrest
  exact ⟨later ++ skipped, p, earlier, (List.append_assoc ..).symm, hv, holder⟩

/-- The outcome of a visit is that of its item and of what was found. -/
theorem outcome_of_mem_visits {v : Visit} (hv : v ∈ visits past) :
    ∃ c : Controller, v.outcome = c.outcome v.item v.found := by
  obtain ⟨p, -, hv⟩ := List.mem_filterMap.mp hv
  obtain ⟨i, found, item, -, -, rfl⟩ := visit?_eq_some_iff.mp hv
  exact ⟨p.1.controller, rfl⟩

/-- A lookup asks the enabled sinks alone for something, each of them once and all for the same. -/
theorem filterMap_callOf?_deliver {sinks : List Nat} (hsinks : sinks.Nodup) (sink i : Nat)
    (notification : Notification) (event : Event) :
    (sinks.map fun s => Effect.deliver i s notification event).filterMap (callOf? sink) =
      if sink ∈ sinks then [(notification, event)] else [] := by
  induction sinks with
  | nil => rfl
  | cons s sinks ih =>
    obtain ⟨hs, hsinks⟩ := List.nodup_cons.mp hsinks
    rw [List.map_cons, List.filterMap_cons, ih hsinks]
    by_cases hsame : s = sink
    · subst hsame
      simp [callOf?, hs]
    · simp [callOf?, hsame, Ne.symm hsame]

/-- What a step has a sink called with is what a visit tells, if the sink is enabled. -/
theorem filterMap_callOf?_of_does {step : Step} {c : Controller} {effects : List Effect}
    (hdoes : x.controller.Does step c effects) (sink : Nat) :
    effects.filterMap (callOf? sink) =
      if sink ∈ x.controller.enabledSinks then
        ((visit? (x, .act step)).bind Visit.told?).toList else [] := by
  cases hdoes with
  | fail i found item fault hw houtcome | skip i found item hw houtcome =>
    simp [visit?, hw, houtcome, Visit.told?]
  | send i found item notification event hw houtcome =>
    rw [filterMap_callOf?_deliver (nodup_enabledSinks _)]
    simp [visit?, hw, houtcome, Visit.told?]
  | early now deadline hstage => simp [visit?, callOf?]
  | requeue i item failures hw => simp [visit?, callOf?]
  | _ => simp [visit?]

/-- What a step that is taken does, with what it asks for. -/
theorem does_asks {step : Step} (hmove : x.advance? (.act step) = some x') :
    ∃ c, x.controller.Does step c (asks (x, .act step)) ∧
      x' = x.after step (c, asks (x, .act step)) := by
  have hstep : (x.controller.step step).map (x.after step) = some x' := by
    cases step with
    | mature retry => cases hmove
    | _ => exact hmove
  obtain ⟨⟨c, effects⟩, htaken, rfl⟩ := Option.map_eq_some_iff.mp hstep
  have hasks : asks (x, .act step) = effects := by simp only [asks, htaken]; rfl
  rw [hasks]
  exact ⟨c, does_of_step htaken, rfl⟩

section

variable {kind : Resource.Kind} {tuning : Tuning} {slots : List Sink.Slot} {start : Time.Instant}

/-- The sinks never change. -/
theorem Reachable.enabledSinks_eq (h : x.Reachable c) :
    x.controller.enabledSinks = c.enabledSinks := by
  unfold enabledSinks
  rw [h.sameSettings.slots]

/-- Each enabled sink was called with what the visits told, in their order, and no other sink was
called. -/
theorem received_eq (h : Path advance? { controller := c } past x) (sink : Nat) :
    received sink past =
      if sink ∈ c.enabledSinks then (visits past).filterMap Visit.told? else [] := by
  induction h with
  | start => simp [received, visits]
  | @move past x x' move hpath hmove ih =>
    have hsinks := (reachable_of_path hpath).enabledSinks_eq
    have hnew : (asks (x, move)).filterMap (callOf? sink) =
        if sink ∈ c.enabledSinks then ((visit? (x, move)).bind Visit.told?).toList else [] := by
      cases move with
      | notify call => simp [asks, visit?]
      | mature position => simp [asks, visit?]
      | act step =>
        obtain ⟨c', hdoes, -⟩ := does_asks hmove
        rw [filterMap_callOf?_of_does hdoes, hsinks]
    show (asks (x, move)).filterMap (callOf? sink) ++ received sink past = _
    rw [hnew, ih, visits_cons, List.filterMap_append]
    cases visit? (x, move) with
    | none => simp
    | some v =>
      by_cases hsink : sink ∈ c.enabledSinks
      · simp only [if_pos hsink, Option.toList_some, Option.bind_some, List.filterMap_cons,
          List.filterMap_nil]
        cases v.told? <;> rfl
      · simp only [if_neg hsink, List.append_nil]

end

/-! ### What a worker is dealing with -/

/-- The last visit of a worker. -/
def lastVisit? (i : Nat) (visits : List Visit) : Option Visit :=
  visits.find? fun v => v.worker = i

/-- A worker that is dealing with the outcome of its visit. -/
def DealsWith (v? : Option Visit) : Worker → Prop
  | .delivering item _ => ∃ v, v? = some v ∧ v.item = item ∧ v.failure? = none
  | .settling item failure => ∃ v, v? = some v ∧ v.item = item ∧ v.failure? = failure
  | .requeueing item _ => ∃ v, v? = some v ∧ v.item = item ∧ v.failure?.isSome
  | .idle | .holding _ | .releasing _ | .exited => True

theorem dealsWith_awaiting {v : Visit} (hfailure : v.failure? = none) (pending : List Nat) :
    DealsWith (some v) (awaiting v.item pending) := by
  cases pending with
  | nil => exact ⟨v, rfl, rfl, hfailure⟩
  | cons sink pending => exact ⟨v, rfl, rfl, hfailure⟩

/-- A worker goes on; the others deal with what they dealt with. -/
theorem dealsWith_set {made seen : List Visit} {i : Nat} {w w' : Worker}
    (h : ∀ (j : Nat) (w : Worker), c.workers[j]? = some w → DealsWith (lastVisit? j seen) w)
    (hw : c.workers[i]? = some w) (hmade : ∀ v ∈ made, v.worker = i)
    (hnew : DealsWith (lastVisit? i (made ++ seen)) w') {j : Nat} {w₁ : Worker}
    (hw₁ : (c.workers.set i w')[j]? = some w₁) : DealsWith (lastVisit? j (made ++ seen)) w₁ := by
  rw [getElem?_setWorker hw] at hw₁
  by_cases hij : i = j
  · subst hij
    rw [if_pos rfl] at hw₁
    obtain rfl := Option.some.inj hw₁
    exact hnew
  · rw [if_neg hij] at hw₁
    have hothers : lastVisit? j (made ++ seen) = lastVisit? j seen := by
      unfold lastVisit?
      rw [List.find?_append, List.find?_eq_none.mpr, Option.none_or]
      intro v hv
      simpa [hmade v hv] using hij
    rw [hothers]
    exact h j w₁ hw₁

/-- Each worker is dealing with the outcome of its last visit. -/
theorem dealsWith_of_path (h : Path advance? { controller := c } past x) (hworkers : c.workers = [])
    {i : Nat} {w : Worker} (hw : x.controller.workers[i]? = some w) :
    DealsWith (lastVisit? i (visits past)) w := by
  induction h generalizing i w with
  | start => simp [hworkers] at hw
  | @move past x x' move hpath hmove ih =>
    rw [visits_cons]
    rcases advance?_cases hmove with ⟨call, rfl, rfl⟩ | ⟨step, c', effects, rfl, -, hdoes, rfl⟩ |
      ⟨position, retry, rfl, -, rfl⟩
    · rcases x.controller.notify_eq call with hsame | ⟨item, -, hadd⟩
      · rw [hsame] at hw
        exact ih hw
      · rw [hadd] at hw
        exact ih hw
    · -- most steps make no visit, and most workers have nothing to do with the last one afterwards
      have hset : ∀ {j : Nat} {w₁ : Worker} (w' : Worker), x.controller.workers[j]? = some w₁ →
          visit? (x, .act step) = none → DealsWith (lastVisit? j (visits past)) w' →
          c'.workers = x.controller.workers.set j w' →
          DealsWith (lastVisit? i ((visit? (x, .act step)).toList ++ visits past)) w := by
        intro j w₁ w' hw₁ hnone hdeals hset
        rw [hnone]
        refine dealsWith_set (fun k w hw => ih hw) hw₁ (by simp) hdeals ?_
        rw [← hset]
        exact hw
      -- a visit replaces the last one of its own worker
      have hvisit : ∀ {j : Nat} {found : Except Fault (Option Resource)} {item : WorkItem}
          (w' : Worker), step = .begin j found → x.controller.workers[j]? = some (.holding item) →
          DealsWith (some ⟨j, item, found, x.controller.outcome item found⟩) w' →
          c'.workers = x.controller.workers.set j w' →
          DealsWith (lastVisit? i ((visit? (x, .act step)).toList ++ visits past)) w := by
        rintro j found item w' rfl hw₁ hdeals hset
        simp only [visit?, hw₁]
        refine dealsWith_set (fun k w hw => ih hw) hw₁ ?_ ?_ (hset ▸ hw)
        · rintro v hv
          obtain rfl := List.mem_singleton.mp hv
          rfl
        · simpa [lastVisit?] using hdeals
      cases hdoes with
      | mature => exact ih hw
      | start | late | early | tick | stop | abandon | drain | finish => exact ih hw
      | begun now deadline hstage =>
        obtain rfl := List.eq_of_mem_replicate (List.mem_of_getElem? hw)
        trivial
      | clear => exact ih hw
      | exit j hidle => exact hset .exited hidle rfl trivial rfl
      | take j queue item hidle => exact hset (.holding item) hidle rfl trivial rfl
      | fail j found item fault hw₁ houtcome =>
        refine hvisit (.settling item (some fault)) rfl hw₁ ⟨_, rfl, rfl, ?_⟩ rfl
        simp only [Visit.failure?, houtcome]
      | skip j found item hw₁ houtcome =>
        refine hvisit (.settling item none) rfl hw₁ ⟨_, rfl, rfl, ?_⟩ rfl
        simp only [Visit.failure?, houtcome]
      | send j found item notification event hw₁ houtcome =>
        have hframe := x.controller.frame_keep item.key found (.send notification event)
        refine hvisit _ rfl hw₁ (dealsWith_awaiting ?_ _)
          (congrArg (List.set · j _) hframe.workers)
        simp only [Visit.failure?, houtcome]
      | delivered j sink item pending hw₁ =>
        obtain ⟨v, hv, rfl, hfailure⟩ := ih hw₁
        refine hset _ hw₁ rfl ?_ rfl
        rw [hv]
        exact dealsWith_awaiting hfailure _
      | succeed j item hw₁ => exact hset (.releasing item.key) hw₁ rfl trivial rfl
      | count j item fault hw₁ =>
        obtain ⟨v, hv, hitem, hfailure⟩ := ih hw₁
        refine hset (.requeueing item _) hw₁ rfl ⟨v, hv, hitem, ?_⟩ rfl
        rw [hfailure]
        rfl
      | requeue j item failures hw₁ => exact hset (.releasing item.key) hw₁ rfl trivial rfl
      | drop j item failures hw₁ => exact hset (.releasing item.key) hw₁ rfl trivial rfl
      | release j key hw₁ => exact hset .idle hw₁ rfl trivial rfl
    · exact ih hw

end Execution

end Controller

end ClusterWatch
