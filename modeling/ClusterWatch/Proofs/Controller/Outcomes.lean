import ClusterWatch.Proofs.Controller.Visits
import ClusterWatch.Sink.Registry
/-!
# What becomes of an item

A worker has an item and the answer of the cache under its key. What it makes of them is one of
seven things, each of which has its own condition.

- `Row`, `Becomes`: the seven things, when they happen, what the sinks are told and what the
  controller is afterwards.
- `Becomes.unique`: no two of them happen at once.
- `becomes_process`: one of them happens, and that is what processing the item comes to.
- `Instant.atSecond_mono`: runs that start one after the other have starts in that order.

Main result: `process_becomes`.
-/

namespace ClusterWatch

open Time (Instant)
open Sink (Adapter Carrier Notification)

/-! ### Starts -/

namespace Time.Instant

/-- The beginnings of seconds are in the order of the instants. -/
theorem atSecond_mono {a b : Instant} (h : ¬ b < a) : ¬ b.atSecond < a.atSecond := by
  intro hlt
  rcases hlt with hsecond | ⟨hsecond, hnanos⟩
  · exact h (.inl hsecond)
  · refine h (.inr ⟨hsecond, ?_⟩)
    -- where the fractions are in order, so are the whole seconds in them
    by_contra hle
    have hdiv : a.nanos / nanosPerSecond ≤ b.nanos / nanosPerSecond :=
      Nat.div_le_div_right (Nat.le_of_not_lt hle)
    have ha := Nat.div_add_mod a.nanos nanosPerSecond
    have hb := Nat.div_add_mod b.nanos nanosPerSecond
    have hmul := Nat.mul_le_mul_left nanosPerSecond hdiv
    simp only [atSecond] at hnanos
    omega

/-- What is not after an instant is not after a later one. -/
theorem not_lt_trans {a b t : Instant} (ht : ¬ a < t) (hab : ¬ b < a) : ¬ b < t := by
  intro hlt
  have hcases : a.second < t.second ∨ a.second = t.second ∧ a.nanos < t.nanos ∨
      b.second < a.second ∨ b.second = a.second ∧ b.nanos < a.nanos := by
    rcases hlt with hsecond | ⟨hsecond, hnanos⟩ <;> omega
  rcases hcases with hsecond | hnanos | hsecond | hnanos
  · exact ht (.inl hsecond)
  · exact ht (.inr hnanos)
  · exact hab (.inl hsecond)
  · exact hab (.inr hnanos)

end Time.Instant

namespace Controller

/-! ### Seven things -/

/-- What can become of an item. -/
inductive Row where
  /-- The lookup failed. -/
  | failed
  /-- The object is not there. -/
  | absent
  | created
  | replayed
  | updated
  /-- The version was told before. -/
  | unchanged
  /-- The object is there, and the item says that it is gone. -/
  | deleted
  deriving DecidableEq, Repr

/-- The versions that were told last, after an object: its own if it has one. -/
def observedAfter (c : Controller) (key : String) (r : Resource) : Std.TreeMap String String :=
  r.version?.elim c.observed (c.observed.insert key)

/-- What becomes of an item under the answer of the cache, for a controller that was started at an
instant: what there is to do, and the controller afterwards. -/
inductive Becomes (start : Instant) (c : Controller) (item : WorkItem) :
    Except Fault (Option Resource) → Row → Outcome × Controller → Prop
  | failed (fault : Fault) : Becomes start c item (.error fault) .failed (.failed fault, c)
  | absent :
      Becomes start c item (.ok none) .absent
        (.send .deleted (.ofResource (.deleted c.kind.name item.key) .delete),
          { c with
            observed := c.observed.erase item.key
            metrics := c.metrics.record .dispatch })
  /-- The object was created after the second of the start. -/
  | created (r : Resource) (created : Instant) :
      item.action = .create → r.created? = some created → start.atSecond < created →
      Becomes start c item (.ok (some r)) .created
        (.send .created (.ofResource r .create),
          { c with
            observed := c.observedAfter item.key r
            metrics := c.metrics.record .dispatch })
  /-- The object was created up to the second of the start, or it is not known when. -/
  | replayed (r : Resource) :
      item.action = .create →
      (∀ created, r.created? = some created → ¬ start.atSecond < created) →
      Becomes start c item (.ok (some r)) .replayed
        (.send .replayed (.ofResource r .create),
          { c with
            observed := c.observedAfter item.key r
            metrics := (c.metrics.record .replay).record .dispatch })
  /-- The object has no version, or not the one that was told last. -/
  | updated (r : Resource) :
      item.action = .update →
      (∀ version, r.version? = some version → c.observed[item.key]? ≠ some version) →
      Becomes start c item (.ok (some r)) .updated
        (.send .updated (.ofResource r .update),
          { c with
            observed := c.observedAfter item.key r
            metrics := c.metrics.record .dispatch })
  | unchanged (r : Resource) (version : String) :
      item.action = .update → r.version? = some version →
      c.observed[item.key]? = some version →
      Becomes start c item (.ok (some r)) .unchanged
        (.skipped, { c with metrics := c.metrics.record .updateSkipped })
  | deleted (r : Resource) :
      item.action = .delete →
      Becomes start c item (.ok (some r)) .deleted
        (.send .deleted (.ofResource (.deleted c.kind.name item.key) .delete),
          { c with
            observed := c.observed.erase item.key
            metrics := c.metrics.record .dispatch })

variable {c : Controller} {item : WorkItem} {found : Except Fault (Option Resource)}
  {start : Instant}

/-- No two of the seven things happen at once. -/
theorem Becomes.unique {row row' : Row} {result result' : Outcome × Controller}
    (h : Becomes start c item found row result) (h' : Becomes start c item found row' result') :
    row' = row ∧ result' = result := by
  cases h with
  | failed fault =>
    cases h'
    exact ⟨rfl, rfl⟩
  | absent =>
    cases h'
    exact ⟨rfl, rfl⟩
  -- the action tells the rows apart, and for equal actions what they ask of the object
  | created r created haction hcreated hnew =>
    cases h' with
    | created => exact ⟨rfl, rfl⟩
    | replayed _ _ hold => exact absurd hnew (hold created hcreated)
    | updated _ haction' | unchanged _ _ haction' | deleted _ haction' =>
      cases haction.symm.trans haction'
  | replayed r haction hold =>
    cases h' with
    | replayed => exact ⟨rfl, rfl⟩
    | created _ created _ hcreated hnew => exact absurd hnew (hold created hcreated)
    | updated _ haction' | unchanged _ _ haction' | deleted _ haction' =>
      cases haction.symm.trans haction'
  | updated r haction hnews =>
    cases h' with
    | updated => exact ⟨rfl, rfl⟩
    | unchanged _ version _ hversion hobserved => exact absurd hobserved (hnews version hversion)
    | created _ _ haction' | replayed _ haction' | deleted _ haction' =>
      cases haction.symm.trans haction'
  | unchanged r version haction hversion hobserved =>
    cases h' with
    | unchanged => exact ⟨rfl, rfl⟩
    | updated _ _ hnews => exact absurd hobserved (hnews version hversion)
    | created _ _ haction' | replayed _ haction' | deleted _ haction' =>
      cases haction.symm.trans haction'
  | deleted r haction =>
    cases h' with
    | deleted => exact ⟨rfl, rfl⟩
    | created _ _ haction' | replayed _ haction' | updated _ haction' | unchanged _ _ haction' =>
      cases haction.symm.trans haction'

/-- What is kept of an object that the sinks are told of. -/
theorem observe_eq (c : Controller) (key : String) (r : Resource) :
    c.observe key r = { c with observed := c.observedAfter key r } := by
  unfold observe observedAfter
  cases r.version? <;> rfl

theorem isObserved_iff {key : String} {r : Resource} :
    c.isObserved key r = true ↔
      ∃ version, r.version? = some version ∧ c.observed[key]? = some version := by
  unfold isObserved
  cases r.version? with
  | none => simp
  | some version => simp

theorem isNew_iff {r : Resource} :
    c.isNew r = true ↔ ∃ created, r.created? = some created ∧ c.start < created := by
  unfold isNew
  cases r.created? with
  | none => simp
  | some created => simp

/-- Processing an item comes to one of the seven things. -/
theorem becomes_process (hstart : c.start = start.atSecond) (item : WorkItem)
    (found : Except Fault (Option Resource)) :
    ∃ row, Becomes start c item found row (c.process item found) := by
  cases found with
  | error fault => exact ⟨_, .failed fault⟩
  | ok object =>
    cases object with
    | none => exact ⟨_, .absent⟩
    | some r =>
      -- the object is there, so the action and a look at the object decide
      cases haction : item.action with
      | create =>
        by_cases hnew : c.isNew r = true
        · obtain ⟨created, hcreated, hlt⟩ := isNew_iff.mp hnew
          have hprocess : c.process item (.ok (some r)) = (.send .created (.ofResource r .create),
              (c.observe item.key r).record .dispatch) := by
            simp [process, outcome, haction, hnew, keep]
          rw [hprocess, observe_eq]
          exact ⟨_, .created r created haction hcreated (hstart ▸ hlt)⟩
        · have hprocess : c.process item (.ok (some r)) = (.send .replayed (.ofResource r .create),
              ((c.observe item.key r).record .replay).record .dispatch) := by
            simp [process, outcome, haction, hnew, keep]
          rw [hprocess, observe_eq]
          refine ⟨_, .replayed r haction fun created hcreated hlt => hnew ?_⟩
          exact isNew_iff.mpr ⟨created, hcreated, hstart ▸ hlt⟩
      | update =>
        by_cases hobserved : c.isObserved item.key r = true
        · obtain ⟨version, hversion, hsame⟩ := isObserved_iff.mp hobserved
          have hprocess : c.process item (.ok (some r)) =
              (.skipped, c.record .updateSkipped) := by
            simp [process, outcome, haction, hobserved, keep]
          rw [hprocess]
          exact ⟨_, .unchanged r version haction hversion hsame⟩
        · have hprocess : c.process item (.ok (some r)) = (.send .updated (.ofResource r .update),
              (c.observe item.key r).record .dispatch) := by
            simp [process, outcome, haction, hobserved, keep]
          rw [hprocess, observe_eq]
          refine ⟨_, .updated r haction fun version hversion hsame => hobserved ?_⟩
          exact isObserved_iff.mpr ⟨version, hversion, hsame⟩
      | delete =>
        have hprocess : c.process item (.ok (some r)) =
            (.send .deleted (.ofResource (.deleted c.kind.name item.key) .delete),
              (c.unobserve item.key).record .dispatch) := by
          simp [process, outcome, haction, keep, goneEvent]
        rw [hprocess]
        exact ⟨_, .deleted r haction⟩

/-- What was told of the other keys stays. -/
theorem Becomes.observed_of_ne {row : Row} {result : Outcome × Controller}
    (h : Becomes start c item found row result) {key : String} (hkey : key ≠ item.key) :
    result.2.observed[key]? = c.observed[key]? := by
  have hafter : ∀ r : Resource, (c.observedAfter item.key r)[key]? = c.observed[key]? := by
    intro r
    unfold observedAfter
    cases r.version? with
    | none => rfl
    | some version => simp [Std.TreeMap.getElem?_insert, hkey.symm]
  cases h with
  | failed | unchanged => rfl
  | absent | deleted => simp [Std.TreeMap.getElem?_erase, hkey.symm]
  | created r | replayed r | updated r => exact hafter r

/-! ### The worker -/

/-- How a worker goes on after an outcome. -/
def Outcome.worker (item : WorkItem) (sinks : List Nat) : Outcome → Worker
  | .failed fault => .settling item (some fault)
  | .skipped => .settling item none
  | .send .. => awaiting item sinks

/-- The calls of sinks that an outcome takes, on behalf of a worker. -/
def Outcome.calls (i : Nat) (sinks : List Nat) : Outcome → List Effect
  | .failed _ | .skipped => []
  | .send notification event => sinks.map fun sink => .deliver i sink notification event

/-- A worker looks its item up. -/
theorem step_begin {i : Nat} (hw : c.workers[i]? = some (.holding item))
    (found : Except Fault (Option Resource)) :
    c.step (.begin i found) =
      some ((c.process item found).2.setWorker i
          ((c.process item found).1.worker item c.enabledSinks),
        (c.process item found).1.calls i c.enabledSinks) := by
  have hsinks : ∀ outcome, (c.keep item.key found outcome).enabledSinks = c.enabledSinks := by
    intro outcome
    unfold enabledSinks
    rw [(c.frame_keep item.key found outcome).slots]
  show c.stepBegin i found = _
  simp only [stepBegin, hw, process]
  cases c.outcome item found with
  | failed fault => rfl
  | skipped => rfl
  | send notification event => simp only [hsinks, Outcome.worker, Outcome.calls]

/-! ### Restarts -/

/-- An object that an item reports as created is replayed unless it was created after the second of
the start. -/
theorem outcome_replayed (hstart : c.start = start.atSecond) (haction : item.action = .create)
    {r : Resource} (hold : ∀ created, r.created? = some created → ¬ start.atSecond < created) :
    c.outcome item (.ok (some r)) = .send .replayed (.ofResource r .create) := by
  obtain ⟨row, hrow⟩ := c.becomes_process hstart item (.ok (some r))
  obtain ⟨-, hresult⟩ := Becomes.unique (.replayed r haction hold) hrow
  exact congrArg Prod.fst hresult

/-- In a sequence of runs that start one after the other, what was created up to the second in which
one of them starts is replayed in that run and in all later ones, wherever a worker finds it for an
item that reports it as created. -/
theorem Execution.replayed_after_restarts {starts : List Instant} {i j : Nat} {first last : Instant}
    {x : Execution} {past : List (Execution × Execution.Move)} {kind : Resource.Kind}
    {tuning : Tuning} {slots : List Sink.Slot} {v : Visit} {r : Resource}
    (hstarts : starts.Pairwise fun earlier later => ¬ later < earlier) (hij : i ≤ j)
    (hfirst : starts[i]? = some first) (hlast : starts[j]? = some last)
    (h : Path Execution.advance? { controller := .new kind tuning slots last } past x)
    (hv : v ∈ Execution.visits past) (haction : v.item.action = .create)
    (hobject : v.object? = some r)
    (hold : ∀ created, r.created? = some created → ¬ first.atSecond < created) :
    v.told? = some (.replayed, .ofResource r .create) := by
  have hlater : ¬ last < first := by
    rcases Nat.eq_or_lt_of_le hij with rfl | hlt
    · obtain rfl := Option.some.inj (hfirst.symm.trans hlast)
      rintro (hsecond | ⟨-, hnanos⟩)
      · exact absurd hsecond (Int.lt_irrefl _)
      · exact absurd hnanos (Nat.lt_irrefl _)
    · obtain ⟨hi, rfl⟩ := List.getElem?_eq_some_iff.mp hfirst
      obtain ⟨hj, rfl⟩ := List.getElem?_eq_some_iff.mp hlast
      exact List.pairwise_iff_getElem.mp hstarts i j hi hj hlt
  obtain ⟨newer, older, hvisits⟩ := List.append_of_mem hv
  obtain ⟨later, ⟨y, move⟩, earlier, rfl, hvisit, -⟩ := Execution.exists_of_visits_eq hvisits
  obtain ⟨worker, found, item, -, -, rfl⟩ := Execution.visit?_eq_some_iff.mp hvisit
  have hstart : y.controller.start = last.atSecond :=
    (Execution.reachable_of_path h.split.1).sameSettings.start
  have hfound : found = .ok (some r) := by
    cases found with
    | error fault => cases hobject
    | ok object => exact congrArg Except.ok hobject
  subst hfound
  have houtcome := y.controller.outcome_replayed hstart haction fun created hcreated =>
    Instant.not_lt_trans (hold created hcreated) (Instant.atSecond_mono hlater)
  simp only [Visit.told?, houtcome]

/-- **What becomes of an item.** For every state of a controller, every item and every answer of the
cache, one of the seven things happens and no other: `Becomes` says when, what the sinks are told,
what is counted and what is kept. The versions kept of other keys stay. The worker that has the item
has every enabled sink called once with what is told, and none if nothing is, and it is left with
the failure of the lookup if there is one. So a sink that does not listen to replays does nothing
about the creation of an object that was created up to the second in which a run starts, in that run
and in all that start after it. -/
theorem process_becomes {kind : Resource.Kind} {tuning : Tuning} {slots : List Sink.Slot}
    (hmade : (Controller.new kind tuning slots start).SameSettings c) (item : WorkItem)
    (found : Except Fault (Option Resource)) :
    (∃ row, ∀ row' result,
      Becomes start c item found row' result ↔ row' = row ∧ result = c.process item found) ∧
    (∀ key, key ≠ item.key → (c.process item found).2.observed[key]? = c.observed[key]?) ∧
    (∀ i, c.workers[i]? = some (.holding item) →
      c.step (.begin i found) =
        some ((c.process item found).2.setWorker i
            ((c.process item found).1.worker item c.enabledSinks),
          (c.process item found).1.calls i c.enabledSinks)) ∧
    ∀ (starts : List Instant), (starts.Pairwise fun earlier later => ¬ later < earlier) →
      ∀ (i j : Nat) (first last : Instant), i ≤ j → starts[i]? = some first →
      starts[j]? = some last →
      ∀ (kind' : Resource.Kind) (tuning' : Tuning) (slots' : List Sink.Slot)
        (past : List (Execution × Execution.Move)) (x : Execution),
      Path Execution.advance? { controller := .new kind' tuning' slots' last } past x →
      ∀ v ∈ Execution.visits past, v.item.action = .create → ∀ r, v.object? = some r →
      (∀ created, r.created? = some created → ¬ first.atSecond < created) →
        v.told? = some (.replayed, .ofResource r .create) ∧
        ∀ (σ : Type) (carrier : Carrier σ) (now : Instant) (sink : Adapter)
          (effects : Sink.Effects σ), sink.listens .replayed = false →
          sink.notify carrier now .replayed (.ofResource r .create) effects = (sink, effects) := by
  obtain ⟨row, hrow⟩ := c.becomes_process hmade.start item found
  refine ⟨⟨row, fun row' result => ⟨hrow.unique, ?_⟩⟩, fun key => hrow.observed_of_ne,
    fun i hw => c.step_begin hw found, ?_⟩
  · rintro ⟨rfl, rfl⟩
    exact hrow
  · intro starts hstarts i j first last hij hfirst hlast _ _ _ past x h v hv haction r hobject hold
    refine
      ⟨Execution.replayed_after_restarts hstarts hij hfirst hlast h hv haction hobject hold, ?_⟩
    intro σ carrier now sink effects hdeaf
    exact if_neg (by simp [hdeaf])

/-- An object that was created in the second of the start is replayed, whose version was not told
before; the sink that is enabled is called once. After a restart it is replayed again. -/
theorem process_becomes_replayed :
    let slots : List Sink.Slot := [⟨.elasticsearch, true⟩, ⟨.log, false⟩]
    let r : Resource := .live { version := "7", created := some (.ofSecond 100) } .secret
    let item : WorkItem := ⟨"ns/x", .secrets, .create, some "7"⟩
    ∃ past x past' x',
      Path Execution.advance? { controller := .new .secrets {} slots ⟨100, 500000000⟩ } past x ∧
      Path Execution.advance? { controller := .new .secrets {} slots ⟨200, 0⟩ } past' x' ∧
      x.controller.workers = [.holding item] ∧
      Becomes ⟨100, 500000000⟩ x.controller item (.ok (some r)) .replayed
        (x.controller.process item (.ok (some r))) ∧
      (x.controller.step (.begin 0 (.ok (some r)))).map
          (fun y => (y.1.metrics, y.1.observed.toList)) =
        some ({ dispatched := 1, replayed := 1 }, [("ns/x", "7")]) ∧
      (x.controller.step (.begin 0 (.ok (some r)))).map (·.2) =
        some [.deliver 0 0 .replayed (.ofResource r .create)] ∧
      (Execution.visits past').map (fun v => (v.item, v.object?)) = [(item, some r)] ∧
      (Execution.visits past').map Visit.told? = [some (.replayed, .ofResource r .create)] := by
  intro slots r item
  let before : List Execution.Move := [.act (.start 0), .act (.check 0 true),
    .notify (.add "ns/x" (some "7")), .act (.take 0)]
  let run (start : Instant) (moves : List Execution.Move) := moves.foldlM
    (follow? Execution.advance?) ([], { controller := .new .secrets {} slots start })
  have hfirst : (run ⟨100, 500000000⟩ before).map (fun way => (way.2.controller.workers,
      (way.2.controller.step (.begin 0 (.ok (some r)))).map fun y =>
        (y.1.metrics, y.1.observed.toList))) =
      some ([.holding item], some ({ dispatched := 1, replayed := 1 }, [("ns/x", "7")])) := by
    decide
  have hsecond : (run ⟨200, 0⟩ (before ++ [.act (.begin 0 (.ok (some r)))])).map
      (fun way => (Execution.visits way.1).map fun v => (v.item, v.object?)) =
      some [(item, some r)] := by decide
  obtain ⟨⟨past, x⟩, hway, hshown⟩ := Option.map_eq_some_iff.mp hfirst
  obtain ⟨⟨past', x'⟩, hway', hvisits⟩ := Option.map_eq_some_iff.mp hsecond
  obtain ⟨hworkers, hafter⟩ := Prod.mk.inj hshown
  have hpath := path_of_follow? .start hway
  have hpath' := path_of_follow? .start hway'
  have hsettings := (Execution.reachable_of_path hpath).sameSettings
  -- created in the second of the start counts as old
  have hold : ∀ created, r.created? = some created →
      ¬ Instant.atSecond ⟨100, 500000000⟩ < created := by
    intro created hcreated
    obtain rfl := Option.some.inj hcreated
    decide
  obtain ⟨⟨row, hrow⟩, -, hstep, hrestarts⟩ := process_becomes hsettings item (.ok (some r))
  obtain ⟨rfl, hresult⟩ := (hrow _ _).mp (.replayed r rfl hold)
  have hbegin := hstep 0 (by rw [hworkers]; rfl)
  have hsinks : x.controller.enabledSinks = [0] := by
    unfold enabledSinks
    rw [hsettings.slots]
    decide
  rw [hsinks, ← hresult] at hbegin
  obtain ⟨v, hv, hshape⟩ := List.map_eq_singleton_iff.mp hvisits
  obtain ⟨hitem, hobject⟩ := Prod.mk.inj hshape
  have htold := (hrestarts [⟨100, 500000000⟩, ⟨200, 0⟩] (by decide) 0 1 _ _ (by decide) rfl rfl
    _ _ _ _ _ hpath' v (by rw [hv]; exact List.mem_singleton_self v) (by rw [hitem]) r hobject
    hold).1
  refine ⟨past, x, past', x', hpath, hpath', hworkers, (hrow _ _).mpr ⟨rfl, rfl⟩, hafter, ?_,
    hvisits, ?_⟩
  · rw [hbegin]
    rfl
  · rw [hv]
    exact congrArg (fun told => [told]) htold

end Controller

end ClusterWatch
