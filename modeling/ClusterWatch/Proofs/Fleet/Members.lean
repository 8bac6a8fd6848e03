import ClusterWatch.Fleet.Runner
import ClusterWatch.Proofs.Controller.Stages
import Mathlib.Logic.Relation
/-!
# The members of a fleet

Whatever a fleet does about one of its members leaves all others as they are, and the member itself
only goes on: its controller takes steps and is notified, and its watch does not end.

- `Controller.Onward`: a controller takes steps and is notified, but it is not asked to stop.
- `Controller.Orderly`: a controller ends because it was asked to, or because its cache did not fill
  in time.
- `Fleet.Touches`: the members of a fleet after something that concerns one of them.
- `Fleet.touches_perform`, `touches_fire`: a step concerns the member that takes it, and a timer the
  one that waited for it.
- `Fleet.members_signal`: the stop signal reaches all controllers at once.
-/

namespace ClusterWatch

namespace Controller

variable {c c' : Controller} {step : Step} {effects : List Effect}

/-! ### The request to stop -/

/-- What is kept of an outcome is no request to stop. -/
theorem stopRequested_keep (c : Controller) (key : String)
    (found : Except Fault (Option Resource)) (outcome : Outcome) :
    (c.keep key found outcome).stopRequested = c.stopRequested := by
  have hobserve (r : Resource) : (c.observe key r).stopRequested = c.stopRequested := by
    unfold observe
    split <;> rfl
  have hcounted (c' : Controller) (counters : Prop) [Decidable counters] :
      ((if counters then c'.record .replay else c').record .dispatch).stopRequested =
        c'.stopRequested := by
    split <;> rfl
  unfold keep
  split
  · rfl
  · rfl
  · rfl
  · rw [hcounted]
    split
    · exact hobserve _
    · rfl

/-- No step but the request itself asks a controller to stop, and none takes the request back. -/
theorem Does.stopRequested (h : c.Does step c' effects) (hstep : step ≠ .stop) :
    c'.stopRequested = c.stopRequested := by
  cases h with
  | stop => exact absurd rfl hstep
  | send i found item notification event => exact c.stopRequested_keep item.key found _
  | _ => rfl

/-- A controller ends because it was asked to, or because its cache did not fill in time. -/
structure Orderly (c : Controller) : Prop where
  draining : c.stage = .draining → c.stopRequested = true
  stopped : c.stage = .stopped none → c.stopRequested = true
  failed : ∀ fault, c.stage = .stopped (some fault) →
    fault = .cacheSync c.kind.name c.tuning.syncTimeout

theorem orderly_new (kind : Resource.Kind) (tuning : Tuning) (slots : List Sink.Slot)
    (start : Time.Instant) : (Controller.new kind tuning slots start).Orderly where
  draining := fun h => by simp [Controller.new] at h
  stopped := fun h => by simp [Controller.new] at h
  failed := fun _ h => by simp [Controller.new] at h

/-- The stage stays as it is. -/
theorem Orderly.same (h : c.Orderly) (hsettings : c.SameSettings c')
    (hstop : c'.stopRequested = c.stopRequested) (hstage : c'.stage = c.stage) : c'.Orderly where
  draining := by rw [hstop, hstage]; exact h.draining
  stopped := by rw [hstop, hstage]; exact h.stopped
  failed := by rw [hstage, hsettings.kind, hsettings.tuning]; exact h.failed

/-- Each step keeps the order. -/
theorem Orderly.does (h : c.Orderly) (hdoes : c.Does step c' effects) : c'.Orderly := by
  cases hdoes with
  | start now hstage => constructor <;> simp
  | begun now deadline hstage => constructor <;> simp
  | late now deadline hstage => constructor <;> simp [stopWith]
  | early now deadline hstage => constructor <;> simp
  | tick deadline hstage => constructor <;> simp
  | stop => exact ⟨fun _ => rfl, fun _ => rfl, h.failed⟩
  | abandon deadline hstop hstage => exact ⟨fun _ => hstop, fun _ => hstop, by simp [stopWith]⟩
  | drain hstop hstage => exact ⟨fun _ => hstop, fun _ => hstop, by simp⟩
  | finish hstage hall =>
    have hstop := h.draining hstage
    exact ⟨fun _ => hstop, fun _ => hstop, by simp⟩
  | send i found item notification event hw houtcome =>
    have hframe := c.frame_keep item.key found (.send notification event)
    exact h.same ⟨hframe.kind, hframe.tuning, hframe.slots, hframe.start⟩
      (c.stopRequested_keep item.key found _) hframe.stage
  | _ => exact h.same ⟨rfl, rfl, rfl, rfl⟩ rfl rfl

/-! ### Going on -/

/-- A controller takes a step or is notified, but it is not asked to stop. -/
inductive Goes (c : Controller) : Controller → Prop
  | step {next : Controller} {step : Step} {effects : List Effect} : step ≠ .stop →
      c.Does step next effects → Goes c next
  | notify (call : Watch.Call) : Goes c (call.notify c)

/-- A controller takes steps and is notified, but it is not asked to stop. -/
def Onward : Controller → Controller → Prop :=
  Relation.ReflTransGen Goes

theorem onward_notify (c : Controller) (calls : List Watch.Call) :
    c.Onward (calls.foldl Watch.Call.notify c) := by
  induction calls generalizing c with
  | nil => exact .refl
  | cons call calls ih => exact .head (.notify call) (ih (call.notify c))

theorem Goes.sameSettings (h : c.Goes c') : c.SameSettings c' := by
  cases h with
  | step _ hdoes => exact hdoes.sameSettings
  | notify call => exact (c.notify_frame call).1

theorem Goes.stopRequested (h : c.Goes c') : c'.stopRequested = c.stopRequested := by
  cases h with
  | step hstep hdoes => exact hdoes.stopRequested hstep
  | notify call => exact (c.notify_frame call).2.1

theorem Goes.orderly (h : c.Goes c') (horderly : c.Orderly) : c'.Orderly := by
  cases h with
  | step _ hdoes => exact horderly.does hdoes
  | notify call =>
    obtain ⟨hsettings, hstop, hstage⟩ := c.notify_frame call
    exact horderly.same hsettings hstop hstage

/-- A run that has ended stays as it ended. -/
theorem Goes.stopped (h : c.Goes c') {failure : Option Fault}
    (hstopped : c.stage = .stopped failure) : c'.stage = .stopped failure := by
  cases h with
  | step _ hdoes =>
    rcases hdoes.stage_cases with (hsame | ⟨deadline, resting, _, hstage, -⟩) | ⟨hstage, -⟩ |
      ⟨now, deadline, -, hstage, -⟩ | ⟨deadline, resting, _, hstage, -⟩ | ⟨hstage, -⟩ | ⟨hstage, -⟩
    · rw [hsame, hstopped]
    all_goals cases hstopped.symm.trans hstage
  | notify call => rw [(c.notify_frame call).2.2, hstopped]

/-- The workers are at work until the controller is asked to stop. -/
theorem Goes.running (h : c.Goes c') (horderly : c.Orderly) (hcalm : c.stopRequested = false)
    (hrunning : c.stage = .running) : c'.stage = .running := by
  cases h with
  | step hstep hdoes =>
    rcases hdoes.stage_cases with (hsame | ⟨deadline, resting, _, hstage, -⟩) | ⟨hstage, -⟩ |
      ⟨now, deadline, -, hstage, -⟩ | ⟨deadline, resting, _, hstage, -⟩ | ⟨-, hdraining⟩ |
      ⟨hstage, -⟩
    · rw [hsame, hrunning]
    · cases hrunning.symm.trans hstage
    · cases hrunning.symm.trans hstage
    · cases hrunning.symm.trans hstage
    · cases hrunning.symm.trans hstage
    -- the workers are to finish only after a request to stop
    · have hstop := (horderly.does hdoes).draining hdraining
      rw [hdoes.stopRequested hstep, hcalm] at hstop
      cases hstop
    · cases hrunning.symm.trans hstage
  | notify call => rw [(c.notify_frame call).2.2, hrunning]

theorem Onward.sameSettings (h : c.Onward c') : c.SameSettings c' := by
  induction h with
  | refl => exact ⟨rfl, rfl, rfl, rfl⟩
  | tail _ hgoes ih => exact ih.trans hgoes.sameSettings

theorem Onward.stopRequested (h : c.Onward c') : c'.stopRequested = c.stopRequested := by
  induction h with
  | refl => rfl
  | tail _ hgoes ih => exact hgoes.stopRequested.trans ih

theorem Onward.orderly (h : c.Onward c') (horderly : c.Orderly) : c'.Orderly := by
  induction h with
  | refl => exact horderly
  | tail _ hgoes ih => exact hgoes.orderly ih

theorem Onward.stopped (h : c.Onward c') {failure : Option Fault}
    (hstopped : c.stage = .stopped failure) : c'.stage = .stopped failure := by
  induction h with
  | refl => exact hstopped
  | tail _ hgoes ih => exact hgoes.stopped ih

theorem Onward.running (h : c.Onward c') (horderly : c.Orderly) (hcalm : c.stopRequested = false)
    (hrunning : c.stage = .running) : c'.stage = .running := by
  induction h with
  | refl => exact hrunning
  | tail honward hgoes ih =>
    exact hgoes.running (Onward.orderly honward horderly)
      ((Onward.stopRequested honward).trans hcalm) ih

end Controller

namespace Fleet

variable {f f' f'' : Fleet} {i j : Nat}

/-! ### One member at a time -/

/-- A member goes on: so does its controller, and its watch does not end. -/
structure Member.Onward (m m' : Member) : Prop where
  controller : m.controller.Onward m'.controller
  watcher : m'.watcher.map (·.active) = m.watcher.map (·.active)

theorem Member.Onward.refl (m : Member) : m.Onward m :=
  ⟨.refl, rfl⟩

theorem Member.Onward.trans {m m' m'' : Member} (h : m.Onward m') (h' : m'.Onward m'') :
    m.Onward m'' :=
  ⟨h.controller.trans h'.controller, h'.watcher.trans h.watcher⟩

/-- The member at a position goes on and all others are left as they are. -/
def Touches (i : Nat) (f f' : Fleet) : Prop :=
  ∃ change : Member → Member, f'.members = f.members.modify i change ∧
    ∀ m, f.members[i]? = some m → m.Onward (change m)

/-- What does not concern any member. -/
theorem touches_of_members (i : Nat) (h : f'.members = f.members) : Touches i f f' :=
  ⟨id, by rw [h, List.modify_id], fun m _ => .refl m⟩

theorem Touches.trans (h : Touches i f f') (h' : Touches i f' f'') : Touches i f f'' := by
  obtain ⟨change, hmembers, honward⟩ := h
  obtain ⟨change', hmembers', honward'⟩ := h'
  refine ⟨change' ∘ change, by rw [hmembers', hmembers, List.modify_modify_eq], fun m hm => ?_⟩
  have hnext : f'.members[i]? = some (change m) := by
    rw [hmembers, List.getElem?_modify_eq, hm]
    rfl
  exact (honward m hm).trans (honward' _ hnext)

theorem Touches.length (h : Touches i f f') : f'.members.length = f.members.length := by
  obtain ⟨change, hmembers, -⟩ := h
  rw [hmembers, List.length_modify]

theorem Touches.own (h : Touches i f f') {m : Member} (hm : f.members[i]? = some m) :
    ∃ m', f'.members[i]? = some m' ∧ m.Onward m' := by
  obtain ⟨change, hmembers, honward⟩ := h
  refine ⟨change m, ?_, honward m hm⟩
  rw [hmembers, List.getElem?_modify_eq, hm]
  rfl

theorem Touches.other (h : Touches i f f') (hj : j ≠ i) : f'.members[j]? = f.members[j]? := by
  obtain ⟨change, hmembers, -⟩ := h
  rw [hmembers, List.getElem?_modify_ne _ _ hj.symm]

/-! ### What concerns one member -/

theorem controller?_eq_some {c : Controller} :
    f.controller? i = some c ↔ ∃ m, f.members[i]? = some m ∧ m.controller = c := by
  simp [controller?]

theorem touches_setController {c c' : Controller} (hc : f.controller? i = some c)
    (honward : c.Onward c') : Touches i f (f.setController i c') := by
  refine ⟨fun m => { m with controller := c' }, rfl, fun m hm => ⟨?_, rfl⟩⟩
  obtain ⟨m', hm', rfl⟩ := controller?_eq_some.mp hc
  obtain rfl := Option.some.inj (hm.symm.trans hm')
  exact honward

@[simp] theorem members_sight (f : Fleet) (r : Receiver) (notification : Sink.Notification)
    (event : Event) : (f.sight r notification event).members = f.members := by
  unfold sight
  split <;> rfl

/-- The end of a delivery concerns the member on whose behalf it was made. -/
theorem touches_deliver (f : Fleet) (i worker sink : Nat) (notification : Sink.Notification)
    (event : Event) : Touches i f (f.deliver i worker sink notification event) := by
  have hstep {g : Fleet} {c' : Controller} {effects : List Controller.Effect}
      (h : (g.controller? i).bind (·.step (.delivered worker sink)) = some (c', effects)) :
      Touches i g (g.setController i c') := by
    obtain ⟨c, hc, hstep⟩ := Option.bind_eq_some_iff.mp h
    exact touches_setController hc (.single (.step (by simp) (Controller.does_of_step hstep)))
  unfold deliver
  cases f.receivers[sink]? with
  | none =>
    dsimp only
    split
    · next h => exact hstep h
    · exact touches_of_members i rfl
  | some r =>
    refine (touches_of_members i (members_sight f r notification event)).trans ?_
    dsimp only
    split
    · next h => exact hstep h
    · exact touches_of_members i rfl

theorem touches_respond (f : Fleet) (i : Nat) (effect : Controller.Effect) :
    Touches i f (f.respond i effect) := by
  cases effect with
  | checkAt time => exact touches_of_members i rfl
  | deliver worker sink notification event =>
    simp only [respond]
    split
    · exact touches_deliver ..
    · exact touches_of_members i rfl
  | matureAfter delay retry => exact touches_of_members i rfl

/-- A step concerns the member that takes it, and so does what the step asks for. -/
theorem touches_perform (f : Fleet) (i : Nat) {s : Controller.Step} (hs : s ≠ .stop) :
    Touches i f (f.perform i s) := by
  have hresponds (effects : List Controller.Effect) (g : Fleet) :
      Touches i g (effects.foldl (fun f e => f.respond i e) g) := by
    induction effects generalizing g with
    | nil => exact touches_of_members i rfl
    | cons effect effects ih => exact (touches_respond g i effect).trans (ih _)
  unfold perform
  split
  · next c' effects hstep =>
    obtain ⟨c, hc, hstep⟩ := Option.bind_eq_some_iff.mp hstep
    have hset := touches_setController hc (.single (.step hs (Controller.does_of_step hstep)))
    exact hset.trans (hresponds effects _)
  · exact touches_of_members i rfl

/-- What a watch reports is passed on to the controller, and the watch goes on. -/
theorem onward_absorb (events : List Watch.Event) (m : Member) (w : Watcher) :
    let (m', w') := events.foldl (fun (m, w) e => absorb m w e) (m, w)
    m.controller.Onward m'.controller ∧ w'.active = w.active := by
  induction events generalizing m w with
  | nil => exact ⟨.refl, rfl⟩
  | cons e events ih =>
    obtain ⟨honward, hactive⟩ := ih (absorb m w e).1 (absorb m w e).2
    exact ⟨(m.controller.onward_notify (w.translator.handle e).2).trans honward, hactive⟩

/-- An answer to a watch concerns its member. -/
theorem touches_watch (f : Fleet) (i : Nat) (wait : Watch.Wait) : Touches i f (f.watch i wait) := by
  unfold watch
  split
  · next m hm =>
    split
    · next w hw =>
      split
      · rcases answer w wait with ⟨feed, events, next⟩
        obtain ⟨honward, hactive⟩ := onward_absorb events m { w with feed }
        rcases hfed : events.foldl (fun (m, w) e => absorb m w e) (m, { w with feed }) with ⟨m', w'⟩
        rw [hfed] at honward hactive
        have hheld (held : Watcher) (hheld : held.active = w.active) :
            Touches i f (f.modify i fun _ => { m' with watcher := some held }) := by
          refine ⟨_, rfl, fun n hn => ?_⟩
          obtain rfl := Option.some.inj (hm.symm.trans hn)
          exact ⟨honward, by simp [hw, hheld]⟩
        simp only [hfed]
        cases next with
        | line => exact (hheld w' hactive).trans (touches_of_members i rfl)
        | list => exact (hheld (w'.fail f.now).1 hactive).trans (touches_of_members i rfl)
        | nothing => exact hheld w' hactive
      · exact touches_of_members i rfl
    · exact touches_of_members i rfl
  · exact touches_of_members i rfl

/-- A timer concerns the member that has waited for it. -/
theorem touches_fire (f : Fleet) (i : Nat) (timer : Timer) : Touches i f (f.fire i timer) := by
  cases timer with
  | look => exact touches_perform f i (by simp)
  | delivery worker sink notification event => exact touches_deliver ..
  | backoff retry => exact touches_perform f i (by simp)
  | watch wait => exact touches_watch f i wait

/-! ### What concerns all members -/

/-- Changes to one member after the other are a change to all. -/
theorem foldl_modify_range {α : Type} (change : α → α) (l : List α) :
    (List.range l.length).foldl (fun l i => l.modify i change) l = l.map change := by
  -- after as many changes as `n` says, the first `n` entries are changed
  have hfirst (n : Nat) : ∀ j, ((List.range n).foldl (fun l i => l.modify i change) l)[j]? =
      if j < n then l[j]?.map change else l[j]? := by
    induction n with
    | zero => simp
    | succ n ih =>
      intro j
      rw [List.range_succ, List.foldl_append, List.foldl_cons, List.foldl_nil,
        List.getElem?_modify, ih j]
      rcases Nat.lt_trichotomy j n with hlt | rfl | hgt
      · have hne : n ≠ j := by omega
        have hlt_succ : j < n + 1 := by omega
        simp only [hlt, hlt_succ, hne, if_true, if_false, Option.map_eq_map, Option.map_id']
      · simp
      · have hnot : ¬ j < n := by omega
        have hne : n ≠ j := by omega
        have hnot_succ : ¬ j < n + 1 := by omega
        simp only [hnot, hnot_succ, hne, if_false, Option.map_eq_map, Option.map_id']
  apply List.ext_getElem?
  intro j
  rw [hfirst, List.getElem?_map]
  split
  · rfl
  · next hj => rw [List.getElem?_eq_none (Nat.le_of_not_lt hj)]; rfl

/-- A member is asked to stop. -/
def Member.ask (m : Member) : Member :=
  { m with controller := { m.controller with stopRequested := true } }

/-- The stop signal. -/
def signal (f : Fleet) : Fleet :=
  (List.range f.members.length).foldl (fun f i => f.perform i .stop) f

theorem members_perform_stop (f : Fleet) (i : Nat) :
    (f.perform i .stop).members = f.members.modify i Member.ask := by
  apply List.ext_getElem?
  intro j
  rw [List.getElem?_modify]
  unfold perform controller?
  cases hm : f.members[i]? with
  | none =>
    show f.members[j]? = _
    by_cases hij : i = j
    · rw [← hij, hm]
      rfl
    · simp only [hij, if_false, Option.map_eq_map, Option.map_id']
  | some m =>
    show (f.members.modify i _)[j]? = _
    rw [List.getElem?_modify]
    by_cases hij : i = j
    · rw [← hij, hm]
      simp [Member.ask]
    · simp only [hij, if_false]

/-- The stop signal reaches all controllers at once. -/
theorem members_signal (f : Fleet) : f.signal.members = f.members.map Member.ask := by
  rw [← foldl_modify_range, signal]
  generalize List.range f.members.length = positions
  induction positions generalizing f with
  | nil => rfl
  | cons i positions ih =>
    rw [List.foldl_cons, List.foldl_cons, ih, members_perform_stop]

end Fleet

end ClusterWatch
