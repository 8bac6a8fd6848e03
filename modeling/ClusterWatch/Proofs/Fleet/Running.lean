import ClusterWatch.Proofs.Fleet.Members
import ClusterWatch.Proofs.Path
/-!
# The run of all controllers

A run of a fleet. The controllers and the watches go on in any order and at any speed, what a look
at a cache finds is left open, and the stop signal comes at any time. The run waits for the ends of
the controllers first, in whatever order they come, and then for the ends of the watches.

- `Runner`: the fleet, whose ends are still waited for, and the summary so far.
- `Runner.Move`, `Runner.advance?`: what may happen next.
- `Runner.hasReturned`: whether the run is over.
- `Runner.Change`: everything that a move can come to, by `change_of_advance?`.
- `Runner.leads_launch`, `leads_operate`: starting a fleet, letting time pass and stopping it are
  moves of a run.
-/

namespace ClusterWatch

open Time (Instant)

namespace Fleet

/-- The summary with the end of one more controller. -/
def Summary.enter (s : Summary) (kind : Resource.Kind) : Option Fault → Summary
  | none => { s with stopped := s.stopped ++ [kind] }
  | some fault => { s with failed := s.failed ++ [(kind, fault)] }

/-- Whether the watch of a member has ended. -/
def Member.watchEnded (m : Member) : Bool :=
  m.watcher.all fun w => !w.active

/-- Time passes up to a limit, or to what is due first. -/
def pass (f : Fleet) (limit : Nat) : Fleet :=
  match f.agenda.due? limit with
  | some (due, _, agenda) => { f with now := max f.now due, agenda }
  | none => { f with now := max f.now limit }

/-- What the program does to its fleet after the start. -/
inductive Operation where
  /-- It lets a number of milliseconds pass. -/
  | advance (millis : Nat)
  /-- It stops the controllers. -/
  | requestStop

/-- The fleet after an operation. -/
def operate (f : Fleet) : Operation → Fleet
  | .advance millis => f.advance millis
  | .requestStop => f.requestStop

end Fleet

/-- The run of a fleet. Controllers and watches are named by their positions. -/
structure Runner where
  fleet : Fleet
  /-- Whether the stop signal was given. -/
  signalled : Bool := false
  /-- The controllers whose ends are still waited for. -/
  controllers : List Nat
  /-- The watches whose ends are still waited for. -/
  watches : List Nat
  summary : Fleet.Summary := ⟨[], []⟩

namespace Runner

/-- A controller and a watch for each kind, all of them about to start. -/
def ofFeeds (tuning : Controller.Tuning) (receivers : List Fleet.Receiver) (start : Instant)
    (feeds : List (Resource.Kind × Watch.Feed)) : Runner where
  fleet :=
    { receivers
      members := feeds.map fun (kind, feed) => Fleet.memberOf tuning receivers start kind feed }
  controllers := List.range feeds.length
  watches := List.range feeds.length

/-- What may happen in a run. -/
inductive Move where
  /-- A controller takes a step, with all that the step asks for. -/
  | act (i : Nat) (step : Controller.Step)
  /-- What a controller or a watch has waited for comes. -/
  | fire (i : Nat) (timer : Fleet.Timer)
  /-- A watch notices that it is to end. -/
  | endWatch (i : Nat)
  | pass (limit : Nat)
  /-- The stop signal is given. -/
  | signal
  /-- The end of a controller is noticed. -/
  | join (i : Nat)
  /-- The end of a watch is noticed. -/
  | joinWatch (i : Nat)

/-- Makes a move, if it can be made. Controllers are asked to stop by the stop signal only, and
nobody looks at the watches before all controllers have ended. -/
def advance? (x : Runner) : Move → Option Runner
  | .act _ .stop => none
  | .act i step => some { x with fleet := x.fleet.perform i step }
  | .fire i timer => some { x with fleet := x.fleet.fire i timer }
  | .endWatch i => some { x with fleet := x.fleet.modify i Fleet.Member.endWatch }
  | .pass limit => some { x with fleet := x.fleet.pass limit }
  | .signal => some { x with fleet := x.fleet.signal, signalled := true }
  | .join i =>
    match x.fleet.controller? i with
    | some c =>
      match c.stage with
      | .stopped failure =>
        if i ∈ x.controllers then
          some { x with
            controllers := x.controllers.erase i
            summary := x.summary.enter c.kind failure }
        else none
      | _ => none
    | none => none
  | .joinWatch i =>
    match x.fleet.members[i]? with
    | some m =>
      if x.controllers = [] ∧ i ∈ x.watches ∧ m.watchEnded then
        some { x with watches := x.watches.erase i }
      else none
    | none => none

/-- Whether the run is over: no end is waited for any more. -/
def hasReturned (x : Runner) : Prop :=
  x.controllers = [] ∧ x.watches = []

instance (x : Runner) : Decidable x.hasReturned :=
  inferInstanceAs (Decidable (_ ∧ _))

variable {x y z : Runner} {i : Nat}

/-! ### What a move does -/

theorem advance?_act (x : Runner) (i : Nat) {step : Controller.Step} (hstep : step ≠ .stop) :
    x.advance? (.act i step) = some { x with fleet := x.fleet.perform i step } := by
  cases step with
  | stop => exact absurd rfl hstep
  | _ => rfl

/-- Everything that a move can come to. -/
inductive Change (x : Runner) : Runner → Prop
  /-- One member goes on. -/
  | touch (i : Nat) (f : Fleet) : x.fleet.Touches i f → Change x { x with fleet := f }
  | endWatch (i : Nat) : Change x { x with fleet := x.fleet.modify i Fleet.Member.endWatch }
  | signal : Change x { x with fleet := x.fleet.signal, signalled := true }
  | join (i : Nat) (c : Controller) (failure : Option Fault) : i ∈ x.controllers →
      x.fleet.controller? i = some c → c.stage = .stopped failure →
      Change x { x with
        controllers := x.controllers.erase i, summary := x.summary.enter c.kind failure }
  | joinWatch (i : Nat) (m : Fleet.Member) : x.controllers = [] → i ∈ x.watches →
      x.fleet.members[i]? = some m → m.watchEnded = true →
      Change x { x with watches := x.watches.erase i }

/-- A move that can be made does one of these things. -/
theorem change_of_advance? {move : Move} (h : x.advance? move = some y) : x.Change y := by
  cases move with
  | act i step =>
    have hstep : step ≠ .stop := by
      rintro rfl
      cases h
    obtain rfl := Option.some.inj ((x.advance?_act i hstep).symm.trans h)
    exact .touch i _ (x.fleet.touches_perform i hstep)
  | fire i timer =>
    obtain rfl := Option.some.inj h
    exact .touch i _ (x.fleet.touches_fire i timer)
  | endWatch i =>
    obtain rfl := Option.some.inj h
    exact .endWatch i
  | pass limit =>
    obtain rfl := Option.some.inj h
    -- time concerns no member
    refine .touch 0 _ (Fleet.touches_of_members 0 ?_)
    unfold Fleet.pass
    split <;> rfl
  | signal =>
    obtain rfl := Option.some.inj h
    exact .signal
  | join i =>
    simp only [advance?] at h
    split at h
    · next c hc =>
      split at h
      · next failure hstage =>
        split at h
        · next hi =>
          obtain rfl := Option.some.inj h
          exact .join i c failure hi hc hstage
        · cases h
      · cases h
    · cases h
  | joinWatch i =>
    simp only [advance?] at h
    split at h
    · next m hm =>
      split at h
      · next hends =>
        obtain rfl := Option.some.inj h
        exact .joinWatch i m hends.1 hends.2.1 hm hends.2.2
      · cases h
    · cases h

/-! ### What the program does -/

/-- A run may go from one state to another. -/
def Leads (x y : Runner) : Prop :=
  ∃ past, Path advance? x past y

theorem Leads.refl (x : Runner) : x.Leads x :=
  ⟨[], .start⟩

theorem Leads.trans (h : x.Leads y) (h' : y.Leads z) : x.Leads z := by
  obtain ⟨past, hpath⟩ := h
  obtain ⟨later, hlater⟩ := h'
  exact ⟨later ++ past, hpath.append hlater⟩

theorem leads_of_advance? (move : Move) (h : x.advance? move = some y) : x.Leads y :=
  ⟨[(x, move)], .move .start h⟩

/-- Moves about one member after the other. -/
theorem leads_foldl (x : Runner) (g : Fleet → Nat → Fleet) (positions : List Nat)
    (hmove : ∀ f i, ∃ move, advance? { x with fleet := f } move = some { x with fleet := g f i }) :
    x.Leads { x with fleet := positions.foldl g x.fleet } := by
  suffices hall : ∀ f, Leads { x with fleet := f } { x with fleet := positions.foldl g f } from
    hall x.fleet
  induction positions with
  | nil => exact fun f => .refl _
  | cons i positions ih =>
    intro f
    obtain ⟨move, hfirst⟩ := hmove f i
    exact (leads_of_advance? move hfirst).trans (ih (g f i))

/-- All watches notice whether they are to end. -/
theorem leads_endWatches (x : Runner) :
    x.Leads { x with
      fleet := { x.fleet with members := x.fleet.members.map Fleet.Member.endWatch } } := by
  have hall := x.leads_foldl (fun f i => f.modify i Fleet.Member.endWatch)
    (List.range x.fleet.members.length) fun f i => ⟨.endWatch i, rfl⟩
  have hmembers (positions : List Nat) (f : Fleet) :
      positions.foldl (fun f i => f.modify i Fleet.Member.endWatch) f =
        { f with members :=
            positions.foldl (fun l i => l.modify i Fleet.Member.endWatch) f.members } := by
    induction positions generalizing f with
    | nil => rfl
    | cons i positions ih => exact ih _
  rwa [hmembers, Fleet.foldl_modify_range] at hall

/-- A controller does not ask itself to stop. -/
theorem next?_ne_stop (c : Controller) (cache : Cache) (now : Nat) :
    c.next? cache now ≠ some .stop := by
  -- none of the sources of steps asks to stop: the request comes from outside
  have hrun : c.runStep? cache now ≠ some .stop := by
    unfold Controller.runStep?
    split
    all_goals try split
    all_goals simp
  have hworker (i : Nat) (w : Controller.Worker) : c.workerStep? cache i w ≠ some .stop := by
    unfold Controller.workerStep?
    split
    all_goals try split
    all_goals simp
  have hworkers (busy : Bool) : (c.workers.zipIdx.findSome? fun p =>
      if (p.1 ≠ .idle) = busy then c.workerStep? cache p.2 p.1 else none) ≠ some .stop := by
    intro hfound
    obtain ⟨p, -, hp⟩ := List.exists_of_findSome?_eq_some hfound
    split at hp
    · exact hworker p.2 p.1 hp
    · cases hp
  intro hnext
  simp only [Controller.next?, Option.orElse_eq_orElse, Option.orElse_eq_or,
    Option.or_eq_some_iff] at hnext
  rcases hnext with hnext | ⟨-, hnext | ⟨-, hnext⟩⟩
  · exact hrun hnext
  · exact hworkers true (by simpa using hnext)
  · exact hworkers false (by simpa using hnext)

theorem leads_settle (x : Runner) : x.Leads { x with fleet := x.fleet.settle } := by
  suffices hall : ∀ bound f,
      Leads { x with fleet := f } { x with fleet := Fleet.settleWithin bound f } from
    hall _ x.fleet
  intro bound
  induction bound with
  | zero => exact fun f => .refl _
  | succ bound ih =>
    intro f
    unfold Fleet.settleWithin
    split
    · next i s hnext =>
      have hs : s ≠ .stop := by
        rintro rfl
        obtain ⟨⟨m, j⟩, -, hm⟩ := List.exists_of_findSome?_eq_some hnext
        obtain ⟨s, hs, hsame⟩ := Option.map_eq_some_iff.mp hm
        obtain ⟨-, rfl⟩ := Prod.mk.inj hsame
        exact next?_ne_stop _ _ _ hs
      exact (leads_of_advance? _ (advance?_act _ i hs)).trans (ih (f.perform i s))
    · exact leads_endWatches { x with fleet := f }

/-- Letting time pass is a run. -/
theorem leads_advance (x : Runner) (millis : Nat) :
    x.Leads { x with fleet := x.fleet.advance millis } := by
  suffices hall : ∀ limit bound f,
      Leads { x with fleet := f } { x with fleet := Fleet.runWithin limit bound f } from
    hall _ _ x.fleet
  intro limit bound
  induction bound with
  | zero => exact fun f => .refl _
  | succ bound ih =>
    intro f
    have hpass : Leads { x with fleet := f } { x with fleet := f.pass limit } :=
      leads_of_advance? (.pass limit) rfl
    unfold Fleet.runWithin
    unfold Fleet.pass at hpass
    split
    · next due i timer agenda hdue =>
      rw [hdue] at hpass
      refine hpass.trans ?_
      refine (leads_of_advance? (.fire i timer) rfl).trans ?_
      exact (leads_settle _).trans (ih _)
    · next hdue =>
      rw [hdue] at hpass
      exact hpass

/-- Stopping a fleet is a run in which the stop signal is given. -/
theorem leads_requestStop (x : Runner) :
    x.Leads { x with fleet := x.fleet.requestStop, signalled := true } :=
  (leads_of_advance? .signal rfl).trans (leads_settle _)

/-- Whatever the program does to a fleet is a run. -/
theorem leads_operate (x : Runner) (operations : List Fleet.Operation) :
    ∃ signalled, x.Leads { x with fleet := operations.foldl Fleet.operate x.fleet, signalled } := by
  induction operations generalizing x with
  | nil => exact ⟨x.signalled, .refl x⟩
  | cons operation operations ih =>
    cases operation with
    | advance millis =>
      obtain ⟨signalled, hrest⟩ := ih { x with fleet := x.fleet.advance millis }
      exact ⟨signalled, (x.leads_advance millis).trans hrest⟩
    | requestStop =>
      obtain ⟨signalled, hrest⟩ := ih { x with fleet := x.fleet.requestStop, signalled := true }
      exact ⟨signalled, x.leads_requestStop.trans hrest⟩

/-- Starting a fleet is a run. -/
theorem leads_launch (tuning : Controller.Tuning) (receivers : List Fleet.Receiver)
    (start : Instant) (feeds : List (Resource.Kind × Watch.Feed)) :
    (ofFeeds tuning receivers start feeds).Leads
      { ofFeeds tuning receivers start feeds with
        fleet := Fleet.launch tuning receivers start feeds } := by
  have hstart := leads_foldl (ofFeeds tuning receivers start feeds)
    (fun f i => f.perform i (.start f.nanos))
    (List.range (ofFeeds tuning receivers start feeds).fleet.members.length)
    fun f i => ⟨.act i (.start f.nanos), rfl⟩
  have hwatch (y : Runner) := leads_foldl y (fun f i => f.watch i .list)
    (List.range (ofFeeds tuning receivers start feeds).fleet.members.length)
    fun f i => ⟨.fire i (.watch .list), rfl⟩
  exact hstart.trans ((leads_settle _).trans ((hwatch _).trans (leads_settle _)))

end Runner

end ClusterWatch
