import ClusterWatch.Proofs.Fleet.Running
/-!
# The members of a run do not disturb each other

What the members of a run have to do with each other is the stop signal. Whatever else ends a
controller or a watch is its own.

- `Fleet.Follows`: what stays true of the members whatever happens, an end most of all.
- `Member.Fits`: why a member ends.
- `Member.Moves`: what may happen to a member at once; `Change.moves` says it of all members.
- `Sound`: the members are those of the kinds of the run, and they fit.
- `Isolated`: what the members have to do with each other, by `isolated_of_path` in every run.
-/

namespace ClusterWatch

namespace Fleet

variable {f f' : Fleet} {i : Nat} {m m' : Fleet.Member} {tuning : Controller.Tuning}
  {signalled : Bool}

/-! ### Ends -/

/-- The controller at a position has ended with a failure. -/
def Failed (f : Fleet) (i : Nat) : Prop :=
  ∃ m fault, f.members[i]? = some m ∧ m.controller.stage = .stopped (some fault)

/-- The controller at a position has ended. -/
def Ended (f : Fleet) (i : Nat) : Prop :=
  ∃ m failure, f.members[i]? = some m ∧ m.controller.stage = .stopped failure

/-- The workers of the controller at a position are at work: its cache was found complete, and it
was not made to finish. -/
def Runs (f : Fleet) (i : Nat) : Prop :=
  ∃ m, f.members[i]? = some m ∧ m.controller.stage = .running

/-- The watch at a position is cancelled. -/
def Cancelled (f : Fleet) (i : Nat) : Prop :=
  ∃ m, f.members[i]? = some m ∧ m.watchShouldEnd = true

/-- The watch at a position has ended. -/
def WatchEnded (f : Fleet) (i : Nat) : Prop :=
  ∃ m, f.members[i]? = some m ∧ m.watchEnded = true

theorem watchShouldEnd_iff : m.watchShouldEnd = true ↔
    m.controller.stopRequested = true ∨ ∃ fault, m.controller.stage = .stopped (some fault) := by
  unfold Member.watchShouldEnd
  split
  · next fault hstage => simp [hstage]
  · next hother =>
    constructor
    · exact .inl
    · rintro (hstop | ⟨fault, hstage⟩)
      · exact hstop
      · exact absurd hstage (hother fault)

theorem watchEnded_of_active (hactive : m'.watcher.map (·.active) = m.watcher.map (·.active)) :
    m'.watchEnded = m.watchEnded := by
  have hall (n : Member) :
      n.watchEnded = (n.watcher.map (·.active)).all (! ·) := by
    unfold Member.watchEnded
    cases n.watcher <;> rfl
  rw [hall, hall, hactive]

@[simp] theorem controller_endWatch (m : Member) : m.endWatch.controller = m.controller := by
  unfold Member.endWatch
  split <;> rfl

@[simp] theorem watchShouldEnd_endWatch (m : Member) :
    m.endWatch.watchShouldEnd = m.watchShouldEnd := by
  rw [Bool.eq_iff_iff, watchShouldEnd_iff, watchShouldEnd_iff, controller_endWatch]

/-- A watch that is cancelled ends, and one that is not goes on. -/
theorem watchEnded_endWatch (m : Member) :
    m.endWatch.watchEnded = (m.watchShouldEnd || m.watchEnded) := by
  unfold Member.endWatch
  split
  · next hends =>
    rw [hends, Bool.true_or]
    unfold Member.watchEnded
    cases m.watcher <;> rfl
  · next hgoes => rw [Bool.eq_false_iff.mpr hgoes, Bool.false_or]

/-! ### What stays true -/

/-- What stays true of a member whatever happens. -/
structure Member.Continues (m m' : Member) : Prop where
  kind : m'.controller.kind = m.controller.kind
  stopped : ∀ failure, m.controller.stage = .stopped failure →
    m'.controller.stage = .stopped failure
  watchEnded : m.watchEnded = true → m'.watchEnded = true

/-- The members stay where they are, and what stays true of them does. -/
structure Follows (f f' : Fleet) : Prop where
  length : f'.members.length = f.members.length
  member : ∀ (i : Nat) (m : Member), f.members[i]? = some m →
    ∃ m' : Member, f'.members[i]? = some m' ∧ m.Continues m'

theorem Member.Onward.continues (h : m.Onward m') : m.Continues m' where
  kind := h.controller.sameSettings.kind
  stopped := fun _ => h.controller.stopped
  watchEnded := by rw [watchEnded_of_active h.watcher]; exact id

theorem continues_endWatch (m : Member) : m.Continues m.endWatch where
  kind := by rw [controller_endWatch]
  stopped := by rw [controller_endWatch]; exact fun _ => id
  watchEnded := by
    intro hended
    rw [watchEnded_endWatch, hended, Bool.or_true]

theorem continues_ask (m : Member) : m.Continues m.ask :=
  ⟨rfl, fun _ => id, id⟩

/-- All members change in a way that keeps what stays true of them. -/
theorem follows_map {change : Member → Member} (hchange : ∀ m : Member, m.Continues (change m))
    (hmembers : f'.members = f.members.map change) : f.Follows f' := by
  refine ⟨by rw [hmembers, List.length_map], fun i m hm => ⟨change m, ?_, hchange m⟩⟩
  rw [hmembers, List.getElem?_map, hm]
  rfl

theorem Follows.kinds (h : f.Follows f') :
    f'.members.map (·.controller.kind) = f.members.map (·.controller.kind) := by
  apply List.ext_getElem?
  intro i
  rw [List.getElem?_map, List.getElem?_map]
  cases hm : f.members[i]? with
  | none =>
    have hout := List.getElem?_eq_none_iff.mp hm
    rw [List.getElem?_eq_none_iff.mpr (h.length ▸ hout)]
  | some m =>
    obtain ⟨m', hm', hcontinues⟩ := h.member i m hm
    rw [hm']
    exact congrArg some hcontinues.kind

/-- A member that has ended is found again. -/
theorem Follows.exists_stopped (h : f.Follows f') {kind : Resource.Kind} {failure : Option Fault}
    (hm : ∃ m ∈ f.members, m.controller.kind = kind ∧ m.controller.stage = .stopped failure) :
    ∃ m ∈ f'.members, m.controller.kind = kind ∧ m.controller.stage = .stopped failure := by
  obtain ⟨m, hmem, hkind, hstage⟩ := hm
  obtain ⟨i, hi⟩ := List.mem_iff_getElem?.mp hmem
  obtain ⟨m', hm', hcontinues⟩ := h.member i m hi
  exact ⟨m', List.mem_of_getElem? hm', hcontinues.kind.trans hkind,
    hcontinues.stopped failure hstage⟩

/-! ### Why a member ends -/

/-- A member of a run knows of the stop signal, and ends for no other reason than that or its own
failure. -/
structure Member.Fits (tuning : Controller.Tuning) (signalled : Bool) (m : Member) : Prop where
  tuning_eq : m.controller.tuning = tuning
  asked : m.controller.stopRequested = signalled
  orderly : m.controller.Orderly
  watched : ∃ w, m.watcher = some w
  cancelled : m.watchEnded = true → m.watchShouldEnd = true

theorem fits_memberOf (tuning : Controller.Tuning) (receivers : List Receiver)
    (start : Time.Instant) (kind : Resource.Kind) (feed : Watch.Feed) :
    (memberOf tuning receivers start kind feed).Fits tuning false where
  tuning_eq := rfl
  asked := rfl
  orderly := Controller.orderly_new ..
  watched := ⟨_, rfl⟩
  cancelled := fun h => by simp [Member.watchEnded, memberOf] at h

theorem Member.Fits.onward (h : m.Fits tuning signalled) (honward : m.Onward m') :
    m'.Fits tuning signalled where
  tuning_eq := honward.controller.sameSettings.tuning.trans h.tuning_eq
  asked := honward.controller.stopRequested.trans h.asked
  orderly := honward.controller.orderly h.orderly
  watched := by
    obtain ⟨w, hw⟩ := h.watched
    have hsame := honward.watcher
    rw [hw] at hsame
    obtain ⟨w', hw', -⟩ := Option.map_eq_some_iff.mp hsame
    exact ⟨w', hw'⟩
  cancelled := by
    intro hended
    rw [watchEnded_of_active honward.watcher] at hended
    rcases watchShouldEnd_iff.mp (h.cancelled hended) with hstop | ⟨fault, hstage⟩
    · exact watchShouldEnd_iff.mpr (.inl (honward.controller.stopRequested.trans hstop))
    · exact watchShouldEnd_iff.mpr (.inr ⟨fault, honward.controller.stopped hstage⟩)

theorem Member.Fits.endWatch (h : m.Fits tuning signalled) :
    m.endWatch.Fits tuning signalled where
  tuning_eq := by rw [controller_endWatch]; exact h.tuning_eq
  asked := by rw [controller_endWatch]; exact h.asked
  orderly := by rw [controller_endWatch]; exact h.orderly
  watched := by
    obtain ⟨w, hw⟩ := h.watched
    unfold Member.endWatch
    split
    · exact ⟨_, congrArg (Option.map _) hw⟩
    · exact ⟨w, hw⟩
  cancelled := by
    rw [watchEnded_endWatch, watchShouldEnd_endWatch]
    intro hended
    rcases Bool.or_eq_true_iff.mp hended with hends | hended
    · exact hends
    · exact h.cancelled hended

theorem Member.Fits.ask (h : m.Fits tuning signalled) : m.ask.Fits tuning true where
  tuning_eq := h.tuning_eq
  asked := rfl
  orderly := ⟨fun _ => rfl, fun _ => rfl, h.orderly.failed⟩
  watched := h.watched
  cancelled := fun _ => watchShouldEnd_iff.mpr (.inl rfl)

/-- The watch of a member is cancelled by the stop signal or by the failure of its controller. -/
theorem Member.Fits.watchShouldEnd_iff (h : m.Fits tuning signalled) : m.watchShouldEnd = true ↔
    signalled = true ∨ ∃ fault, m.controller.stage = .stopped (some fault) := by
  rw [Fleet.watchShouldEnd_iff, h.asked]

/-- A controller ends after the stop signal, or by its failure. -/
theorem Member.Fits.of_stopped (h : m.Fits tuning signalled) {failure : Option Fault}
    (hstage : m.controller.stage = .stopped failure) :
    signalled = true ∨ ∃ fault, m.controller.stage = .stopped (some fault) := by
  cases failure with
  | none => exact .inl (h.asked ▸ h.orderly.stopped hstage)
  | some fault => exact .inr ⟨fault, hstage⟩

/-! ### What happens to a member -/

/-- What may happen to a member at once. The flag tells whether it is asked to stop. -/
inductive Member.Moves (m : Member) : Bool → Member → Prop
  | onward {next : Member} : m.Onward next → Moves m false next
  | endWatch : Moves m false m.endWatch
  | ask : Moves m true m.ask

variable {asked : Bool}

theorem Member.Moves.continues (h : m.Moves asked m') : m.Continues m' := by
  cases h with
  | onward honward => exact honward.continues
  | endWatch => exact continues_endWatch m
  | ask => exact continues_ask m

theorem Member.Moves.fits (h : m.Moves asked m') (hfits : m.Fits tuning signalled) :
    m'.Fits tuning (signalled || asked) := by
  cases h with
  | onward honward => exact (Bool.or_false signalled).symm ▸ hfits.onward honward
  | endWatch => exact (Bool.or_false signalled).symm ▸ hfits.endWatch
  | ask => exact (Bool.or_true signalled).symm ▸ hfits.ask

/-- The workers of a member are at work until it is asked to stop. -/
theorem Member.Moves.running (h : m.Moves false m') (hfits : m.Fits tuning false)
    (hrunning : m.controller.stage = .running) : m'.controller.stage = .running := by
  cases h with
  | onward honward => exact honward.controller.running hfits.orderly hfits.asked hrunning
  | endWatch => rw [controller_endWatch, hrunning]

end Fleet

namespace Runner

open Fleet (Member)

variable {x y z : Runner} {kinds : List Resource.Kind} {tuning : Controller.Tuning}
  {receivers : List Fleet.Receiver} {start : Time.Instant}
  {feeds : List (Resource.Kind × Watch.Feed)} {past : List (Runner × Move)}

/-! ### The members of a run -/

/-- The members of a run are those of its kinds, and each ends for a reason. -/
structure Sound (kinds : List Resource.Kind) (tuning : Controller.Tuning) (x : Runner) : Prop where
  kinds_eq : x.fleet.members.map (·.controller.kind) = kinds
  fits : ∀ m ∈ x.fleet.members, m.Fits tuning x.signalled

theorem sound_ofFeeds : (ofFeeds tuning receivers start feeds).Sound (feeds.map (·.1)) tuning where
  kinds_eq := by
    show List.map _ (feeds.map _) = _
    rw [List.map_map]
    rfl
  fits := by
    intro m hm
    obtain ⟨⟨kind, feed⟩, -, rfl⟩ := List.mem_map.mp hm
    exact Fleet.fits_memberOf tuning receivers start kind feed

/-- What a change comes to for each member. All are asked to stop at once, by the stop signal. -/
theorem Change.moves (h : x.Change y) : ∃ asked, y.signalled = (x.signalled || asked) ∧
    y.fleet.members.length = x.fleet.members.length ∧
    ∀ (i : Nat) (m : Member), x.fleet.members[i]? = some m →
      ∃ m', y.fleet.members[i]? = some m' ∧ m.Moves asked m' := by
  have hsame : ∀ (i : Nat) (m : Member), x.fleet.members[i]? = some m →
      ∃ m', x.fleet.members[i]? = some m' ∧ m.Moves false m' :=
    fun i m hm => ⟨m, hm, .onward (.refl m)⟩
  -- what happens to one member leaves the others where they are, and a signal reaches all of them
  cases h with
  | touch i f htouches =>
    refine ⟨false, (Bool.or_false _).symm, htouches.length, fun j m hm => ?_⟩
    by_cases hj : j = i
    · obtain rfl := hj
      obtain ⟨m', hm', honward⟩ := htouches.own hm
      exact ⟨m', hm', .onward honward⟩
    · exact ⟨m, (htouches.other hj).trans hm, .onward (.refl m)⟩
  | endWatch i =>
    refine ⟨false, (Bool.or_false _).symm, List.length_modify .., fun j m hm => ?_⟩
    show ∃ m', (x.fleet.members.modify i Member.endWatch)[j]? = some m' ∧ _
    rw [List.getElem?_modify, hm]
    by_cases hj : i = j
    · exact ⟨m.endWatch, by simp [hj], .endWatch⟩
    · exact ⟨m, by simp [hj], .onward (.refl m)⟩
  | signal =>
    refine ⟨true, (Bool.or_true _).symm, ?_, fun i m hm => ⟨m.ask, ?_, .ask⟩⟩
    · show x.fleet.signal.members.length = _
      rw [Fleet.members_signal, List.length_map]
    · show x.fleet.signal.members[i]? = _
      rw [Fleet.members_signal, List.getElem?_map, hm]
      rfl
  | join i => exact ⟨false, (Bool.or_false _).symm, rfl, hsame⟩
  | joinWatch i => exact ⟨false, (Bool.or_false _).symm, rfl, hsame⟩

theorem Change.follows (h : x.Change y) : x.fleet.Follows y.fleet := by
  obtain ⟨asked, -, hlength, hmoves⟩ := h.moves
  refine ⟨hlength, fun i m hm => ?_⟩
  obtain ⟨m', hm', hmove⟩ := hmoves i m hm
  exact ⟨m', hm', hmove.continues⟩

theorem Sound.change (h : x.Sound kinds tuning) (hchange : x.Change y) : y.Sound kinds tuning := by
  refine ⟨hchange.follows.kinds.trans h.kinds_eq, fun m' hm' => ?_⟩
  obtain ⟨asked, hsignalled, hlength, hmoves⟩ := hchange.moves
  obtain ⟨i, hi⟩ := List.mem_iff_getElem?.mp hm'
  have hlt : i < x.fleet.members.length := hlength ▸ (List.getElem?_eq_some_iff.mp hi).1
  obtain ⟨n, hn, hmove⟩ := hmoves i _ (List.getElem?_eq_getElem hlt)
  obtain rfl := Option.some.inj (hn.symm.trans hi)
  exact hsignalled ▸ hmove.fits (h.fits _ (List.getElem_mem hlt))

/-- The members fit in every state of a run. -/
theorem sound_of_path (h : Path advance? (ofFeeds tuning receivers start feeds) past y) :
    y.Sound (feeds.map (·.1)) tuning :=
  h.invariant (P := fun x => x.Sound (feeds.map (·.1)) tuning) sound_ofFeeds
    fun hsound hmove => hsound.change (change_of_advance? hmove)

/-! ### Failures -/

/-- The move in which a controller fails concerns nobody else. -/
theorem Change.touches_of_failed (h : x.Change y) {i : Nat} (hbefore : ¬ x.fleet.Failed i)
    (hafter : y.fleet.Failed i) : x.fleet.Touches i y.fleet := by
  obtain ⟨m', fault, hm', hstage⟩ := hafter
  cases h with
  | touch j f htouches =>
    by_cases hji : i = j
    · exact hji ▸ htouches
    · exact absurd ⟨m', fault, (htouches.other hji).symm.trans hm', hstage⟩ hbefore
  | endWatch j =>
    change (x.fleet.members.modify j Member.endWatch)[i]? = some m' at hm'
    rw [List.getElem?_modify] at hm'
    obtain ⟨m, hm, rfl⟩ := Option.map_eq_some_iff.mp hm'
    refine absurd ⟨m, fault, hm, ?_⟩ hbefore
    rw [← hstage]
    split
    · rw [Fleet.controller_endWatch]
    · rfl
  | signal =>
    change x.fleet.signal.members[i]? = some m' at hm'
    rw [Fleet.members_signal, List.getElem?_map] at hm'
    obtain ⟨m, hm, rfl⟩ := Option.map_eq_some_iff.mp hm'
    exact absurd ⟨m, fault, hm, hstage⟩ hbefore
  | join j => exact absurd ⟨m', fault, hm', hstage⟩ hbefore
  | joinWatch j => exact absurd ⟨m', fault, hm', hstage⟩ hbefore

/-- A controller whose workers are at work goes on until the stop signal. -/
theorem Sound.runs (h : x.Sound kinds tuning) (hchange : x.Change y) {i : Nat}
    (hruns : x.signalled = true ∨ x.fleet.Runs i) : y.signalled = true ∨ y.fleet.Runs i := by
  obtain ⟨asked, hsignalled, -, hmoves⟩ := hchange.moves
  rw [hsignalled]
  cases hcalm : x.signalled with
  | true => exact .inl rfl
  | false =>
    rw [hcalm] at hruns
    obtain ⟨m, hm, hrunning⟩ := hruns.resolve_left Bool.false_ne_true
    obtain ⟨m', hm', hmove⟩ := hmoves i m hm
    cases asked with
    | true => exact .inl rfl
    | false =>
      have hfits := hcalm ▸ h.fits m (List.mem_of_getElem? hm)
      exact .inr ⟨m', hm', hmove.running hfits hrunning⟩

/-- At every moment of a run, what ends a controller or a watch is the stop signal or a failure of
its own. -/
structure Isolated (past : List (Runner × Move)) (y : Runner) : Prop where
  /-- A watch is cancelled when the stop signal was given or its own controller failed, and only
  then. -/
  cancelled : ∀ i < y.fleet.members.length,
    y.fleet.Cancelled i ↔ y.signalled = true ∨ y.fleet.Failed i
  /-- A watch that is cancelled ends when it notices that. -/
  watchEnds : ∀ i z, y.fleet.Cancelled i → y.advance? (.endWatch i) = some z → z.fleet.WatchEnded i
  /-- No other watch ends. -/
  watchEnded : ∀ i, y.fleet.WatchEnded i → y.fleet.Cancelled i
  /-- Before the stop signal, a controller ends by its own failure only. -/
  ended : ∀ i, y.fleet.Ended i → y.signalled = true ∨ y.fleet.Failed i
  /-- The move in which a controller fails cancels its watch and leaves all others as they are. -/
  alone : ∀ z z' move i, (z, move) ∈ past → z.advance? move = some z' →
    ¬ z.fleet.Failed i → z'.fleet.Failed i →
    z'.fleet.Cancelled i ∧ ∀ j, j ≠ i → z'.fleet.members[j]? = z.fleet.members[j]?
  /-- A controller whose cache was found complete goes on until the stop signal. -/
  running : ∀ z move i, (z, move) ∈ past → z.fleet.Runs i → y.signalled = false → y.fleet.Runs i

theorem isolated_of_path (h : Path advance? (ofFeeds tuning receivers start feeds) past y) :
    Isolated past y := by
  have hfits {i : Nat} {m : Member} (hm : y.fleet.members[i]? = some m) :
      m.Fits tuning y.signalled :=
    (sound_of_path h).fits m (List.mem_of_getElem? hm)
  constructor
  · intro i hi
    have hm := List.getElem?_eq_getElem hi
    constructor
    · rintro ⟨m, hm, hends⟩
      refine ((hfits hm).watchShouldEnd_iff.mp hends).imp_right ?_
      exact fun ⟨fault, hstage⟩ => ⟨m, fault, hm, hstage⟩
    · rintro (hsignalled | ⟨m, fault, hm, hstage⟩)
      · exact ⟨_, hm, (hfits hm).watchShouldEnd_iff.mpr (.inl hsignalled)⟩
      · exact ⟨m, hm, (hfits hm).watchShouldEnd_iff.mpr (.inr ⟨fault, hstage⟩)⟩
  · rintro i z ⟨m, hm, hends⟩ hmove
    obtain rfl := Option.some.inj hmove
    refine ⟨m.endWatch, ?_, ?_⟩
    · show (y.fleet.members.modify i Member.endWatch)[i]? = _
      rw [List.getElem?_modify_eq, hm]
      rfl
    · rw [Fleet.watchEnded_endWatch, hends, Bool.true_or]
  · rintro i ⟨m, hm, hended⟩
    exact ⟨m, hm, (hfits hm).cancelled hended⟩
  · rintro i ⟨m, failure, hm, hstage⟩
    refine ((hfits hm).of_stopped hstage).imp_right ?_
    exact fun ⟨fault, hstage⟩ => ⟨m, fault, hm, hstage⟩
  · intro z z' move i _ hmove hbefore hafter
    have htouches := (change_of_advance? hmove).touches_of_failed hbefore hafter
    obtain ⟨m, fault, hm, hstage⟩ := hafter
    exact ⟨⟨m, hm, Fleet.watchShouldEnd_iff.mpr (.inr ⟨fault, hstage⟩)⟩,
      fun j hj => htouches.other hj⟩
  · intro z move i hz hruns hcalm
    obtain ⟨later, earlier, rfl⟩ := List.append_of_mem hz
    obtain ⟨hearlier, z', hmove, hlater⟩ := h.split
    have hpath : Path advance? z (later ++ [(z, move)]) y := .append (.move .start hmove) hlater
    -- from then on, the signal was given or the workers are still at work
    have hkept := hpath.invariant
      (P := fun x => x.Sound (feeds.map (·.1)) tuning ∧ (x.signalled = true ∨ x.fleet.Runs i))
      ⟨sound_of_path hearlier, .inr hruns⟩ fun ⟨hsound, hruns⟩ hmove =>
        ⟨hsound.change (change_of_advance? hmove), hsound.runs (change_of_advance? hmove) hruns⟩
    refine hkept.2.resolve_left ?_
    rw [hcalm]
    exact Bool.false_ne_true

end Runner

end ClusterWatch
