import ClusterWatch.Proofs.Fleet.Isolation
/-!
# The summary of a run

Each kind is in the summary once, whatever the order in which the controllers end, and it is among
the failed ones if its own controller has failed.

- `Books`: whose ends are still waited for, and what the summary says about the others.
- `Summarised`: what holds when the run is over, by `Books.summarised`.
- `Books.leads_return`, `leads_end`: a run whose controllers have ended can always come to its end.
- `ReadOff`: the summary that the program reads off its fleet is that of a run which is over, by
  `exists_returned`.

Main result: `run_isolated_and_summarised`.
-/

namespace ClusterWatch

namespace Runner

open Fleet (Member)

variable {x y : Runner} {kinds : List Resource.Kind} {tuning : Controller.Tuning}
  {receivers : List Fleet.Receiver} {start : Time.Instant}
  {feeds : List (Resource.Kind × Watch.Feed)} {past : List (Runner × Move)}

/-! ### Books -/

/-- Whose ends are still waited for, and what the summary says about the others. -/
structure Books (kinds : List Resource.Kind) (x : Runner) : Prop where
  controllers : ∀ i ∈ x.controllers, i < x.fleet.members.length
  watches : ∀ i ∈ x.watches, i < x.fleet.members.length
  /-- Each kind is in the summary or still waited for. -/
  partition : (x.summary.stopped ++ x.summary.failed.map (·.1) ++
    x.controllers.filterMap (kinds[·]?)).Perm kinds
  stopped : ∀ kind ∈ x.summary.stopped,
    ∃ m ∈ x.fleet.members, m.controller.kind = kind ∧ m.controller.stage = .stopped none
  failed : ∀ p ∈ x.summary.failed,
    ∃ m ∈ x.fleet.members, m.controller.kind = p.1 ∧ m.controller.stage = .stopped (some p.2)
  ended : ∀ i < x.fleet.members.length, i ∉ x.controllers → x.fleet.Ended i
  watchEnded : ∀ i < x.fleet.members.length, i ∉ x.watches → x.fleet.WatchEnded i

/-- All positions of a list together hold its entries. -/
theorem filterMap_getElem?_range {α : Type} (l : List α) :
    (List.range l.length).filterMap (l[·]?) = l := by
  induction l with
  | nil => rfl
  | cons a l ih =>
    rw [List.length_cons, List.range_succ_eq_map, List.filterMap_cons, List.filterMap_map]
    exact congrArg (a :: ·) ih

theorem books_ofFeeds : (ofFeeds tuning receivers start feeds).Books (feeds.map (·.1)) := by
  have hlength : (ofFeeds tuning receivers start feeds).fleet.members.length = feeds.length :=
    List.length_map ..
  have hall (i : Nat) : i ∈ List.range feeds.length ↔
      i < (ofFeeds tuning receivers start feeds).fleet.members.length := by
    rw [List.mem_range, hlength]
  constructor
  · exact fun i hi => (hall i).mp hi
  · exact fun i hi => (hall i).mp hi
  · show (List.filterMap _ (List.range feeds.length)).Perm _
    rw [← List.length_map (·.1), filterMap_getElem?_range]
  · exact fun _ h => absurd h List.not_mem_nil
  · exact fun _ h => absurd h List.not_mem_nil
  · exact fun i hi hnot => absurd ((hall i).mpr hi) hnot
  · exact fun i hi hnot => absurd ((hall i).mpr hi) hnot

/-- The books are kept whatever happens to the fleet. -/
theorem Books.follows (h : x.Books kinds) {f : Fleet} (signalled : Bool)
    (hfollows : x.fleet.Follows f) :
    Books kinds { x with fleet := f, signalled } := by
  have hlength : f.members.length = x.fleet.members.length := hfollows.length
  constructor
  · exact fun i hi => hlength ▸ h.controllers i hi
  · exact fun i hi => hlength ▸ h.watches i hi
  · exact h.partition
  · exact fun kind hkind => hfollows.exists_stopped (h.stopped kind hkind)
  · exact fun p hp => hfollows.exists_stopped (h.failed p hp)
  · intro i hi hnot
    obtain ⟨m, failure, hm, hstage⟩ := h.ended i (hlength ▸ hi) hnot
    obtain ⟨m', hm', hcontinues⟩ := hfollows.member i m hm
    exact ⟨m', failure, hm', hcontinues.stopped failure hstage⟩
  · intro i hi hnot
    obtain ⟨m, hm, hended⟩ := h.watchEnded i (hlength ▸ hi) hnot
    obtain ⟨m', hm', hcontinues⟩ := hfollows.member i m hm
    exact ⟨m', hm', hcontinues.watchEnded hended⟩

/-- The end of a controller goes from those still waited for to the summary. -/
theorem Books.join (h : x.Books kinds) {i : Nat} {m : Member} {failure : Option Fault}
    (hkinds : x.fleet.members.map (·.controller.kind) = kinds) (hi : i ∈ x.controllers)
    (hm : x.fleet.members[i]? = some m) (hstage : m.controller.stage = .stopped failure) :
    Books kinds { x with
      controllers := x.controllers.erase i
      summary := x.summary.enter m.controller.kind failure } := by
  have hmem := List.mem_of_getElem? hm
  have hkind : kinds[i]? = some m.controller.kind := by
    rw [← hkinds, List.getElem?_map, hm]
    rfl
  -- the kind of the joined run moves from those that are awaited to those that are entered
  have hrest : (x.summary.stopped ++ x.summary.failed.map (·.1) ++ m.controller.kind ::
      (x.controllers.erase i).filterMap (kinds[·]?)).Perm kinds := by
    rw [← List.filterMap_cons_some hkind]
    exact (((List.perm_cons_erase hi).filterMap _).symm.append_left _).trans h.partition
  have hended : ∀ j < x.fleet.members.length, j ∉ x.controllers.erase i → x.fleet.Ended j := by
    intro j hj hnot
    by_cases hji : j = i
    · exact ⟨m, failure, hji ▸ hm, hstage⟩
    · exact h.ended j hj fun hmem => hnot ((List.mem_erase_of_ne hji).mpr hmem)
  have hcontrollers : ∀ j ∈ x.controllers.erase i, j < x.fleet.members.length :=
    fun j hj => h.controllers j (List.mem_of_mem_erase hj)
  -- it is entered in one of two lists
  cases failure with
  | none =>
    refine ⟨hcontrollers, h.watches, ?_, ?_, h.failed, hended, h.watchEnded⟩
    · show (x.summary.stopped ++ [m.controller.kind] ++ x.summary.failed.map (·.1) ++
        (x.controllers.erase i).filterMap (kinds[·]?)).Perm kinds
      refine List.Perm.trans ?_ hrest
      simp only [List.append_assoc, List.singleton_append]
      exact List.perm_middle.symm.append_left _
    · intro kind hkind
      rcases List.mem_append.mp hkind with hold | hnew
      · exact h.stopped kind hold
      · exact ⟨m, hmem, (List.mem_singleton.mp hnew).symm, hstage⟩
  | some fault =>
    refine ⟨hcontrollers, h.watches, ?_, h.stopped, ?_, hended, h.watchEnded⟩
    · show (x.summary.stopped ++ (x.summary.failed ++ [(m.controller.kind, fault)]).map (·.1) ++
        (x.controllers.erase i).filterMap (kinds[·]?)).Perm kinds
      simpa using hrest
    · intro p hp
      rcases List.mem_append.mp hp with hold | hnew
      · exact h.failed p hold
      · rw [List.mem_singleton.mp hnew]
        exact ⟨m, hmem, rfl, hstage⟩

/-- The end of a watch is no longer waited for. -/
theorem Books.joinWatch (h : x.Books kinds) {i : Nat} {m : Member}
    (hm : x.fleet.members[i]? = some m) (hended : m.watchEnded = true) :
    Books kinds { x with watches := x.watches.erase i } := by
  refine ⟨h.controllers, fun j hj => h.watches j (List.mem_of_mem_erase hj), h.partition,
    h.stopped, h.failed, h.ended, fun j hj hnot => ?_⟩
  by_cases hji : j = i
  · exact ⟨m, hji ▸ hm, hended⟩
  · exact h.watchEnded j hj fun hmem => hnot ((List.mem_erase_of_ne hji).mpr hmem)

theorem Books.change (h : x.Books kinds) (hchange : x.Change y)
    (hkinds : x.fleet.members.map (·.controller.kind) = kinds) : y.Books kinds := by
  have hfollows := hchange.follows
  cases hchange with
  | touch i f => exact h.follows _ hfollows
  | endWatch i => exact h.follows _ hfollows
  | signal => exact h.follows _ hfollows
  | join i c failure hi hc hstage =>
    obtain ⟨m, hm, rfl⟩ := Fleet.controller?_eq_some.mp hc
    exact h.join hkinds hi hm hstage
  | joinWatch i m _ _ hm hended => exact h.joinWatch hm hended

/-- The books are kept in every state of a run. -/
theorem books_of_path (h : Path advance? (ofFeeds tuning receivers start feeds) past y) :
    y.Books (feeds.map (·.1)) := by
  induction h with
  | start => exact books_ofFeeds
  | move hpath hmove ih => exact ih.change (change_of_advance? hmove) (sound_of_path hpath).kinds_eq

/-! ### The end -/

/-- What holds when a run is over. -/
structure Summarised (tuning : Controller.Tuning) (kinds : List Resource.Kind) (y : Runner) :
    Prop where
  /-- There is one member for each kind. -/
  kinds_eq : y.fleet.members.map (·.controller.kind) = kinds
  /-- Neither a controller nor a watch is running any more. -/
  done : ∀ m ∈ y.fleet.members,
    m.controller.phase = .stopped ∧ ∃ w, m.watcher = some w ∧ w.active = false
  /-- Each kind is in the summary once, and nothing else is. -/
  once : ∀ kind, (y.summary.stopped ++ y.summary.failed.map (·.1)).count kind =
    if kind ∈ kinds then 1 else 0
  stopped : ∀ m ∈ y.fleet.members,
    m.controller.kind ∈ y.summary.stopped ↔ m.controller.stage = .stopped none
  /-- The failed kinds are those whose own controllers have failed. -/
  failed : ∀ m ∈ y.fleet.members, m.controller.kind ∈ y.summary.failed.map (·.1) ↔
    m.controller.stage = .stopped (some (.cacheSync m.controller.kind.name tuning.syncTimeout))
  faults : ∀ p ∈ y.summary.failed, p.2 = .cacheSync p.1.name tuning.syncTimeout
  /-- It is what can be read off the members, in another order. -/
  agrees : ∃ s, y.fleet.summary? = some s ∧ y.summary.stopped.Perm s.stopped ∧
    y.summary.failed.Perm s.failed

/-- The members of a run are told apart by their kinds. -/
theorem Sound.eq_of_kind (h : y.Sound kinds tuning) (hkinds : kinds.Nodup) {m n : Member}
    (hm : m ∈ y.fleet.members) (hn : n ∈ y.fleet.members)
    (hkind : n.controller.kind = m.controller.kind) : n = m := by
  rw [← h.kinds_eq] at hkinds
  exact List.inj_on_of_nodup_map hkinds hn hm hkind

/-- Once all controllers have been waited for, the summary has all kinds. -/
theorem Books.perm (h : y.Books kinds) (hreturned : y.hasReturned) :
    (y.summary.stopped ++ y.summary.failed.map (·.1)).Perm kinds := by
  have hall := h.partition
  rw [hreturned.1, List.filterMap_nil, List.append_nil] at hall
  exact hall

theorem Books.over (h : y.Books kinds) (hreturned : y.hasReturned) {m : Member}
    (hm : m ∈ y.fleet.members) :
    (∃ failure, m.controller.stage = .stopped failure) ∧ m.watchEnded = true := by
  obtain ⟨i, hi⟩ := List.mem_iff_getElem?.mp hm
  have hlt := (List.getElem?_eq_some_iff.mp hi).1
  obtain ⟨n, failure, hn, hstage⟩ := h.ended i hlt (by rw [hreturned.1]; exact List.not_mem_nil)
  obtain ⟨n', hn', hended⟩ := h.watchEnded i hlt (by rw [hreturned.2]; exact List.not_mem_nil)
  obtain rfl := Option.some.inj (hi.symm.trans hn)
  obtain rfl := Option.some.inj (hi.symm.trans hn')
  exact ⟨⟨failure, hstage⟩, hended⟩

/-- The summary tells of each kind what became of its controller. -/
theorem Books.tells (h : y.Books kinds) (hsound : y.Sound kinds tuning) (hkinds : kinds.Nodup)
    (hreturned : y.hasReturned) {m : Member} (hm : m ∈ y.fleet.members) :
    (m.controller.kind ∈ y.summary.stopped ↔ m.controller.stage = .stopped none) ∧
    ∀ fault, (m.controller.kind, fault) ∈ y.summary.failed ↔
      m.controller.stage = .stopped (some fault) := by
  have hstopped (hkind : m.controller.kind ∈ y.summary.stopped) :
      m.controller.stage = .stopped none := by
    obtain ⟨n, hn, hsame, hstage⟩ := h.stopped _ hkind
    exact hsound.eq_of_kind hkinds hm hn hsame ▸ hstage
  have hfailed (fault : Fault) (hpair : (m.controller.kind, fault) ∈ y.summary.failed) :
      m.controller.stage = .stopped (some fault) := by
    obtain ⟨n, hn, hsame, hstage⟩ := h.failed _ hpair
    exact hsound.eq_of_kind hkinds hm hn hsame ▸ hstage
  have hmentioned : m.controller.kind ∈ y.summary.stopped ∨
      ∃ fault, (m.controller.kind, fault) ∈ y.summary.failed := by
    have hkind : m.controller.kind ∈ y.summary.stopped ++ y.summary.failed.map (·.1) := by
      rw [(h.perm hreturned).mem_iff, ← hsound.kinds_eq]
      exact List.mem_map_of_mem hm
    refine (List.mem_append.mp hkind).imp_right fun hkind => ?_
    obtain ⟨⟨kind, fault⟩, hpair, hsame⟩ := List.mem_map.mp hkind
    exact ⟨fault, hsame ▸ hpair⟩
  -- it is in one of the lists, and in none that tells something else
  refine ⟨⟨hstopped, fun hstage => ?_⟩, fun fault => ⟨hfailed fault, fun hstage => ?_⟩⟩
  · rcases hmentioned with hkind | ⟨fault, hpair⟩
    · exact hkind
    · cases hstage.symm.trans (hfailed fault hpair)
  · rcases hmentioned with hkind | ⟨fault', hpair⟩
    · cases hstage.symm.trans (hstopped hkind)
    · cases hstage.symm.trans (hfailed fault' hpair)
      exact hpair

/-! ### The summary read off the members -/

theorem failure?_of_stage {c : Controller} {failure : Option Fault}
    (hstage : c.stage = .stopped failure) : Fleet.failure? c = failure := by
  unfold Fleet.failure?
  rw [hstage]

/-- The failed members of distinct kinds are told apart. -/
theorem nodup_failed {members : List Member} (h : (members.map (·.controller.kind)).Nodup) :
    (members.filterMap fun m =>
      (Fleet.failure? m.controller).map fun fault => (m.controller.kind, fault)).Nodup := by
  refine List.pairwise_filterMap.mpr ((List.pairwise_map.mp h).imp ?_)
  intro m n hne p hp q hq hpq
  obtain ⟨_, -, rfl⟩ := Option.map_eq_some_iff.mp hp
  obtain ⟨_, -, rfl⟩ := Option.map_eq_some_iff.mp hq
  exact hne (congrArg Prod.fst hpq)

theorem isDone_iff {m : Member} : m.isDone = true ↔
    (∃ failure, m.controller.stage = .stopped failure) ∧ m.watchEnded = true := by
  unfold Member.isDone Controller.phase
  rw [Bool.and_eq_true, decide_eq_true_eq]
  refine and_congr_left fun _ => ?_
  cases m.controller.stage <;> simp [Controller.Stage.phase]

/-- When the run is over, its summary is the one that is read off the members. -/
theorem Books.agrees (h : y.Books kinds) (hsound : y.Sound kinds tuning) (hkinds : kinds.Nodup)
    (hreturned : y.hasReturned) : ∃ s, y.fleet.summary? = some s ∧
      y.summary.stopped.Perm s.stopped ∧ y.summary.failed.Perm s.failed := by
  have hdone : y.fleet.members.all Member.isDone = true :=
    List.all_eq_true.mpr fun m hm => isDone_iff.mpr (h.over hreturned hm)
  have hdistinct : (y.fleet.members.map (·.controller.kind)).Nodup := hsound.kinds_eq ▸ hkinds
  have hnodup := (h.perm hreturned).nodup_iff.mpr hkinds
  -- lists without repetitions that hold the same are the same up to order
  refine ⟨_, if_pos hdone, ?_, ?_⟩
  · refine (List.perm_ext_iff_of_nodup hnodup.of_append_left
      (hdistinct.sublist (List.filter_sublist.map _))).mpr fun kind => ?_
    constructor
    · intro hkind
      obtain ⟨m, hm, rfl, hstage⟩ := h.stopped kind hkind
      refine List.mem_map_of_mem (List.mem_filter.mpr ⟨hm, ?_⟩)
      rw [failure?_of_stage hstage, Option.isNone_none]
    · intro hkind
      obtain ⟨m, hm, rfl⟩ := List.mem_map.mp hkind
      obtain ⟨hm, hnone⟩ := List.mem_filter.mp hm
      obtain ⟨failure, hstage⟩ := (h.over hreturned hm).1
      rw [failure?_of_stage hstage, Option.isNone_iff_eq_none] at hnone
      exact (h.tells hsound hkinds hreturned hm).1.mpr (hnone ▸ hstage)
  · refine (List.perm_ext_iff_of_nodup (hnodup.of_append_right.of_map _)
      (nodup_failed hdistinct)).mpr fun p => ?_
    constructor
    · intro hp
      obtain ⟨m, hm, hkind, hstage⟩ := h.failed p hp
      refine List.mem_filterMap.mpr ⟨m, hm, ?_⟩
      rw [failure?_of_stage hstage, hkind]
      rfl
    · intro hp
      obtain ⟨m, hm, hfailure⟩ := List.mem_filterMap.mp hp
      obtain ⟨fault, hfault, rfl⟩ := Option.map_eq_some_iff.mp hfailure
      obtain ⟨failure, hstage⟩ := (h.over hreturned hm).1
      rw [failure?_of_stage hstage] at hfault
      exact ((h.tells hsound hkinds hreturned hm).2 fault).mpr (hfault ▸ hstage)

/-- What holds when a run is over. -/
theorem Books.summarised (h : y.Books kinds) (hsound : y.Sound kinds tuning)
    (hkinds : kinds.Nodup) (hreturned : y.hasReturned) : y.Summarised tuning kinds := by
  -- the only failure that a run can end with
  have hfault {m : Member} (hm : m ∈ y.fleet.members) {fault : Fault}
      (hstage : m.controller.stage = .stopped (some fault)) :
      fault = .cacheSync m.controller.kind.name tuning.syncTimeout := by
    have hfits := hsound.fits m hm
    rw [← hfits.tuning_eq]
    exact hfits.orderly.failed fault hstage
  constructor
  · exact hsound.kinds_eq
  · intro m hm
    obtain ⟨⟨failure, hstage⟩, hended⟩ := h.over hreturned hm
    obtain ⟨w, hw⟩ := (hsound.fits m hm).watched
    refine ⟨congrArg Controller.Stage.phase hstage, w, hw, ?_⟩
    simpa [Member.watchEnded, hw] using hended
  · intro kind
    rw [(h.perm hreturned).count_eq, hkinds.count]
  · exact fun m hm => (h.tells hsound hkinds hreturned hm).1
  · intro m hm
    have htells := (h.tells hsound hkinds hreturned hm).2
    constructor
    · intro hkind
      obtain ⟨⟨kind, fault⟩, hpair, hsame⟩ := List.mem_map.mp hkind
      have hstage := (htells fault).mp (hsame ▸ hpair)
      rw [hstage, hfault hm hstage]
    · exact fun hstage => List.mem_map_of_mem ((htells _).mpr hstage)
  · intro p hp
    obtain ⟨m, hm, hkind, hstage⟩ := h.failed p hp
    rw [← hkind]
    exact hfault hm hstage
  · exact h.agrees hsound hkinds hreturned

/-! ### Coming to the end -/

/-- Controllers that have ended are waited for one after the other. -/
theorem leads_joins (x : Runner) (controllers : List Nat)
    (hended : ∀ i ∈ controllers, x.fleet.Ended i) (summary : Fleet.Summary) :
    ∃ summary', Leads { x with controllers, summary }
      { x with controllers := [], summary := summary' } := by
  induction controllers generalizing summary with
  | nil => exact ⟨summary, .refl _⟩
  | cons i rest ih =>
    obtain ⟨m, failure, hm, hstage⟩ := hended i List.mem_cons_self
    have hc := Fleet.controller?_eq_some.mpr ⟨m, hm, rfl⟩
    have hjoin : advance? { x with controllers := i :: rest, summary } (.join i) =
        some { x with
          controllers := rest, summary := summary.enter m.controller.kind failure } := by
      simp [advance?, hc, hstage]
    obtain ⟨summary', hrest⟩ := ih (fun j hj => hended j (List.mem_cons_of_mem _ hj)) _
    exact ⟨summary', (leads_of_advance? _ hjoin).trans hrest⟩

/-- Watches that have ended are waited for one after the other, after the controllers. -/
theorem leads_joinWatches (x : Runner) (hnone : x.controllers = []) (watches : List Nat)
    (hended : ∀ i ∈ watches, x.fleet.WatchEnded i) :
    Leads { x with watches } { x with watches := [] } := by
  induction watches with
  | nil => exact .refl _
  | cons i rest ih =>
    obtain ⟨m, hm, hwatch⟩ := hended i List.mem_cons_self
    have hjoin : advance? { x with watches := i :: rest } (.joinWatch i) =
        some { x with watches := rest } := by
      simp [advance?, hm, hnone, hwatch]
    exact (leads_of_advance? _ hjoin).trans (ih fun j hj => hended j (List.mem_cons_of_mem _ hj))

/-- Nothing but waiting is left to do when all controllers and all watches have ended. -/
theorem Books.leads_return (h : x.Books kinds)
    (hended : ∀ i < x.fleet.members.length, x.fleet.Ended i ∧ x.fleet.WatchEnded i) :
    ∃ z, x.Leads z ∧ z.hasReturned ∧ z.fleet = x.fleet := by
  obtain ⟨summary, hjoins⟩ := x.leads_joins x.controllers
    (fun i hi => (hended i (h.controllers i hi)).1) x.summary
  have hwatches := leads_joinWatches { x with controllers := [], summary } rfl x.watches
    fun i hi => (hended i (h.watches i hi)).2
  exact ⟨_, Leads.trans hjoins hwatches, ⟨rfl, rfl⟩, rfl⟩

/-- A run whose controllers have ended can always come to its end: their watches are cancelled. -/
theorem Books.leads_end (h : x.Books kinds) (hsound : x.Sound kinds tuning)
    (hended : ∀ i < x.fleet.members.length, x.fleet.Ended i) :
    ∃ z, x.Leads z ∧ z.hasReturned := by
  have hfollows : x.fleet.Follows
      { x.fleet with members := x.fleet.members.map Member.endWatch } :=
    Fleet.follows_map Fleet.continues_endWatch rfl
  have hbooks := h.follows x.signalled hfollows
  obtain ⟨z, hleads, hreturned, -⟩ := hbooks.leads_return fun i hi => by
    obtain ⟨m, failure, hm, hstage⟩ := hended i (hfollows.length ▸ hi)
    have hfits := hsound.fits m (List.mem_of_getElem? hm)
    have hmember : (x.fleet.members.map Member.endWatch)[i]? = some m.endWatch := by
      rw [List.getElem?_map, hm]
      rfl
    refine ⟨⟨m.endWatch, failure, hmember, ?_⟩, ⟨m.endWatch, hmember, ?_⟩⟩
    · rw [Fleet.controller_endWatch, hstage]
    · rw [Fleet.watchEnded_endWatch, hfits.watchShouldEnd_iff.mpr (hfits.of_stopped hstage),
        Bool.true_or]
  exact ⟨z, x.leads_endWatches.trans hleads, hreturned⟩

/-! ### The summary of the program -/

/-- A fleet of which the program has a summary is that of a run which is over. -/
theorem exists_returned (operations : List Fleet.Operation) {f : Fleet} {s : Fleet.Summary}
    (hf : operations.foldl Fleet.operate (Fleet.launch tuning receivers start feeds) = f)
    (hs : f.summary? = some s) :
    ∃ past z, Path advance? (ofFeeds tuning receivers start feeds) past z ∧ z.hasReturned ∧
      z.fleet = f := by
  obtain ⟨signalled, hleads⟩ := leads_operate
    { ofFeeds tuning receivers start feeds with
      fleet := Fleet.launch tuning receivers start feeds } operations
  obtain ⟨past, hpath⟩ := (leads_launch tuning receivers start feeds).trans hleads
  have hdone : f.members.all Member.isDone = true := by
    by_contra hnot
    rw [Fleet.summary?, if_neg hnot] at hs
    cases hs
  have hended (i : Nat) (hi : i < f.members.length) : f.Ended i ∧ f.WatchEnded i := by
    have hm := List.getElem?_eq_getElem hi
    obtain ⟨⟨failure, hstage⟩, hended⟩ :=
      isDone_iff.mp (List.all_eq_true.mp hdone _ (List.getElem_mem hi))
    exact ⟨⟨_, failure, hm, hstage⟩, ⟨_, hm, hended⟩⟩
  obtain ⟨z, ⟨later, hlater⟩, hreturned, hfleet⟩ := (books_of_path hpath).leads_return (hf ▸ hended)
  exact ⟨later ++ past, z, hpath.append hlater, hreturned, hfleet.trans hf⟩

/-- A summary that the program reads off its fleet: it is that of a run which is over, in another
order, and each kind is in it once as well. -/
structure ReadOff (tuning : Controller.Tuning) (receivers : List Fleet.Receiver)
    (start : Time.Instant) (feeds : List (Resource.Kind × Watch.Feed)) (f : Fleet)
    (s : Fleet.Summary) : Prop where
  run : ∃ past z, Path advance? (ofFeeds tuning receivers start feeds) past z ∧ z.hasReturned ∧
    z.fleet = f ∧ z.summary.stopped.Perm s.stopped ∧ z.summary.failed.Perm s.failed
  once : ∀ kind, (s.stopped ++ s.failed.map (·.1)).count kind =
    if kind ∈ feeds.map (·.1) then 1 else 0

theorem readOff_of_summary? (hkinds : (feeds.map (·.1)).Nodup)
    (operations : List Fleet.Operation) {f : Fleet} {s : Fleet.Summary}
    (hf : operations.foldl Fleet.operate (Fleet.launch tuning receivers start feeds) = f)
    (hs : f.summary? = some s) : ReadOff tuning receivers start feeds f s := by
  obtain ⟨past, z, hpath, hreturned, rfl⟩ := exists_returned operations hf hs
  have hbooks := books_of_path hpath
  obtain ⟨s', hs', hstopped, hfailed⟩ := hbooks.agrees (sound_of_path hpath) hkinds hreturned
  obtain rfl := Option.some.inj (hs.symm.trans hs')
  refine ⟨⟨past, z, hpath, hreturned, rfl, hstopped, hfailed⟩, fun kind => ?_⟩
  rw [← (hstopped.append (hfailed.map _)).count_eq, (hbooks.perm hreturned).count_eq, hkinds.count]

/-! ### Main result -/

/-- **The members of a run do not disturb each other, and the summary tells how each of them has
ended.** For distinct kinds, whatever the caches are found to hold, whenever the stop signal comes
and in whatever order the controllers end: a failure cancels the watch of the failed controller and
concerns nobody else, and a controller whose cache was found complete goes on until the stop signal.
The run is not over before all controllers and all watches have ended, then each kind is in the
summary once, and among the failed ones if its own controller has failed. Once all controllers have
ended, nothing keeps the run from coming to its end. When the program has a summary of its fleet,
such a run is over and this is its summary. -/
theorem run_isolated_and_summarised (hkinds : (feeds.map (·.1)).Nodup)
    (h : Path advance? (ofFeeds tuning receivers start feeds) past y) :
    Isolated past y ∧
    (y.hasReturned → Summarised tuning (feeds.map (·.1)) y) ∧
    ((∀ i < feeds.length, y.fleet.Ended i) → ∃ z, y.Leads z ∧ z.hasReturned) ∧
    ∀ (operations : List Fleet.Operation) (f : Fleet) (s : Fleet.Summary),
      operations.foldl Fleet.operate (Fleet.launch tuning receivers start feeds) = f →
      f.summary? = some s → ReadOff tuning receivers start feeds f s := by
  have hsound := sound_of_path h
  have hbooks := books_of_path h
  have hlength : y.fleet.members.length = feeds.length := by
    rw [← List.length_map (·.controller.kind), hsound.kinds_eq, List.length_map]
  refine ⟨isolated_of_path h, hbooks.summarised hsound hkinds, fun hended => ?_,
    fun operations f s => readOff_of_summary? hkinds operations⟩
  exact hbooks.leads_end hsound fun i hi => hended i (hlength ▸ hi)

/-- The cache of the pods does not fill in time, which leaves the nodes at work; services are
stopped while they wait for their cache. The services end before the nodes. -/
theorem run_isolated_and_summarised_three :
    let feeds : List (Resource.Kind × Watch.Feed) := [(.pods, {}), (.nodes, {}), (.services, {})]
    ∃ earlier z later y, (feeds.map (·.1)).Nodup ∧
      Path advance? (ofFeeds {} [] (.ofSecond 0) feeds) earlier z ∧ Path advance? z later y ∧
      (z.fleet.members.map fun m => (m.controller.stage, m.watchShouldEnd)) =
        [(.stopped (some (.cacheSync "pods" (.ofSeconds 60))), true), (.running, false),
          (.syncing 60000000000 false, false)] ∧
      y.hasReturned ∧ y.summary.stopped = [.services, .nodes] ∧
      y.summary.failed = [(.pods, .cacheSync "pods" (.ofSeconds 60))] ∧
      Isolated (later ++ earlier) y ∧ Summarised {} (feeds.map (·.1)) y := by
  intro feeds
  let waited : List Move := [.act 0 (.start 0), .act 1 (.start 0), .act 2 (.start 0),
    .act 0 (.check 0 false), .act 1 (.check 0 true), .pass 100, .fire 0 .look,
    .act 0 (.check 60000000000 false)]
  let ended : List Move := [.endWatch 0, .endWatch 1, .act 2 (.check 0 false), .signal, .join 0,
    .act 2 .halt, .act 1 .halt, .join 2, .act 1 (.take 0), .act 1 .finish, .join 1,
    .endWatch 1, .endWatch 2, .joinWatch 2, .joinWatch 0, .joinWatch 1]
  have hmoves : ((waited.foldlM (follow? advance?) ([], ofFeeds {} [] (.ofSecond 0) feeds)).bind
      fun way => (ended.foldlM (follow? advance?) ([], way.2)).map fun way' =>
        (way.2.fleet.members.map fun m => (m.controller.stage, m.watchShouldEnd),
          decide way'.2.hasReturned, way'.2.summary.stopped, way'.2.summary.failed)) =
      some ([(.stopped (some (.cacheSync "pods" (.ofSeconds 60))), true), (.running, false),
        (.syncing 60000000000 false, false)], true, [.services, .nodes],
        [(.pods, .cacheSync "pods" (.ofSeconds 60))]) := by decide
  obtain ⟨⟨earlier, z⟩, hway, hrest⟩ := Option.bind_eq_some_iff.mp hmoves
  obtain ⟨⟨later, y⟩, hlater, hshown⟩ := Option.map_eq_some_iff.mp hrest
  simp only [Prod.mk.injEq, decide_eq_true_eq] at hshown
  obtain ⟨hstages, hreturned, hstopped, hfailed⟩ := hshown
  have hkinds : (feeds.map (·.1)).Nodup := by decide
  have hearlier := path_of_follow? .start hway
  have hpath := path_of_follow? .start hlater
  obtain ⟨hisolated, hsummarised, -⟩ := run_isolated_and_summarised hkinds (hearlier.append hpath)
  exact ⟨earlier, z, later, y, hkinds, hearlier, hpath, hstages, hreturned, hstopped, hfailed,
    hisolated, hsummarised hreturned⟩

end Runner

end ClusterWatch
