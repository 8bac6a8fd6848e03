import ClusterWatch.Proofs.Controller.Pipeline
/-!
# The sinks are told what the cache holds

Between the cache and the sinks work is dropped in four places: an update without a change makes no
item, an item replaces another one of its key, an item waits while its key is in process, and a
version that was told before is not told again. None of this loses anything:

- `Due`: a worker has yet to look a key up.
- `Tracks`: the invariant. A key that nobody has to look up was told as the translator knows it, or
  a notification that makes an item is still to come; and where an item says that an object is gone,
  the notifications made so far say so too.

Main result: `Pipeline.Reachable.converged`. When all notifications are made and nothing waits or is
in process, the sinks were last told of every key what the cache holds under it.
-/

namespace ClusterWatch

open Controller (Execution Step Worker Dispatch Telling Outcome)
open Watch (Call Leads about)

/-! ### Notifications and items -/

namespace Watch.Call

/-- Whether a notification makes an item: all but updates without a change do. -/
def Queues : Call → Prop
  | update _ old new => ¬(old.isSome ∧ old = new)
  | add .. | delete .. => True

instance : DecidablePred Queues
  | update .. => inferInstanceAs (Decidable (¬_))
  | add .. | delete .. => inferInstanceAs (Decidable True)

/-- A notification that makes no item says what was known. -/
theorem result_of_not_queues {call : Call} {known : Option (Option String)}
    (hfits : call.Fits known) (hdrop : ¬ call.Queues) :
    call.result = known ∧ known ≠ none := by
  cases call with
  | update key old new =>
    obtain ⟨-, rfl⟩ := Classical.not_not.mp hdrop
    obtain rfl : known = some old := hfits
    exact ⟨rfl, by simp⟩
  | add => exact absurd trivial hdrop
  | delete => exact absurd trivial hdrop

/-- Before an unknown key is known again, a notification makes an item of it. -/
theorem exists_queues_of_leads {calls : List Call} {known : Option String}
    (h : Leads none calls (some known)) : ∃ call ∈ calls, call.Queues := by
  cases calls with
  | nil => cases h
  | cons call calls =>
    refine ⟨call, List.mem_cons_self, ?_⟩
    cases call with
    | update key old new => cases h.1
    | add => trivial
    | delete => trivial

end Watch.Call

namespace Controller

/-- What a notification does to a controller with an open queue: the item that it makes is pending,
or nothing is. -/
theorem notify_cases (c : Controller) (hopen : c.queue.closed = false) (call : Call) :
    (¬ call.Queues ∧ call.notify c = c.record .updateSkipped) ∨
    (call.Queues ∧ ∃ item, item.key = call.key ∧ (item.action = .delete → call.result = none) ∧
      call.notify c = { c with queue := (c.queue.insert item).1 }) := by
  have henqueue : ∀ key action version, c.enqueue key action version =
      { c with queue := (c.queue.insert ⟨key, c.kind, action, version⟩).1 } :=
    fun key action version => by rw [enqueue, WorkQueue.add_of_open hopen]
  cases call with
  | add key version =>
    refine .inr ⟨trivial, ⟨key, c.kind, .create, version⟩, rfl, fun hgone => ?_,
      henqueue key .create version⟩
    cases hgone
  | delete key version =>
    exact .inr ⟨trivial, ⟨key, c.kind, .delete, version⟩, rfl, fun _ => rfl,
      henqueue key .delete version⟩
  | update key old new =>
    by_cases hsame : old.isSome ∧ old = new
    · exact .inl ⟨not_not_intro hsame, if_pos hsame⟩
    · refine .inr ⟨hsame, ⟨key, c.kind, .update, new⟩, rfl, fun hgone => ?_, ?_⟩
      · cases hgone
      · rw [← henqueue key .update new]
        exact if_neg hsame

/-- Whether a worker has yet to look a key up. -/
def Due (c : Controller) (key : String) : Prop :=
  key ∈ c.queue.items ∨
    ∃ (i : Nat) (item : WorkItem), c.workers[i]? = some (.holding item) ∧ item.key = key

end Controller

/-! ### What the sinks were told last -/

/-- What the sinks were told last of a key. -/
def lastTold? (key : String) (dispatched : List Dispatch) : Option Dispatch :=
  dispatched.find? fun d => d.key = key

/-- The version that is kept of a key is the one that the sinks were told last. -/
def Told (observed : Option String) : Option Dispatch → Prop
  | none => observed = none
  | some d =>
    if d.notification = .deleted then observed = none else observed = some d.event.version

namespace Pipeline

/-- The invariant of a controller behind a watch, before its queue is shut down. `seen` is what the
notifications made so far say of each key. -/
structure Tracks (p : Pipeline) (seen : String → Option (Option String)) : Prop where
  cached : ∀ key, p.cache.lookup key = .ok (p.replica.objects key)
  versioned : ∀ key r, p.replica.objects key = some r → r.version?.isSome
  follows : p.translator.Follows p.replica
  smooth : p.execution.Smooth
  /-- The notifications that are to be made lead from what was said to what the translator knows. -/
  leads : ∀ key, Leads (seen key) (about key p.calls) p.translator.known[key]?
  /-- An item that says its object is gone is only pending while nothing else was said since. -/
  pendingDelete : ∀ (key : String) (item : WorkItem),
    p.execution.controller.queue.items[key]? = some item → item.action = .delete →
      seen key = none
  heldDelete : ∀ (i : Nat) (item : WorkItem),
    p.execution.controller.workers[i]? = some (.holding item) → item.action = .delete →
      item.key ∉ p.execution.controller.queue.items → seen item.key = none
  /-- A key that nobody has to look up was told, unless an item is still to be made of it. -/
  upToDate : ∀ key, ¬ p.execution.controller.Due key →
    p.execution.controller.observed[key]? = p.translator.known[key]?.join ∨
      ∃ call ∈ about key p.calls, call.Queues
  told : ∀ key, Told p.execution.controller.observed[key]? (lastTold? key p.execution.dispatched)

variable {p p' : Pipeline} {seen : String → Option (Option String)} {kind : Resource.Kind}
  {tuning : Controller.Tuning} {slots : List Sink.Slot} {start : Time.Instant}

theorem tracks_start {cache : Cache} (h : ∀ key, cache.lookup key = .ok none) :
    Tracks { execution := { controller := .new kind tuning slots start }, cache }
      fun _ => none where
  cached := h
  versioned := fun _ _ hr => nomatch hr
  follows := Watch.Translator.follows_start
  smooth := ⟨rfl, fun _ _ hw => by simp [Controller.new] at hw⟩
  leads := fun _ => by simp [about, Leads]
  pendingDelete := fun _ _ _ _ => rfl
  heldDelete := fun _ _ _ _ _ => rfl
  upToDate := fun _ _ => .inl (by simp [Controller.new])
  told := fun _ => by simp [lastTold?, Told, Controller.new]

/-- The watch reports something: it only adds to what is to be said. -/
theorem Tracks.watch (h : p.Tracks seen) (e : Watch.Event) {cache : Cache} {calls : List Call}
    (hcache : ∀ key, cache.lookup key = .ok ((p.replica.apply e).objects key))
    (hversioned : ∀ key r, (p.replica.apply e).objects key = some r → r.version?.isSome)
    (hcalls : calls.Perm (p.translator.handle e).2) :
    Tracks { p with
      cache
      replica := p.replica.apply e
      translator := (p.translator.handle e).1
      calls := p.calls ++ calls } seen := by
  -- at most one notification about a key, so that the order of a listing does not matter
  have hnew : ∀ key, (about key calls = [] ∧
      (p.translator.handle e).1.known[key]? = p.translator.known[key]?) ∨
      ∃ call, about key calls = [call] ∧ call.Fits p.translator.known[key]? ∧
        call.result = (p.translator.handle e).1.known[key]? := by
    intro key
    have hperm : (about key calls).Perm (about key (p.translator.handle e).2) := hcalls.filter _
    rcases p.translator.about_handle e key with ⟨hnone, hknown⟩ | ⟨call, hone, hfits, hresult⟩
    · rw [hnone, List.perm_nil] at hperm
      exact .inl ⟨hperm, hknown⟩
    · rw [hone, List.perm_singleton] at hperm
      exact .inr ⟨call, hperm, hfits, hresult⟩
  refine { h with
    cached := hcache, versioned := hversioned, follows := h.follows.handle e,
    leads := fun key => ?_, upToDate := fun key hdue => ?_ }
  · rw [Watch.about_append]
    refine (h.leads key).append ?_
    rcases hnew key with ⟨hnone, hknown⟩ | ⟨call, hone, hfits, hresult⟩
    · rw [hnone]
      exact hknown.symm
    · rw [hone]
      exact ⟨hfits, hresult⟩
  · show _ = _ ∨ ∃ call ∈ about key (p.calls ++ calls), _
    rw [Watch.about_append]
    rcases h.upToDate key hdue with hsame | ⟨call, hmem, hqueues⟩
    · rcases hnew key with ⟨-, hknown⟩ | ⟨call, hone, hfits, hresult⟩
      · exact .inl (hknown ▸ hsame)
      -- a new notification makes an item, or it says nothing new
      · by_cases hqueues : call.Queues
        · exact .inr ⟨call, by simp [hone], hqueues⟩
        · rw [← hresult, (Call.result_of_not_queues hfits hqueues).1]
          exact .inl hsame
    · exact .inr ⟨call, List.mem_append_left _ hmem, hqueues⟩

/-- A notification is made. -/
theorem Tracks.notify (h : p.Tracks seen) {call : Call} {calls : List Call} {x : Execution}
    (hopen : p.execution.controller.queue.closed = false) (hcalls : p.calls = call :: calls)
    (hmove : p.execution.advance? (.notify call) = some x) :
    Tracks { p with execution := x, calls } (Function.update seen call.key call.result) := by
  obtain rfl := Option.some.inj hmove
  have hleads : call.Fits (seen call.key) ∧
      Leads call.result (about call.key calls) p.translator.known[call.key]? := by
    have hkey := h.leads call.key
    rw [hcalls, Watch.about_cons, if_pos rfl] at hkey
    exact hkey
  have habout : ∀ key, key ≠ call.key → about key p.calls = about key calls := fun key hne => by
    rw [hcalls, Watch.about_cons, if_neg (Ne.symm hne)]
  have hleads' : ∀ key, Leads (Function.update seen call.key call.result key) (about key calls)
      p.translator.known[key]? := by
    intro key
    by_cases hkey : key = call.key
    · subst hkey
      rw [Function.update_self]
      exact hleads.2
    · rw [Function.update_of_ne hkey, ← habout key hkey]
      exact h.leads key
  rcases p.execution.controller.notify_cases hopen call with
    ⟨hdrop, hsame⟩ | ⟨-, item, hitem, hgone, hinsert⟩
  · -- nothing new was said, so that an item still says what was said
    obtain ⟨hresult, hknown⟩ := Call.result_of_not_queues hleads.1 hdrop
    have hseen : Function.update seen call.key call.result = seen := by
      rw [hresult, Function.update_eq_self]
    rw [hseen] at hleads' ⊢
    rw [hsame]
    refine { h with smooth := ⟨h.smooth.retries, h.smooth.workers⟩, leads := hleads',
                    upToDate := fun key hdue => ?_ }
    rcases h.upToDate key hdue with hcurrent | ⟨other, hmem, hqueues⟩
    · exact .inl hcurrent
    · refine .inr ⟨other, ?_, hqueues⟩
      rw [hcalls, Watch.about_cons] at hmem
      split at hmem
      · refine (List.mem_cons.mp hmem).resolve_left fun heq => ?_
        subst heq
        exact hdrop hqueues
      · exact hmem
  -- the key is to be looked up now, whatever was pending for it
  · rw [hinsert]
    have hitems : ∀ key : String,
        (p.execution.controller.queue.insert item).1.items[key]? =
          if call.key = key then some item else p.execution.controller.queue.items[key]? := by
      intro key
      rw [WorkQueue.items_insert, Std.TreeMap.getElem?_insert, hitem]
      simp only [Std.compare_eq_iff_eq]
    have hmem : ∀ key : String, key ∈ (p.execution.controller.queue.insert item).1.items ↔
        call.key = key ∨ key ∈ p.execution.controller.queue.items := by
      intro key
      rw [WorkQueue.items_insert, Std.TreeMap.mem_insert, Std.compare_eq_iff_eq, hitem]
    refine { h with smooth := ⟨h.smooth.retries, h.smooth.workers⟩, leads := hleads',
                    pendingDelete := ?_, heldDelete := ?_, upToDate := ?_ }
    · intro key found hfound hdelete
      replace hfound := (hitems key).symm.trans hfound
      by_cases hkey : call.key = key
      · subst hkey
        rw [if_pos rfl] at hfound
        obtain rfl := Option.some.inj hfound
        rw [Function.update_self]
        exact hgone hdelete
      · rw [if_neg hkey] at hfound
        rw [Function.update_of_ne (Ne.symm hkey)]
        exact h.pendingDelete key found hfound hdelete
    · intro i found hheld hdelete hnone
      obtain ⟨hne, hnone⟩ := not_or.mp (mt (hmem found.key).mpr hnone)
      rw [Function.update_of_ne (Ne.symm hne)]
      exact h.heldDelete i found hheld hdelete hnone
    · intro key hdue
      obtain ⟨hnone, hheld⟩ := not_or.mp hdue
      obtain ⟨hne, hnone⟩ := not_or.mp (mt (hmem key).mpr hnone)
      rw [← habout key (Ne.symm hne)]
      exact h.upToDate key (not_or.mpr ⟨hnone, hheld⟩)

/-- A step that is quiet for the items changes nothing of what is tracked. -/
theorem Tracks.of_quiet (h : p.Tracks seen) {x : Execution} (hquiet : p.execution.Quiet x)
    (hsmooth : x.Smooth) : Tracks { p with execution := x } seen := by
  have hdue : ∀ key, x.controller.Due key ↔ p.execution.controller.Due key := by
    intro key
    simp only [Controller.Due, hquiet.items, hquiet.holding]
  refine { h with smooth := hsmooth, pendingDelete := ?_, heldDelete := ?_,
                  upToDate := ?_, told := ?_ }
  · rw [hquiet.items]
    exact h.pendingDelete
  · intro i item hheld
    rw [hquiet.items]
    exact h.heldDelete i item ((hquiet.holding i item).mp hheld)
  · intro key hnot
    rw [hquiet.observed]
    exact h.upToDate key (mt (hdue key).mpr hnot)
  · rw [hquiet.observed, hquiet.dispatched]
    exact h.told

/-- An item is handed out: its key is still to be looked up. -/
theorem Tracks.take (h : p.Tracks seen) {i : Nat} {queue : WorkQueue} {item : WorkItem}
    {x : Execution} (hidle : p.execution.controller.workers[i]? = some .idle)
    (htake : p.execution.controller.queue.take = (queue, .item item))
    (hconsistent : p.execution.controller.queue.Consistent)
    (hunique : ∀ (j : Nat) (other : WorkItem), x.controller.workers[j]? = some (.holding other) →
      other.key = item.key → j = i)
    (hsmooth : x.Smooth)
    (hx : x = { p.execution with
      controller := { p.execution.controller with queue }.setWorker i (.holding item) }) :
    Tracks { p with execution := x } seen := by
  obtain ⟨hitem, hitems⟩ : p.execution.controller.queue.items[item.key]? = some item ∧
      queue.items = p.execution.controller.queue.items.erase item.key := by
    rcases WorkQueue.take_cases p.execution.controller.queue with ⟨-, hnone⟩ | ⟨-, -, hnone⟩ |
      ⟨-, skipped, key, rest, found, -, -, hfound, hsome⟩
    · cases htake.symm.trans hnone
    · cases htake.symm.trans hnone
    · obtain ⟨rfl, heq⟩ := Prod.mk.inj (htake.symm.trans hsome)
      obtain rfl := WorkQueue.Taken.item.inj heq
      obtain rfl := hconsistent.labelled key item hfound
      exact ⟨hfound, rfl⟩
  have hother : ∀ (j : Nat) (other : WorkItem), x.controller.workers[j]? = some (.holding other) ↔
      (i = j ∧ item = other) ∨ p.execution.controller.workers[j]? = some (.holding other) := by
    intro j other
    rw [hx]
    show (p.execution.controller.workers.set i _)[j]? = _ ↔ _
    rw [Controller.getElem?_setWorker hidle]
    by_cases hij : i = j
    · subst hij
      simp [hidle]
    · simp [hij]
  have hitems' : x.controller.queue.items = p.execution.controller.queue.items.erase item.key := by
    rw [hx]
    exact hitems
  have hobserved : x.controller.observed = p.execution.controller.observed := by rw [hx]; rfl
  have hdispatched : x.dispatched = p.execution.dispatched := by rw [hx]
  refine { h with smooth := hsmooth, pendingDelete := ?_, heldDelete := ?_, upToDate := ?_,
                  told := ?_ }
  · intro key found hfound hdelete
    rw [hitems', Std.TreeMap.getElem?_erase] at hfound
    split at hfound
    · cases hfound
    · exact h.pendingDelete key found hfound hdelete
  · intro j other hheld hdelete hnone
    rcases (hother j other).mp hheld with ⟨-, rfl⟩ | hold
    · exact h.pendingDelete item.key item hitem hdelete
    · by_cases hkey : other.key = item.key
      · -- no other worker holds the key
        obtain rfl := hunique j other hheld hkey
        rw [hidle] at hold
        cases hold
      · refine h.heldDelete j other hold hdelete fun hmem => hnone ?_
        rw [hitems', Std.TreeMap.mem_erase, Ne, Std.compare_eq_iff_eq]
        exact ⟨Ne.symm hkey, hmem⟩
  · intro key hdue
    rw [hobserved]
    -- the key of the item goes from pending to held, and is due all the time
    refine h.upToDate key fun hold => hdue ?_
    by_cases hkey : item.key = key
    · exact .inr ⟨i, item, (hother i item).mpr (.inl ⟨rfl, rfl⟩), hkey⟩
    · rcases hold with hmem | ⟨j, other, hheld, hsame⟩
      · refine .inl ?_
        rw [hitems', Std.TreeMap.mem_erase, Ne, Std.compare_eq_iff_eq]
        exact ⟨hkey, hmem⟩
      · exact .inr ⟨j, other, (hother j other).mpr (.inr hheld), hsame⟩
  · rw [hobserved, hdispatched]
    exact h.told

/-- What the sinks are told of an item is what the controller keeps of its key. -/
theorem told_of_telling {c c' : Controller} {item : WorkItem} {found : Option Resource}
    {outcome : Outcome} (htelling : c.Telling item found outcome c')
    (hversion : ∀ r, found = some r → r.version?.isSome) {dispatched : List Dispatch}
    (htold : ∀ key, Told c.observed[key]? (lastTold? key dispatched)) (key : String) :
    Told c'.observed[key]?
      (lastTold? key ((outcome.dispatch? item.key).toList ++ dispatched)) := by
  have hkeep := htold key
  cases htelling with
  | skipped r c' _ _ _ hobserved =>
    rw [hobserved]
    exact hkeep
  | deleted found c' _ hobserved =>
    rw [hobserved, Std.TreeMap.getElem?_erase]
    by_cases hkey : item.key = key
    · simp [hkey, lastTold?, Outcome.dispatch?, Told]
    · simpa [hkey, lastTold?, Outcome.dispatch?] using hkeep
  | live r notification c' _ hnotification hobserved =>
    obtain ⟨version, hr⟩ := Option.isSome_iff_exists.mp (hversion r rfl)
    rw [hobserved, Controller.observed_observe hr, Std.TreeMap.getElem?_insert]
    by_cases hkey : item.key = key
    · simp [hkey, lastTold?, Outcome.dispatch?, Told, hnotification, Event.version_ofResource hr]
    · simpa [hkey, lastTold?, Outcome.dispatch?] using hkeep

/-- What is kept of the key of an item is the version that was found, unless the item says that the
object is gone. -/
theorem observed_of_telling_self {c c' : Controller} {item : WorkItem} {found : Option Resource}
    {outcome : Outcome} (htelling : c.Telling item found outcome c')
    (hversion : ∀ r, found = some r → r.version?.isSome) {P : Prop}
    (hdelete : ∀ r, found = some r → item.action = .delete → P) :
    c'.observed[item.key]? = (found.map (·.version?)).join ∨ P := by
  cases htelling with
  | skipped r c' _ _ hsame hobserved =>
    rw [hobserved]
    exact .inl hsame
  | live r notification c' _ _ hobserved =>
    obtain ⟨version, hr⟩ := Option.isSome_iff_exists.mp (hversion r rfl)
    rw [hobserved, Controller.observed_observe hr]
    exact .inl (by simp [hr])
  | deleted found c' hgone hobserved =>
    cases found with
    | none =>
      rw [hobserved]
      exact .inl (by simp)
    | some r => exact .inr (hdelete r rfl (hgone.resolve_left (by simp)))

/-- A worker looks its item up and finds what the cache holds. -/
theorem Tracks.begin (h : p.Tracks seen) {i : Nat} {found : Except Fault (Option Resource)}
    {x : Execution} (hanswers : p.Answers (.begin i found))
    (hmove : p.execution.advance? (.act (.begin i found)) = some x) :
    Tracks { p with execution := x } seen := by
  obtain ⟨item, hheld, hlooked⟩ := h.smooth.begin hmove
  have hfound : found = .ok (p.replica.objects item.key) :=
    (hanswers item hheld).trans (h.cached item.key)
  obtain ⟨-, hothers, hqueue, hsmooth, hobserved, hdispatched⟩ := hlooked _ hfound
  have htelling := p.execution.controller.telling item (p.replica.objects item.key)
  have hknown : p.translator.known[item.key]? = (p.replica.objects item.key).map (·.version?) :=
    h.follows.known item.key
  refine { h with smooth := hsmooth, pendingDelete := ?_, heldDelete := ?_, upToDate := ?_,
                  told := ?_ }
  · rw [hqueue]
    exact h.pendingDelete
  · intro j other hother hdelete hnone
    rw [hqueue] at hnone
    exact h.heldDelete j other ((hothers j other).mp hother).2 hdelete hnone
  · intro key hdue
    rw [hobserved]
    obtain ⟨hnone, hnobody⟩ := not_or.mp hdue
    rw [hqueue] at hnone
    by_cases hkey : item.key = key
    · subst hkey
      rw [hknown]
      refine observed_of_telling_self htelling (h.versioned item.key) fun r hr hdelete => ?_
      -- the translator knows the object again, after it was said to be gone
      have hleads := h.leads item.key
      rw [h.heldDelete i item hheld hdelete hnone, hknown, hr] at hleads
      exact Call.exists_queues_of_leads hleads
    · rw [htelling.observed_of_ne hkey]
      refine h.upToDate key (not_or.mpr ⟨hnone, ?_⟩)
      rintro ⟨j, other, hother, rfl⟩
      refine hnobody ⟨j, other, (hothers j other).mpr ⟨fun heq => ?_, hother⟩, rfl⟩
      subst heq
      obtain rfl := Worker.holding.inj (Option.some.inj (hheld.symm.trans hother))
      exact hkey rfl
  · intro key
    rw [hobserved, hdispatched]
    exact told_of_telling htelling (h.versioned item.key) h.told key

/-- The invariant holds in every state of every run, until the queue is shut down. -/
theorem Reachable.tracks (h : Reachable (.new kind tuning slots start) p)
    (hopen : p.execution.controller.queue.closed = false) : ∃ seen, p.Tracks seen := by
  induction h with
  | start cache hcache => exact ⟨_, tracks_start hcache⟩
  | @next p p' hrun hnext ih =>
    have hreach := hrun.execution
    have hopen_of : ∀ {move x}, p.execution.advance? move = some x →
        x.controller.queue.closed = false → p.execution.controller.queue.closed = false := by
      intro move x hmove hx
      by_contra hclosed
      have hx' := hreach.closed_of_closed hmove (Bool.not_eq_false _ ▸ hclosed)
      rw [hx] at hx'
      cases hx'
    cases hnext with
    | watch e cache calls hcache hversioned hcalls =>
      obtain ⟨seen, h⟩ := ih hopen
      exact ⟨seen, h.watch e hcache hversioned hcalls⟩
    | notify call calls x hcalls hmove =>
      have hopen := hopen_of hmove hopen
      obtain ⟨seen, h⟩ := ih hopen
      exact ⟨_, h.notify hopen hcalls hmove⟩
    | act step x hanswers hmove =>
      obtain ⟨seen, h⟩ := ih (hopen_of hmove hopen)
      refine ⟨seen, ?_⟩
      rcases hreach.act_cases h.smooth hmove with ⟨hquiet, hsmooth⟩ |
        ⟨i, queue, item, hidle, htake, hsmooth, hx⟩ | ⟨i, found, rfl⟩
      · exact h.of_quiet hquiet hsmooth
      · refine h.take hidle htake hreach.consistent (fun j other hother hkey => ?_) hsmooth hx
        have hself : x.controller.workers[i]? = some (.holding item) := by
          rw [hx]
          show (p.execution.controller.workers.set i _)[i]? = _
          rw [Controller.getElem?_setWorker hidle, if_pos rfl]
        exact (hreach.move hmove).worker_unique hother hself rfl (congrArg some hkey.symm)
      · exact h.begin hanswers hmove
    | mature position x hmove =>
      -- nothing has failed, so that nothing is backing off
      obtain ⟨seen, h⟩ := ih (hopen_of hmove hopen)
      simp [Execution.advance?, h.smooth.retries] at hmove

/-- All notifications are made, no key waits and none is in process. -/
structure Settled (p : Pipeline) : Prop where
  calls : p.calls = []
  empty : p.execution.controller.queue.length = 0
  idle : p.execution.controller.queue.processing.isEmpty

/-- **The sinks were last told what the cache holds.** Take any run of a controller behind a watch,
with any number of workers, before the queue is shut down. In every state in which all notifications
are made, no key waits and none is in process, one of two things is true of each key. Either the
cache has an object under it, the controller has kept the version of that object, and the sinks were
last told that an object of that version was created, there before or updated; or the cache has
none, no version is kept, and the sinks were last told that the object is gone, or never told of the
key. -/
theorem Reachable.converged (h : Reachable (.new kind tuning slots start) p)
    (hopen : p.execution.controller.queue.closed = false) (hsettled : p.Settled) (key : String) :
    (∃ r version, p.cache.lookup key = .ok (some r) ∧ r.version? = some version ∧
      p.execution.controller.observed[key]? = some version ∧
      ∃ d, lastTold? key p.execution.dispatched = some d ∧
        (d.notification = .created ∨ d.notification = .replayed ∨ d.notification = .updated) ∧
        d.event.version = version) ∨
    (p.cache.lookup key = .ok none ∧ p.execution.controller.observed[key]? = none ∧
      ∀ d, lastTold? key p.execution.dispatched = some d → d.notification = .deleted) := by
  obtain ⟨seen, ht⟩ := h.tracks hopen
  have hidle : ∀ key, key ∉ p.execution.controller.queue.processing :=
    fun key => Std.TreeSet.isEmpty_iff_forall_not_mem.mp hsettled.idle key
  have hempty : p.execution.controller.queue.waiting = [] :=
    List.length_eq_zero_iff.mp hsettled.empty
  -- nobody has to look the key up
  have hdue : ¬ p.execution.controller.Due key := by
    rintro (hitem | ⟨i, item, hheld, rfl⟩)
    · rcases h.execution.consistent.tracked hopen key hitem with hwaits | hprocessing
      · rw [hempty] at hwaits
        cases hwaits
      · exact hidle key hprocessing
    · exact hidle item.key ((h.execution.processing_iff item.key).mpr ⟨i, _, hheld, rfl⟩)
  have hobserved : p.execution.controller.observed[key]? =
      ((p.replica.objects key).map (·.version?)).join := by
    rw [← ht.follows.known key]
    refine (ht.upToDate key hdue).resolve_right ?_
    rintro ⟨call, hmem, -⟩
    rw [hsettled.calls] at hmem
    cases hmem
  have htold := ht.told key
  rw [ht.cached key]
  cases hobject : p.replica.objects key with
  | none =>
    rw [hobject] at hobserved
    refine .inr ⟨rfl, hobserved, fun d hd => ?_⟩
    rw [hobserved, hd] at htold
    by_contra hlive
    simp [Told, hlive] at htold
  | some r =>
    obtain ⟨version, hr⟩ := Option.isSome_iff_exists.mp (ht.versioned key r hobject)
    rw [hobject] at hobserved
    replace hobserved : p.execution.controller.observed[key]? = some version :=
      hobserved.trans hr
    rw [hobserved] at htold
    refine .inl ⟨r, version, rfl, hr, hobserved, ?_⟩
    cases hd : lastTold? key p.execution.dispatched with
    | none =>
      rw [hd] at htold
      cases htold
    | some d =>
      rw [hd] at htold
      cases hn : d.notification with
      | deleted => simp [Told, hn] at htold
      | created =>
        exact ⟨d, rfl, .inl hn, by simpa [Told, hn, eq_comm] using htold⟩
      | replayed =>
        exact ⟨d, rfl, .inr (.inl hn), by simpa [Told, hn, eq_comm] using htold⟩
      | updated =>
        exact ⟨d, rfl, .inr (.inr hn), by simpa [Told, hn, eq_comm] using htold⟩

/-- An object changes while a worker is on its way to look it up: the sinks are told the later
version at once, and the notification of the change tells them nothing more. -/
theorem converged_ahead :
    let pod (version : String) : Resource :=
      .live { name := some "x", namespaceName := some "ns", version := some version } (.pod none [])
    ∃ p, Reachable (.new .pods {} [] (.ofSecond 0)) p ∧
      p.execution.controller.queue.closed = false ∧ p.Settled ∧
      p.cache.lookup "ns/x" = .ok (some (pod "2")) ∧
      p.execution.dispatched.length = 1 ∧
      ∃ d, lastTold? "ns/x" p.execution.dispatched = some d ∧ d.event.version = "2" := by
  intro pod
  let store : Watch.Store := {}
  let store₁ := store.apply (.apply (pod "1"))
  let store₂ := store₁.apply (.apply (pod "2"))
  have hstore₁ : store₁.Follows (Watch.Replica.apply {} (.apply (pod "1"))) :=
    Watch.Store.follows_start.apply (e := .apply (pod "1")) (by decide)
  have hstore₂ : store₂.Follows
      ((Watch.Replica.apply {} (.apply (pod "1"))).apply (.apply (pod "2"))) :=
    hstore₁.apply (e := .apply (pod "2")) (by decide)
  have hversioned : ∀ (m : Watch.Replica) (version : String),
      (∀ key r, m.objects key = some r → r.version?.isSome) →
      ∀ key r, (m.apply (.apply (pod version))).objects key = some r → r.version?.isSome := by
    intro m version hm key r hr
    replace hr : Function.update m.objects _ (some (pod version)) key = some r := hr
    rw [Function.update_apply] at hr
    split at hr
    · obtain rfl := Option.some.inj hr
      rfl
    · exact hm key r hr
  have hact : ∀ {p : Pipeline} (step : Step)
      (hsome : (p.execution.advance? (.act step)).isSome = true), p.Answers step →
      Reachable (.new .pods {} [] (.ofSecond 0)) p →
      Reachable (.new .pods {} [] (.ofSecond 0))
        { p with execution := (p.execution.advance? (.act step)).get hsome } :=
    fun step hsome hanswers h => h.next (.act step _ hanswers (Option.some_get hsome).symm)
  have hlooks : ∀ {p : Pipeline} (item : WorkItem),
      p.execution.controller.workers[0]? = some (.holding item) →
      p.cache.lookup item.key = .ok (some (pod "2")) →
      p.Answers (.begin 0 (.ok (some (pod "2")))) := by
    intro p item hheld hlookup other hother
    obtain rfl := Worker.holding.inj (Option.some.inj (hheld.symm.trans hother))
    exact hlookup.symm
  have hcache₁ := hstore₁.lookup (fun _ => rfl) true
  have hcache₂ := hstore₂.lookup (fun _ => rfl) true
  have hfound : (store₂.toCache true).lookup "ns/x" = .ok (some (pod "2")) := hcache₂ "ns/x"
  have h₀ : Reachable (.new .pods {} [] (.ofSecond 0)) _ :=
    .start (store.toCache false) fun _ => rfl
  have h₁ := hact (.start 0) (by decide) trivial h₀
  have h₂ := hact (.check 0 true) (by decide) trivial h₁
  have h₃ := h₂.next (.watch (.apply (pod "1")) (store₁.toCache true) _ hcache₁
    (hversioned _ _ fun _ _ hr => nomatch hr) (.refl _))
  have h₄ := h₃.next (.notify (.add "ns/x" (some "1")) [] _ (by decide) rfl)
  have h₅ := hact (.take 0) (by decide) trivial h₄
  have h₆ := h₅.next (.watch (.apply (pod "2")) (store₂.toCache true) _ hcache₂
    (hversioned _ _ (hversioned _ _ fun _ _ hr => nomatch hr)) (.refl _))
  -- the cache is ahead of the item
  have h₇ := hact (.begin 0 (.ok (some (pod "2")))) (by decide)
    (hlooks ⟨"ns/x", .pods, .create, some "1"⟩ (by decide) hfound) h₆
  have h₈ := hact (.settle 0) (by decide) trivial h₇
  have h₉ := hact (.release 0) (by decide) trivial h₈
  have h₁₀ := h₉.next (.notify (.update "ns/x" (some "1") (some "2")) [] _ (by decide) rfl)
  have h₁₁ := hact (.take 0) (by decide) trivial h₁₀
  have h₁₂ := hact (.begin 0 (.ok (some (pod "2")))) (by decide)
    (hlooks ⟨"ns/x", .pods, .update, some "2"⟩ (by decide) hfound) h₁₁
  have h₁₃ := hact (.settle 0) (by decide) trivial h₁₂
  have h₁₄ := hact (.release 0) (by decide) trivial h₁₃
  obtain ⟨p, hrun, hopen, hsettled, hcache, hcount⟩ :
      ∃ p, Reachable (.new .pods {} [] (.ofSecond 0)) p ∧
        p.execution.controller.queue.closed = false ∧ p.Settled ∧
        p.cache.lookup "ns/x" = .ok (some (pod "2")) ∧ p.execution.dispatched.length = 1 :=
    ⟨_, h₁₄, by decide, ⟨by decide, by decide, by decide⟩, hfound, by decide⟩
  refine ⟨p, hrun, hopen, hsettled, hcache, hcount, ?_⟩
  rcases hrun.converged hopen hsettled "ns/x" with
    ⟨r, version, hlookup, hr, -, d, hd, -, hversion⟩ | ⟨hnone, -⟩
  · obtain rfl := Option.some.inj (Except.ok.inj (hcache.symm.trans hlookup))
    exact ⟨d, hd, hversion.trans (Option.some.inj hr).symm⟩
  · cases hcache.symm.trans hnone

end Pipeline

end ClusterWatch
