import ClusterWatch.Proofs.Path
import ClusterWatch.Proofs.Sink.Writes
import Mathlib.Data.List.Basic
/-!
# A search index in use

The sink is cloned, and events are stored and searched through all the clones at once. Each of these
jobs makes attempts until one of them settles it or the policy allows no more, and the attempts of
different jobs may interleave in any way. What the jobs share is the counter that tells whose turn
it is. An attempt begins with the choice of its server, and attempts are counted in the order in
which they begin; when the request goes out and when the report of it comes is left open, and so are
the pauses between attempts. A job that is given up makes no more moves.

- `Demand`: what is asked of the index. `Demand.requestTo` is the request for it to a server, which
  `Demand.Posts` spells out.
- `SharedIndex`, `Move`, `advance?`: the sink with its clones and jobs, and how they go on.
- `Does`: everything that a move can come to.
- `postings`, `reports`: the attempts of a path and what was heard of them.
- `Counted`: the counter tells the number of attempts, and by it each of them has its server.
- `Covers`: what the sink does by itself is a path on which nobody else takes part.
-/

namespace ClusterWatch.Sink

open Http (Reply Request Url)

namespace SearchIndex

variable {i : SearchIndex} {turn : Nat} {server : String}

/-- What is asked of the index. -/
inductive Demand where
  | store (e : Event)
  | search (q : EventQuery)

namespace Demand

/-- The last part of the address of a request. -/
def operation : Demand → String
  | store _ => "_doc"
  | search _ => "_search"

/-- What a request has beside its address. -/
def fill (r : Request) : Demand → Request
  | store e => (r.withQuery [("refresh", "wait_for")]).withJson e.toJson
  | search q => r.withJson (queryBody q)

/-- The request to a server. -/
def requestTo (i : SearchIndex) (server : String) (d : Demand) : Option Request :=
  (Request.to? .post (server ++ "/" ++ i.index ++ "/" ++ d.operation)).map d.fill

/-- The request to the server whose turn it is. -/
def request? (i : SearchIndex) (turn : Nat) : Demand → Option Request
  | store e => i.storeRequest? e turn
  | search q => i.searchRequest? q turn

theorem request?_eq (h : i.server? turn = some server) (d : Demand) :
    d.request? i turn = d.requestTo i server := by
  cases d with
  | store e => rw [request?, storeRequest?, address_eq h]; rfl
  | search q => rw [request?, searchRequest?, address_eq h]; rfl

/-- What is asked of a server. -/
inductive Posts (i : SearchIndex) (server : String) : Demand → Request → Prop
  | store {e : Event} {url : Url} :
      Url.parse (server ++ "/" ++ i.index ++ "/_doc") = .ok url → url.host.isSome = true →
      Posts i server (.store e)
        { method := .post, url := url.appendQuery [("refresh", "wait_for")],
          contentType := some "application/json", body := e.toJson.text }
  | search {q : EventQuery} {url : Url} :
      Url.parse (server ++ "/" ++ i.index ++ "/_search") = .ok url → url.host.isSome = true →
      Posts i server (.search q)
        { method := .post, url, contentType := some "application/json",
          body := (queryBody q).text }

theorem requestTo_eq_some_iff {d : Demand} {r : Request} :
    d.requestTo i server = some r ↔ d.Posts i server r := by
  rw [requestTo, Request.map_to?_eq_some_iff, String.append_assoc]
  constructor
  · rintro ⟨url, hurl, hhost, rfl⟩
    cases d with
    | store e => exact .store hurl hhost
    | search q => exact .search hurl hhost
  · rintro (⟨hurl, hhost⟩ | ⟨hurl, hhost⟩)
    · exact ⟨_, hurl, hhost, rfl⟩
    · exact ⟨_, hurl, hhost, rfl⟩

/-- A server whose address can be used is asked, and nobody else. -/
theorem exists_requestTo (h : Url.IsUsable server) {url : Url} (hurl : Url.parse server = .ok url)
    (i : SearchIndex) (d : Demand) :
    ∃ r, d.requestTo i server = some r ∧ Url.SameMachine url r.url := by
  obtain ⟨below, hbelow, hsame⟩ := h.sameMachine hurl (i.index ++ "/" ++ d.operation)
  rw [← String.append_assoc, ← String.append_assoc] at hbelow
  have hhost : below.host.isSome = true := by
    obtain ⟨_, hurl', hhost⟩ := h.machine
    obtain rfl := Except.ok.inj (hurl.symm.trans hurl')
    rwa [hsame.host]
  refine ⟨_, Request.map_to?_eq_some_iff.mpr ⟨below, hbelow, hhost, rfl⟩, ?_⟩
  -- a query stays on the machine
  cases d <;> exact ⟨hsame.scheme, hsame.host, hsame.port⟩

/-- Whether no attempt follows a report, however many are allowed. -/
def settles : Demand → Option Reply → Bool
  | store _, report => (judge .elasticsearch report).isFinal
  | search _, report => (judgeAnswer (judge .elasticsearch report)).isFinal

end Demand

end SearchIndex

open SearchIndex (Demand)

/-! ### Jobs -/

/-- Where a job stands. -/
inductive Job.Stage where
  /-- An attempt is to be made, now or after a pause. -/
  | due
  /-- The report of an attempt is still to come. -/
  | waiting
  | over
  deriving DecidableEq, Repr

/-- A demand that the sink or a clone of it deals with. -/
structure Job where
  /-- The sink or the clone, for its settings. -/
  handler : SearchIndex
  demand : Demand
  /-- The number of attempts so far. -/
  made : Nat := 0
  stage : Job.Stage := .due

namespace Job

/-- A job begins with an attempt. A search among no servers is over at once. -/
def ofDemand (i : SearchIndex) (d : Demand) : Job :=
  match d with
  | .store _ => { handler := i, demand := d }
  | .search _ => { handler := i, demand := d, stage := if i.servers = [] then .over else .due }

@[simp] theorem handler_ofDemand (i : SearchIndex) (d : Demand) : (ofDemand i d).handler = i := by
  cases d <;> rfl

/-- The job after an attempt has begun. -/
def attempted (j : Job) : Job :=
  { j with made := j.made + 1, stage := .waiting }

/-- The job after the report of its attempt. -/
def heard (policy : RetryPolicy) (report : Option Reply) (j : Job) : Job :=
  { j with
    stage :=
      if j.demand.settles report = true ∨ max policy.attempts 1 ≤ j.made then .over else .due }

theorem heard_attempted_over {policy : RetryPolicy} {report : Option Reply} {j : Job}
    (h : j.demand.settles report = true ∨ max policy.attempts 1 ≤ j.made + 1) :
    j.attempted.heard policy report = { j with made := j.made + 1, stage := .over } :=
  congrArg (fun stage => { j with made := j.made + 1, stage }) (if_pos h)

theorem heard_attempted_due {policy : RetryPolicy} {report : Option Reply} {j : Job}
    (h : ¬ (j.demand.settles report = true ∨ max policy.attempts 1 ≤ j.made + 1)) :
    j.attempted.heard policy report = { j with made := j.made + 1, stage := .due } :=
  congrArg (fun stage => { j with made := j.made + 1, stage }) (if_neg h)

end Job

/-! ### Moves -/

/-- The sink with its clones and all their jobs. -/
structure SharedIndex where
  /-- The sink and its clones. Each has the settings; whose turn it is they share. -/
  handlers : List SearchIndex
  /-- The counter of the attempts. It starts over when it is full. -/
  turn : UInt64 := 0
  jobs : List Job := []

namespace SharedIndex

/-- The sink before it is used and cloned. -/
def of (i : SearchIndex) : SharedIndex where
  handlers := [i]
  turn := .ofNat i.turn

/-- What may happen next. -/
inductive Move where
  /-- The sink or a clone of it is cloned. -/
  | clone (handler : Nat)
  /-- The sink or a clone of it is asked for something. -/
  | begin (handler : Nat) (d : Demand)
  /-- A job chooses a server and makes its request. -/
  | attempt (job : Nat)
  /-- The client of the network reports what became of a request. -/
  | report (job : Nat) (report : Option Reply)

/-- Makes a move, if it can be made. An attempt cannot when there is no server to choose. -/
def advance? (policy : RetryPolicy) (s : SharedIndex) : Move → Option SharedIndex
  | .clone handler =>
    (s.handlers[handler]?).map fun i => { s with handlers := s.handlers ++ [i] }
  | .begin handler d =>
    (s.handlers[handler]?).map fun i => { s with jobs := s.jobs ++ [.ofDemand i d] }
  | .attempt job =>
    match s.jobs[job]? with
    | some j =>
      if j.stage = .due ∧ (j.handler.server? s.turn.toNat).isSome then
        some { s with turn := s.turn + 1, jobs := s.jobs.set job j.attempted }
      else none
    | none => none
  | .report job report =>
    match s.jobs[job]? with
    | some j =>
      if j.stage = .waiting then some { s with jobs := s.jobs.set job (j.heard policy report) }
      else none
    | none => none

/-- Everything that a move can come to. -/
inductive Does (policy : RetryPolicy) (s : SharedIndex) : Move → SharedIndex → Prop
  | clone {handler : Nat} {i : SearchIndex} : s.handlers[handler]? = some i →
      Does policy s (.clone handler) { s with handlers := s.handlers ++ [i] }
  | begin {handler : Nat} {i : SearchIndex} (d : Demand) : s.handlers[handler]? = some i →
      Does policy s (.begin handler d) { s with jobs := s.jobs ++ [.ofDemand i d] }
  | attempt {job : Nat} {j : Job} : s.jobs[job]? = some j → j.stage = .due →
      (j.handler.server? s.turn.toNat).isSome →
      Does policy s (.attempt job) { s with turn := s.turn + 1, jobs := s.jobs.set job j.attempted }
  | report {job : Nat} {j : Job} (report : Option Reply) : s.jobs[job]? = some j →
      j.stage = .waiting →
      Does policy s (.report job report) { s with jobs := s.jobs.set job (j.heard policy report) }

variable {policy : RetryPolicy} {s s' : SharedIndex} {move : Move}

theorem advance?_eq_some_iff : advance? policy s move = some s' ↔ Does policy s move s' := by
  constructor
  · intro h
    cases move with
    | clone handler =>
      obtain ⟨i, hi, rfl⟩ := Option.map_eq_some_iff.mp h
      exact .clone hi
    | begin handler d =>
      obtain ⟨i, hi, rfl⟩ := Option.map_eq_some_iff.mp h
      exact .begin d hi
    | attempt job =>
      rw [advance?] at h
      split at h
      · next j hj =>
        split at h
        · next hdue =>
          obtain rfl := Option.some.inj h
          exact .attempt hj hdue.1 hdue.2
        · cases h
      · cases h
    | report job report =>
      rw [advance?] at h
      split at h
      · next j hj =>
        split at h
        · next hwaiting =>
          obtain rfl := Option.some.inj h
          exact .report report hj hwaiting
        · cases h
      · cases h
  · intro h
    cases h with
    | clone hi => rw [advance?, hi]; rfl
    | begin d hi => rw [advance?, hi]; rfl
    | attempt hj hdue hserver => simp only [advance?, hj, hdue, hserver, and_self, if_true]
    | report report hj hwaiting => simp only [advance?, hj, hwaiting, if_true]

/-- A job that is to make an attempt can, if there are servers at all. -/
theorem does_attempt {job : Nat} {j : Job} (hj : s.jobs[job]? = some j) (hdue : j.stage = .due)
    (hservers : j.handler.servers ≠ []) (policy : RetryPolicy) :
    Does policy s (.attempt job)
      { s with turn := s.turn + 1, jobs := s.jobs.set job j.attempted } := by
  obtain ⟨server, -, hserver⟩ := SearchIndex.exists_server? hservers s.turn.toNat
  exact .attempt hj hdue (Option.isSome_of_eq_some hserver)

/-! ### What a path has done -/

/-- An attempt to have a server do something. -/
structure Posting where
  job : Nat
  demand : Demand
  /-- The place of the server among the servers. -/
  place : Nat
  request : Option Request

/-- The attempt that a job makes when it finds the counter at a turn. -/
def Posting.ofJob (job : Nat) (turn : UInt64) (j : Job) : Posting where
  job
  demand := j.demand
  place := turn.toNat % j.handler.servers.length
  request := j.demand.request? j.handler turn.toNat

/-- The attempt of a move. -/
def posting? : SharedIndex × Move → Option Posting
  | (s, .attempt job) => (s.jobs[job]?).map (.ofJob job s.turn)
  | _ => none

theorem posting?_attempt {job : Nat} {j : Job} (hj : s.jobs[job]? = some j) :
    posting? (s, .attempt job) = some (.ofJob job s.turn j) := by
  rw [posting?, hj, Option.map_some]

/-- The attempts of a path, the first in front. -/
def postings (past : List (SharedIndex × Move)) : List Posting :=
  (past.filterMap posting?).reverse

/-- What is heard in a move. -/
def report? : SharedIndex × Move → Option (Option Reply)
  | (_, .report _ report) => some report
  | _ => none

/-- What was heard on a path, the first in front. -/
def reports (past : List (SharedIndex × Move)) : List (Option Reply) :=
  (past.filterMap report?).reverse

variable {i : SearchIndex} {past later : List (SharedIndex × Move)}

theorem postings_append (later past : List (SharedIndex × Move)) :
    postings (later ++ past) = postings past ++ postings later := by
  rw [postings, List.filterMap_append, List.reverse_append, postings, postings]

theorem reports_append (later past : List (SharedIndex × Move)) :
    reports (later ++ past) = reports past ++ reports later := by
  rw [reports, List.filterMap_append, List.reverse_append, reports, reports]

/-- The attempt goes to the server of a turn. -/
structure Posting.OfTurn (i : SearchIndex) (turn : Nat) (p : Posting) : Prop where
  place : p.place = turn % i.servers.length
  request : p.request = p.demand.request? i turn

/-- The counter tells the number of attempts, as far as it has room for it, and each attempt goes
where its number says, whoever makes it. -/
structure Counted (i : SearchIndex) (past : List (SharedIndex × Move)) (s : SharedIndex) :
    Prop where
  handlers : ∀ h ∈ s.handlers, h = i
  jobs : ∀ j ∈ s.jobs, j.handler = i
  turn : s.turn = .ofNat (i.turn + (postings past).length)
  ofTurn : ∀ (k : Nat) (p : Posting), (postings past)[k]? = some p →
    p.OfTurn i ((i.turn + k) % 2 ^ 64)

theorem counted_of (i : SearchIndex) : Counted i [] (of i) where
  handlers := fun _ hh => List.mem_singleton.mp hh
  jobs := fun _ hj => absurd hj List.not_mem_nil
  turn := rfl
  ofTurn := fun _ _ hp => by cases hp

/-- A move that is no attempt. -/
theorem Counted.quiet (h : Counted i past s) (hquiet : posting? (s, move) = none)
    (hturn : s'.turn = s.turn) (hhandlers : ∀ h ∈ s'.handlers, h = i)
    (hjobs : ∀ j ∈ s'.jobs, j.handler = i) : Counted i ((s, move) :: past) s' := by
  have hsame : postings ((s, move) :: past) = postings past := by
    rw [postings, List.filterMap_cons_none hquiet, postings]
  exact ⟨hhandlers, hjobs, by rw [hsame, hturn, h.turn], by rw [hsame]; exact h.ofTurn⟩

/-- An attempt takes the next number. -/
theorem Counted.attempt (h : Counted i past s) {job : Nat} {j : Job} (hj : s.jobs[job]? = some j) :
    Counted i ((s, .attempt job) :: past)
      { s with turn := s.turn + 1, jobs := s.jobs.set job j.attempted } := by
  have hhandler : j.handler = i := h.jobs j (List.mem_of_getElem? hj)
  have hturn : s.turn.toNat = (i.turn + (postings past).length) % 2 ^ 64 := by
    rw [h.turn, UInt64.toNat_ofNat']
  have hnext : postings ((s, .attempt job) :: past) =
      postings past ++ [.ofJob job s.turn j] := by
    rw [postings, List.filterMap_cons_some (posting?_attempt hj), List.reverse_cons, postings]
  refine ⟨h.handlers, fun j' hj' => ?_, ?_, fun k p hp => ?_⟩
  · rcases List.mem_or_eq_of_mem_set hj' with hold | rfl
    · exact h.jobs j' hold
    · exact hhandler
  · rw [hnext, List.length_append, List.length_singleton, ← Nat.add_assoc, UInt64.ofNat_add,
      ← h.turn]
    rfl
  · rw [hnext, List.getElem?_append] at hp
    split at hp
    · exact h.ofTurn k p hp
    · next hle =>
      -- the new attempt stands at the end
      obtain ⟨hk, hlast⟩ := Option.ite_none_right_eq_some.mp (List.getElem?_singleton ▸ hp)
      obtain rfl := Option.some.inj hlast
      obtain rfl : k = (postings past).length := by omega
      exact ⟨by rw [Posting.ofJob, hhandler, hturn], by rw [Posting.ofJob, hhandler, hturn]⟩

/-- Every move keeps count. -/
theorem Counted.does (h : Counted i past s) (hdoes : Does policy s move s') :
    Counted i ((s, move) :: past) s' := by
  cases hdoes with
  | clone hi =>
    refine h.quiet rfl rfl (fun h' hh' => ?_) h.jobs
    rcases List.mem_append.mp hh' with hold | hnew
    · exact h.handlers h' hold
    · obtain rfl := List.mem_singleton.mp hnew
      exact h.handlers _ (List.mem_of_getElem? hi)
  | begin d hi =>
    refine h.quiet rfl rfl h.handlers fun j hj => ?_
    rcases List.mem_append.mp hj with hold | hnew
    · exact h.jobs j hold
    · obtain rfl := List.mem_singleton.mp hnew
      rw [Job.handler_ofDemand]
      exact h.handlers _ (List.mem_of_getElem? hi)
  | attempt hj _ _ => exact h.attempt hj
  | @report _ j report hj _ =>
    refine h.quiet rfl rfl h.handlers fun j' hj' => ?_
    rcases List.mem_or_eq_of_mem_set hj' with hold | rfl
    · exact h.jobs j' hold
    · exact h.jobs j (List.mem_of_getElem? hj)

/-- On the whole of a path, whatever was asked and in whatever order the jobs went on. -/
theorem counted_of_path (h : Path (advance? policy) (of i) past s) : Counted i past s := by
  induction h with
  | start => exact counted_of i
  | move _ hmove ih => exact ih.does (advance?_eq_some_iff.mp hmove)

/-! ### A job with nobody beside it -/

/-- An attempt is made and reported of. -/
theorem path_attempt {job : Nat} {j : Job} (hj : s.jobs[job]? = some j) (hdue : j.stage = .due)
    (hservers : j.handler.servers ≠ []) (policy : RetryPolicy) (report : Option Reply) :
    ∃ past s', Path (advance? policy) s past s' ∧
      s'.jobs[job]? = some (j.attempted.heard policy report) ∧
      postings past = [.ofJob job s.turn j] ∧ reports past = [report] := by
  have hlt := (List.getElem?_eq_some_iff.mp hj).1
  have hset : (s.jobs.set job j.attempted)[job]? = some j.attempted := List.getElem?_set_self hlt
  have hattempt := does_attempt hj hdue hservers policy
  have hreport : Does policy { s with turn := s.turn + 1, jobs := s.jobs.set job j.attempted }
      (.report job report)
      { s with
        turn := s.turn + 1
        jobs := (s.jobs.set job j.attempted).set job (j.attempted.heard policy report) } :=
    .report report hset rfl
  refine ⟨_, _, .move (.move .start (advance?_eq_some_iff.mpr hattempt))
    (advance?_eq_some_iff.mpr hreport), ?_, ?_, rfl⟩
  · exact List.getElem?_set_self (by rwa [List.length_set])
  · rw [postings, List.filterMap_cons_none rfl, List.filterMap_cons_some (posting?_attempt hj)]
    rfl

/-- A job goes on by itself until a report settles it or no attempt is left. -/
theorem path_course {job : Nat} {j : Job} (hj : s.jobs[job]? = some j) (hdue : j.stage = .due)
    (hservers : j.handler.servers ≠ []) {earlier : List (Option Reply)} {last : Option Reply}
    (hretried : ∀ report ∈ earlier, ¬ j.demand.settles report = true)
    (hended : j.demand.settles last = true ∨ j.made + (earlier.length + 1) = max policy.attempts 1)
    (hle : j.made + (earlier.length + 1) ≤ max policy.attempts 1) :
    ∃ past s', Path (advance? policy) s past s' ∧
      s'.jobs[job]? = some { j with made := j.made + (earlier.length + 1), stage := .over } ∧
      (postings past).length = earlier.length + 1 ∧
      (∀ p ∈ postings past, p.job = job ∧ p.demand = j.demand) ∧
      reports past = earlier ++ [last] := by
  -- on the reports; after each of them the job stands as before, with one attempt more
  induction earlier generalizing s j with
  | nil =>
    obtain ⟨past, s', hpath, hjob, hpostings, hreports⟩ := path_attempt hj hdue hservers policy last
    have hover := Job.heard_attempted_over (hended.imp_right fun hall => hall.ge)
    refine ⟨past, s', hpath, hjob.trans (congrArg some hover), by rw [hpostings]; rfl,
      fun p hp => ?_, hreports⟩
    obtain rfl := List.mem_singleton.mp (hpostings ▸ hp)
    exact ⟨rfl, rfl⟩
  | cons report earlier ih =>
    obtain ⟨hreport, hretried⟩ := List.forall_mem_cons.mp hretried
    rw [List.length_cons] at hended hle
    obtain ⟨past, s', hpath, hjob, hpostings, hreports⟩ :=
      path_attempt hj hdue hservers policy report
    have hnext : j.attempted.heard policy report = { j with made := j.made + 1, stage := .due } :=
      Job.heard_attempted_due fun hover => hover.elim hreport fun hlimit => by omega
    obtain ⟨later, s'', hlater, hlast, hlength, hown, hheard⟩ :=
      ih (hjob.trans (congrArg some hnext)) rfl hservers hretried
        (hended.imp_right fun heq => by simp only; omega) (by simp only; omega)
    refine ⟨later ++ past, s'', hpath.append hlater, hlast.trans ?_, ?_, fun p hp => ?_, ?_⟩
    · rw [List.length_cons, Nat.add_right_comm j.made 1, Nat.add_assoc]
    · rw [postings_append, List.length_append, hpostings, hlength, List.length_cons, Nat.add_comm]
      rfl
    · rw [postings_append, hpostings] at hp
      rcases List.mem_cons.mp hp with rfl | hp
      · exact ⟨rfl, rfl⟩
      · exact hown p hp
    · rw [reports_append, hreports, hheard]
      rfl

/-- What a job does with nobody beside it, from a state of the network to another one and from one
index to another. -/
structure Alone {σ : Type} (c : Carrier σ) (i : SearchIndex) (d : Demand) (t t' : σ)
    (i' : SearchIndex) (past : List (SharedIndex × Move)) : Prop where
  own : ∀ p ∈ postings past, p.job = 0 ∧ p.demand = d
  reports : (c.exchange ((postings past).map (·.request)) t).1 = reports past
  /-- Nothing else happens on the network than that attempts are made and logged. -/
  network : ∃ lines, t' = c.noteAll lines (c.exchange ((postings past).map (·.request)) t).2
  turn : i' = { i with turn := i.turn + (postings past).length }

/-- A job that is alone makes the requests of its turns, up to the last of a course of reports. -/
theorem path_alone (hservers : i.servers ≠ []) (d : Demand) {earlier : List (Option Reply)}
    {last : Option Reply}
    (hcourse : Course (fun report => d.settles report = true) (max policy.attempts 1) earlier last)
    (hfew : i.turn + (earlier.length + 1) ≤ 2 ^ 64) :
    ∃ past s', Path (advance? policy) (of i) past s' ∧
      (postings past).map (·.request) =
        (List.range (earlier.length + 1)).map (fun k => d.request? i (i.turn + k)) ∧
      (∀ p ∈ postings past, p.job = 0 ∧ p.demand = d) ∧ reports past = earlier ++ [last] := by
  -- the demand begins, and then the attempts follow its course
  have hbegin : Does policy (of i) (.begin 0 d) { of i with jobs := [.ofDemand i d] } :=
    .begin d rfl
  have hjob : ({ of i with jobs := [.ofDemand i d] } : SharedIndex).jobs[0]? =
      some { handler := i, demand := d } := by
    cases d with
    | store e => rfl
    | search q => rw [Job.ofDemand, if_neg hservers]; rfl
  obtain ⟨past, s', hpath, -, hlength, hown, hreports⟩ :=
    path_course hjob rfl hservers hcourse.retried
      (hcourse.ended.imp_right fun hall => (Nat.zero_add _).trans hall)
      ((Nat.zero_add _).trans_le hcourse.le)
  have hpath : Path (advance? policy) (of i) (past ++ [(of i, .begin 0 d)]) s' :=
    .append (.move .start (advance?_eq_some_iff.mpr hbegin)) hpath
  have hsame : postings (past ++ [(of i, .begin 0 d)]) = postings past := by
    rw [postings_append]; rfl
  have hcounted := (counted_of_path hpath).ofTurn
  rw [hsame] at hcounted
  refine ⟨_, s', hpath, ?_, by rwa [hsame], by rw [reports_append, hreports]; rfl⟩
  rw [hsame]
  -- each attempt asks the server whose turn it is, and no other job takes a turn between
  refine List.ext_getElem (by simp [hlength]) fun k hk _ => ?_
  rw [List.length_map] at hk
  rw [List.getElem_map, List.getElem_map, List.getElem_range]
  have hturn := (hcounted k _ (List.getElem?_eq_getElem hk)).request
  rw [Nat.mod_eq_of_lt (by omega), (hown _ (List.getElem_mem hk)).2] at hturn
  exact hturn

theorem exists_alone {σ : Type} {c : Carrier σ} {t network : σ} (hservers : i.servers ≠ [])
    (d : Demand) {earlier : List (Option Reply)} {last : Option Reply}
    (hexchange : c.exchange ((List.range (earlier.length + 1)).map fun k =>
      d.request? i (i.turn + k)) t = (earlier ++ [last], network))
    (hcourse : Course (fun report => d.settles report = true) (max c.policy.attempts 1) earlier
      last)
    (hfew : i.turn + (earlier.length + 1) ≤ 2 ^ 64) (lines : List Log.Line) :
    ∃ past s', Path (advance? c.policy) (of i) past s' ∧
      Alone c i d t (c.noteAll lines network) { i with turn := i.turn + (earlier.length + 1) }
        past := by
  obtain ⟨past, s', hpath, hrequests, hown, hreports⟩ := path_alone hservers d hcourse hfew
  have hlength : (postings past).length = earlier.length + 1 := by
    simpa using congrArg List.length hrequests
  have hmade : c.exchange ((postings past).map (·.request)) t = (earlier ++ [last], network) := by
    rw [hrequests, hexchange]
  exact ⟨past, s', hpath, hown, by rw [hmade, hreports], ⟨lines, by rw [hmade]⟩, by rw [hlength]⟩

end SharedIndex

/-! ### The sink by itself -/

namespace SearchIndex

open SharedIndex (advance? Alone exists_alone)

variable {σ : Type}

/-- Storing an event is a run of the shared index in which nobody else takes part. -/
theorem store_alone (hservers : i.servers ≠ []) (c : Carrier σ) (e : Event) (f : Effects σ)
    (hfew : (i.store c e f).1.turn ≤ 2 ^ 64) :
    ∃ past s, Path (advance? c.policy) (.of i) past s ∧
      Alone c i (.store e) f.network (i.store c e f).2.network (i.store c e f).1 past := by
  obtain ⟨earlier, last, network, hexchange, hcourse, hdeliver⟩ :=
    c.deliver_exchanges .elasticsearch (i.storeRequest? e) i.turn f.network
  have hturn : (i.store c e f).1 = { i with turn := i.turn + (earlier.length + 1) } := by
    rw [store, hdeliver]
  have hnetwork : (i.store c e f).2.network =
      c.noteAll (Carrier.log earlier (judge .elasticsearch last)) network := by
    rw [store, hdeliver]
    exact network_afterDelivery ..
  rw [hturn] at hfew
  rw [hturn, hnetwork]
  exact exists_alone hservers (.store e) hexchange hcourse hfew _

/-- Searching is such a run as well. -/
theorem search_alone (hservers : i.servers ≠ []) (c : Carrier σ) (q : EventQuery) (t : σ)
    (hfew : (i.search c q t).2.1.turn ≤ 2 ^ 64) :
    ∃ past s, Path (advance? c.policy) (.of i) past s ∧
      Alone c i (.search q) t (i.search c q t).2.2 (i.search c q t).2.1 past := by
  obtain ⟨earlier, last, network, hexchange, hcourse, hrun⟩ :=
    c.runWith_exchanges .elasticsearch (i.searchRequest? q) judgeAnswer i.turn t
  have hsearch : (i.search c q t).2 = ({ i with turn := i.turn + (earlier.length + 1) },
      c.noteAll (Carrier.log earlier (judgeAnswer (judge .elasticsearch last))) network) := by
    rw [search, if_neg hservers, hrun]
  rw [hsearch] at hfew
  rw [hsearch]
  exact exists_alone hservers (.search q) hexchange hcourse hfew _

end SearchIndex

/-- What the sink does by itself is a path on which nobody else takes part, as long as the counter
is not full. -/
structure SharedIndex.Covers (i : SearchIndex) : Prop where
  store : ∀ {σ : Type} (c : Carrier σ) (e : Event) (f : Effects σ),
    (i.store c e f).1.turn ≤ 2 ^ 64 → ∃ past s, Path (advance? c.policy) (of i) past s ∧
      Alone c i (.store e) f.network (i.store c e f).2.network (i.store c e f).1 past
  search : ∀ {σ : Type} (c : Carrier σ) (q : EventQuery) (t : σ),
    (i.search c q t).2.1.turn ≤ 2 ^ 64 → ∃ past s, Path (advance? c.policy) (of i) past s ∧
      Alone c i (.search q) t (i.search c q t).2.2 (i.search c q t).2.1 past

theorem SharedIndex.covers {i : SearchIndex} (hservers : i.servers ≠ []) : Covers i where
  store := SearchIndex.store_alone hservers
  search := SearchIndex.search_alone hservers

end ClusterWatch.Sink
