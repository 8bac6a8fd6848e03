import ClusterWatch.Proofs.Sink.SharedIndex
import Mathlib.Data.List.Rotate
/-!
# The servers of a search index take turns

Whose turn it is says a counter that the sink shares with its clones, and an attempt takes a number
from it without regard to who makes it. That alone carries the rotation: in whatever order the jobs
go on, attempts in a row have numbers in a row, and what stands in a row modulo the number of
servers goes round among them.

- `IsRound`: attempts that go to each server once.
- `Counted.ofTurn_of_row`: the turn of an attempt among others.
- `Counted.isRound`: as many attempts in a row as there are servers are a round.

Main result: `servers_take_turns`.
-/

namespace ClusterWatch.Sink.SharedIndex

open Http (Reply Url)
open SearchIndex (Demand)

variable {policy : RetryPolicy} {i : SearchIndex} {past : List (SharedIndex × Move)}
  {s : SharedIndex} {before row after : List Posting}

/-- Attempts that go to each of a number of servers once. -/
def IsRound (n : Nat) (row : List Posting) : Prop :=
  (row.map (·.place)).Perm (List.range n)

/-- The turns of attempts in a row follow one another, as long as the counter is not full. -/
theorem Counted.ofTurn_of_row (h : Counted i past s)
    (hfew : i.turn + (postings past).length ≤ 2 ^ 64)
    (hrow : postings past = before ++ row ++ after) {k : Nat} {p : Posting}
    (hp : row[k]? = some p) : p.OfTurn i (i.turn + (before.length + k)) := by
  have hk := (List.getElem?_eq_some_iff.mp hp).1
  have hlength := congrArg List.length hrow
  rw [List.length_append, List.length_append] at hlength
  have hat : (postings past)[before.length + k]? = some p := by
    rw [hrow, List.append_assoc, List.getElem?_append_right (Nat.le_add_right _ _),
      Nat.add_sub_cancel_left, List.getElem?_append_left hk, hp]
  have hturn := h.ofTurn _ p hat
  rwa [Nat.mod_eq_of_lt (by omega)] at hturn

/-- As many attempts in a row as there are servers begin somewhere among them and go round. -/
theorem Counted.isRound (h : Counted i past s) (hfew : i.turn + (postings past).length ≤ 2 ^ 64)
    (hrow : postings past = before ++ row ++ after) (hlength : row.length = i.servers.length) :
    IsRound i.servers.length row := by
  have hrotated : row.map (·.place) =
      (List.range i.servers.length).rotate (i.turn + before.length) := by
    refine List.ext_getElem (by simp [hlength]) fun k hk _ => ?_
    rw [List.length_map] at hk
    rw [List.getElem_map, List.getElem_rotate, List.getElem_range, List.length_range,
      (h.ofTurn_of_row hfew hrow (List.getElem?_eq_getElem hk)).place, ← Nat.add_assoc,
      Nat.add_comm k]
  rw [IsRound, hrotated]
  exact List.rotate_perm _ _

/-- A counter that starts over sends two attempts in a row to the first of three servers. -/
example :
    let i : SearchIndex :=
      { servers := ["http://es1", "http://es2", "http://es3"], index := "k8s", turn := 2 ^ 64 - 1 }
    let moves : List Move := [.begin 0 (.store {}), .attempt 0, .report 0 none, .attempt 0]
    (moves.foldlM (follow? (advance? {})) ([], of i)).map
      (fun way => (postings way.1).map (·.place)) = some [0, 0] := by decide

/-- The next attempt of a row goes to the next server. -/
theorem Counted.next_place (h : Counted i past s) (hfew : i.turn + (postings past).length ≤ 2 ^ 64)
    (hrow : postings past = before ++ row ++ after) {k : Nat} {p q : Posting}
    (hp : row[k]? = some p) (hq : row[k + 1]? = some q) :
    q.place = (p.place + 1) % i.servers.length := by
  rw [(h.ofTurn_of_row hfew hrow hq).place, (h.ofTurn_of_row hfew hrow hp).place, Nat.mod_add_mod,
    Nat.add_assoc, Nat.add_assoc]

/-- Whoever is to make an attempt finds a server for it. -/
theorem Counted.exists_advance (h : Counted i past s) (hservers : i.servers ≠ []) {job : Nat}
    {j : Job} (hj : s.jobs[job]? = some j) (hdue : j.stage = .due) (policy : RetryPolicy) :
    ∃ s', advance? policy s (.attempt job) = some s' := by
  rw [← h.jobs j (List.mem_of_getElem? hj)] at hservers
  exact ⟨_, advance?_eq_some_iff.mpr (does_attempt hj hdue hservers policy)⟩

/-- **The servers take turns.** A sink that got ready has servers. Let it and its clones be asked to
store and search by anybody, and let the attempts of all these jobs come in any order, fewer than
2^64 in all. Then a server is found for every attempt that is to be made. Attempt `k`, counted from
nought, goes to server `k` modulo the number of servers: it is a request to that machine, if the
address of the server can be used. As many attempts in a row as there are servers go to each server
once. When the attempts of a job have nobody else's among them, each goes to the server after that
of the one before, and the first ones try each server before any is tried again. What the sink does
by itself, however far the counter has come, is one of these jobs. -/
theorem servers_take_turns {config : Config}
    (hready : (SearchIndex.ofConfig config).check = .ok ())
    (hpath : Path (advance? policy) (of (SearchIndex.ofConfig config)) past s)
    (hfew : (postings past).length < 2 ^ 64) :
    let i := SearchIndex.ofConfig config
    let n := i.servers.length
    0 < n ∧
      (∀ job j, s.jobs[job]? = some j → j.stage = .due →
        ∃ s', advance? policy s (.attempt job) = some s') ∧
      (∀ k p, (postings past)[k]? = some p →
        p.place = k % n ∧
          ∃ server, i.servers[k % n]? = some server ∧
            (∀ r, p.request = some r ↔ p.demand.Posts i server r) ∧
            ∀ url, Url.IsUsable server → Url.parse server = .ok url →
              ∃ r, p.request = some r ∧ Url.SameMachine url r.url) ∧
      (∀ before row after, postings past = before ++ row ++ after → row.length = n →
        IsRound n row) ∧
      (∀ before own after job, postings past = before ++ own ++ after → (∀ p ∈ own, p.job = job) →
        (∀ k p q, own[k]? = some p → own[k + 1]? = some q → q.place = (p.place + 1) % n) ∧
          (n ≤ own.length → IsRound n (own.take n))) ∧
      ∀ turn, Covers { i with turn } := by
  intro i n
  have hservers : i.servers ≠ [] := SearchIndex.servers_ne_nil_of_check hready
  have hcounted : Counted i past s := counted_of_path hpath
  have hfull : i.turn + (postings past).length ≤ 2 ^ 64 := (Nat.zero_add _).trans_le hfew.le
  refine ⟨List.length_pos_iff.mpr hservers, ?_, ?_, ?_, ?_, fun turn => covers hservers⟩
  · intro job j hj hdue
    exact hcounted.exists_advance hservers hj hdue policy
  · intro k p hp
    have hlt : k < 2 ^ 64 := (List.getElem?_eq_some_iff.mp hp).1.trans hfew
    have hturn := hcounted.ofTurn k p hp
    -- the counter of a new sink begins at nought
    have hk : (i.turn + k) % 2 ^ 64 = k :=
      (congrArg (· % 2 ^ 64) (Nat.zero_add k)).trans (Nat.mod_eq_of_lt hlt)
    rw [hk] at hturn
    obtain ⟨server, hplace, hserver⟩ := SearchIndex.exists_server? hservers k
    have hrequest := hturn.request.trans (Demand.request?_eq hserver _)
    rw [hrequest]
    exact ⟨hturn.place, server, hplace, fun r => Demand.requestTo_eq_some_iff,
      fun url husable hurl => Demand.exists_requestTo husable hurl i p.demand⟩
  · intro before row after hrow hlength
    exact hcounted.isRound hfull hrow hlength
  · intro before own after job hown _
    refine ⟨fun k p q hp hq => hcounted.next_place hfull hown hp hq, fun hlong => ?_⟩
    have hfirst : postings past = before ++ own.take n ++ (own.drop n ++ after) := by
      rw [hown, List.append_assoc, List.append_assoc, ← List.append_assoc (own.take n),
        List.take_append_drop]
    exact hcounted.isRound hfull hfirst (List.length_take_of_le hlong)

/-- Three servers. While a write waits for its first report, a clone searches, so that the second
attempt of the write goes to the third server and the second one of the search to the first again.
The write that follows has nobody beside it and tries all three. -/
theorem servers_take_turns_overtaken :
    let config : Config :=
      { sinks := { searchIndex := { servers := ["http://es1/", "http://es2", "http://es3"] } } }
    let i := SearchIndex.ofConfig config
    ∃ past s, i.check = .ok () ∧ Path (advance? {}) (of i) past s ∧
      (postings past).map (·.job) = [0, 1, 0, 1, 2, 2, 2] ∧
      (postings past).map (·.place) = [0, 1, 2, 0, 1, 2, 0] ∧
      IsRound 3 ((postings past).drop 4) ∧
      ∀ p, (postings past)[2]? = some p →
        ∃ r, p.request = some r ∧ r.url.scheme = "http" ∧ r.url.host = some (.domain "es3") := by
  intro config i
  let busy : Option Reply := some ⟨⟨503⟩, ""⟩
  let moves : List Move := [.begin 0 (.store {}), .clone 0, .attempt 0,
    .begin 1 (.search ⟨"shop", "web-1", "Pod", 5⟩), .attempt 1, .report 0 none, .attempt 0,
    .report 1 busy, .report 0 busy, .attempt 1, .report 1 (some ⟨⟨404⟩, ""⟩), .begin 0 (.store {}),
    .attempt 2, .report 2 none, .attempt 2, .report 2 busy, .attempt 2]
  have hready : i.check = .ok () := rfl
  have hmoves : (moves.foldlM (follow? (advance? {})) ([], of i)).map
      (fun way => (postings way.1).map (·.job)) = some [0, 1, 0, 1, 2, 2, 2] := by decide
  obtain ⟨⟨past, s⟩, hway, hjobs⟩ := Option.map_eq_some_iff.mp hmoves
  have hpath := path_of_follow? .start hway
  have hlength : (postings past).length = 7 := by simpa using congrArg List.length hjobs
  obtain ⟨-, -, hgoes, -, hown, -⟩ := servers_take_turns hready hpath (by rw [hlength]; decide)
  refine ⟨past, s, hready, hpath, hjobs, ?_, ?_, fun p hp => ?_⟩
  · show _ = (List.range 7).map (· % 3)
    refine List.ext_getElem (by simp [hlength]) fun k hk _ => ?_
    rw [List.length_map] at hk
    rw [List.getElem_map, List.getElem_map, List.getElem_range]
    exact (hgoes k _ (List.getElem?_eq_getElem hk)).1
  · have hsplit : postings past = (postings past).take 4 ++ (postings past).drop 4 ++ [] := by
      rw [List.append_nil, List.take_append_drop]
    have hlast : ∀ p ∈ (postings past).drop 4, p.job = 2 := by
      intro p hp
      have hmem := List.mem_map_of_mem (f := (·.job)) hp
      rw [List.map_drop, hjobs] at hmem
      simpa using hmem
    have hthree : ((postings past).drop 4).length = 3 := by rw [List.length_drop, hlength]
    -- the last three attempts belong to one write that nothing interrupts
    have hround : IsRound 3 (((postings past).drop 4).take 3) :=
      (hown _ _ _ 2 hsplit hlast).2 hthree.ge
    rwa [List.take_of_length_le hthree.le] at hround
  · obtain ⟨-, server, hserver, -, hrequest⟩ := hgoes 2 p hp
    have hthird : i.servers[2]? = some "http://es3" := by decide
    obtain rfl := Option.some.inj (hserver.symm.trans hthird)
    have hurl : Url.parse "http://es3" =
        .ok { scheme := "http", host := some (.domain "es3"), path := .segments [""] } :=
      Url.parse_eq_ok_iff.mpr (by decide +kernel)
    have husable : Url.IsUsable "http://es3" := ⟨⟨_, hurl, rfl⟩, '3', by decide, by decide⟩
    obtain ⟨r, hr, hsame⟩ := hrequest _ husable hurl
    exact ⟨r, hr, hsame.scheme, hsame.host⟩

end ClusterWatch.Sink.SharedIndex
