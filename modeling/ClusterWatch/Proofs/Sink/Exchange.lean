import ClusterWatch.Proofs.Retry
import ClusterWatch.Sink.Delivery
/-!
# Exchanges with a server

A delivery hands requests to the client of the network, one in each attempt. The client reports of
each the answer or that none came, and the delivery goes on or stops by these reports alone.

- `Carrier.ask`, `Carrier.exchange`: what the client reports of requests.
- `Course`: the reports of attempts that are made up to the first that settles the matter.
- `Carrier.Sends`: an operation whose calls are attempts.
- `Carrier.Sends.exchanges`: under a policy its calls are an exchange with such reports.
- `Carrier.run_exchanges`, `Carrier.runWith_exchanges`, `Carrier.deliver_exchanges`: what deliveries
  come to.
-/

namespace ClusterWatch.Sink

open Http (Reply Request)
open RetryPolicy (attemptAt stateAfter)

/-- The reports of attempts up to the first that settles the matter, of which there are `limit` at
most. -/
structure Course (Settles : Option Reply → Prop) (limit : Nat) (earlier : List (Option Reply))
    (last : Option Reply) : Prop where
  retried : ∀ report ∈ earlier, ¬ Settles report
  ended : Settles last ∨ earlier.length + 1 = limit
  le : earlier.length + 1 ≤ limit

/-- What settles the matter may be said in other words. -/
theorem Course.congr {Settles Settles' : Option Reply → Prop} {limit : Nat}
    {earlier : List (Option Reply)} {last : Option Reply} (h : Course Settles limit earlier last)
    (hsame : ∀ report, Settles report ↔ Settles' report) : Course Settles' limit earlier last where
  retried := fun report hreport hsettles => h.retried report hreport ((hsame report).mpr hsettles)
  ended := h.ended.imp_left (hsame last).mp
  le := h.le

namespace Carrier

variable {σ τ α : Type} {c : Carrier σ}

/-- What the client reports of a request. One without a usable address is not sent. -/
def ask (c : Carrier σ) (request : Option Request) (s : σ) : Option Reply × σ :=
  match request with
  | none => (none, s)
  | some r => c.network r s

/-- What the client reports of requests that are made one after the other, and the network after
them. -/
def exchange (c : Carrier σ) : List (Option Request) → σ → List (Option Reply) × σ
  | [], s => ([], s)
  | request :: rest, s =>
    let (report, s) := c.ask request s
    let (reports, s) := exchange c rest s
    (report :: reports, s)

/-- A carrier that does not keep log lines. -/
theorem noteAll_of_quiet (h : ∀ line s, c.note line s = s) (lines : List Log.Line) (s : σ) :
    c.noteAll lines s = s := by
  induction lines generalizing s with
  | nil => rfl
  | cons line lines ih => exact (ih _).trans (h line s)

/-- Of requests without usable addresses nothing is heard. -/
theorem eq_none_of_mem_exchange {requests : List (Option Request)}
    (h : ∀ request ∈ requests, request = none) {s : σ} {report : Option Reply}
    (hreport : report ∈ (c.exchange requests s).1) : report = none := by
  induction requests generalizing s with
  | nil => cases hreport
  | cons request rest ih =>
    obtain ⟨rfl, hrest⟩ := List.forall_mem_cons.mp h
    rcases List.mem_cons.mp hreport with rfl | hreport
    · rfl
    · exact ih hrest hreport

theorem send_eq (c : Carrier σ) (kind : Kind) (request : Option Request) (s : σ) :
    c.send kind request s = (judge kind (c.ask request s).1, (c.ask request s).2) := by
  cases request <;> rfl

/-- The calls of an operation are attempts: `view` is the network in the state of the operation,
`request` is what the next call asks for, and `verdict` is how it ends by the report. -/
structure Sends (c : Carrier σ) (view : τ → σ) (request : τ → Option Request)
    (verdict : Option Reply → Attempt Fault α) (operation : τ → Attempt Fault α × τ) : Prop where
  attempt : ∀ t, (operation t).1 = verdict (c.ask (request t) (view t)).1
  network : ∀ t, view (operation t).2 = (c.ask (request t) (view t)).2

/-- The requests of the first calls of an operation. -/
def requests (request : τ → Option Request) (operation : τ → Attempt Fault α × τ) (t : τ)
    (n : Nat) : List (Option Request) :=
  (List.range n).map fun k => request (stateAfter operation t k)

theorem requests_succ (request : τ → Option Request) (operation : τ → Attempt Fault α × τ) (t : τ)
    (n : Nat) :
    requests request operation t (n + 1) =
      request t :: requests request operation (operation t).2 n := by
  rw [requests, List.range_succ_eq_map, List.map_cons, List.map_map]
  rfl

/-- What is logged about attempts: that the earlier ones failed, and whether the last one did. -/
def log (earlier : List (Option Reply)) (last : Attempt Fault α) : List Log.Line :=
  earlier.map (fun _ => RetryRun.line .warn "Operation failed, retrying") ++
    RetryRun.lines ⟨last, (), []⟩

theorem lines_eq_log {r : RetryRun Fault α τ} {earlier : List (Option Reply)}
    (h : r.pauses.length = earlier.length) : r.lines = log earlier r.last := by
  rw [log, RetryRun.lines, RetryRun.lines, List.map_nil, List.nil_append, List.map_const',
    List.map_const', h]

namespace Sends

variable {view : τ → σ} {request : τ → Option Request} {verdict : Option Reply → Attempt Fault α}
  {operation : τ → Attempt Fault α × τ}

/-- The first calls are an exchange: they end by its reports and leave the network as it does. -/
theorem exchange_eq (h : Sends c view request verdict operation) (n : Nat) (t : τ) :
    (c.exchange (requests request operation t n) (view t)).1.map verdict =
        (List.range n).map (attemptAt operation t) ∧
      (c.exchange (requests request operation t n) (view t)).2 =
        view (stateAfter operation t n) := by
  induction n generalizing t with
  | zero => exact ⟨rfl, rfl⟩
  | succ n ih =>
    -- the calls that follow find the network as the first one left it
    obtain ⟨hreports, hnetwork⟩ := ih (operation t).2
    rw [h.network t] at hreports hnetwork
    rw [requests_succ]
    refine ⟨?_, hnetwork⟩
    show verdict (c.ask (request t) (view t)).1 :: _ = _
    rw [List.range_succ_eq_map, List.map_cons, List.map_map, ← h.attempt t]
    exact congrArg (List.cons _) hreports

/-- Under a policy the calls are an exchange up to the first report that settles the matter. -/
theorem exchanges (h : Sends c view request verdict operation) (t : τ) :
    ∃ earlier last network,
      c.exchange (requests request operation t (earlier.length + 1)) (view t) =
        (earlier ++ [last], network) ∧
      Course (fun report => (verdict report).isFinal = true) (max c.policy.attempts 1) earlier
        last ∧
      (c.policy.run c.jitter operation t).last = verdict last ∧
      view (c.policy.run c.jitter operation t).state = network ∧
      (c.policy.run c.jitter operation t).state = stateAfter operation t (earlier.length + 1) ∧
      (c.policy.run c.jitter operation t).lines = log earlier (verdict last) := by
  obtain ⟨n, hrun⟩ := RetryPolicy.runFrom_retries c.policy c.jitter operation
    (c.policy.attempts - 1) c.policy.initialDelay.total 0 t
  obtain ⟨hreports, hnetwork⟩ := h.exchange_eq (n + 1) t
  -- there was at least one call, so there is a last report
  obtain ⟨earlier, last, hsplit⟩ :
      ∃ earlier last, (c.exchange (requests request operation t (n + 1)) (view t)).1 =
        earlier ++ [last] := by
    rcases List.eq_nil_or_concat (c.exchange (requests request operation t (n + 1)) (view t)).1
      with hnil | ⟨earlier, last, hsplit⟩
    · rw [hnil, List.range_succ_eq_map] at hreports
      cases hreports
    · exact ⟨earlier, last, hsplit.trans (List.concat_eq_append ..)⟩
  rw [hsplit, List.map_append, List.range_succ, List.map_append] at hreports
  obtain ⟨hearlier, hlast⟩ := List.append_inj' hreports rfl
  have hlast : verdict last = attemptAt operation t n := by simpa using hlast
  have hlength : earlier.length = n := by simpa using congrArg List.length hearlier
  have hle := hrun.le
  subst hlength
  refine ⟨earlier, last, _, Prod.ext hsplit rfl, ⟨?_, ?_, by omega⟩, hrun.last.trans hlast.symm,
    ?_, hrun.state, ?_⟩
  · -- an earlier report is that of a call that was followed by another one
    intro report hreport hfinal
    have hmem : verdict report ∈ (List.range earlier.length).map (attemptAt operation t) :=
      hearlier ▸ List.mem_map_of_mem hreport
    obtain ⟨k, hk, hsame⟩ := List.mem_map.mp hmem
    have hretried := hrun.retried k (List.mem_range.mp hk)
    rw [hsame, hfinal] at hretried
    cases hretried
  · rw [hlast]
    exact hrun.ended.imp_right fun hn => by omega
  · exact (congrArg view hrun.state).trans hnetwork.symm
  · rw [lines_eq_log, hlast]
    · exact congrArg (log earlier) hrun.last
    · rw [RetryPolicy.run, hrun.pauses, RetryPolicy.pausesFrom, List.length_map, List.length_range]

end Sends

/-! ### Deliveries -/

theorem sends_send (c : Carrier σ) (kind : Kind) (request : Option Request) :
    Sends c id (fun _ => request) (judge kind) (c.send kind request) where
  attempt := fun s => by rw [send_eq]; rfl
  network := fun s => by rw [send_eq]; rfl

/-- An operation that asks for the same each time is an exchange of that request. -/
theorem run_exchanges {request : Option Request} {verdict : Option Reply → Attempt Fault α}
    {operation : σ → Attempt Fault α × σ}
    (h : Sends c id (fun _ => request) verdict operation) (s : σ) :
    ∃ earlier last network,
      c.exchange ((List.range (earlier.length + 1)).map fun _ => request) s =
        (earlier ++ [last], network) ∧
      Course (fun report => (verdict report).isFinal = true) (max c.policy.attempts 1) earlier
        last ∧
      c.run operation s =
        ((verdict last).outcome, c.noteAll (log earlier (verdict last)) network) := by
  obtain ⟨earlier, last, network, hexchange, hcourse, hlast, hnetwork, -, hlines⟩ := h.exchanges s
  refine ⟨earlier, last, network, hexchange, hcourse, ?_⟩
  rw [run, RetryRun.outcome, hlast, hlines]
  exact congrArg (fun s => ((verdict last).outcome, c.noteAll (log earlier (verdict last)) s))
    hnetwork

/-- A delivery that succeeds has something to send. -/
theorem isSome_of_deliverSame {kind : Kind} {request : Option Request} {s s' : σ} {reply : Reply}
    (h : c.deliverSame kind request s = (.ok reply, s')) : request.isSome = true := by
  rw [Option.isSome_iff_ne_none]
  rintro rfl
  obtain ⟨earlier, last, network, hexchange, -, hrun⟩ :=
    run_exchanges (c.sends_send kind none) s
  obtain rfl : last = none := by
    refine eq_none_of_mem_exchange (c := c) (s := s) (fun request hrequest => ?_)
      (List.mem_of_mem_getLast? (by rw [hexchange, List.getLast?_concat]; rfl))
    obtain ⟨_, -, rfl⟩ := List.mem_map.mp hrequest
    rfl
  rw [deliverSame, hrun] at h
  cases (Prod.mk.inj h).1

/-- An operation that makes numbered requests, in whatever way it interprets the answers, is an
exchange of the next ones. -/
theorem runWith_exchanges (c : Carrier σ) (kind : Kind) (request : Nat → Option Request)
    (interpret : Attempt Fault Reply → Attempt Fault α) (turn : Nat) (s : σ) :
    ∃ earlier last network,
      c.exchange ((List.range (earlier.length + 1)).map fun k => request (turn + k)) s =
        (earlier ++ [last], network) ∧
      Course (fun report => (interpret (judge kind report)).isFinal = true)
        (max c.policy.attempts 1) earlier last ∧
      c.runWith (fun turn s =>
          let (attempt, s) := c.send kind (request turn) s
          (interpret attempt, turn + 1, s)) turn s =
        ((interpret (judge kind last)).outcome, turn + (earlier.length + 1),
          c.noteAll (log earlier (interpret (judge kind last))) network) := by
  -- the state of the operation is the number of the next request beside the network
  let operation : Nat × σ → Attempt Fault α × Nat × σ := fun t =>
    (interpret (c.send kind (request t.1) t.2).1, t.1 + 1, (c.send kind (request t.1) t.2).2)
  have hsends : Sends c Prod.snd (fun t => request t.1)
      (fun report => interpret (judge kind report)) operation :=
    ⟨fun t => by simp only [operation, send_eq], fun t => by simp only [operation, send_eq]⟩
  have hturn : ∀ n, (stateAfter operation (turn, s) n).1 = turn + n := by
    intro n
    induction n with
    | zero => rfl
    | succ n ih =>
      rw [RetryPolicy.stateAfter_succ, ← Nat.add_assoc, ← ih]
  obtain ⟨earlier, last, network, hexchange, hcourse, hlast, hnetwork, hstate, hlines⟩ :=
    hsends.exchanges (turn, s)
  simp only [requests, hturn] at hexchange
  refine ⟨earlier, last, network, hexchange, hcourse, ?_⟩
  show ((c.policy.run c.jitter operation (turn, s)).outcome,
    (c.policy.run c.jitter operation (turn, s)).state.1, c.noteAll _ _) = _
  rw [RetryRun.outcome, hlast, hlines, hnetwork, hstate, hturn]

/-- A delivery whose requests are numbered is an exchange of the next ones. -/
theorem deliver_exchanges (c : Carrier σ) (kind : Kind) (request : Nat → Option Request)
    (turn : Nat) (s : σ) :
    ∃ earlier last network,
      c.exchange ((List.range (earlier.length + 1)).map fun k => request (turn + k)) s =
        (earlier ++ [last], network) ∧
      Course (fun report => (judge kind report).isFinal = true) (max c.policy.attempts 1) earlier
        last ∧
      c.deliver kind (fun turn => (request turn, turn + 1)) turn s =
        ((judge kind last).outcome, turn + (earlier.length + 1),
          c.noteAll (log earlier (judge kind last)) network) :=
  c.runWith_exchanges kind request id turn s

end Carrier

end ClusterWatch.Sink
