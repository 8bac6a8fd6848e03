import ClusterWatch.Time.Span
/-!
# Faults

What can go wrong in a part of the watcher, with enough context to be useful in a log line of its
own.

- `Fault`: the kinds of failure.
- `Fault.message?`: the wording, for the kinds that the watcher itself words.
-/

namespace ClusterWatch

open Time (Span)

/-- A failure of some part of the watcher. -/
inductive Fault where
  /-- The cluster's interface failed. -/
  | cluster
  /-- The configuration is invalid or cannot be read. -/
  | configuration (message : String)
  /-- The watch cache of a resource kind did not finish its first listing in time. -/
  | cacheSync (kind : String) (timeout : Span)
  /-- Looking up a key in the local cache failed. -/
  | cache (key message : String)
  /-- A sink refused a write or could not be used. -/
  | sink (name message : String)
  /-- A request got no usable reply. -/
  | transport
  /-- A value does not fit its wire format. -/
  | serialization (message : String)
  /-- Something else failed in the named part of the watcher. -/
  | internal (context message : String)
  deriving DecidableEq, Repr

namespace Fault

/-- The wording of a fault. Failures of the cluster's interface and of a connection are worded by
the other side. -/
def message? : Fault → Option String
  | cluster => none
  | configuration message => some ("configuration error: " ++ message)
  | cacheSync kind timeout =>
    some ("watch cache for " ++ kind ++ " did not sync within " ++ timeout.text)
  | cache key message => some ("cache lookup failed for " ++ key ++ ": " ++ message)
  | sink name message => some ("sink " ++ name ++ " error: " ++ message)
  | transport => none
  | serialization message => some ("serialization error: " ++ message)
  | internal context message => some ("internal error [" ++ context ++ "]: " ++ message)

end Fault

end ClusterWatch
