/-!
# Log lines

What the parts of the watcher say about their work.

- `Log.Level`: how severe a line is.
- `Log.Line`: a line.
-/

namespace ClusterWatch.Log

/-- How severe a line is. -/
inductive Level where
  | error
  | warn
  | info
  | debug
  | trace
  deriving DecidableEq, Repr

namespace Level

/-- The name of a level in a line. -/
def name : Level → String
  | error => "ERROR"
  | warn => "WARN"
  | info => "INFO"
  | debug => "DEBUG"
  | trace => "TRACE"

/-- How talkative the watcher has to be for lines of a level to be shown. -/
def verbosity : Level → Nat
  | error => 1
  | warn => 2
  | info => 3
  | debug => 4
  | trace => 5

end Level

/-- A line. The source is the part of the watcher that wrote it. -/
structure Line where
  level : Level
  source : String
  message : String
  deriving DecidableEq, Repr

end ClusterWatch.Log
