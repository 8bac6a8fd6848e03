import ClusterWatch.Classification.Tables
import ClusterWatch.Event.Basic
import ClusterWatch.Text.Search
/-!
# Classification

Whom a native event concerns, by its reason, type, message and namespace alone.

- `Tier`: the receivers of an alert.
- `Classification`: a description and a tier.
- `ReasonTables.classify`: the tables are asked in the order user, admin, normal, warning; a reason
  that none of them knows is judged by the type of the event.
-/

namespace ClusterWatch

/-- Whom an event concerns. -/
inductive Tier where
  /-- Nobody. -/
  | normal
  /-- The owner of the application that the event is about. -/
  | appOwner
  /-- The administrators of the cluster. -/
  | admin
  /-- Nobody, but worth noting. -/
  | warning
  /-- Neither the reason nor the type is known. -/
  | unknown
  deriving DecidableEq, Repr, Inhabited

/-- The name of a tier in requests. -/
def Tier.name : Tier → String
  | normal => "normal"
  | appOwner => "appowner"
  | admin => "admin"
  | warning => "warning"
  | unknown => "unknown"

/-- The outcome of classifying an event. -/
structure Classification where
  description : String
  tier : Tier
  deriving DecidableEq, Repr

/-- The description of a kill after a failed liveness probe. -/
def livenessDescription : String := "Container killed after failing its health check"

/-- The description of a kill after a failed start hook. -/
def startHookDescription : String := "Container start failed: PostStartHook error"

/-- What the message of a kill after a failed liveness probe contains. -/
def livenessMark : String := "Container failed liveness probe"

/-- What the message of a kill after a failed start hook contains. -/
def startHookMark : String := "FailedPostStartHook"

/-- Kills are judged by their message: they are routine unless it names a failure. -/
def classifyKilling (message description : String) : Classification :=
  if Text.occurs livenessMark.toList message.toList then ⟨livenessDescription, .appOwner⟩
  else if Text.occurs startHookMark.toList message.toList then ⟨startHookDescription, .appOwner⟩
  else ⟨description, .normal⟩

/-- The tier of a reason that no table knows, by the type of the event. -/
def tierOfType (type : String) : Tier :=
  if type = "Warning" then .admin else if type = "Normal" then .normal else .unknown

namespace ReasonTables

/-- Classifies a native event. -/
def classify (tables : ReasonTables) (e : Event) : Classification :=
  -- the first table that knows the reason decides
  match tables.user.lookup e.reason with
  | some description =>
    if e.reason = "Killing" then classifyKilling e.message description
    else ⟨description, if tables.escalates e.namespaceName then .admin else .appOwner⟩
  | none =>
    match tables.admin.lookup e.reason with
    | some description => ⟨description, .admin⟩
    | none =>
      match tables.normal.lookup e.reason with
      | some description => ⟨description, .normal⟩
      | none =>
        match tables.warning.lookup e.reason with
        | some description => ⟨description, .warning⟩
        | none => ⟨e.reason, tierOfType e.type⟩

end ReasonTables

end ClusterWatch
