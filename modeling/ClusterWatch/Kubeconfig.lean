import ClusterWatch.Config.File
import ClusterWatch.Http.Endpoint
import ClusterWatch.Json.Format
import ClusterWatch.Yaml.Document
import ClusterWatch.Yaml.Json
/-!
# Access to the cluster

The file that tells how to reach a cluster. It names clusters, users and contexts; a context pairs
a cluster with a user, and one context is the current one.

- `Kubeconfig`: what a file says.
- `Kubeconfig.Error`: why a cluster cannot be reached by it.
- `Kubeconfig.ofYaml`: what a text says. The documents of a text are merged.
- `Kubeconfig.server`: the address of the cluster of the current context.
-/

namespace ClusterWatch

open Json (Field Format)

namespace Kubeconfig

/-- A cluster. -/
structure Cluster where
  server : Option String := none

/-- A user. How the user proves who they are is not looked at. -/
structure User where

/-- A cluster and a user. -/
structure Context where
  cluster : String := ""
  user : Option String := none

/-- Something with a name. -/
structure Named (α : Type) where
  name : String := ""
  value : Option α := none

/-- The value of a name. -/
def lookup? {α : Type} (entries : List (Named α)) (name : String) : Option α :=
  (entries.find? (·.name == name)).bind (·.value)

/-- The entries, and those of other names that come later. -/
def mergeNamed {α : Type} (entries later : List (Named α)) : List (Named α) :=
  later.foldl (fun entries e => if entries.any (·.name == e.name) then entries
    else entries ++ [e]) entries

end Kubeconfig

/-- What a file says. -/
structure Kubeconfig where
  kind : Option String := none
  version : Option String := none
  clusters : List (Kubeconfig.Named Kubeconfig.Cluster) := []
  users : List (Kubeconfig.Named Kubeconfig.User) := []
  contexts : List (Kubeconfig.Named Kubeconfig.Context) := []
  /-- The name of the current context. -/
  current : Option String := none

namespace Kubeconfig

/-! ### Errors -/

/-- Why a cluster cannot be reached by a file. -/
inductive Error where
  | unreadable (path : String) (e : FileError)
  | malformed (message : String)
  | mismatch (e : Json.DecodeError)
  | kindsDiffer
  | versionsDiffer
  | noContext
  | unknownContext (name : String)
  | unknownCluster (name : String)
  | unknownUser (name : String)
  | noServer
  | badServer (e : Http.EndpointError)

/-- What an error says of its own cause, if it has one. -/
def Error.cause? : Error → Option String
  | unreadable _ e => some e.message
  | malformed message => some message
  | mismatch e => some e.message
  | badServer e => some e.message
  | _ => none

/-- What an error says apart from its cause. -/
def Error.summary : Error → String
  | unreadable path _ => "failed to read kubeconfig from '" ++ Text.quoted path ++ "'"
  | malformed _ => "failed to parse kubeconfig YAML"
  | mismatch _ => "the structure of the parsed kubeconfig is invalid"
  | kindsDiffer => "kubeconfigs with mismatching kind cannot be merged"
  | versionsDiffer => "kubeconfigs with mismatching api version cannot be merged"
  | noContext => "failed to determine current context"
  | unknownContext name => "failed to load current context: " ++ name
  | unknownCluster name => "failed to load the cluster of context: " ++ name
  | unknownUser name => "failed to find named user: " ++ name
  | noServer => "cluster url is missing on selected cluster"
  | badServer _ => "failed to parse cluster url"

/-- The wording of an error, followed by that of its cause. -/
def Error.messages (e : Error) : List String :=
  match e.cause? with
  | some cause => [e.summary ++ ": " ++ cause, cause]
  | none => [e.summary]

/-! ### Files -/

/-- The format of something with a name, which lies under `member`. -/
def namedFormat {α : Type} (name member : String) (f : Format α) : Format (Named α) :=
  (Format.record name
    [.of "name" .text (·.name) fun x n => { n with name := x },
      .of member (.optional f) (·.value) fun x n => { n with value := x }]
    {}).requiring ["name"] ("struct " ++ name ++ " with 2 elements")

/-- A list for which null may stand. -/
def entries {α : Type} (f : Format α) : Format (List α) where
  write := (Format.list f).write
  read
    | .null => .ok []
    | v => (Format.list f).read v

/-- The format of a cluster. -/
def Cluster.format : Format Cluster :=
  .record "Cluster"
    [.of "server" (.optional .text) (·.server) fun x c => { c with server := x }]
    {}

/-- The format of a user. -/
def User.format : Format User :=
  .record "AuthInfo" [] {}

/-- The format of a context. -/
def Context.format : Format Context :=
  (Format.record "Context"
    [.of "cluster" .text (·.cluster) fun x c => { c with cluster := x },
      .of "user" (.optional .text) (·.user) fun x c => { c with user := x }]
    {}).requiring ["cluster"] "struct Context with 4 elements"

/-- The format of a file. -/
def format : Format Kubeconfig :=
  .record "Kubeconfig"
    [.of "kind" (.optional .text) (·.kind) fun x k => { k with kind := x },
      .of "apiVersion" (.optional .text) (·.version) fun x k => { k with version := x },
      .of "clusters" (entries (namedFormat "NamedCluster" "cluster" Cluster.format))
        (·.clusters) fun x k => { k with clusters := x },
      .of "users" (entries (namedFormat "NamedAuthInfo" "user" User.format))
        (·.users) fun x k => { k with users := x },
      .of "contexts" (entries (namedFormat "NamedContext" "context" Context.format))
        (·.contexts) fun x k => { k with contexts := x },
      .of "current-context" (.optional .text) (·.current) fun x k => { k with current := x }]
    {}

/-- What two files say together. What the first says comes first. -/
def merge (a b : Kubeconfig) : Except Error Kubeconfig :=
  if a.kind.isSome ∧ b.kind.isSome ∧ a.kind ≠ b.kind then .error .kindsDiffer
  else if a.version.isSome ∧ b.version.isSome ∧ a.version ≠ b.version then .error .versionsDiffer
  else
    .ok
      { kind := a.kind <|> b.kind
        version := a.version <|> b.version
        clusters := mergeNamed a.clusters b.clusters
        users := mergeNamed a.users b.users
        contexts := mergeNamed a.contexts b.contexts
        current := a.current <|> b.current }

/-- What a document says. -/
def ofDocument (document : Yaml.Node) : Except Error Kubeconfig :=
  match document.toJson with
  | .error e => .error (.malformed e.message)
  | .ok v => (format.read v).mapError .mismatch

/-- What documents say together. -/
def ofDocuments : List Yaml.Node → Except Error Kubeconfig
  | [] => .ok {}
  | document :: rest => do
    rest.foldlM (fun k d => do merge k (← ofDocument d)) (← ofDocument document)

/-- What a text says. -/
def ofYaml (text : String) : Except Error Kubeconfig :=
  match Yaml.documents text with
  | .error e => .error (.malformed e.message)
  | .ok documents => ofDocuments documents

/-- What the file at a path says. -/
def ofFile (path : String) : Except FileError String → Except Error Kubeconfig
  | .error e => .error (.unreadable path e)
  | .ok text => ofYaml text

/-! ### Clusters -/

/-- The address of the cluster of the current context. The user of the context has to exist. -/
def server (k : Kubeconfig) : Except Error String := do
  let some name := k.current | .error .noContext
  let some context := lookup? k.contexts name | .error (.unknownContext name)
  let some cluster := lookup? k.clusters context.cluster | .error (.unknownCluster context.cluster)
  match context.user with
  | some user => if (lookup? k.users user).isNone then .error (.unknownUser user)
  | none => pure ()
  let some server := cluster.server | .error .noServer
  match Http.Endpoint.check server with
  | .ok () => .ok server
  | .error e => .error (.badServer e)

end Kubeconfig

end ClusterWatch
