import ClusterWatch.Config.Document
/-!
# Configuration files

Where the configuration is read from.

- `FileError`: why a file cannot be read.
- `Config.locate`: the path of the configuration: the given one, else that of the environment,
  else the first default that exists.
- `Config.load`: the configuration of a file.

Files are looked up with a function in any monad, so that the same definitions work on the files
of the machine and on a given tree.
-/

namespace ClusterWatch

/-- Why a file cannot be read. -/
inductive FileError where
  | missing
  | isDirectory
  | notDirectory
  /-- The system words another reason. -/
  | other (message : String)
  deriving DecidableEq, Repr

/-- The wording of an error. -/
def FileError.message : FileError → String
  | missing => "No such file or directory (os error 2)"
  | isDirectory => "Is a directory (os error 21)"
  | notDirectory => "Not a directory (os error 20)"
  | other message => message

/-- Whether something is at the path all the same. -/
def FileError.exists : FileError → Bool
  | isDirectory => true
  | other _ => true
  | _ => false

namespace Config

variable {m : Type → Type} [Monad m]

/-- The environment variable that names the configuration file. -/
def pathVariable : String := "K8SWATCH_CONFIG"

/-- The paths that are tried when none is given. -/
def defaultPaths : List String :=
  ["./configs/default.yaml", "/etc/k8swatch/configs/default.yaml"]

/-- The first path at which something is. -/
def firstExisting? (read : String → m (Except FileError String)) :
    List String → m (Option String)
  | [] => return none
  | path :: rest => do
    match ← read path with
    | .ok _ => return some path
    | .error e => if e.exists then return some path else firstExisting? read rest

/-- The path of the configuration. -/
def locate (read : String → m (Except FileError String)) (given environment : Option String) :
    m (Except Fault String) := do
  match given <|> environment.filter (· ≠ "") with
  | some path => return .ok path
  | none =>
    match ← firstExisting? read defaultPaths with
    | some path => return .ok path
    | none =>
      return .error (.configuration
        ("no config file given and none found in " ++ ", ".intercalate defaultPaths))

/-- The configuration of the file at a path. -/
def ofFile (path : String) (content : Except FileError String) : Except Fault Config :=
  match content with
  | .error e => .error (.configuration ("reading " ++ path ++ ": " ++ e.message))
  | .ok text => (ofYaml text).mapError DocumentError.toFault

/-- Finds and reads the configuration. -/
def load (read : String → m (Except FileError String)) (given environment : Option String) :
    m (Except Fault Config) := do
  match ← locate read given environment with
  | .error fault => return .error fault
  | .ok path => return ofFile path (← read path)

end Config

end ClusterWatch
