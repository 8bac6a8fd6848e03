import ClusterWatch.Config.File
/-!
# File trees

A directory with the files below it.

- `FileTree`: the files by their paths.
- `FileTree.read`: the text of the file at a path, or why there is none.
-/

namespace ClusterWatch

/-- The files below a directory. A path is a list of names. -/
structure FileTree where
  files : List (List String × String) := []
  deriving Inhabited

namespace FileTree

/-- The parts of a path between its slashes. -/
def parts (path : String) : List String :=
  (path.splitToList (· = '/'))

/-- The tree of files that are given by their relative paths. -/
def ofList (files : List (String × String)) : FileTree :=
  ⟨files.map fun (path, text) => ((parts path).filter fun p => p ≠ "" ∧ p ≠ ".", text)⟩

/-- The text of a file. -/
def text? (t : FileTree) (path : List String) : Option String :=
  t.files.lookup path

/-- Whether a path leads to a directory. -/
def isDirectory (t : FileTree) (path : List String) : Bool :=
  path = [] || t.files.any fun f => path.isPrefixOf f.1 && path ≠ f.1

/-- Follows the parts of a path from a directory, whose path is given from its end. -/
def follow (t : FileTree) : List String → List String → Except FileError String
  | _, [] => .error .isDirectory
  | directory, part :: rest =>
    if part = "" ∨ part = "." then follow t directory rest
    else if part = ".." then
      match directory with
      | [] => .error .missing
      | _ :: parent => follow t parent rest
    else
      let path := part :: directory
      match t.text? path.reverse with
      | some text => if rest = [] then .ok text else .error .notDirectory
      | none => if t.isDirectory path.reverse then follow t path rest else .error .missing

/-- The text of the file at a relative path. -/
def read (t : FileTree) (path : String) : Except FileError String :=
  if path = "" ∨ path.startsWith "/" then .error .missing
  else t.follow [] (parts path)

end FileTree

end ClusterWatch
