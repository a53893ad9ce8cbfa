import Knowbee.Lib.FileTree
import Knowbee.Rust

/-!
# Access to paths

`path_policy.rs`: a requested path is checked for hidden components and for a link, resolved, and
compared with the denied and then with the allowed roots.
-/

namespace Knowbee

open FileTree

/-- One part between slashes, as `Path::components` reads it. -/
def componentOf (part : List Char) : Option (PathComponent String) :=
  if part = [] ∨ part = ['.'] then none
  else if part = ['.', '.'] then some .parentDir
  else some (.normal (String.ofList part))

/-- A part that only says that what stands before it is a directory. -/
def isDirectoryMark (part : List Char) : Bool := part = [] ∨ part = ['.']

/-- A path from its text.  A dot counts as a component only where a relative
path begins with it. -/
def parsePath (text : String) : FilePath String :=
  match text.toList.splitOn '/' with
  | [] => ⟨false, [], false⟩
  | first :: rest =>
    { absolute := first.isEmpty && !rest.isEmpty
      components :=
        (if first = ['.'] then [.curDir] else (componentOf first).toList) ++
          rest.filterMap componentOf
      directory := rest.getLast?.any isDirectoryMark }

inductive PathOperation where
  | read | write | delete | list | metadata
  deriving DecidableEq

structure PathAccessRequest where
  operation : PathOperation
  requestedPath : String

structure PathAccessSettings where
  (allowedReadPaths allowedWritePaths deniedPaths : List String)
  (allowHiddenFiles followSymlinks : Bool)

structure PathAccessDecision where
  allowed : Bool
  canonicalPath : Option (FileLocation String)
  reasonCode : String

namespace PathAccessDecision

def allow (path : FileLocation String) : PathAccessDecision := ⟨true, some path, "allowed"⟩

def denied (reasonCode : String) : PathAccessDecision := ⟨false, none, reasonCode⟩

end PathAccessDecision

def containsHiddenComponent (path : FilePath String) : Bool :=
  path.components.any fun component =>
    match component with
    | .normal name => name.toList.head? = some '.'
    | _ => false

variable (tree : FileTree String)

def containsSymlinkComponent (path : FilePath String) : Bool :=
  match tree.symlinkMetadata path with
  | some (.link _) => true
  | _ => false

def canonicalRoot (root : String) : Option (FileLocation String) :=
  let trimmed := trim root
  if trimmed.isEmpty then none else tree.canonicalize (parsePath trimmed)

def isUnderAny (candidate : FileLocation String) (roots : List String) : Bool :=
  (roots.filterMap (canonicalRoot tree)).any fun root =>
    candidate = root || root.isPrefixOf candidate

def canonicalPathForOperation (operation : PathOperation) (requestedPath : FilePath String) :
    Option (FileLocation String) :=
  match operation with
  | .write =>
    if tree.exists' requestedPath then tree.canonicalize requestedPath
    else do
      let parent ← tree.canonicalize (← requestedPath.parent)
      let fileName ← requestedPath.fileName
      return parent ++ [fileName]
  | .read | .delete | .list | .metadata => tree.canonicalize requestedPath

def PathAccessSettings.allowedPaths (policy : PathAccessSettings) : PathOperation → List String
  | .read | .list | .metadata => policy.allowedReadPaths
  | .write | .delete => policy.allowedWritePaths

def authorizePathAccess (policy : PathAccessSettings) (request : PathAccessRequest) :
    PathAccessDecision :=
  let requestedPath := parsePath request.requestedPath
  if request.requestedPath.isEmpty then
    .denied "empty_path"
  else if !policy.allowHiddenFiles && containsHiddenComponent requestedPath then
    .denied "hidden_path_denied"
  else if !policy.followSymlinks && containsSymlinkComponent tree requestedPath then
    .denied "symlink_denied"
  else
    match canonicalPathForOperation tree request.operation requestedPath with
    | none => .denied "path_not_found"
    | some candidate =>
      if isUnderAny tree candidate policy.deniedPaths then
        .denied "path_denied"
      else if !isUnderAny tree candidate (policy.allowedPaths request.operation) then
        .denied "path_not_allowed"
      else .allow candidate

end Knowbee
