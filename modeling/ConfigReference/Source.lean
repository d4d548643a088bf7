import ConfigReference.Session

/-!
# Source files

The files of a variant are named relative to a source root and read in their
order.  A file that cannot be read as text ends the run.
-/

namespace ConfigReference

open File (Fault FileAction Location Path)

namespace Source

/-- The directory of the sources, as a path from the root of the tree. -/
def openRoot (working : Location) (root : Path) : Action Path := do
  let resolved := Path.ofLocation (root.locate working)
  let (present, directory) ← Action.onFiles do
    FileAction.guardNull root
    let present ← FileAction.leadsSomewhere working resolved
    let tree ← FileAction.tree
    return (present, tree.leadsToDirectory working resolved)
  if !present then throw (.rootMissing resolved)
  else if !directory then throw (.rootNotDirectory resolved)
  else return resolved

/-- What a fault means that comes up when a source file is read. -/
def failureOf (path : Path) : Fault → Failure
  | .nullInPath => .file .nullInPath
  | fault => .sourceUnreadable path fault

/-- The text of one file below the root. -/
def read (working : Location) (root : Path) (file : String) : Action String := do
  let path := root.join (Path.ofString file)
  let text ← Action.onFiles (FileAction.readText working path) (failureOf path)
  Action.report [.sourceRead file text.length]
  return text

end Source

end ConfigReference
