import ConfigReference.File.Tree
import ConfigReference.Text.Split

/-!
# Actions on files

An action works on a tree and may fail; what it did before it failed stays
done.  Another reader may look at the tree at any moment, so the trees that an
action went through are kept as well.
-/

namespace ConfigReference.File

/-- A tree and all trees it was before, the latest first. -/
structure History where
  tree : Tree := {}
  past : List Tree := []

abbrev FileAction := EStateM Fault History

namespace FileAction

def tree : FileAction Tree := do
  return (← get).tree

/-- Goes on to another tree. -/
def change (next : Tree) : FileAction Unit :=
  modify fun history => ⟨next, history.tree :: history.past⟩

/-- Refuses an operation on a path. -/
def refuse {α : Type} (path : Path) (obstacle : Obstacle) : FileAction α :=
  throw (.refused obstacle path.render none)

/-- A path with the null character cannot be handed to any operation. -/
def guardNull (path : Path) : FileAction Unit :=
  if path.hasNull then throw .nullInPath else return

/-- Makes a directory, or fails and leaves it to the caller what that means. -/
def tryMakeDirectory (working : Location) (path : Path) : FileAction (Option Obstacle) := do
  match (← tree).makeDirectory working path with
  | .ok next =>
    change next
    return none
  | .error obstacle => return some obstacle

/-- A directory that cannot be made is no fault if it is there already. -/
def acceptPresent (working : Location) (path : Path) (obstacle : Obstacle) : FileAction Unit := do
  if (← tree).leadsToDirectory working path then return else refuse path obstacle

/-- Makes a directory and all directories above it that are missing.  Its names
are given from the last one upwards. -/
def makeUpwards (working : Location) (anchor : Anchor) : List String → FileAction Unit
  | [] => do
    let path : Path := ⟨anchor, []⟩
    match ← tryMakeDirectory working path with
    | none => return
    | some obstacle => acceptPresent working path obstacle
  | name :: above => do
    let path : Path := ⟨anchor, (name :: above).reverse⟩
    match ← tryMakeDirectory working path with
    | none => return
    | some .missing =>
      makeUpwards working anchor above
      match ← tryMakeDirectory working path with
      | none => return
      | some obstacle => acceptPresent working path obstacle
    | some obstacle => acceptPresent working path obstacle

/-- Makes the directories on the way to a path. -/
def makeParents (working : Location) (path : Path) : FileAction Unit := do
  guardNull path.parent
  makeUpwards working path.anchor path.parent.parts.reverse

def readOctets (working : Location) (path : Path) : FileAction (List UInt8) := do
  guardNull path
  match (← tree).octets working path with
  | .ok octets => return octets
  | .error obstacle => refuse path obstacle

/-- The text of a file, with all line ends written as line feeds. -/
def readText (working : Location) (path : Path) : FileAction String := do
  match Text.decodeUtf8 (← readOctets working path) with
  | .ok text => return String.ofList (Text.unifyLineEnds text)
  | .error fault => throw (.notText fault)

/-- Whether a path leads to a node. -/
def leadsSomewhere (working : Location) (path : Path) : FileAction Bool := do
  match (← tree).find working path with
  | .ok _ => return true
  | .error .nameTooLong => refuse path .nameTooLong
  | .error _ => return false

/-- Makes an empty file unless the path leads to a node. -/
def touch (working : Location) (path : Path) : FileAction Unit := do
  guardNull path
  match (← tree).find working path with
  | .ok _ => return
  | .error _ =>
    match (← tree).makeFile working path with
    | .ok (_, next) => change next
    | .error obstacle => refuse path obstacle

def append (working : Location) (path : Path) (text : String) : FileAction Unit := do
  guardNull path
  match (← tree).append working path (Text.encodeUtf8 text.toList) with
  | .ok next => change next
  | .error obstacle => refuse path obstacle

end FileAction

end ConfigReference.File
