import ConfigReference.File.Action

/-!
# Atomic writes

A file is written in one piece: its content goes to a scratch file beside it,
which then takes its place.  Whoever looks at the file finds the old content or
the new one, never a part.  If a step fails the scratch file is removed.
-/

namespace ConfigReference.File

/-- The steps of an atomic write. -/
inductive Stage
  | directories
  | scratch
  | contents
  | replacement
  deriving DecidableEq, Repr

/-- A fault that strikes at a step of a write.  A part of the step may have been
done: some of the directories made, or some octets of the contents written. -/
structure Interruption where
  stage : Stage
  fault : Fault
  progress : Nat := 0
  deriving DecidableEq, Repr

namespace AtomicWrite

open FileAction

/-- Strikes if the interruption is meant for the step. -/
def pass (interruption : Option Interruption) (stage : Stage) : FileAction Unit :=
  match interruption with
  | some struck => if struck.stage = stage then throw struck.fault else return
  | none => return

/-- Makes the directories on the way to a path. -/
def makeWay (interruption : Option Interruption) (working : Location) (path : Path) :
    FileAction Unit := do
  match interruption with
  | some ⟨.directories, fault, progress⟩ =>
    guardNull path.parent
    makeUpwards working path.anchor (path.parent.parts.take progress).reverse
    throw fault
  | _ => makeParents working path

/-- The path of a scratch file: a hidden name beside the target. -/
def scratchPath (working : Location) (target : Path) (suffix : String) : Path :=
  let directory := target.parent.absolute working
  { directory with parts := directory.parts ++ ["." ++ target.name ++ "." ++ suffix] }

/-- Makes an empty file with the first suffix that is not taken. -/
def makeScratch (working : Location) (target : Path) : List String → FileAction (Path × Location)
  | [] => throw .noScratchName
  | suffix :: rest => do
    let path := scratchPath working target suffix
    guardNull path
    match (← tree).makeFile working path with
    | .ok (location, next) =>
      change next
      return (path, location)
    | .error .alreadyThere => makeScratch working target rest
    | .error obstacle => refuse path obstacle

/-- Writes the octets of the content to the scratch file. -/
def fill (interruption : Option Interruption) (location : Location) (octets : List UInt8) :
    FileAction Unit := do
  match interruption with
  | some ⟨.contents, fault, progress⟩ =>
    change ((← tree).put location (.file (octets.take progress)))
    throw fault
  | _ => change ((← tree).put location (.file octets))

/-- Puts the scratch file in the place of the target. -/
def substitute (working : Location) (path : Path) (location : Location) (target : Path) :
    FileAction Unit := do
  match (← tree).replace working location target with
  | .ok next => change next
  | .error obstacle => throw (.refused obstacle path.render (some target.render))

/-- An action that is undone by the removal of a file if it fails. -/
def orRemove (location : Location) (action : FileAction Unit) : FileAction Unit := do
  try action
  catch fault =>
    change ((← tree).erase location)
    throw fault

end AtomicWrite

open AtomicWrite in
/-- Writes a text to a path, all or nothing. -/
def writeAtomically (working : Location) (suffixes : List String) (path : Path) (content : String)
    (interruption : Option Interruption := none) : FileAction Unit := do
  makeWay interruption working path
  pass interruption .scratch
  let (scratch, location) ← makeScratch working path suffixes
  orRemove location do
    fill interruption location (Text.encodeUtf8 content.toList)
    pass interruption .replacement
    substitute working scratch location path

end ConfigReference.File
