import ConfigReference.Command.Drawing
import ConfigReference.Command.Footprint
import Std.Time

/-!
# The program

Reads the part of the file system that a command may need, runs the command on
it, and writes back what the command changed.
-/

namespace ConfigReference.Program

open File (Location Node Path Tree)

def textOf (location : Location) : String :=
  (Path.ofLocation location).render

/-- Adds what stands at a location to a tree. -/
def observe (tree : Tree) (location : Location) : IO Tree := do
  if (tree.node? location).isSome then return tree
  let place := (← IO.currentDir) / textOf location
  if ← place.isDir then return tree.put location .directory
  else if ← place.pathExists then
    return tree.put location (.file (← IO.FS.readBinFile place).toList)
  else return tree

/-- Writes a file by way of a scratch file beside it. -/
def writeFile (suffix : String) (location : Location) (octets : List UInt8) : IO Unit := do
  let scratch := textOf location ++ "." ++ suffix
  IO.FS.writeBinFile scratch ⟨octets.toArray⟩
  IO.FS.rename scratch (textOf location)

/-- Makes the file system follow a tree that changed. -/
def commit (suffix : String) (before after : Tree) : IO Unit := do
  for (location, node) in after.entries do
    if before.node? location ≠ some node then
      match node with
      | .directory => IO.FS.createDir (textOf location)
      | .file octets => writeFile suffix location octets
  for (location, _) in before.entries do
    if (after.node? location).isNone then IO.FS.removeFile (textOf location)

/-- Eight letters at random. -/
def randomSuffix : IO String := do
  let letters ← (List.range 8).mapM fun _ => do
    return Char.ofNat ('a'.toNat + (← IO.rand 0 25))
  return String.ofList letters

def environmentOf (tree : Tree) (working : Location) : IO Environment := do
  let text := match EnvironmentFile.nearest? tree working with
    | some location =>
      match File.FileAction.readText working (Path.ofLocation location) { tree := tree } with
      | .ok text _ => EnvironmentFile.withoutMark text
      | .error _ _ => ""
    | none => ""
  let mut environment : Environment := ∅
  for name in Command.variableNames text do
    if let some value ← IO.getEnv name then environment := environment.insert name value
  return environment

/-- Runs a command and shows what it reports and prints. -/
def run (arguments : List String) : IO UInt32 := do
  let some invocation := Command.Invocation.read? arguments
    | for line in Command.usage do IO.eprintln line
      return 2
  let working := (Path.ofString (← IO.currentDir).toString).parts
  let suffix ← randomSuffix
  let now := toString (← Std.Time.PlainDateTime.now)
  let known := Command.environmentFootprint working ++ Command.variantFootprint working invocation
  let tree ← known.foldlM observe {}
  let surroundings : Surroundings :=
    { working := working
      environment := ← environmentOf tree working
      -- all lines of a log are written back at once
      clock := fun _ => String.ofList (now.toList.take 26)
      account := fun text problems =>
        Text.joined "\n" (problems.map Json.Problem.phrase ++ [text])
      suffixes := [suffix] }
  let more := match Command.prospects surroundings invocation { files := { tree := tree } } with
    | .ok (settings, variants) _ =>
      Command.runFootprint surroundings settings variants invocation
    | .error _ _ => []
  let tree ← more.foldlM observe tree
  let (session, code, message) :=
    match Command.run surroundings arguments { files := { tree := tree } } with
    | .ok code session => (session, code, none)
    | .error failure session => (session, 1, some failure.message)
  commit suffix tree session.files.tree
  for line in session.logLines do IO.eprintln line
  for line in session.printed.flatMap Command.draw do IO.println line
  if let some message := message then IO.eprintln message
  return UInt32.ofNat code

end ConfigReference.Program

def main (arguments : List String) : IO UInt32 :=
  ConfigReference.Program.run arguments
