import ConfigReference.Console.Markup
import ConfigReference.Environment
import ConfigReference.File.Fault
import ConfigReference.File.Path
import ConfigReference.Json.Problem
import ConfigReference.Variant

/-!
# Failures

What ends a run before it is done.  Most failures are foreseen and reported to
the user; the others are faults that no step of a run expects.
-/

namespace ConfigReference

open File (Fault Path)

inductive Failure
  | rootMissing (root : Path)
  | rootNotDirectory (root : Path)
  | sourceUnreadable (path : Path) (fault : Fault)
  | outputUnwritable (path : Path) (fault : Fault)
  | unknownVariant (name : String)
  | variantUnreadable (path : Path) (fault : Fault)
  /-- A description with problems, and the account that is given of them. -/
  | variantInvalid (path : Path) (problems : List Json.Problem) (account : String)
  | settingsInvalid (problems : List Json.Problem)
  /-- A path without a name cannot be given another one. -/
  | emptyName (path : Path)
  /-- A text that is not the name of a file. -/
  | invalidName (name : String)
  /-- An environment file sets a variable that cannot be set. -/
  | unsettable (fault : VariableFault)
  /-- Something to be printed is at fault. -/
  | markup (fault : Console.MarkupFault)
  /-- A fault of files that is not foreseen. -/
  | file (fault : Fault)
  deriving DecidableEq, Repr

namespace Failure

def message : Failure → String
  | rootMissing root => s!"Source root does not exist: {root.render}"
  | rootNotDirectory root => s!"Source root is not a directory: {root.render}"
  | sourceUnreadable path fault => s!"Cannot read source file {path.render}: {fault.message}"
  | outputUnwritable path fault => s!"Cannot write {path.render}: {fault.message}"
  | unknownVariant name =>
    let valid := Text.joined ", " (Variant.builtIn.map Variant.name)
    s!"Unknown variant '{name}' (valid: {valid})"
  | variantUnreadable path fault => s!"Cannot read variant file {path.render}: {fault.message}"
  | variantInvalid path _ account => s!"Invalid variant file {path.render}: {account}"
  | settingsInvalid problems =>
    let phrases := Text.joined "; " (problems.map Json.Problem.phrase)
    s!"Invalid settings: {phrases}"
  | emptyName path => s!"PosixPath({Text.quoted path.render}) has an empty name"
  | invalidName name => s!"Invalid name {Text.quoted name}"
  | unsettable fault => fault.message
  | markup fault => fault.message
  | file fault => fault.message

/-- Whether the failure is foreseen. -/
def isForeseen : Failure → Bool
  | emptyName _ => false
  | invalidName _ => false
  | unsettable _ => false
  | markup _ => false
  | file _ => false
  | _ => true

end Failure

end ConfigReference
