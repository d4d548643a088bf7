import ConfigReference.Session

/-!
# Variant files

A variant can be described in a file.  The file is refused with all problems of
its description, and with an account of them that may quote it.
-/

namespace ConfigReference.Variant

open File (Fault FileAction Path)

/-- What a fault means that comes up when a variant file is read. -/
def failureOf (path : Path) (fault : Fault) : Failure :=
  if fault.isOfTree then .variantUnreadable path fault else .file fault

/-- The variant that a file describes. -/
def load (surroundings : Surroundings) (path : Path) : Action Variant := do
  let text ← Action.onFiles (FileAction.readText surroundings.working path) (failureOf path)
  match Json.readText ofJson text with
  | .error problems => throw (.variantInvalid path problems (surroundings.account text problems))
  | .ok variant =>
    Action.report [.variantLoaded variant.name path.render]
    return variant

end ConfigReference.Variant
