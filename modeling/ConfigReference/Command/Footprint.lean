import ConfigReference.Command.Run

/-!
# Footprints

The locations that a command may look at or change.  A run on the part of a
tree at these locations is a run on the whole tree, so only this part has to be
read before the run.
-/

namespace ConfigReference.Command

open File (Location Path)

/-- The locations that are passed when names are followed. -/
def passed : Location → List String → List Location
  | here, [] => [here]
  | here, part :: rest => here :: (here ++ [part]) :: passed (Path.advance here part) rest

/-- The locations on the way to a path, by its own names and from the root. -/
def footprint (working : Location) (path : Path) : List Location :=
  passed (path.start working) path.parts ++ passed [] (path.locate working)

/-- The locations that matter when a path is written. -/
def writtenFootprint (surroundings : Surroundings) (path : Path) : List Location :=
  footprint surroundings.working path ++
    surroundings.suffixes.flatMap fun suffix =>
      footprint surroundings.working
        (File.AtomicWrite.scratchPath surroundings.working path suffix)

/-- The locations at which an environment file is looked for. -/
def environmentFootprint (working : Location) : List Location :=
  passed [] working ++ (EnvironmentFile.ascent working).map (· ++ [EnvironmentFile.fileName])

/-- The locations of the variant file, if one is asked for. -/
def variantFootprint (working : Location) : Invocation → List Location
  | .generate options => (options.choice.variantFile.toList).flatMap fun file =>
      footprint working (Path.ofString file)
  | .scan choice => (choice.variantFile.toList).flatMap fun file =>
      footprint working (Path.ofString file)
  | _ => []

/-- The locations of the sources of a variant. -/
def sourceFootprint (working : Location) (root : Path) (variant : Variant) : List Location :=
  let resolved := Path.ofLocation (root.locate working)
  footprint working resolved ++ variant.sourceFiles.flatMap fun file =>
    footprint working (resolved.join (Path.ofString file))

/-- The locations that the documents, schemas and logs go to. -/
def outputFootprint (surroundings : Surroundings) (options : GenerateOptions) (root : Path)
    (several : Bool) (variant : Variant) : List Location :=
  let document := Generation.documentPath root variant (options.output.map Path.ofString)
  let schema := match schemaPath options.schemaJson variant.name several with
    | .ok path => path.toList
    | .error _ => []
  let log := (options.diagnosticsLog.map Path.ofString).toList
  (document :: schema ++ log).flatMap (writtenFootprint surroundings)

/-- The locations that matter once settings and variants are known. -/
def runFootprint (surroundings : Surroundings) (settings : Settings) (variants : List Variant) :
    Invocation → List Location
  | .generate options =>
    let root := sourceRoot settings options.choice
    let several := variants.length > 1
    variants.flatMap fun variant =>
      sourceFootprint surroundings.working root variant ++
        outputFootprint surroundings options root several variant
  | .scan choice =>
    variants.flatMap (sourceFootprint surroundings.working (sourceRoot settings choice))
  | _ => []

/-- The settings and variants of an invocation, on the files that are known so
far; a run that fails on them needs no more files. -/
def prospects (surroundings : Surroundings) (invocation : Invocation) :
    Action (Settings × List Variant) := do
  let settings ← Settings.load surroundings true
  match invocation with
  | .generate options =>
    return (settings, ← chooseVariants surroundings settings options.choice options.all)
  | .scan choice => return (settings, ← chooseVariants surroundings settings choice false)
  | _ => return (settings, [])

/-- The names of the variables that a run may ask for, given the text of its
environment file. -/
def variableNames (text : String) : List String :=
  ["CONFIGDOC_SOURCE_ROOT", "CONFIGDOC_VARIANT", "CONFIGDOC_LOG_LEVEL",
    EnvironmentFile.switchName] ++
    (EnvironmentFile.bindings text).flatMap fun binding =>
      binding.1 :: EnvironmentFile.referencesIn (binding.2.getD "").toList

end ConfigReference.Command
