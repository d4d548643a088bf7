import ConfigReference.Command.Invocation
import ConfigReference.Command.Report
import ConfigReference.DiagnosticLog
import ConfigReference.Generation
import ConfigReference.Settings
import ConfigReference.VariantFile

/-!
# Running commands

A command gives the exit code of the program.  Failures that are foreseen are
printed and give the code 1; other failures end the run as they are.
-/

namespace ConfigReference.Command

open File (Path)

/-- Where the schema goes.  With several variants each gets a file of its own:
the name of the variant stands before the suffix. -/
def schemaPath (given : Option String) (variant : String) (perVariant : Bool) :
    Except Failure (Option Path) :=
  match given with
  | none => .ok none
  | some text =>
    let path := Path.ofString text
    let name := path.stem ++ "." ++ variant ++ path.suffix
    if !perVariant then .ok (some path)
    else if path.name = "" then .error (.emptyName path)
    else if !Path.isName name then .error (.invalidName name)
    else .ok (some (path.withName name))

/-- The variants to work on: that of a file, all, or one by its name. -/
def chooseVariants (surroundings : Surroundings) (settings : Settings) (choice : Choice)
    (all : Bool) : Action (List Variant) := do
  match choice.variantFile with
  | some file => return [← Variant.load surroundings (Path.ofString file)]
  | none =>
    if all then return Variant.builtIn
    else
      let name := choice.variant.getD settings.variant
      match Variant.named? name with
      | some variant => return [variant]
      | none => throw (.unknownVariant name)

def sourceRoot (settings : Settings) (choice : Choice) : Path :=
  (choice.root.map Path.ofString).getD settings.sourceRoot

/-- Prints the diagnostics of a generation, and adds them to the log if there is
one. -/
def keepDiagnostics (surroundings : Surroundings) (log : Option DiagnosticLog) (variant : Variant)
    (diagnostics : List Diagnostic) : Action (Option DiagnosticLog) := do
  if diagnostics.isEmpty then return log
  Action.print (diagnosticsTable diagnostics)
  match log with
  | none => return none
  | some log =>
    let times := fun index => surroundings.clock (log.counts.logged + index)
    some <$> Action.onFiles (log.writeAll surroundings.working times variant.name diagnostics)

/-- Prints where the outputs of a generation are. -/
def printPlaces (summary : Summary) : Action Unit := do
  Action.print (.line s!"\n📄 Written: [cyan]{summary.documentPath}[/cyan]")
  if summary.schemaPath ≠ "" then
    Action.print (.line s!"📁 Schema JSON: [cyan]{summary.schemaPath}[/cyan]")

/-- Makes the document of one variant and reports on it. -/
def generateOne (surroundings : Surroundings) (options : GenerateOptions) (root : Path)
    (perVariant : Bool) (log : Option DiagnosticLog) (variant : Variant) :
    Action (Option DiagnosticLog) := do
  Action.print (announcement variant root.render)
  let generation ← Generation.prepare root variant (options.output.map Path.ofString)
  let path ← ofExcept (schemaPath options.schemaJson variant.name perVariant)
  let summary ← generation.run surroundings path
  Action.print (summaryTable summary)
  let log ← keepDiagnostics surroundings log variant summary.diagnostics
  printPlaces summary
  return log

def runGenerate (surroundings : Surroundings) (options : GenerateOptions) : Action Nat := do
  let settings ← Settings.load surroundings true
  settings.configureLog options.choice.verbose
  let variants ← chooseVariants surroundings settings options.choice options.all
  let several := variants.length > 1
  if options.output.isSome && several then
    Action.print (.line "Error: --output cannot be combined with --all")
    return 1
  let root := sourceRoot settings options.choice
  let log ← options.diagnosticsLog.mapM fun path =>
    Action.onFiles (DiagnosticLog.start surroundings.working (Path.ofString path))
  let _ ← variants.foldlM (generateOne surroundings options root several) log
  return 0

def runScan (surroundings : Surroundings) (choice : Choice) : Action Nat := do
  let settings ← Settings.load surroundings true
  settings.configureLog choice.verbose
  let variants ← chooseVariants surroundings settings choice false
  for variant in variants do
    let generation ← Generation.prepare (sourceRoot settings choice) variant none
    let schema ← generation.extract surroundings
    Action.report ((sortedEntries schema).flatMap fun entry =>
      Event.ofClassification entry.accessor
        (Accessor.classify variant.indexIsEnum entry.accessor))
    Action.print (schemaTable variant schema)
    Action.print
      (.line s!"{schema.entries.length} accessor calls in {schema.files.length} files")
    if !schema.diagnostics.isEmpty then Action.print (diagnosticsTable schema.diagnostics)
  return 0

/-- Prints a failure that is foreseen. -/
def reportFailure (action : Action Nat) : Action Nat :=
  tryCatch action fun failure => do
    if failure.isForeseen then
      Action.print (failureLine failure)
      pure 1
    else throw failure

def runInvocation (surroundings : Surroundings) : Invocation → Action Nat
  | .generate options => reportFailure (runGenerate surroundings options)
  | .scan choice => reportFailure (runScan surroundings choice)
  | .variants => do
    Action.print variantsTable
    return 0
  | .version => do
    versionLines.forM Action.print
    return 0
  | .help => do
    helpLines.forM Action.print
    return 0

/-- Runs the program with its arguments; misuse gives the code 2. -/
def run (surroundings : Surroundings) (arguments : List String) : Action Nat :=
  match Invocation.read? arguments with
  | some invocation => runInvocation surroundings invocation
  | none => return 2

end ConfigReference.Command
