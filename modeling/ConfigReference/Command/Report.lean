import ConfigReference.Console
import ConfigReference.Document
import ConfigReference.Failure
import ConfigReference.Summary

/-!
# Reports

The tables and panels that the commands print.
-/

namespace ConfigReference.Command

def yesIf (condition : Bool) : String :=
  if condition then "yes" else ""

/-- Announces the document of a variant. -/
def announcement (variant : Variant) (root : String) : Output :=
  let heading := s!"[bold cyan]{variant.title} reference[/bold cyan]"
  let files := variant.sourceFiles.length
  .panel s!"{heading}\n\nSources: [yellow]{root}[/yellow]\nFiles: [yellow]{files}[/yellow]"

def summaryTable (summary : Summary) : Output :=
  .table ["Metric", "Value"]
    [["Files scanned", toString summary.files], ["Accessor calls", toString summary.entries],
     ["Distinct keys", toString summary.keys],
     ["Documented entries", toString summary.rendered],
     ["Diagnostics", toString summary.diagnostics.length]]

def diagnosticsTable (diagnostics : List Diagnostic) : Output :=
  .table ["Kind", "Location", "Message"]
    (diagnostics.map fun diagnostic =>
      [diagnostic.kind.label, diagnostic.location, diagnostic.message])

/-- The entries of a schema in the order of their keys. -/
def sortedEntries (schema : Schema) : List Entry :=
  schema.entries.mergeSort fun left right => decide (left.key ≤ right.key)

/-- What is known about an entry. -/
def entryRow (variant : Variant) (schema : Schema) (entry : Entry) : List String :=
  let type := Accessor.classify variant.indexIsEnum entry.accessor
  let facts := schema.factsOf entry.key
  [entry.key, type.display, yesIf type.optional,
   facts.reload.label, yesIf facts.failFast, entry.location]

def schemaTable (variant : Variant) (schema : Schema) : Output :=
  .table ["Key", "Type", "Optional", "Reload", "Fail-fast", "Location"]
    ((sortedEntries schema).map (entryRow variant schema))

/-- Says what went wrong.  All of the message is read as markup. -/
def failureLine (failure : Failure) : Output :=
  .line s!"\n[red]❌ Error: {failure.message}[/red]"

def variantsTable : Output :=
  .table ["Variant", "Output", "Receiver", "Source files"]
    (Variant.builtIn.map fun variant =>
      [variant.name, variant.documentPath, Text.joined ", " variant.spellings,
       Text.joined "\n" variant.sourceFiles])

def versionLines : List Output :=
  [.line "configdoc v0.1.0", .line "Configuration Reference Generator"]

def usage : List String :=
  ["Usage: configdoc generate|scan|variants|version [OPTIONS]",
   "generate: --root -r, --variant -t, --variant-file, --all -a, --output -o,",
   "  --schema-json, --diagnostics-log, --verbose",
   "scan: --root -r, --variant -t, --variant-file, --verbose"]

def helpLines : List Output :=
  usage.map .line

end ConfigReference.Command
