import ConfigReference.File.AtomicWrite
import ConfigReference.Json.Printer
import ConfigReference.Source
import ConfigReference.Summary

/-!
# Generation

A generation reads the sources of a variant, collects their schema, renders the
document and writes it.  The schema can be written as well; it is written before
the document, so that a document is never newer than the schema beside it.
-/

namespace ConfigReference

open File (Location Path)

structure Generation where
  root : Path
  variant : Variant
  document : Path

namespace Generation

/-- The document goes to its place below the source root unless another path is
given. -/
def documentPath (root : Path) (variant : Variant) (output : Option Path) : Path :=
  output.getD (root.join (Path.ofString variant.documentPath))

def prepare (root : Path) (variant : Variant) (output : Option Path) : Action Generation := do
  let document := documentPath root variant output
  Action.report
    [.runPrepared variant.name, .sourceRoot root.render, .documentPath document.render]
  return ⟨root, variant, document⟩

/-- Reads and scans files one after the other. -/
def collect (working : Location) (variant : Variant) (root : Path) :
    Schema → List String → Action Schema
  | schema, [] => return schema
  | schema, file :: rest => do
    let text ← Source.read working root file
    let scan := scanText variant file text
    Action.report scan.events
    collect working variant root (schema.add scan) rest

/-- The schema of all source files. -/
def extract (surroundings : Surroundings) (generation : Generation) : Action Schema := do
  let files := generation.variant.sourceFiles
  let root ← Source.openRoot surroundings.working generation.root
  Action.report [.readingSources files.length root.render]
  let schema ← collect surroundings.working generation.variant root {} files
  Action.report schema.events
  return schema

/-- Writes a text to a path, all or nothing. -/
def write (surroundings : Surroundings) (path : Path) (content : String) : Action Unit :=
  Action.onFiles
    (File.writeAtomically surroundings.working surroundings.suffixes path content
      (surroundings.interruption path))
    fun fault => if fault.isOfTree then .outputUnwritable path fault else .file fault

def saveDocument (surroundings : Surroundings) (path : Path) (content : String) :
    Action Unit := do
  write surroundings path content
  Action.report [.saved path.render content.length]

/-- Renders a schema and writes the document. -/
def publish (surroundings : Surroundings) (variant : Variant) (schema : Schema) (path : Path) :
    Action String := do
  let content := Document.content variant schema
  Action.report (Document.events variant schema)
  saveDocument surroundings path content
  return content

def saveSchema (surroundings : Surroundings) (path : Path) (schema : Schema) : Action Unit := do
  write surroundings path schema.toJson.toIndented
  Action.report [.schemaSaved path.render]

def summary (generation : Generation) (schemaPath : Option Path) (schema : Schema) : Summary where
  variant := generation.variant.name
  documentPath := generation.document.render
  schemaPath := (schemaPath.map Path.render).getD ""
  files := schema.files.length
  entries := schema.entries.length
  rendered := (Document.entries generation.variant schema).length
  keys := schema.keyCount
  diagnostics := schema.diagnostics ++ Document.diagnostics generation.variant schema

/-- Makes the document, and writes the schema if a path for it is given. -/
def run (surroundings : Surroundings) (generation : Generation) (schemaPath : Option Path) :
    Action Summary := do
  let variant := generation.variant
  Action.report [.extracting variant.sourceFiles.length]
  let schema ← generation.extract surroundings
  Action.report (.rendering generation.document.name :: Document.events variant schema)
  if let some path := schemaPath then saveSchema surroundings path schema
  saveDocument surroundings generation.document (Document.content variant schema)
  let summary := generation.summary schemaPath schema
  if !summary.diagnostics.isEmpty then
    Action.report [.diagnosticsReported summary.diagnostics.length variant.name]
  return summary

end Generation

end ConfigReference
