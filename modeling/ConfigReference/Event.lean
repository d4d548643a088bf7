import ConfigReference.Document

/-!
# Events

Every step of a run is reported by an event.  An event has a level, which
decides whether it is shown, and a message.  The events of scanning, collecting
and rendering follow from their results.
-/

namespace ConfigReference

inductive Level
  | debug
  | info
  | warning
  | error
  deriving DecidableEq, Repr

namespace Level

def label : Level → String
  | debug => "DEBUG"
  | info => "INFO"
  | warning => "WARNING"
  | error => "ERROR"

/-- Higher numbers are more urgent. -/
def number : Level → Nat
  | debug => 10
  | info => 20
  | warning => 30
  | error => 40

end Level

inductive Event
  | unhandledAccessor (accessor : String)
  | orphanedStatement (message : String)
  | scanned (file : String) (entries keys diagnostics : Nat)
  | aggregated (entries keys files : Nat)
  | rendered (shown total : Nat) (variant : String)
  | saved (path : String) (length : Nat)
  | variantLoaded (name path : String)
  | runPrepared (variant : String)
  | sourceRoot (path : String)
  | documentPath (path : String)
  | readingSources (count : Nat) (root : String)
  | sourceRead (file : String) (length : Nat)
  | extracting (count : Nat)
  | rendering (name : String)
  | schemaSaved (path : String)
  | diagnosticsReported (count : Nat) (variant : String)
  deriving DecidableEq, Repr

namespace Event

def level : Event → Level
  | unhandledAccessor _ => .error
  | orphanedStatement _ => .warning
  | diagnosticsReported _ _ => .warning
  | scanned _ _ _ _ => .debug
  | sourceRead _ _ => .debug
  | variantLoaded _ _ => .debug
  | _ => .info

def message : Event → String
  | unhandledAccessor accessor => s!"Unhandled accessor name {accessor}"
  | orphanedStatement message => message
  | scanned file entries keys diagnostics =>
    s!"Scanned {file}: {entries} entries, {keys} keys, {diagnostics} diagnostics"
  | aggregated entries keys files =>
    s!"Aggregated {entries} entries for {keys} keys from {files} files"
  | rendered shown total variant => s!"Rendered {shown} of {total} entries ({variant})"
  | saved path length => s!"Saved {path} ({length} chars)"
  | variantLoaded name path => s!"Loaded variant '{name}' from {path}"
  | runPrepared variant => s!"Initialized generator for variant '{variant}'"
  | sourceRoot path => s!"  Sources: {path}"
  | documentPath path => s!"  Output: {path}"
  | readingSources count root => s!"Reading {count} source files from {root}"
  | sourceRead file length => s!"Read {file} ({length} chars)"
  | extracting count => s!"[1/2] Extracting schema from {count} files..."
  | rendering name => s!"[2/2] Rendering {name}..."
  | schemaSaved path => s!"Saved schema JSON to {path}"
  | diagnosticsReported count variant => s!"{count} diagnostics reported for '{variant}'"

/-- An accessor that is not recognised is reported. -/
def ofClassification (accessor : String) (type : KeyType) : List Event :=
  if type.recognized then [] else [unhandledAccessor accessor]

end Event

/-- A scan reports each fail-fast statement without a read, and a summary. -/
def FileScan.events (scan : FileScan) : List Event :=
  (scan.diagnostics.map fun diagnostic => Event.orphanedStatement diagnostic.message) ++
    [.scanned scan.file scan.entries.length scan.facts.size scan.diagnostics.length]

def Schema.events (schema : Schema) : List Event :=
  [.aggregated schema.entries.length schema.facts.size schema.files.length]

/-- Rendering reports each accessor that is not recognised, and a summary. -/
def Document.events (variant : Variant) (schema : Schema) : List Event :=
  let entries := Document.entries variant schema
  (entries.flatMap fun entry =>
      Event.ofClassification entry.accessor
        (Accessor.classify variant.indexIsEnum entry.accessor)) ++
    [.rendered entries.length schema.entries.length variant.name]

end ConfigReference
