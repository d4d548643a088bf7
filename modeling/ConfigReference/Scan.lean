import ConfigReference.Diagnostic
import ConfigReference.Entry
import ConfigReference.Facts
import ConfigReference.Statement

/-!
# Scanning a file

A scan reads the lines of a file in order.  Three things carry over from line to
line: whether the line is in a section that cannot be reloaded, whether strict
mode is on, and which key was read last.  None of them leaves the file.
-/

namespace ConfigReference

open Json (Reading)

/-- What a scan found in one file. -/
structure FileScan where
  file : String
  entries : List Entry := []
  facts : Table String Facts := ∅
  diagnostics : List Diagnostic := []
  lines : Int := 0

namespace FileScan

def ofJson : Json → Reading FileScan :=
  Json.readRecord fun members =>
    FileScan.mk <$> Json.required members "source_file" Json.readString
      <*> Json.optional members "entries" [] (Json.readList Entry.ofJson)
      <*> Json.optional members "metadata" ∅ (Json.readTable Facts.ofJson)
      <*> Json.optional members "diagnostics" [] (Json.readList Diagnostic.ofJson)
      <*> Json.optional members "lines_scanned" 0 Json.readInteger

/-- Changes the facts about a key. -/
def note (scan : FileScan) (key : String) (change : Facts → Facts) : FileScan :=
  { scan with facts := scan.facts.update key {} change }

/-- Marks a key as one whose failed reads abort the operation. -/
def markFailFast (scan : FileScan) (key : String) : FileScan :=
  scan.note key fun facts => { facts with failFast := true }

end FileScan

/-- A scan between two lines. -/
structure ScanState where
  /-- The number of lines that have been read. -/
  line : Nat := 0
  inSection : Bool := false
  strict : Bool := false
  lastKey : Option String := none
  scan : FileScan

namespace ScanState

def start (file : String) : ScanState where
  scan := { file := file }

/-- Records a read on the current line. -/
def record (state : ScanState) (accessor key : String) (arguments : Option String) : ScanState :=
  let entry : Entry := ⟨key, accessor, arguments, state.scan.file, state.line⟩
  { state with
    lastKey := some key
    scan := { state.scan with entries := state.scan.entries ++ [entry] }.note key id }

/-- When a key that is read on the current line takes effect, as far as the
place of the read tells. -/
def reloadMode (variant : Variant) (state : ScanState) : ReloadMode :=
  if state.inSection then .notReloadable
  else if state.scan.file ∈ variant.sessionFiles then .nextSession
  else if state.scan.file ∈ variant.instantFiles then .instant
  else .unset

def markFailFast (state : ScanState) (key : String) : ScanState :=
  { state with scan := state.scan.markFailFast key }

/-- A fail-fast statement marks the key that was read last.  Without one it is
reported, and marks the empty key. -/
def failFast (state : ScanState) : ScanState :=
  match state.lastKey with
  | some key => state.markFailFast key
  | none =>
    let diagnostic := Diagnostic.orphaned state.scan.file state.line
    let scan := { state.scan with diagnostics := state.scan.diagnostics ++ [diagnostic] }
    { state with scan := scan.markFailFast "" }

/-- The effect of a statement on the current line. -/
def apply (variant : Variant) (state : ScanState) : Statement → ScanState
  | .optionalRead accessor key =>
    let state := state.record accessor key none
    if state.strict && variant.strictAppliesToOptional then state.markFailFast key else state
  | .requiredRead accessor key arguments =>
    let state := state.record accessor key (some arguments)
    let scan := state.scan.note key fun facts =>
      facts.merge ⟨state.reloadMode variant, state.strict⟩
    { state with scan := scan }
  | .failFast => state.failFast
  | .sectionStart => { state with inSection := true }
  | .sectionEnd => { state with inSection := false }
  | .strictOn => { state with strict := true }
  | .strictOff => { state with strict := false }

/-- Goes on to the next line, which holds the given statement. -/
def step (variant : Variant) (state : ScanState) (statement : Option Statement) : ScanState :=
  let state := { state with line := state.line + 1 }
  match statement with
  | some statement => state.apply variant statement
  | none => state

end ScanState

/-- The statement of each line of a text. -/
def statements (variant : Variant) (text : String) : List (Option Statement) :=
  (Text.lines text.toList).map (Statement.ofLine? variant)

/-- The state after a row of lines with the given statements. -/
def scanStatements (variant : Variant) (file : String) (lines : List (Option Statement)) :
    ScanState :=
  lines.foldl (ScanState.step variant) (ScanState.start file)

/-- The state after each line of a text, with the statement of that line. -/
def scanHistory (variant : Variant) : ScanState → List (Option Statement) →
    List (Option Statement × ScanState)
  | _, [] => []
  | state, statement :: rest =>
    let next := state.step variant statement
    (statement, next) :: scanHistory variant next rest

/-- The scan once all lines have been read. -/
def ScanState.finish (state : ScanState) : FileScan :=
  { state.scan with lines := state.line }

def scanText (variant : Variant) (file text : String) : FileScan :=
  (scanStatements variant file (statements variant text)).finish

end ConfigReference
