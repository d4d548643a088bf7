import ConfigReference.Json.Reading

/-!
# Diagnostics

Problems in the scanned sources are reported and do not stop a run.
-/

namespace ConfigReference

open Json (Reading)

inductive DiagnosticKind
  /-- A fail-fast statement that no read precedes. -/
  | orphanedStatement
  /-- An accessor whose name does not say what it reads. -/
  | unrecognizedAccessor
  deriving DecidableEq, Repr

namespace DiagnosticKind

def all : List DiagnosticKind := [orphanedStatement, unrecognizedAccessor]

def label : DiagnosticKind → String
  | orphanedStatement => "orphaned_statement"
  | unrecognizedAccessor => "unrecognized_accessor"

def ofLabel? (label : String) : Option DiagnosticKind :=
  all.find? fun kind => kind.label = label

def ofJson : Json → Reading DiagnosticKind
  | .string name =>
    match ofLabel? name with
    | some kind => .ok kind
    | none => Json.Reading.fail (.notLiteral (all.map label))
  | _ => Json.Reading.fail (.notLiteral (all.map label))

end DiagnosticKind

structure Diagnostic where
  kind : DiagnosticKind
  message : String
  file : String := ""
  line : Int := 0
  key : Option String := none
  deriving DecidableEq, Repr

namespace Diagnostic

def orphaned (file : String) (line : Nat) : Diagnostic where
  kind := .orphanedStatement
  message := s!"Fail-fast statement without a preceding config read at {file}:{line}"
  file := file
  line := line

def unrecognized (accessor : String) (file : String) (line : Int) (key : String) : Diagnostic where
  kind := .unrecognizedAccessor
  message := s!"Unhandled accessor name {accessor}"
  file := file
  line := line
  key := some key

/-- Where the problem is; a diagnostic without a file has no place. -/
def location (diagnostic : Diagnostic) : String :=
  if diagnostic.file = "" then "-" else s!"{diagnostic.file}:{diagnostic.line}"

def members (diagnostic : Diagnostic) : List (String × Json) :=
  [("kind", .string diagnostic.kind.label), ("message", .string diagnostic.message),
   ("source_file", .string diagnostic.file), ("line_number", .integer diagnostic.line),
   ("key_name", Json.optionalText diagnostic.key)]

def toJson (diagnostic : Diagnostic) : Json :=
  .object diagnostic.members

def ofJson : Json → Reading Diagnostic :=
  Json.readRecord fun members =>
    Diagnostic.mk <$> Json.required members "kind" DiagnosticKind.ofJson
      <*> Json.required members "message" Json.readString
      <*> Json.optional members "source_file" "" Json.readString
      <*> Json.optional members "line_number" 0 Json.readInteger
      <*> Json.optional members "key_name" none (Json.readOptional Json.readString)

end Diagnostic

end ConfigReference
