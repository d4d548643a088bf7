import ConfigReference.Scan

/-!
# Schemas

A schema collects the scans of several files in their order.  Facts about a key
accumulate: a later file replaces a reload mode only if it sets one, and no file
takes back a fail-fast mark.
-/

namespace ConfigReference

open Json (Reading)

structure Schema where
  entries : List Entry := []
  facts : Table String Facts := ∅
  diagnostics : List Diagnostic := []
  files : List String := []

namespace Schema

/-- The facts about a key; of a key without any nothing is known. -/
def factsOf (schema : Schema) (key : String) : Facts :=
  (schema.facts.find? key).getD {}

/-- Adds facts about a key to those that are known. -/
def mergeFacts (table : Table String Facts) (pair : String × Facts) : Table String Facts :=
  table.update pair.1 {} (·.merge pair.2)

def add (schema : Schema) (scan : FileScan) : Schema where
  entries := schema.entries ++ scan.entries
  facts := scan.facts.entries.foldl mergeFacts schema.facts
  diagnostics := schema.diagnostics ++ scan.diagnostics
  files := schema.files ++ [scan.file]

def ofScans (scans : List FileScan) : Schema :=
  scans.foldl add {}

/-- Changes the facts about a key that the schema knows. -/
def amend (schema : Schema) (key : String) (further : Facts) : Schema :=
  if schema.facts.contains key then
    { schema with facts := mergeFacts schema.facts (key, further) }
  else schema

/-- The number of distinct keys that are read. -/
def keyCount (schema : Schema) : Nat :=
  (schema.entries.map Entry.key).eraseDups.length

def toJson (schema : Schema) : Json :=
  .object
    [("entries", .list (schema.entries.map Entry.toJson)),
     ("metadata", .object (schema.facts.entries.map fun (key, facts) => (key, facts.toJson))),
     ("diagnostics", .list (schema.diagnostics.map Diagnostic.toJson)),
     ("source_files", .list (schema.files.map .string))]

def ofJson : Json → Reading Schema :=
  Json.readRecord fun members =>
    Schema.mk <$> Json.optional members "entries" [] (Json.readList Entry.ofJson)
      <*> Json.optional members "metadata" ∅ (Json.readTable Facts.ofJson)
      <*> Json.optional members "diagnostics" [] (Json.readList Diagnostic.ofJson)
      <*> Json.optional members "source_files" [] (Json.readList Json.readString)

end Schema

end ConfigReference
