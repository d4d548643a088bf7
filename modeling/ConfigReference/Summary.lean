import ConfigReference.Diagnostic

/-!
# Summaries

What a run that made a document has to say about it.
-/

namespace ConfigReference

open Json (Reading)

structure Summary where
  variant : String
  documentPath : String
  /-- Where the schema went; empty if it was not written. -/
  schemaPath : String := ""
  files : Int
  entries : Int
  /-- The entries that the document shows. -/
  rendered : Int
  keys : Int
  diagnostics : List Diagnostic := []
  deriving DecidableEq, Repr

namespace Summary

def toJson (summary : Summary) : Json :=
  .object
    [("variant", .string summary.variant), ("output_path", .string summary.documentPath),
     ("schema_json_path", .string summary.schemaPath), ("files_scanned", .integer summary.files),
     ("total_entries", .integer summary.entries), ("rendered_entries", .integer summary.rendered),
     ("unique_keys", .integer summary.keys),
     ("diagnostics", .list (summary.diagnostics.map Diagnostic.toJson))]

def ofJson : Json → Reading Summary :=
  Json.readRecord fun members =>
    Summary.mk <$> Json.required members "variant" Json.readString
      <*> Json.required members "output_path" Json.readString
      <*> Json.optional members "schema_json_path" "" Json.readString
      <*> Json.required members "files_scanned" Json.readInteger
      <*> Json.required members "total_entries" Json.readInteger
      <*> Json.required members "rendered_entries" Json.readInteger
      <*> Json.required members "unique_keys" Json.readInteger
      <*> Json.optional members "diagnostics" [] (Json.readList Diagnostic.ofJson)

end Summary

end ConfigReference
