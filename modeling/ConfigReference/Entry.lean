import ConfigReference.Json.Reading

/-!
# Entries

An entry is one read of a configuration key in a source file.  A key may be
read in several places, and every read has an entry of its own.
-/

namespace ConfigReference

open Json (Reading)

structure Entry where
  key : String
  accessor : String
  /-- The text of the arguments after the key, which only required reads have. -/
  arguments : Option String := none
  file : String := ""
  line : Int := 0
  deriving DecidableEq, Repr

namespace Entry

def location (entry : Entry) : String :=
  s!"{entry.file}:{entry.line}"

def toJson (entry : Entry) : Json :=
  .object
    [("key_name", .string entry.key), ("accessor_name", .string entry.accessor),
     ("raw_default_args", Json.optionalText entry.arguments),
     ("source_file", .string entry.file), ("line_number", .integer entry.line)]

def ofJson : Json → Reading Entry :=
  Json.readRecord fun members =>
    Entry.mk <$> Json.required members "key_name" Json.readString
      <*> Json.required members "accessor_name" Json.readString
      <*> Json.optional members "raw_default_args" none (Json.readOptional Json.readString)
      <*> Json.optional members "source_file" "" Json.readString
      <*> Json.optional members "line_number" 0 Json.readInteger

end Entry

end ConfigReference
