import ConfigReference.Json.Reading
import ConfigReference.Text.LowerCase
import ConfigReference.Text.Split

/-!
# Accessors

The name of an accessor says what it reads: a leading `GetMaybe` marks the read
of an optional key and a leading `Get` that of a required one, and the rest of
the name is the type of the value.
-/

namespace ConfigReference

open Json (Reading)

/-- The type of a key as its accessor tells it. -/
structure KeyType where
  name : String
  optional : Bool
  recognized : Bool := true
  deriving DecidableEq, Repr

namespace KeyType

/-- The type name as it is shown. -/
def display (type : KeyType) : String :=
  if type.name = "" then "unknown" else type.name

def ofJson : Json → Reading KeyType :=
  Json.readRecord fun members =>
    KeyType.mk <$> Json.required members "semantic_type" Json.readString
      <*> Json.required members "optional" Json.readFlag
      <*> Json.optional members "recognized" true Json.readFlag

end KeyType

namespace Accessor

def optionalLead : List Char := "GetMaybe".toList

def requiredLead : List Char := "Get".toList

/-- The type that the rest of an accessor name denotes.  An index into a list of
texts is an enumeration if the document calls it so. -/
def typeName (indexIsEnum : Bool) (rest : List Char) : String :=
  let name := String.ofList (Text.lower rest)
  if indexIsEnum && name = "stringindex" then "enum" else name

def classify (indexIsEnum : Bool) (accessor : String) : KeyType :=
  match Text.after? optionalLead accessor.toList with
  | some rest => ⟨typeName indexIsEnum rest, true, true⟩
  | none =>
    match Text.after? requiredLead accessor.toList with
    | some rest => ⟨typeName indexIsEnum rest, false, true⟩
    | none => ⟨"", false, false⟩

end Accessor

end ConfigReference
