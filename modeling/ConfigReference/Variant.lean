import ConfigReference.Json.Reading
import ConfigReference.Text.Split

/-!
# Variants

A variant says which document is made: the files that are scanned, how reads
are spelled in them, and how the document is written.  Two variants are built
in; others are read from JSON.
-/

namespace ConfigReference

open Json (Reading)

/-- Constants whose meaning is known in every document. -/
def knownConstants : Table String String :=
  Table.ofList
    [("MAP_TRANSFERS_AUTOMATIC", "auto"), ("COMMAND_PERMISSIONS_AUTO", "auto"),
     ("REALM_AUTH_PVPGN", "pvpgn"), ("CFG.GetHomeDir(", "Aura home directory"),
     ("CFG->GetHomeDir(", "Aura home directory")]

structure Variant where
  name : String
  title : String
  /-- What the keys of the document configure. -/
  noun : String
  /-- Where the document goes, below the source root. -/
  documentPath : String
  sourceFiles : List String
  /-- The object whose members are the accessors. -/
  receiver : String := "CFG"
  /-- The tokens for access to a member. -/
  separators : List String := ["->"]
  /-- Files whose keys take effect with the next session. -/
  sessionFiles : List String := []
  /-- Files whose keys take effect at once. -/
  instantFiles : List String := []
  strictAppliesToOptional : Bool := false
  indexIsEnum : Bool := false
  listDefaults : Bool := false
  escapeBrackets : Bool := false
  bulletAttributes : Bool := false
  /-- Descriptions of the default value of a key. -/
  overrides : Table String String := ∅
  constants : Table String String := knownConstants
  excludedSuffixes : List String := []
  excludedParts : List String := []

namespace Variant

/-- The ways in which the receiver begins a statement. -/
def spellings (variant : Variant) : List String :=
  variant.separators.map (variant.receiver ++ ·)

/-- Keys that are left out of the document. -/
def excludes (variant : Variant) (key : String) : Bool :=
  (variant.excludedSuffixes.any fun ending => ending.toList.isSuffixOf key.toList) ||
    variant.excludedParts.any fun part => Text.occursIn part.toList key.toList

/-- The reference of the program's own configuration. -/
def config : Variant where
  name := "config"
  title := "Config"
  noun := "config"
  documentPath := "CONFIG.md"
  sourceFiles :=
    ["src/net.cpp", "src/config_bot.cpp", "src/config_game.cpp", "src/config_irc.cpp",
     "src/config_net.cpp", "src/config_realm.cpp"]
  sessionFiles := ["src/config_game.cpp"]
  excludedSuffixes := ["--but_its_hardcoded"]
  excludedParts := [".gameranger."]

/-- The reference of the configuration of maps. -/
def map : Variant where
  name := "map"
  title := "Map"
  noun := "map"
  documentPath := "CONFIG_MAPS.md"
  sourceFiles := ["src/map.cpp", "src/game_result.cpp"]
  separators := [".", "->"]
  strictAppliesToOptional := true
  indexIsEnum := true
  listDefaults := true
  escapeBrackets := true
  bulletAttributes := true
  overrides :=
    Table.ofList
      [("net.host_port.min", "<net.host_port.only>"), ("net.host_port.max", "<net.host_port.min>")]

def builtIn : List Variant := [config, map]

def named? (name : String) : Option Variant :=
  builtIn.find? fun variant => variant.name = name

def stringList (texts : List String) : Json :=
  .list (texts.map .string)

def stringTable (table : Table String String) : Json :=
  .object (table.entries.map fun (name, text) => (name, .string text))

def members (variant : Variant) : List (String × Json) :=
  [("name", .string variant.name), ("title", .string variant.title),
   ("noun", .string variant.noun), ("output_path", .string variant.documentPath),
   ("source_files", stringList variant.sourceFiles), ("receiver", .string variant.receiver),
   ("separators", stringList variant.separators),
   ("session_scoped_files", stringList variant.sessionFiles),
   ("instant_reload_files", stringList variant.instantFiles),
   ("strict_applies_to_optional", .bool variant.strictAppliesToOptional),
   ("string_index_as_enum", .bool variant.indexIsEnum),
   ("list_defaults", .bool variant.listDefaults),
   ("escape_angle_brackets", .bool variant.escapeBrackets),
   ("bullet_attributes", .bool variant.bulletAttributes),
   ("default_overrides", stringTable variant.overrides),
   ("named_constants", stringTable variant.constants),
   ("excluded_key_suffixes", stringList variant.excludedSuffixes),
   ("excluded_key_substrings", stringList variant.excludedParts)]

def ofJson : Json → Reading Variant :=
  Json.readRecord fun members =>
    Variant.mk <$> Json.required members "name" Json.readString
      <*> Json.required members "title" Json.readString
      <*> Json.required members "noun" Json.readString
      <*> Json.required members "output_path" Json.readString
      <*> Json.required members "source_files" (Json.readList Json.readString)
      <*> Json.optional members "receiver" "CFG" Json.readString
      <*> Json.optional members "separators" ["->"] (Json.readList Json.readString)
      <*> Json.optional members "session_scoped_files" [] (Json.readList Json.readString)
      <*> Json.optional members "instant_reload_files" [] (Json.readList Json.readString)
      <*> Json.optional members "strict_applies_to_optional" false Json.readFlag
      <*> Json.optional members "string_index_as_enum" false Json.readFlag
      <*> Json.optional members "list_defaults" false Json.readFlag
      <*> Json.optional members "escape_angle_brackets" false Json.readFlag
      <*> Json.optional members "bullet_attributes" false Json.readFlag
      <*> Json.optional members "default_overrides" ∅ (Json.readTable Json.readString)
      <*> Json.optional members "named_constants" knownConstants (Json.readTable Json.readString)
      <*> Json.optional members "excluded_key_suffixes" [] (Json.readList Json.readString)
      <*> Json.optional members "excluded_key_substrings" [] (Json.readList Json.readString)

end Variant

end ConfigReference
