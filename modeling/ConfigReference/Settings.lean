import ConfigReference.EnvironmentFile
import ConfigReference.Json.Reading
import ConfigReference.Session

/-!
# Settings

Defaults for a run come from the environment: the source root, the variant and
the level from which events are shown.
-/

namespace ConfigReference

open File (Location Path)
open Json (Reading)

/-- The names of the levels, with the numbers of the events they admit. -/
def levelNames : List (String × Nat) :=
  [("CRITICAL", 50), ("FATAL", 50), ("ERROR", 40), ("WARNING", 30), ("WARN", 30), ("INFO", 20),
   ("DEBUG", 10), ("NOTSET", 0)]

/-- The capital form of a letter, as far as the names of levels have it: two
letters beyond ASCII have capitals in ASCII, the dotless i and the long s. -/
def capital (c : Char) : Char :=
  if 'a' ≤ c ∧ c ≤ 'z' then Char.ofNat (c.toNat - 32)
  else if c = 'ı' then 'I'
  else if c = 'ſ' then 'S'
  else c

structure Settings where
  sourceRoot : Path := ⟨.working, []⟩
  variant : String := "config"
  /-- The name of a level. -/
  level : String := "WARNING"
  deriving DecidableEq, Repr

namespace Settings

/-- The name of a level, in any case. -/
def readLevel (value : String) : Reading String :=
  let name := String.ofList (value.toList.map capital)
  if name ∈ levelNames.map Prod.fst then .ok name
  else Json.Reading.fail (.refused s!"Unknown log level: {value}")

def readPath : Json → Reading Path
  | .string text => .ok (Path.ofString text)
  | _ => Json.Reading.fail .notPath

def ofJson : Json → Reading Settings :=
  Json.readRecord fun members =>
    Settings.mk <$> Json.optional members "source_root" ⟨.working, []⟩ readPath
      <*> Json.optional members "variant" "config" Json.readString
      <*> Json.optional members "log_level" "WARNING"
        fun value => (Json.readString value).andThen readLevel

def toJson (settings : Settings) : Json :=
  .object [("source_root", .string settings.sourceRoot.render),
    ("variant", .string settings.variant), ("log_level", .string settings.level)]

/-- A variable that is set to something. -/
def given? (environment : Environment) (name : String) : Option String :=
  (environment.find? name).filter (· ≠ "")

def ofEnvironment (environment : Environment) : Reading Settings :=
  let initial : Settings := {}
  let level := match given? environment "CONFIGDOC_LOG_LEVEL" with
    | some value => (readLevel value).within (.member "log_level")
    | none => .ok initial.level
  (fun level =>
    { sourceRoot := ((given? environment "CONFIGDOC_SOURCE_ROOT").map Path.ofString).getD
        initial.sourceRoot
      variant := (given? environment "CONFIGDOC_VARIANT").getD initial.variant
      level := level }) <$> level

/-- The environment with the variables of the nearest environment file. -/
def extendedEnvironment (surroundings : Surroundings) : Action Environment := do
  let environment := surroundings.environment
  match ← Action.onFiles (EnvironmentFile.read? surroundings.working environment) with
  | none => return environment
  | some text =>
    match EnvironmentFile.extend environment text with
    | .ok extended => return extended
    | .error fault => throw (.unsettable fault)

/-- The settings of a run; an environment file counts only if it is wanted. -/
def load (surroundings : Surroundings) (withFile : Bool) : Action Settings := do
  let environment ←
    if withFile then extendedEnvironment surroundings else pure surroundings.environment
  match ofEnvironment environment with
  | .ok settings => return settings
  | .error problems => throw (.settingsInvalid problems)

/-- The least number of an event that is shown. -/
def threshold (settings : Settings) (verbose : Bool) : Nat :=
  if verbose then Level.debug.number
  else (Table.lookup settings.level levelNames).getD Level.warning.number

/-- Shows events from the level of the settings on. -/
def configureLog (settings : Settings) (verbose : Bool) : Action Unit :=
  modify fun session => { session with threshold := settings.threshold verbose }

end Settings

end ConfigReference
