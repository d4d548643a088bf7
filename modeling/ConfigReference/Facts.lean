import ConfigReference.Json.Reading

/-!
# Facts about a key

What is known about a key beside the reads of it: when a changed value takes
effect, and whether a failed read aborts the operation.  Facts only accumulate.
-/

namespace ConfigReference

open Json (Reading)

/-- When a changed value takes effect. -/
inductive ReloadMode
  | notReloadable
  | nextSession
  | instant
  | unset
  deriving DecidableEq, Repr

namespace ReloadMode

def all : List ReloadMode := [notReloadable, nextSession, instant, unset]

def label : ReloadMode → String
  | notReloadable => "not_reloadable"
  | nextSession => "next_session"
  | instant => "instant"
  | unset => "unset"

def ofLabel? (label : String) : Option ReloadMode :=
  all.find? fun mode => mode.label = label

def ofJson : Json → Reading ReloadMode
  | .string name =>
    match ofLabel? name with
    | some mode => .ok mode
    | none => Json.Reading.fail (.notEnumerated (all.map label))
  | _ => Json.Reading.fail (.notEnumerated (all.map label))

end ReloadMode

structure Facts where
  reload : ReloadMode := .unset
  failFast : Bool := false
  deriving DecidableEq, Repr

namespace Facts

/-- Adds further facts: a reload mode that is set replaces the earlier one, and
the fail-fast mark is never taken back. -/
def merge (facts further : Facts) : Facts where
  reload := if further.reload = .unset then facts.reload else further.reload
  failFast := facts.failFast || further.failFast

def toJson (facts : Facts) : Json :=
  .object [("reload_mode", .string facts.reload.label), ("fail_on_error", .bool facts.failFast)]

def ofJson : Json → Reading Facts :=
  Json.readRecord fun members =>
    Facts.mk <$> Json.optional members "reload_mode" .unset ReloadMode.ofJson
      <*> Json.optional members "fail_on_error" false Json.readFlag

end Facts

end ConfigReference
