import ConfigReference.Diagnostic
import ConfigReference.File.Action
import ConfigReference.Json.Printer

/-!
# Diagnostic logs

Diagnostics can be kept in a log: each is written as one line of JSON at the end
of a file.  A log counts what it has written.
-/

namespace ConfigReference

open File (FileAction Location Path)

structure LogCounts where
  logged : Nat := 0
  orphaned : Nat := 0
  unrecognized : Nat := 0
  deriving DecidableEq, Repr

def LogCounts.add (counts : LogCounts) : DiagnosticKind → LogCounts
  | .orphanedStatement =>
    { counts with logged := counts.logged + 1, orphaned := counts.orphaned + 1 }
  | .unrecognizedAccessor =>
    { counts with logged := counts.logged + 1, unrecognized := counts.unrecognized + 1 }

structure DiagnosticLog where
  path : Path
  counts : LogCounts := {}
  deriving DecidableEq, Repr

namespace DiagnosticLog

/-- Makes the file of a log, unless it is there, and the directories above it. -/
def start (working : Location) (path : Path) : FileAction DiagnosticLog := do
  FileAction.makeParents working path
  FileAction.touch working path
  return { path := path }

/-- The line for a diagnostic, without its end. -/
def line (time variant : String) (diagnostic : Diagnostic) : String :=
  (Json.object
    (("timestamp", .string time) :: ("variant", .string variant) :: diagnostic.members)).toLine

def write (working : Location) (time variant : String) (log : DiagnosticLog)
    (diagnostic : Diagnostic) : FileAction DiagnosticLog := do
  FileAction.append working log.path (line time variant diagnostic ++ "\n")
  return { log with counts := log.counts.add diagnostic.kind }

/-- Writes several lines, each with a time of its own. -/
def writeAll (working : Location) (times : Nat → String) (variant : String) (log : DiagnosticLog)
    (diagnostics : List Diagnostic) : FileAction DiagnosticLog :=
  diagnostics.zipIdx.foldlM
    (fun log (diagnostic, index) => write working (times index) variant log diagnostic) log

end DiagnosticLog

end ConfigReference
