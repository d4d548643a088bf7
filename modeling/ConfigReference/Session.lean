import ConfigReference.Console
import ConfigReference.Event
import ConfigReference.Failure
import ConfigReference.File.AtomicWrite

/-!
# Sessions

A run works in a session: it changes files, reports events and prints.  It may
fail; what was done, reported and printed before stays.  What surrounds the run
and does not change is given to it: the working directory, the environment, the
times of log lines, the wording of accounts, the names it may use for scratch
files, and the faults from outside that strike its writes.
-/

namespace ConfigReference

open File (FileAction Fault History Interruption Location Path)

structure Surroundings where
  working : Location := []
  environment : Environment := ∅
  /-- The time at which a log gets its line of the given number, as it is written
  there. -/
  clock : Nat → String := fun _ => ""
  /-- The account that is given of a text with problems. -/
  account : String → List Json.Problem → String := fun _ _ => ""
  /-- Endings for the names of scratch files. -/
  suffixes : List String := []
  /-- What strikes a write to a path, if anything does. -/
  interruption : Path → Option Interruption := fun _ => none

structure Session where
  files : History := {}
  events : List Event := []
  /-- What was shown of the events. -/
  logged : List String := []
  printed : List Printed := []
  /-- Events below this level number are not shown. -/
  threshold : Nat := Level.warning.number

abbrev Action := EStateM Failure Session

namespace Action

def report (events : List Event) : Action Unit :=
  modify fun session =>
    let shown := events.filter fun event => session.threshold ≤ event.level.number
    { session with
      events := session.events ++ events
      logged := session.logged ++ shown.map Event.message }

/-- Prints something; if its markup is at fault, nothing of it is printed. -/
def print (output : Output) : Action Unit := do
  match output.render with
  | .ok printed => modify fun session => { session with printed := session.printed ++ [printed] }
  | .error fault => throw (.markup fault)

/-- Works on the files of the session; a fault becomes the failure that it
means to the run. -/
def onFiles {α : Type} (action : FileAction α) (failure : Fault → Failure := .file) : Action α :=
  fun session =>
    match action session.files with
    | .ok value files => .ok value { session with files := files }
    | .error fault files => .error (failure fault) { session with files := files }

end Action

/-- The lines that were shown of the log; empty ones are left out. -/
def Session.logLines (session : Session) : List String :=
  (session.logged.flatMap fun text => (Text.splitAt '\n' text.toList).map String.ofList).filter
    (· ≠ "")

end ConfigReference
