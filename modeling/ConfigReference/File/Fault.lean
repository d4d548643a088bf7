import ConfigReference.Text.Quoted
import ConfigReference.Text.Utf8

/-!
# Faults of files

An operation on files fails because the tree does not allow it, because a path
cannot name a file at all, or because a file does not hold text.  A fault of
the tree has a number and names the paths that were asked for.
-/

namespace ConfigReference.Text

def Utf8Reason.message : Utf8Reason → String
  | invalidStart => "invalid start byte"
  | invalidContinuation => "invalid continuation byte"
  | unexpectedEnd => "unexpected end of data"

/-- One octet is shown, several are only counted. -/
def Utf8Fault.message (fault : Utf8Fault) : String :=
  let place :=
    if fault.length = 1 then
      s!"byte 0x{hexText 2 fault.octet.toNat} in position {fault.position}"
    else s!"bytes in position {fault.position}-{fault.position + fault.length - 1}"
  s!"'utf-8' codec can't decode {place}: {fault.reason.message}"

end ConfigReference.Text

namespace ConfigReference.File

/-- Why the tree does not allow an operation. -/
inductive Obstacle
  | missing
  | busy
  | alreadyThere
  | notDirectory
  | isDirectory
  | nameTooLong
  deriving DecidableEq, Repr

namespace Obstacle

def number : Obstacle → Nat
  | missing => 2
  | busy => 16
  | alreadyThere => 17
  | notDirectory => 20
  | isDirectory => 21
  | nameTooLong => 36

def text : Obstacle → String
  | missing => "No such file or directory"
  | busy => "Device or resource busy"
  | alreadyThere => "File exists"
  | notDirectory => "Not a directory"
  | isDirectory => "Is a directory"
  | nameTooLong => "File name too long"

end Obstacle

inductive Fault
  /-- The tree does not allow the operation on a path, or the move of a path to
  a target. -/
  | refused (obstacle : Obstacle) (path : String) (target : Option String)
  /-- Every name for a scratch file is taken. -/
  | noScratchName
  /-- A path holds the null character. -/
  | nullInPath
  | notText (fault : Text.Utf8Fault)
  deriving DecidableEq, Repr

namespace Fault

/-- Whether the fault lies in the tree, and not in the form of a path or of the
octets of a file. -/
def isOfTree : Fault → Bool
  | refused _ _ _ => true
  | noScratchName => true
  | nullInPath => false
  | notText _ => false

def message : Fault → String
  | refused obstacle path target =>
    let places := match target with
      | none => Text.quoted path
      | some target => s!"{Text.quoted path} -> {Text.quoted target}"
    s!"[Errno {obstacle.number}] {obstacle.text}: {places}"
  | noScratchName => "[Errno 17] No usable temporary file name found"
  | nullInPath => "embedded null byte"
  | notText fault => fault.message

end Fault

end ConfigReference.File
