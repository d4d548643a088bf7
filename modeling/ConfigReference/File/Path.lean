import ConfigReference.Text.Split

/-!
# Paths

A path is a row of names that starts at the root of the tree or at the working
directory.  Empty names and names that mean "here" say nothing, so a path does
not keep them; `..` is kept, since what it leads to depends on the tree.
-/

namespace ConfigReference.File

/-- Where a path starts.  A path that begins with exactly two slashes keeps
both. -/
inductive Anchor
  | working
  | root
  | doubleRoot
  deriving DecidableEq, Repr

def Anchor.text : Anchor → String
  | working => ""
  | root => "/"
  | doubleRoot => "//"

/-- A place in the tree: the names on the way from its root. -/
abbrev Location := List String

structure Path where
  anchor : Anchor
  parts : List String
  deriving DecidableEq, Repr

namespace Path

def partsOf (text : List Char) : List String :=
  ((Text.splitAt '/' text).map String.ofList).filter fun part => part ≠ "" && part ≠ "."

def anchorOf : List Char → Anchor
  | '/' :: '/' :: '/' :: _ => .root
  | '/' :: '/' :: _ => .doubleRoot
  | '/' :: _ => .root
  | _ => .working

def ofString (text : String) : Path :=
  ⟨anchorOf text.toList, partsOf text.toList⟩

/-- The path of a location. -/
def ofLocation (location : Location) : Path :=
  ⟨.root, location⟩

def render (path : Path) : String :=
  let text := path.anchor.text ++ Text.joined "/" path.parts
  if text = "" then "." else text

/-- The last name; a path without names has the empty one. -/
def name (path : Path) : String :=
  path.parts.getLastD ""

def parent (path : Path) : Path :=
  { path with parts := path.parts.dropLast }

/-- A path seen from another one; a path from the root stays as it is. -/
def join (path further : Path) : Path :=
  if further.anchor = .working then { path with parts := path.parts ++ further.parts }
  else further

/-- Where a path starts, seen from a working directory. -/
def start (working : Location) (path : Path) : Location :=
  if path.anchor = .working then working else []

/-- Goes on to a name, where `..` goes back by one name. -/
def advance (location : Location) (part : String) : Location :=
  if part = ".." then location.dropLast else location ++ [part]

/-- The location that the names of a path spell out, whatever the tree holds. -/
def locate (working : Location) (path : Path) : Location :=
  path.parts.foldl advance (path.start working)

/-- The path from the root to the same place. -/
def absolute (working : Location) (path : Path) : Path where
  anchor := if path.anchor = .working then .root else path.anchor
  parts := path.locate working

/-- Whether a path holds the null character, which no file name has. -/
def hasNull (path : Path) : Bool :=
  path.parts.any fun part => part.toList.contains '\x00'

/-- A path may have at most 4095 octets. -/
def isTooLong (path : Path) : Bool :=
  path.render.utf8ByteSize > 4095

/-- A name cut before its last dot, unless the dot begins or ends the name. -/
def cutName (name : String) : String × String :=
  let reversed := name.toList.reverse
  let extension := reversed.takeWhile (· ≠ '.')
  match reversed.dropWhile (· ≠ '.') with
  | _ :: stem =>
    if extension.isEmpty || stem.isEmpty then (name, "")
    else (String.ofList stem.reverse, String.ofList ('.' :: extension.reverse))
  | [] => (name, "")

def stem (path : Path) : String :=
  (cutName path.name).1

def suffix (path : Path) : String :=
  (cutName path.name).2

/-- Whether a text can stand in the place of a name: it spells exactly one. -/
def isName (name : String) : Bool :=
  name ≠ "" && name.toList.getLast? ≠ some '/' && anchorOf name.toList = .working &&
    (partsOf name.toList).length = 1

/-- The path with another last name. -/
def withName (path : Path) (name : String) : Path :=
  { path with parts := path.parts.dropLast ++ [name] }

end Path

end ConfigReference.File
