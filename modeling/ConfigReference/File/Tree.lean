import ConfigReference.File.Fault
import ConfigReference.File.Path
import ConfigReference.Table

/-!
# File trees

A tree says for each location whether there is a directory or a file, and which
octets a file holds.  The root is always a directory.  A path is followed name
by name: each step needs a directory to start from, and a node to arrive at.
-/

namespace ConfigReference.File

inductive Node
  | directory
  | file (octets : List UInt8)
  deriving DecidableEq, Repr

/-- Nodes are filed by depth and location: locations of different depths are
told apart without a look at their names. -/
structure Tree where
  nodes : Table (Nat × Location) Node := ∅

namespace Tree

@[ext]
theorem ext {left right : Tree} (hnodes : left.nodes = right.nodes) : left = right := by
  cases left
  cases right
  subst hnodes
  rfl

def filedAt (location : Location) : Nat × Location :=
  (location.length, location)

/-- The nodes other than the root, with their locations. -/
def entries (tree : Tree) : List (Location × Node) :=
  tree.nodes.entries.map fun (filed, node) => (filed.2, node)

def node? (tree : Tree) (location : Location) : Option Node :=
  if location = [] then some .directory else tree.nodes.find? (filedAt location)

def isDirectory (tree : Tree) (location : Location) : Bool :=
  tree.node? location = some .directory

def put (tree : Tree) (location : Location) (node : Node) : Tree :=
  ⟨tree.nodes.insert (filedAt location) node⟩

def erase (tree : Tree) (location : Location) : Tree :=
  ⟨tree.nodes.erase (filedAt location)⟩

/-- A name may have at most 255 octets. -/
def isTooLong (name : String) : Bool :=
  name.utf8ByteSize > 255

/-- One step on a path. -/
def enter (tree : Tree) (here : Location) (part : String) : Except Obstacle Location :=
  match tree.node? here with
  | none => .error .missing
  | some (.file _) => .error .notDirectory
  | some .directory =>
    if part = ".." then .ok here.dropLast
    else if isTooLong part then .error .nameTooLong
    else if (tree.node? (here ++ [part])).isSome then .ok (here ++ [part])
    else .error .missing

/-- The location that the names of a path lead to. -/
def walk (tree : Tree) : Location → List String → Except Obstacle Location
  | here, [] => .ok here
  | here, part :: rest =>
    match tree.enter here part with
    | .ok next => walk tree next rest
    | .error obstacle => .error obstacle

/-- The node that a path leads to, with its location. -/
def find (tree : Tree) (working : Location) (path : Path) : Except Obstacle (Location × Node) :=
  if path.isTooLong then .error .nameTooLong
  else
    match tree.walk (path.start working) path.parts with
    | .error obstacle => .error obstacle
    | .ok location =>
      match tree.node? location with
      | some node => .ok (location, node)
      | none => .error .missing

/-- The location that a new node with the path would get; a path that ends in
`..` or has no names gives none. -/
def slot (tree : Tree) (working : Location) (path : Path) : Except Obstacle (Option Location) :=
  if path.isTooLong then .error .nameTooLong
  else
    match path.parts.getLast? with
    | none => .ok none
    | some name =>
      match tree.walk (path.start working) path.parts.dropLast with
      | .error obstacle => .error obstacle
      | .ok directory =>
        match tree.node? directory with
        | some .directory =>
          if name = ".." then .ok none
          else if isTooLong name then .error .nameTooLong
          else .ok (some (directory ++ [name]))
        | some (.file _) => .error .notDirectory
        | none => .error .missing

def leadsToDirectory (tree : Tree) (working : Location) (path : Path) : Bool :=
  match tree.find working path with
  | .ok (_, .directory) => true
  | _ => false

def makeDirectory (tree : Tree) (working : Location) (path : Path) : Except Obstacle Tree :=
  match tree.slot working path with
  | .error obstacle => .error obstacle
  | .ok none => .error .alreadyThere
  | .ok (some location) =>
    if (tree.node? location).isSome then .error .alreadyThere
    else .ok (tree.put location .directory)

/-- Makes an empty file where there is nothing, and gives its location. -/
def makeFile (tree : Tree) (working : Location) (path : Path) :
    Except Obstacle (Location × Tree) :=
  match tree.slot working path with
  | .error obstacle => .error obstacle
  | .ok none => .error .isDirectory
  | .ok (some location) =>
    if (tree.node? location).isSome then .error .alreadyThere
    else .ok (location, tree.put location (.file []))

/-- Adds octets at the end of a file, which is made if it is missing. -/
def append (tree : Tree) (working : Location) (path : Path) (octets : List UInt8) :
    Except Obstacle Tree :=
  match tree.slot working path with
  | .error obstacle => .error obstacle
  | .ok none => .error .isDirectory
  | .ok (some location) =>
    match tree.node? location with
    | some .directory => .error .isDirectory
    | some (.file present) => .ok (tree.put location (.file (present ++ octets)))
    | none => .ok (tree.put location (.file octets))

/-- Moves a file to a path, where it takes the place of a file that is there. -/
def replace (tree : Tree) (working source : Location) (target : Path) : Except Obstacle Tree :=
  match tree.slot working target with
  | .error obstacle => .error obstacle
  | .ok none => .error .busy
  | .ok (some location) =>
    match tree.node? source, tree.node? location with
    | some (.file _), some .directory => .error .isDirectory
    | some (.file octets), _ => .ok ((tree.erase source).put location (.file octets))
    | _, _ => .error .missing

def octets (tree : Tree) (working : Location) (path : Path) : Except Obstacle (List UInt8) :=
  match tree.find working path with
  | .ok (_, .file octets) => .ok octets
  | .ok (_, .directory) => .error .isDirectory
  | .error obstacle => .error obstacle

end Tree

end ConfigReference.File
