import ConfigReference.Environment
import ConfigReference.File.Action
import ConfigReference.Text.Blank
import ConfigReference.Text.Split

/-!
# Environment files

Variables can be set in a file beside the sources.  Each binding has a key and,
after an equals sign, a value, which may stand in quotes.  A value can refer to
variables.  The file only adds variables: one that is set keeps its value.  What
cannot be read as a binding is skipped.
-/

namespace ConfigReference.EnvironmentFile

open Text
open File (FileAction Location Path Tree)

/-- A blank that does not end a line. -/
def isLineBlank (c : Char) : Bool :=
  isBlank c && c ≠ '\n'

def skipLineBlanks (text : List Char) : List Char :=
  text.dropWhile isLineBlank

/-- What follows the rest of the current line. -/
def skipLine (text : List Char) : List Char :=
  (text.dropWhile (· ≠ '\n')).drop 1

/-- A key may be announced by the word "export". -/
def skipExport (text : List Char) : List Char :=
  match after? "export".toList text with
  | some rest => if (rest.takeWhile isLineBlank).isEmpty then text else skipLineBlanks rest
  | none => text

def isKeyChar (c : Char) : Bool :=
  c ≠ '=' && c ≠ '#' && !isBlank c

/-- A text up to a mark, and what follows the mark. -/
def upTo? (mark : Char) (text : List Char) : Option (List Char × List Char) :=
  match text.dropWhile (· ≠ mark) with
  | _ :: rest => some (text.takeWhile (· ≠ mark), rest)
  | [] => none

/-- The key at the beginning of a line.  A line that is a comment has none; a
line that cannot begin with a key is malformed. -/
def readKey? (text : List Char) : Option (Option String × List Char) :=
  match text with
  | '#' :: _ => some (none, text)
  | '\'' :: rest =>
    match upTo? '\'' rest with
    | some (c :: key, rest) => some (some (String.ofList (c :: key)), rest)
    | _ => none
  | _ =>
    let key := text.takeWhile isKeyChar
    if key.isEmpty then none else some (some (String.ofList key), text.dropWhile isKeyChar)

/-- What stands between quotes.  A backslash takes the next character along. -/
def quotedBody? (mark : Char) : List Char → Option (List Char × List Char)
  | [] => none
  | '\\' :: c :: rest =>
    (quotedBody? mark rest).map fun (body, rest) => ('\\' :: c :: body, rest)
  | c :: rest =>
    if c = mark then some ([], rest)
    else (quotedBody? mark rest).map fun (body, rest) => (c :: body, rest)

/-- Replaces the escapes of a list: a backslash and a letter stand for a
character. -/
def unescape (escapes : List (Char × Char)) : List Char → List Char
  | [] => []
  | [c] => [c]
  | c :: letter :: rest =>
    match if c = '\\' then Table.lookup letter escapes else none with
    | some meaning => meaning :: unescape escapes rest
    | none => c :: unescape escapes (letter :: rest)

def singleQuoteEscapes : List (Char × Char) :=
  [('\\', '\\'), ('\'', '\'')]

def doubleQuoteEscapes : List (Char × Char) :=
  [('\\', '\\'), ('\'', '\''), ('\"', '\"'), ('a', '\x07'), ('b', '\x08'), ('f', '\x0c'),
   ('n', '\n'), ('r', '\r'), ('t', '\t'), ('v', '\x0b')]

/-- A value without the comment at its end, which needs a blank before it. -/
def cutComment : List Char → List Char
  | [] => []
  | c :: rest =>
    if isBlank c && (rest.dropWhile isBlank).head? = some '#' then [] else c :: cutComment rest

/-- The value that follows an equals sign and its blanks. -/
def readValue? (text : List Char) : Option (List Char × List Char) :=
  match text with
  | '\'' :: rest =>
    match quotedBody? '\'' rest with
    | some (body, rest) => some (unescape singleQuoteEscapes body, rest)
    | none => none
  | '\"' :: rest =>
    match quotedBody? '\"' rest with
    | some (body, rest) => some (unescape doubleQuoteEscapes body, rest)
    | none => none
  | _ =>
    let value := text.takeWhile (· ≠ '\n')
    some (trimEnd (cutComment value), text.dropWhile (· ≠ '\n'))

/-- Skips a comment, if one stands here. -/
def skipComment (text : List Char) : List Char :=
  match skipLineBlanks text with
  | '#' :: rest => rest.dropWhile (· ≠ '\n')
  | _ => text

/-- What follows the end of the line, if nothing else stands before it. -/
def endOfLine? (text : List Char) : Option (List Char) :=
  match skipLineBlanks text with
  | [] => some []
  | '\n' :: rest => some rest
  | _ => none

/-- What follows an equals sign: no value if a blank and a comment follow. -/
def readAssigned? (text : List Char) : Option (List Char × List Char) :=
  match skipLineBlanks text with
  | '#' :: rest =>
    if text.head? = some '#' then readValue? text else some ([], '#' :: rest)
  | text => readValue? text

/-- A key with its value; a key that stands alone has no value. -/
abbrev Binding := String × Option String

/-- Reads a binding and gives what follows it.  A comment is no binding; neither
is a malformed line, which is left from the place where it went wrong. -/
def readBinding (text : List Char) : Option Binding × List Char :=
  let text := skipExport text
  match readKey? text with
  | none => (none, skipLine text)
  | some (key, rest) =>
    let afterKey := skipLineBlanks rest
    let valued : Option (Option String × List Char) := match afterKey with
      | '=' :: rest =>
        (readAssigned? rest).map fun (value, rest) => (some (String.ofList value), rest)
      | _ => some (none, afterKey)
    match valued with
    | none => (none, skipLine (skipLineBlanks (afterKey.drop 1)))
    | some (value, rest) =>
      let rest := skipComment rest
      match endOfLine? rest with
      | some rest => (key.map fun key => (key, value), rest)
      | none => (none, skipLine rest)

/-- Reads bindings from at most the given number of places. -/
def readBindings : (count : Nat) → List Char → List Binding
  | 0, _ => []
  | count + 1, text =>
    match text.dropWhile isBlank with
    | [] => []
    | start =>
      let (binding, rest) := readBinding start
      binding.toList ++ readBindings count rest

/-- The bindings of a text, in its order.  Whatever is read at a place takes up a
character at least. -/
def bindings (text : String) : List Binding :=
  readBindings text.length text.toList

/-- A reference to a variable, with the value that stands for it if it is not
set, and the number of characters of the reference. -/
structure Reference where
  name : String
  fallback : String
  width : Nat

/-- The reference at the beginning of a text: a name in braces after a dollar
sign, and possibly a fallback after a colon and a hyphen. -/
def reference? : List Char → Option Reference
  | '$' :: '\x7b' :: text =>
    let name := text.takeWhile fun c => c ≠ '\x7d' && c ≠ ':'
    match text.drop name.length with
    | '\x7d' :: _ => some ⟨String.ofList name, "", name.length + 3⟩
    | ':' :: '-' :: rest =>
      let fallback := rest.takeWhile (· ≠ '\x7d')
      match rest.drop fallback.length with
      | _ :: _ =>
        some ⟨String.ofList name, String.ofList fallback, name.length + fallback.length + 5⟩
      | [] => none
    | _ => none
  | _ => none

/-- The names of the variables that a text may refer to. -/
def referencesIn : List Char → List String
  | [] => []
  | c :: rest => ((reference? (c :: rest)).map Reference.name).toList ++ referencesIn rest

/-- Replaces the references in a text, of which the first `skipped` characters
are left out. -/
def expandFrom (value : Reference → String) : (skipped : Nat) → List Char → List Char
  | _, [] => []
  | skipped + 1, _ :: rest => expandFrom value skipped rest
  | 0, c :: rest =>
    match reference? (c :: rest) with
    | some reference =>
      (value reference).toList ++ expandFrom value (reference.width - 1) rest
    | none => c :: expandFrom value 0 rest

/-- The value of a reference: a variable that is set wins over one that the file
binds; a key without a value counts as empty. -/
def valueOf (environment : Environment) (bound : Table String (Option String))
    (reference : Reference) : String :=
  match environment.find? reference.name with
  | some value => value
  | none =>
    match bound.find? reference.name with
    | some value => value.getD ""
    | none => reference.fallback

/-- Adds a binding to those before it, with the references in its value
replaced. -/
def addBinding (environment : Environment) (bound : Table String (Option String))
    (binding : Binding) : Table String (Option String) :=
  let expand (value : String) : String :=
    String.ofList (expandFrom (valueOf environment bound) 0 value.toList)
  bound.insert binding.1 (binding.2.map expand)

/-- The environment with the variables of a file. -/
def extend (environment : Environment) (text : String) : Except VariableFault Environment :=
  let bound := (bindings text).foldl (addBinding environment) ∅
  bound.entries.foldlM
    (fun extended (key, value) =>
      match value with
      | some value => extended.supply key value
      | none => .ok extended)
    environment

/-- A location and all locations above it, the nearest first. -/
def ascent (location : Location) : List Location :=
  (List.range (location.length + 1)).map fun levels => location.take (location.length - levels)

def fileName : String := ".env"

/-- The nearest environment file at or above a directory. -/
def nearest? (tree : Tree) (working : Location) : Option Location :=
  ((ascent working).map (· ++ [fileName])).find? fun location =>
    match tree.node? location with
    | some (.file _) => true
    | _ => false

/-- The variable that keeps environment files from being read. -/
def switchName : String := "PYTHON_DOTENV_DISABLED"

/-- A letter without its case, as far as the words below have it. -/
def uncased (c : Char) : Char :=
  if 'A' ≤ c ∧ c ≤ 'Z' then Char.ofNat (c.toNat + 32)
  else if c = 'ſ' then 's'
  else c

def isDisabled (environment : Environment) : Bool :=
  match environment.find? switchName with
  | some value =>
    String.ofList (value.toList.map uncased) ∈ ["1", "true", "t", "yes", "y"]
  | none => false

/-- A text without the byte order mark at its beginning. -/
def withoutMark (text : String) : String :=
  match text.toList with
  | '\uFEFF' :: rest => String.ofList rest
  | _ => text

/-- The text of the nearest file, if one is to be read. -/
def read? (working : Location) (environment : Environment) : FileAction (Option String) := do
  if isDisabled environment then return none
  match nearest? (← FileAction.tree) working with
  | some location =>
    return some (withoutMark (← FileAction.readText working (Path.ofLocation location)))
  | none => return none

end ConfigReference.EnvironmentFile
