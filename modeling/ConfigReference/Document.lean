import ConfigReference.Argument
import ConfigReference.Schema

/-!
# The reference document

The document has a header and one block for each entry that the variant does
not exclude.  Blocks are sorted by key; the reads of one key stay in the order
in which they were found.
-/

namespace ConfigReference

namespace Document

/-- The entries of the document, in its order. -/
def entries (variant : Variant) (schema : Schema) : List Entry :=
  (schema.entries.filter fun entry => !variant.excludes entry.key).mergeSort
    fun left right => decide (left.key ≤ right.key)

/-- What is said about an entry: a heading with the key, then its attributes. -/
structure Block where
  key : String
  attributes : List String
  deriving DecidableEq, Repr

def reloadNote : ReloadMode → List String
  | .nextSession => ["Reloadable: Yes, but it doesn't affect currently hosted games."]
  | .instant => ["Reloadable: Yes."]
  | .notReloadable => ["Reloadable: Cannot be reloaded."]
  | .unset => []

def constraintNote (entry : Entry) : List String :=
  match Argument.lengthBounds entry.accessor (entry.arguments.getD "") with
  | [] => []
  | bounds =>
    let text := Text.joined ". " bounds
    [s!"Constraints: {text}."]

def abortNote : String := "Error handling: Abort operation"

/-- The default value of a read with arguments. -/
def defaultNote (variant : Variant) (entry : Entry) : List String :=
  let arguments := entry.arguments.getD ""
  if arguments = "" then []
  else
    let value := Argument.defaultValue variant.overrides variant.constants variant.listDefaults
      entry.key arguments
    [s!"Default value: {value}"]

/-- What happens if there is no value for the key, or a wrong one. -/
def handlingNotes (variant : Variant) (entry : Entry) (type : KeyType) (facts : Facts) :
    List String :=
  if type.optional then
    "Optional key: Yes" :: if facts.failFast then [abortNote] else []
  else
    defaultNote variant entry ++
      [if facts.failFast then abortNote else "Error handling: Use default value"]

def block (variant : Variant) (schema : Schema) (entry : Entry) : Block :=
  let type := Accessor.classify variant.indexIsEnum entry.accessor
  let facts := schema.factsOf entry.key
  { key := entry.key
    attributes :=
      s!"Type: {type.display}" :: constraintNote entry ++
        handlingNotes variant entry type facts ++ reloadNote facts.reload }

def heading (key : String) : String :=
  s!"## `{key}`"

/-- The lines of a block, with an empty line at its end. -/
def Block.lines (variant : Variant) (block : Block) : List String :=
  let bullet := if variant.bulletAttributes then "- " else ""
  heading block.key :: block.attributes.map (bullet ++ ·) ++ [""]

def header (variant : Variant) : List String :=
  [variant.title, "==========", s!"# Supported {variant.noun} keys"]

def lines (variant : Variant) (schema : Schema) : List String :=
  header variant ++
    ((entries variant schema).map (block variant schema)).flatMap (Block.lines variant)

/-- Puts a backslash before every angle bracket. -/
def escapeBrackets (text : List Char) : List Char :=
  text.flatMap fun c => if c = '<' || c = '>' then ['\\', c] else [c]

def content (variant : Variant) (schema : Schema) : String :=
  let text := Text.joined "\n" (lines variant schema)
  if variant.escapeBrackets then String.ofList (escapeBrackets text.toList) else text

/-- A report of each entry whose accessor does not say what it reads. -/
def diagnostics (variant : Variant) (schema : Schema) : List Diagnostic :=
  (entries variant schema).filterMap fun entry =>
    if (Accessor.classify variant.indexIsEnum entry.accessor).recognized then none
    else some (Diagnostic.unrecognized entry.accessor entry.file entry.line entry.key)

end Document

end ConfigReference
