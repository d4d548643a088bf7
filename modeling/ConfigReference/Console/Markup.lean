import ConfigReference.Console.Emoji
import ConfigReference.Console.StyledText
import ConfigReference.Literal.Reading
import ConfigReference.Text.Name
import ConfigReference.Text.Quoted

/-!
# Markup

What is printed may hold tags, which style the text between an opening and a
closing one.  A closing tag that closes nothing is a fault; a tag that is not
closed holds up to the end.  A tag can also name an action, with arguments that
have to be literals.  A backslash before a tag makes it plain text, and two
backslashes stand for one that does not.
-/

namespace ConfigReference.Console

open Text

structure Tag where
  name : String
  parameters : Option String := none
  deriving DecidableEq, Repr

namespace Tag

/-- The tag with the given text between its brackets. -/
def ofText (text : List Char) : Tag :=
  let name := String.ofList (text.takeWhile (· ≠ '='))
  match text.dropWhile (· ≠ '=') with
  | _ :: parameters => ⟨name, some (String.ofList parameters)⟩
  | [] => ⟨name, none⟩

/-- The tag as it is written. -/
def text (tag : Tag) : String :=
  match tag.parameters with
  | some parameters => s!"[{tag.name}={parameters}]"
  | none => s!"[{tag.name}]"

/-- What a closing tag closes: a style by its name, or whatever is open. -/
def closes? (tag : Tag) : Option String :=
  match tag.name.toList with
  | '/' :: name => some (trimmed (String.ofList name))
  | _ => none

end Tag

inductive MarkupFault
  | nothingToClose (position : Nat)
  | notOpen (tag : Tag) (position : Nat)
  | style (fault : StyleFault)
  /-- The arguments of an action, in its parameters, are not written as a
  literal. -/
  | malformedArguments (arguments parameters : String) (fault : Literal.Fault)
  /-- The arguments of an action have no value. -/
  | invalidArguments (parameters : String) (fault : Literal.ValueFault)
  deriving DecidableEq, Repr

def MarkupFault.message : MarkupFault → String
  | nothingToClose position => s!"closing tag '[/]' at position {position} has nothing to close"
  | notOpen tag position =>
    s!"closing tag '{tag.text}' at position {position} doesn't match any open tag"
  | style fault => fault.message
  | malformedArguments arguments parameters fault =>
    let place := if fault.isFinal then "" else s!"{quoted arguments} in "
    s!"error parsing {place}{quoted parameters}; {fault.message}"
  | invalidArguments parameters fault =>
    s!"error parsing {quoted parameters}; {fault.message}"

namespace Markup

inductive Piece
  | plain (text : List Char)
  | tag (tag : Tag) (position : Nat)
  deriving DecidableEq, Repr

def beginsTag (c : Char) : Bool :=
  ('a' ≤ c && c ≤ 'z') || c = '#' || c = '/' || c = '@'

/-- The text of the tag whose opening bracket stands before the given text. -/
def tagText? (text : List Char) : Option (List Char) :=
  let inside := text.takeWhile fun c => c ≠ ']' && c ≠ '['
  match inside.head?, text.drop inside.length with
  | some c, ']' :: _ => if beginsTag c then some inside else none
  | _, _ => none

/-- A tag and the number of backslashes before it. -/
structure Found where
  slashes : Nat
  inside : List Char

/-- The tag at the beginning of a text, after any backslashes. -/
def found? (text : List Char) : Option Found :=
  let slashes := (text.takeWhile (· = '\\')).length
  match text.drop slashes with
  | '[' :: rest => (tagText? rest).map (⟨slashes, ·⟩)
  | _ => none

def Found.width (found : Found) : Nat :=
  found.slashes + found.inside.length + 2

/-- What a tag with its backslashes means. -/
def Found.pieces (found : Found) (position : Nat) : List Piece :=
  let pairs := found.slashes / 2
  let kept := if pairs = 0 then [] else [.plain (List.replicate pairs '\\')]
  if found.slashes % 2 = 1 then kept ++ [.plain ('[' :: found.inside ++ [']'])]
  else kept ++ [.tag (Tag.ofText found.inside) (position + 2 * pairs)]

def plainPiece (reversed : List Char) : List Piece :=
  if reversed.isEmpty then [] else [.plain reversed.reverse]

/-- The pieces of a text that begins at a position, of which the first `skipped`
characters are left out.  Plain text before it is given in reverse. -/
def piecesFrom : (position skipped : Nat) → (before : List Char) → List Char → List Piece
  | _, _, before, [] => plainPiece before
  | position, skipped + 1, before, _ :: rest => piecesFrom (position + 1) skipped before rest
  | position, 0, before, c :: rest =>
    match found? (c :: rest) with
    | none => piecesFrom (position + 1) 0 (c :: before) rest
    | some found =>
      plainPiece before ++ found.pieces position ++
        piecesFrom (position + 1) (found.width - 1) [] rest

def pieces (text : List Char) : List Piece :=
  piecesFrom 0 0 [] text

/-- A bracket that begins no tag may have a backslash before it as well. -/
def dropEscapes : List Char → List Char
  | [] => []
  | '\\' :: '[' :: rest => '[' :: dropEscapes rest
  | c :: rest => c :: dropEscapes rest

/-- Controls that would move the cursor are not printed. -/
def movesCursor (c : Char) : Bool :=
  c = '\x07' || c = '\x08' || c = '\x0b' || c = '\x0c' || c = '\r'

def plainText (text : List Char) : List Char :=
  (replaceCodes 0 (dropEscapes text)).filter fun c => !movesCursor c

/-- A tag that is open from a position on, its name in the normal form. -/
structure OpenTag where
  name : String
  parameters : Option String
  start : Nat
  deriving DecidableEq, Repr

namespace OpenTag

/-- The name of the style that a tag stands for; parameters add to it. -/
def style (tag : OpenTag) : String :=
  match tag.parameters with
  | some parameters => tag.name ++ " " ++ parameters
  | none => tag.name

/-- The stretch of a tag that holds up to a position. -/
def span (tag : OpenTag) (stop : Nat) : Span :=
  ⟨tag.start, stop, Style.fault? tag.style⟩

def isAction (tag : OpenTag) : Bool :=
  tag.name.toList.head? = some '@'

/-- The arguments in the parameters of an action, which stand in brackets after
the name of what handles them.  Parameters of another form are all arguments. -/
def argumentsOf (parameters : List Char) : List Char :=
  let handler := parameters.takeWhile fun c => isWordChar c || c = '.'
  match parameters.drop handler.length with
  | [] => "()".toList
  | '(' :: rest =>
    if rest.getLast? = some ')' && !rest.contains '\n' then '(' :: rest else parameters
  | _ => parameters

/-- Evaluates the arguments of an action. -/
def checkArguments (parameters : String) : Except MarkupFault Unit :=
  let arguments := String.ofList (argumentsOf (trim parameters.toList))
  match Literal.readExpression arguments with
  | .error fault => .error (.malformedArguments arguments parameters fault)
  | .ok expression =>
    match Literal.Value.ofWhole expression with
    | .error fault => .error (.invalidArguments parameters fault)
    | .ok _ => .ok ()

/-- The stretch of a tag that is closed at a position.  An action has no style. -/
def close (tag : OpenTag) (stop : Nat) : Except MarkupFault Span := do
  if tag.isAction then
    match tag.parameters with
    | some parameters => if parameters ≠ "" then checkArguments parameters
    | none => pure ()
    return ⟨tag.start, stop, none⟩
  else return tag.span stop

end OpenTag

/-- What is read so far. -/
structure Progress where
  text : List Char := []
  /-- The tags that are open, the innermost first. -/
  opened : List OpenTag := []
  /-- The stretches of closed tags, the last closed first. -/
  closed : List Span := []

namespace Progress

def openTag (progress : Progress) (tag : Tag) : Except MarkupFault Progress := do
  match Style.normalName tag.name with
  | .ok name =>
    let opened : OpenTag := ⟨name, tag.parameters, progress.text.length⟩
    return { progress with opened := opened :: progress.opened }
  | .error fault => throw (.style fault)

def closeTag (progress : Progress) (tag : OpenTag) : Except MarkupFault Progress := do
  let span ← tag.close progress.text.length
  return { progress with
    opened := progress.opened.erase tag
    closed := span :: progress.closed }

/-- Closes the innermost tag that is open. -/
def closeLast (progress : Progress) (position : Nat) : Except MarkupFault Progress :=
  match progress.opened with
  | [] => .error (.nothingToClose position)
  | tag :: _ => progress.closeTag tag

/-- Closes the innermost tag with the name that a closing tag gives. -/
def closeNamed (progress : Progress) (name : String) (tag : Tag) (position : Nat) :
    Except MarkupFault Progress :=
  match Style.normalName name with
  | .error fault => .error (.style fault)
  | .ok name =>
    match progress.opened.find? fun opened => opened.name = name with
    | none => .error (.notOpen tag position)
    | some opened => progress.closeTag opened

def add (progress : Progress) : Piece → Except MarkupFault Progress
  | .plain text => .ok { progress with text := progress.text ++ plainText text }
  | .tag tag position =>
    match tag.closes? with
    | none => progress.openTag tag
    | some "" => progress.closeLast position
    | some name => progress.closeNamed name tag position

/-- Puts a stretch before all that do not begin earlier. -/
def insertSpan (span : Span) : List Span → List Span
  | [] => [span]
  | other :: rest =>
    if span.start ≤ other.start then span :: other :: rest else other :: insertSpan span rest

/-- The text with its styles, in the order in which they begin.  Of stretches
that begin at one position, that of the tag closed last comes first. -/
def styled (progress : Progress) : StyledText where
  text := progress.text
  spans :=
    let unclosed := progress.opened.reverse.map fun tag => tag.span progress.text.length
    (unclosed ++ progress.closed).foldr insertSpan []

end Progress

/-- The text of a markup with its styles. -/
def read (markup : String) : Except MarkupFault StyledText := do
  return (← (pieces markup.toList).foldlM Progress.add {}).styled

end Markup

end ConfigReference.Console
