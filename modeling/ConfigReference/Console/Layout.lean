import ConfigReference.Console.StyledText
import ConfigReference.Text.Blank
import ConfigReference.Text.Split

/-!
# Layout

A frame is made as wide as its widest line.  The width is taken before tabs are
filled up with blanks, so a line with tabs can turn out wider than its frame; it
is then broken between words.  What cannot be broken is cut off with an ellipsis
in a table and folded in a panel.
-/

namespace ConfigReference.Console

open Text

/-- What happens to a word that is wider than its frame. -/
inductive Overflow
  | fold
  | ellipsis
  deriving DecidableEq, Repr

/-- Whether a character ends a line as far as widths are concerned. -/
def endsLine (c : Char) : Bool :=
  c = '\n' || (0x1C ≤ c.toNat && c.toNat ≤ 0x1E) || c = '\u0085' || c = '\u2028' || c = '\u2029'

/-- The width of the widest line. -/
def frameWidth (text : List Char) : Nat :=
  ((splitAt '\n' (text.map fun c => if endsLine c then '\n' else c)).map cells).foldl max 0

/-- The words of a line, each with the blanks after it. -/
def spacedWords : List Char → List (List Char)
  | [] => []
  | c :: rest =>
    match rest, spacedWords rest with
    | next :: _, word :: more =>
      if isBlank c && !isBlank next then [c] :: word :: more else (c :: word) :: more
    | _, more => [c] :: more

/-- The words of a line; blanks at its beginning belong to the first one. -/
def lineWords (line : List Char) : List (List Char) :=
  match spacedWords line with
  | first :: word :: more =>
    if first.all isBlank then (first ++ word) :: more else first :: word :: more
  | words => words

/-- The parts of a word, given by its signs, each as wide as the frame allows.
The part that is being filled ends at the given column. -/
def chop (limit : Nat) : (column : Nat) → (part : List Char) → List Grapheme → List (List Char)
  | column, part, [] => if column = 0 then [] else [part]
  | column, part, sign :: rest =>
    if limit < column + sign.cells then part :: chop limit sign.cells sign.text rest
    else chop limit (column + sign.cells) (part ++ sign.text) rest

/-- The positions at which parts begin, the first of them at a given one. -/
def beginnings (start : Nat) : List (List Char) → List Nat
  | [] => []
  | part :: rest => start :: beginnings (start + part.length) rest

/-- The positions at which a line of words is broken.  The next word begins at
the given position, and the line that is being filled ends at the given column. -/
def breaks (overflow : Overflow) (limit : Nat) :
    (start column : Nat) → List (List Char) → List Nat
  | _, _, [] => []
  | start, column, word :: rest =>
    let solid := cells (trimEnd word)
    let next := start + word.length
    if column + solid ≤ limit then breaks overflow limit next (column + cells word) rest
    else if limit < solid && overflow = .fold then
      let parts := chop limit 0 [] (graphemes word)
      (beginnings start parts).filter (· ≠ 0) ++
        breaks overflow limit next (cells (parts.getLastD [])) rest
    else [start].filter (· ≠ 0) ++ breaks overflow limit next (cells word) rest

/-- A line without the blanks at its end that do not fit. -/
def cropBlanks (limit : Nat) (line : StyledText) : StyledText :=
  let blanks := (line.text.reverse.takeWhile isBlank).length
  let excess := min blanks (line.text.length - limit)
  if excess = 0 then line else line.take (line.text.length - excess)

def cutOff (overflow : Overflow) (limit : Nat) (line : StyledText) : StyledText :=
  if cells line.text ≤ limit then line
  else
    match overflow with
    | .fold => line.withText (cutTo limit line.text)
    | .ellipsis => line.withText (cutTo (limit - 1) line.text ++ ['…'])

/-- The lines of a text. -/
def plainLines (text : StyledText) : List StyledText :=
  text.lines.map StyledText.expandTabs

/-- The lines of a text in a frame. -/
def framedLines (overflow : Overflow) (limit : Nat) (text : StyledText) : List StyledText :=
  text.lines.flatMap fun line =>
    let line := line.expandTabs
    (line.divide (breaks overflow limit 0 0 (lineWords line.text))).map fun part =>
      cutOff overflow limit (cropBlanks limit part)

end ConfigReference.Console
