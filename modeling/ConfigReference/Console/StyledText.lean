import ConfigReference.Console.Grapheme
import ConfigReference.Console.Style

/-!
# Styled texts

A text whose stretches have styles.  The styles are read only when the text is
drawn, so a style that cannot be read is a fault only if something of its
stretch is left by then.  A text is drawn piece by piece, from one end of a
stretch to the next.
-/

namespace ConfigReference.Console

/-- A stretch of a text that has a style, and the fault of the style. -/
structure Span where
  start : Nat
  stop : Nat
  fault : Option StyleFault
  deriving DecidableEq, Repr

structure StyledText where
  text : List Char := []
  spans : List Span := []
  deriving DecidableEq, Repr

namespace StyledText

def ofText (text : List Char) : StyledText :=
  ⟨text, []⟩

/-- The part of a text between two positions.  A stretch of which nothing is in
the part is lost. -/
def slice (styled : StyledText) (start stop : Nat) : StyledText where
  text := (styled.text.drop start).take (stop - start)
  spans := styled.spans.filterMap fun span =>
    let first := span.start - start
    let last := min span.stop stop - start
    if first < last then some { span with start := first, stop := last } else none

/-- The parts of a text between the given positions; without any, the text is
left as it is. -/
def divide (styled : StyledText) (positions : List Nat) : List StyledText :=
  if positions.isEmpty then [styled]
  else ((0 :: positions).zip (positions ++ [styled.text.length])).map fun (start, stop) =>
    styled.slice start stop

/-- The positions of a character in a text that begins at a position. -/
def positionsFrom (c : Char) (position : Nat) : List Char → List Nat
  | [] => []
  | d :: rest =>
    if d = c then position :: positionsFrom c (position + 1) rest
    else positionsFrom c (position + 1) rest

/-- The positions of a character. -/
def positions (styled : StyledText) (c : Char) : List Nat :=
  positionsFrom c 0 styled.text

/-- The lines of a text, without the line feeds between them. -/
def lines (styled : StyledText) : List StyledText :=
  match styled.positions '\n' with
  | [] => [styled]
  | ends =>
    ((0 :: ends.map (· + 1)).zip (ends ++ [styled.text.length])).map fun (start, stop) =>
      styled.slice start stop

/-- The first stretches of a text, up to a length.  Empty stretches before that
are kept. -/
def spansBefore (styled : StyledText) (length : Nat) : List Span :=
  (styled.spans.filter fun span => span.start < length).map fun span =>
    { span with stop := min span.stop length }

def take (styled : StyledText) (length : Nat) : StyledText :=
  ⟨styled.text.take length, styled.spansBefore length⟩

/-- Exchanges the characters of a text; the stretches stay where they are. -/
def withText (styled : StyledText) (text : List Char) : StyledText :=
  ⟨text, if text.length < styled.text.length then styled.spansBefore text.length else styled.spans⟩

/-- A text with another one after it. -/
def append (first second : StyledText) : StyledText where
  text := first.text ++ second.text
  spans := first.spans ++ second.spans.map fun span =>
    { span with start := span.start + first.text.length, stop := span.stop + first.text.length }

/-- Fills up parts, each of which but the last ends with a tab, to multiples of
eight cells.  What is filled in belongs to the stretches that reach the tab. -/
def fillTabs (column : Nat) : List StyledText → StyledText
  | [] => {}
  | part :: rest =>
    if part.text.getLast? = some '\t' then
      let text := part.text.dropLast ++ [' ']
      let reached := column + cells text
      let missing := (8 - reached % 8) % 8
      let filled : StyledText :=
        ⟨text ++ List.replicate missing ' ', part.spans.map fun span =>
          if text.length ≤ span.stop then { span with stop := span.stop + missing } else span⟩
      filled.append (fillTabs (reached + missing) rest)
    else part.append (fillTabs (column + cells part.text) rest)

/-- Replaces tabs by blanks. -/
def expandTabs (styled : StyledText) : StyledText :=
  match styled.positions '\t' with
  | [] => styled
  | tabs => fillTabs 0 (styled.divide (tabs.map (· + 1)))

/-- The fault that drawing the text meets first. -/
def fault? (styled : StyledText) : Option StyleFault :=
  styled.spans.findSome? Span.fault

/-- The pieces of a text that begins at a position, cut at the positions of a
set. -/
def piecesFrom (isCut : Nat → Bool) (position : Nat) : List Char → List (List Char)
  | [] => []
  | c :: rest =>
    match piecesFrom isCut (position + 1) rest with
    | [] => [[c]]
    | piece :: more =>
      if isCut (position + 1) then [c] :: piece :: more else (c :: piece) :: more

/-- The pieces in which a text is drawn. -/
def pieces (styled : StyledText) : List (List Char) :=
  piecesFrom (fun position =>
    styled.spans.any fun span => span.start = position || span.stop = position) 0 styled.text

/-- Draws pieces from a column on, as far as there is room. -/
def drawPieces (limit : Nat) : (column : Nat) → List (List Char) → List Char
  | _, [] => []
  | column, piece :: rest =>
    if column + cells piece < limit then
      piece ++ drawPieces limit (column + cells piece) rest
    else cutTo (limit - column) piece

/-- What is seen of a text in a frame of the given width.  A joiner does not
reach from one piece to the next, so the pieces can take up more cells than the
whole text. -/
def drawn (styled : StyledText) (limit : Nat) : List Char :=
  let width := styled.pieces.foldl (fun width piece => width + cells piece) 0
  if limit < width then drawPieces limit 0 styled.pieces else styled.text

end StyledText

end ConfigReference.Console
