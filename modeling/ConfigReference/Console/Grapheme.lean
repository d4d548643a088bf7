import ConfigReference.Console.CellWidth

/-!
# Graphemes

Several characters can make up one sign on a terminal.  A joiner makes the
character after it part of the sign before it, a selector asks for a drawing as
an emoji, and a character that takes up no cell belongs to the sign before it.
A text is only cut between signs.
-/

namespace ConfigReference.Console

/-- Joins the character after it to the sign before it. -/
def joiner : Char := '\u200D'

/-- Asks for the sign before it to be drawn as an emoji. -/
def emojiSelector : Char := '\uFE0F'

/-- The cells of a text.  What follows a joiner takes up none.  The character
`measured` is the last one that took up a cell, as long as no selector followed
it. -/
def cellsFrom (measured : Option Char) (joins : Bool) : List Char → Nat
  | [] => 0
  | c :: rest =>
    if joins then cellsFrom measured false rest
    else if c = joiner then cellsFrom measured true rest
    else if c = emojiSelector then
      (if measured.any isWidened then 1 else 0) + cellsFrom none false rest
    else if cellWidth c = 0 then cellsFrom measured false rest
    else cellWidth c + cellsFrom (some c) false rest

def cells (text : List Char) : Nat :=
  cellsFrom none false text

/-- A sign with the number of its cells. -/
structure Grapheme where
  text : List Char
  cells : Nat
  deriving DecidableEq, Repr

/-- A sign with one character more. -/
def Grapheme.extend (sign : Grapheme) (c : Char) (cells : Nat := 0) : Grapheme :=
  ⟨sign.text ++ [c], sign.cells + cells⟩

/-- The signs of a text that stands after a sign.  A joiner or a selector with
no sign before it is a sign of its own, which joins nothing. -/
def graphemesFrom (last : Option Grapheme) (measured : Option Char) (joins : Bool) :
    List Char → List Grapheme
  | [] => last.toList
  | c :: rest =>
    let width := cellWidth c
    match last with
    | none => graphemesFrom (some ⟨[c], width⟩) (if width = 0 then none else some c) false rest
    | some sign =>
      if joins then graphemesFrom (some (sign.extend c)) measured false rest
      else if c = joiner then graphemesFrom (some (sign.extend c)) measured true rest
      else if c = emojiSelector && measured.any isWidened then
        graphemesFrom (some (sign.extend c 1)) none false rest
      else if width = 0 then graphemesFrom (some (sign.extend c)) measured false rest
      else sign :: graphemesFrom (some ⟨[c], width⟩) (some c) false rest

def graphemes (text : List Char) : List Grapheme :=
  graphemesFrom none none false text

/-- The first signs, as many as take up the given number of cells.  A blank takes
the place of a sign of which only half has room. -/
def takeCells : (count : Nat) → List Grapheme → List Char
  | 0, _ => []
  | _, [] => []
  | count, sign :: rest =>
    if sign.cells ≤ count then sign.text ++ takeCells (count - sign.cells) rest else [' ']

/-- The beginning of a text that takes up at most the given number of cells. -/
def cutTo (count : Nat) (text : List Char) : List Char :=
  if count = 0 then []
  else if cells text ≤ count then text
  else takeCells count (graphemes text)

end ConfigReference.Console
