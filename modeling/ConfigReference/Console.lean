import ConfigReference.Console.Layout
import ConfigReference.Console.Markup

/-!
# Console output

A command prints lines, panels and tables, given in markup.  What a reader sees
of them is a row of texts for each line: a cell of several lines takes up
several rows.
-/

namespace ConfigReference

open Console

/-- What a command asks to print. -/
inductive Output
  | line (markup : String)
  /-- Lines in a frame. -/
  | panel (markup : String)
  | table (header : List String) (rows : List (List String))
  deriving DecidableEq, Repr

/-- What is printed. -/
inductive Printed
  | lines (texts : List String)
  | panel (texts : List String)
  | table (header rows : List (List String))
  deriving DecidableEq, Repr

/-- A line of output: a plain text, or the cells of a frame. -/
inductive ConsoleRow
  | text (content : String)
  | cells (contents : List String)
  deriving DecidableEq, Repr

namespace Output

/-- The columns of a table, each from its top. -/
def columns (header : List String) (rows : List (List String)) : List (List String) :=
  (List.range header.length).map fun index => (header :: rows).map fun cells => cells.getD index ""

/-- The rows that a row of cells takes up, each cell given by its lines. -/
def spread (cells : List (List String)) : List (List String) :=
  let height := (cells.map List.length).foldl max 0
  (List.range height).map fun index => cells.map fun lines => lines.getD index ""

/-- The width of a column, which is that of its widest cell. -/
def columnWidth (texts : List StyledText) : Nat :=
  (texts.map fun text => frameWidth text.text).foldl max 0

/-- What is drawn of lines, each without its outer blanks. -/
def drawLines (draw : StyledText → List Char) (lines : List StyledText) :
    Except MarkupFault (List String) :=
  match lines.findSome? StyledText.fault? with
  | some fault => .error (.style fault)
  | none => .ok (lines.map fun line => String.ofList (Text.trim (draw line)))

/-- The lines of a text that stands by itself. -/
def drawPlain (text : StyledText) : Except MarkupFault (List String) :=
  drawLines StyledText.text (plainLines text)

/-- The lines of a text in a frame. -/
def drawFramed (overflow : Overflow) (width : Nat) (text : StyledText) :
    Except MarkupFault (List String) :=
  drawLines (·.drawn width) (framedLines overflow width text)

/-- Draws what is to be printed.  In a table, tags are taken out of the texts
column by column and styles are read row by row. -/
def render : Output → Except MarkupFault Printed
  | line markup => do return .lines (← drawPlain (← Markup.read markup))
  | panel markup => do
    let text ← Markup.read markup
    return .panel (← drawFramed .fold (frameWidth text.text) text)
  | table header rows => do
    let columns ← (columns header rows).mapM fun column => column.mapM Markup.read
    let columns := columns.map fun texts => (columnWidth texts, texts)
    let drawn ← (List.range (rows.length + 1)).mapM fun index =>
      columns.mapM fun (width, texts) => drawFramed .ellipsis width (texts.getD index {})
    return .table (spread (drawn.headD [])) (drawn.tail.flatMap spread)

end Output

namespace Printed

def textRows (texts : List String) : List ConsoleRow :=
  (texts.filter (· ≠ "")).map .text

def rows : Printed → List ConsoleRow
  | lines texts => textRows texts
  | panel texts => texts.map fun text => .cells [text]
  | table header rows => (header ++ rows).map .cells

end Printed

end ConfigReference
