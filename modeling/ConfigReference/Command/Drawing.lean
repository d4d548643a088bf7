import ConfigReference.Console

/-!
# Drawing on a terminal

Tables are drawn with columns of equal width, and panels between rules.
-/

namespace ConfigReference.Command

/-- A text filled up with blanks. -/
def padded (width : Nat) (text : String) : String :=
  text ++ String.ofList (List.replicate (width - text.length) ' ')

/-- The width of each column. -/
def columnWidths (rows : List (List String)) : List Nat :=
  rows.foldl
    (fun widths cells =>
      let lengths := cells.map String.length
      (List.range (max widths.length lengths.length)).map fun index =>
        max (widths.getD index 0) (lengths.getD index 0))
    []

def drawRow (widths : List Nat) (cells : List String) : String :=
  Text.joined " │ " (List.zipWith padded widths cells)

def rule (width : Nat) : String :=
  String.ofList (List.replicate width '─')

/-- The lines that show what was printed. -/
def draw : Printed → List String
  | .lines texts => texts
  | .panel texts =>
    let widths := columnWidths (texts.map ([·]))
    let edge := rule (widths.foldl (· + ·) 0)
    edge :: texts ++ [edge]
  | .table header rows =>
    let widths := columnWidths (header ++ rows)
    let edge := Text.joined "─┼─" (widths.map rule)
    header.map (drawRow widths) ++ edge :: rows.map (drawRow widths)

end ConfigReference.Command
