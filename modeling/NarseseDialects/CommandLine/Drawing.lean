import NarseseDialects.Report
import NarseseDialects.Text.Classes
import NarseseDialects.Text.Cut
import NarseseDialects.Text.Lines

namespace NarseseDialects.CommandLine

/-- The row that an offset falls into, its number from the given one on, and the offset within it. What lies
behind all lines belongs to the last one. -/
def findAmong : Nat → List Text → Nat → Nat × Nat
  | row, [], offset => (row, offset)
  | row, [_], offset => (row, offset)
  | row, l :: m :: ls, offset =>
    if l.length ≤ offset then findAmong (row + 1) (m :: ls) (offset - l.length) else (row, offset)

def blanked (t : Text) : Text := t.map fun c => if c = '\t' then c else ' '

def marker : Illustrator where
  find text := findAmong 1 (Text.lines text)
  line text row := ((Text.lines text)[row - 1]?).getD []
  draw line column width margin caption :=
    margin ++ Text.dropBack Text.isBlank line ++ "\n" ++ blanked (margin ++ line.take column) ++
      List.replicate (max 1 (min width (line.length - column))) '^' ++ " " ++ caption

end NarseseDialects.CommandLine
