import NarseseDialects.Text.Cut
import NarseseDialects.Text.Lines
import NarseseDialects.Text.Utf8

/-! The lines that can be read of a file. Where a piece of it is no UTF-8, those are the lines that are
complete before that piece. -/

namespace NarseseDialects.CommandLine

def pathParts (path : Text) : List Text :=
  (Text.split "/" path).filter fun p => p ≠ [] ∧ p ≠ ['.']

def fileName (path : Text) : Text := (pathParts path).getLast?.getD []

inductive FileFault where
  | refused (reason : Text)
  | malformedPath

structure Content where
  lines : List Text
  whole : Bool

namespace Content

def pieceSize : Nat := 8192

/-- The lines that are complete whatever follows. A carriage return at the very end may be only the
first half of a line end. -/
def settledLines (t : Text) : List Text := (Text.lines ((Text.before? "\r" t).getD t)).dropLast

def ofBytes (bytes : List UInt8) : Content :=
  let (t, whole) := Utf8.decodePieces .idle (Utf8.cut pieceSize bytes)
  ⟨if whole then Text.lines t else settledLines t, whole⟩

example : settledLines "A\rB\r" = [['A', '\r']] ∧ settledLines "A\r\n" = [['A', '\r', '\n']] := by
  decide

end Content

end NarseseDialects.CommandLine
