import NarseseDialects.Dialect.Ascii
import NarseseDialects.Dialect.Latex
import NarseseDialects.Dialect.Han

namespace NarseseDialects

inductive DialectName where
  | ascii
  | latex
  | han
  deriving DecidableEq

namespace DialectName

def all : List DialectName := [ascii, latex, han]

def dialect : DialectName → Dialect
  | ascii => .ascii
  | latex => .latex
  | han => .han

def label (n : DialectName) : Text := n.dialect.name

def ofLabel? (label : Text) : Option DialectName := all.find? fun n => n.label = label

theorem mem_all (n : DialectName) : n ∈ all := by cases n <;> decide

end DialectName

namespace Dialect

def canonical : List Dialect := DialectName.all.map DialectName.dialect

/-- The dialect of the given name in letters of either case. Names are made of plain letters, so it is
enough to put those in lower case. -/
def lookup? (name : Text) : Option Dialect :=
  (DialectName.ofLabel? (name.map Char.toLower)).map DialectName.dialect

def unknownMessage (name : Text) : Text :=
  "No such profile " ++ Text.quoted name ++ "; try one of " ++
    Text.join ", " (DialectName.all.map DialectName.label)

end Dialect

end NarseseDialects
