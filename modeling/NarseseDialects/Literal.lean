import NarseseDialects.Datum
import NarseseDialects.Dialect.Ascii
import NarseseDialects.Reading.Scan
import NarseseDialects.Reading.Typed

namespace NarseseDialects

def ItemKind.label : ItemKind → Text
  | term => "term"
  | sentence => "sentence"
  | task => "task"

structure WrongKind where
  wanted : ItemKind
  got : Datum

def WrongKind.message? (w : WrongKind) : Option Text :=
  w.got.mention? ("Expected a " ++ w.wanted.label ++ ", but got ") "."

namespace Literal

inductive Trouble (ε : Type) where
  | unreadable (trouble : ε)
  | wrongKind (wrong : WrongKind)

/-- A value of the kind wanted; a sentence where a task is wanted becomes one of empty budget. -/
def expect : Option ItemKind → Value → Except WrongKind Value
  | none, v => .ok v
  | some .task, .sentence s => .ok (.task ⟨s, .empty⟩)
  | some k, v => if v.kind = k then .ok v else .error ⟨k, .value v⟩

def expectNode : Option ItemKind → Lexical.Node → Except WrongKind Lexical.Node
  | none, n => .ok n
  | some .task, .sentence s => .ok (.task ⟨[], s, none⟩)
  | some k, n => if n.kind = k then .ok n else .error ⟨k, .node n⟩

def value (k : Option ItemKind) (text : Text) : Except (Trouble ReadTrouble) Value := do
  let v ← (readValue .ascii text).mapError .unreadable
  (expect k v).mapError .wrongKind

def node (k : Option ItemKind) (text : Text) :
    Except (Trouble (Reading.Located Reading.Fault)) Lexical.Node := do
  let n ← (readLexical .ascii text).mapError .unreadable
  (expectNode k n).mapError .wrongKind

end Literal

end NarseseDialects
