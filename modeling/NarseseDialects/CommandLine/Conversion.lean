import NarseseDialects.CommandLine.Options
import NarseseDialects.Meaning.Fold
import NarseseDialects.Meaning.Unfold
import NarseseDialects.Outline
import NarseseDialects.Report
import NarseseDialects.Typeset

namespace NarseseDialects.CommandLine

structure BatchItem where
  text : Text
  label : Text

structure Conversion where
  source : DialectName
  target : Option Target
  lexical : Bool
  kind : Option ItemKind

def Options.conversion? (o : Options) : Option Conversion :=
  o.source.map fun source => ⟨source, o.target, o.lexical, o.kind⟩

/-- What ends a batch on the spot: a number that is too long to be read or to be written, or no dialect. -/
inductive Halt where
  | tooManyDigits (count : Nat)
  | overlong
  | noDialect
  deriving DecidableEq

inductive Mishap where
  | issue (issue : Issue)
  | halt (halt : Halt)

namespace BatchItem

variable (i : BatchItem)

def mishap (message? : Option Text) (issue : Text → Issue) : Mishap :=
  match message? with
  | some m => .issue (issue m)
  | none => .halt .overlong

def mishapOfReading : ReadTrouble → Mishap
  | .located l => mishap l.cause.message? fun m => .unreadable i.text m l.offset i.label
  | .tooManyDigits n => .halt (.tooManyDigits n)

def mishapOfLexicalReading (l : Reading.Located Reading.Fault) : Mishap :=
  .issue (.unreadable i.text l.cause.message l.offset i.label)

def mishapOfFolding : Meaning.FoldTrouble → Mishap
  | .fault f node => mishap f.message? fun m => .meaningless i.text m (Lexical.Node.spot node) i.label
  | .tooManyDigits n => .halt (.tooManyDigits n)

def mishapOfKind (wanted : ItemKind) (got : Datum) : Mishap :=
  mishap (WrongKind.message? ⟨wanted, got⟩) fun m => .ofWrongKind i.text m i.label

end BatchItem

namespace Conversion

variable (c : Conversion) (i : BatchItem)

def writeValueAs? (v : Value) : Target → Option Text
  | .dialect n => v.write? n.dialect
  | .typeset => v.typeset?
  | .outline => v.outline?.map (Text.join "\n")

def writeValueAs (v : Value) (t : Target) : Except Mishap Text :=
  match writeValueAs? v t with
  | some text => .ok text
  | none => .error (.halt .overlong)

def writeValue (v : Value) : Except Mishap Text :=
  match c.target with
  | some t => writeValueAs v t
  | none => .error (.halt .noDialect)

def meaning (n : Lexical.Node) : Except Mishap Value :=
  (Meaning.fold c.source.dialect n).mapError i.mishapOfFolding

/-- A node in the target. In its own dialect it is written back; elsewhere its meaning is. -/
def writeNode (n : Lexical.Node) : Except Mishap Text :=
  match c.target with
  | none => .error (.halt .noDialect)
  | some .outline => .ok (Lexical.Node.display n)
  | some .typeset => do writeValueAs (← c.meaning i n) .typeset
  | some (.dialect name) =>
    if name = c.source then .ok (Lexical.Node.write name.dialect n)
    else do writeValueAs (← c.meaning i n) (.dialect name)

def convertValue : Except Mishap Text := do
  let v ← (readValue c.source.dialect i.text).mapError i.mishapOfReading
  match c.kind with
  | some k => if Item.kind v = k then c.writeValue v else throw (i.mishapOfKind k (.value v))
  | none => c.writeValue v

def convertNode : Except Mishap Text := do
  let n ← (readLexical c.source.dialect i.text).mapError i.mishapOfLexicalReading
  match c.kind with
  | some k => if Item.kind n = k then c.writeNode i n else throw (i.mishapOfKind k (.node n))
  | none => c.writeNode i n

def convert : Except Mishap Text := if c.lexical then c.convertNode i else c.convertValue i

end Conversion

end NarseseDialects.CommandLine
