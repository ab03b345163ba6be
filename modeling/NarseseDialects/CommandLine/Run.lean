import NarseseDialects.CommandLine.Arguments
import NarseseDialects.CommandLine.Batch
import NarseseDialects.CommandLine.Content
import NarseseDialects.CommandLine.Usage

namespace NarseseDialects.CommandLine

inductive Request where
  | introduction
  | help
  | mistaken (fault : Fault)
  | batch (options : Options)

def Request.ofArguments : List Text → Request
  | [] => introduction
  | arguments =>
    match readArguments arguments with
    | .ok o => batch o
    | .error .help => help
    | .error (.fault f) => mistaken f

def Request.path? : Request → Option Text
  | batch o => o.path?
  | _ => none

inductive Exit where
  | status (code : Nat)
  | halted (halt : Halt)
  | notUnicode
  | malformedPath
  deriving DecidableEq

structure Outcome where
  exit : Exit
  output : Text
  commentary : Text
  issues : List Issue

def issueLimit : Nat := 10

structure Lament where
  opening : Nat
  complaint : Nat

def Log.complaint (p : Illustrator) (g : Log) (l : Lament) : Text := g.report.complain p l.opening l.complaint

def Log.outcome (g : Log) (exit : Exit) (words : Text) : Outcome :=
  ⟨exit, g.output, g.commentary ++ words, g.report.issues⟩

def stoppedEarly : Text := "Stopped early: that is as many issues as one run will report.\n"

def refusal (f : Fault) : Outcome := ⟨.status 2, [], usage ++ "narsese: error: " ++ f.message ++ "\n", []⟩

section

variable (p : Illustrator) (l : Lament)

def conclude : Log × Ending → Outcome
  | (g, .finished) => g.outcome (.status (if g.report.isSick then 1 else 0)) (g.complaint p l)
  | (g, .full) => g.outcome (.status 1) (g.complaint p l ++ stoppedEarly)
  | (g, .halted h) => g.outcome (.halted h) []

def continueWith (c : Conversion) (path : Text) (content : Except FileFault ByteArray) (g : Log) : Outcome :=
  match content with
  | .error .malformedPath => g.outcome .malformedPath []
  | .error (.refused reason) => g.outcome (.status 1) ("Could not read " ++ path ++ ": " ++ reason ++ "\n")
  | .ok bytes =>
    let readable := Content.ofBytes bytes.toList
    match runItems c.convert (fileItems (fileName path) readable.lines) g, readable.whole with
    | (g, .finished), false => g.outcome .notUnicode []
    | r, _ => conclude p l r

/-- A batch of arguments and then the lines of a file. There must be one or the other, and a source. -/
def runBatch (o : Options) (content : Except FileFault ByteArray) : Outcome :=
  if o.items.isEmpty && o.path?.isNone then refusal .nothingToDo
  else
    match o.conversion? with
    | none => ⟨.halted .noDialect, [], [], []⟩
    | some c =>
      match runItems c.convert (argumentItems o.items) (.start (.start o.verbose issueLimit)), o.path? with
      | (g, .finished), some path => continueWith p l c path content g
      | r, _ => conclude p l r

def Request.outcome (r : Request) (content : Except FileFault ByteArray) : Outcome :=
  match r with
  | introduction => ⟨.status 0, CommandLine.introduction, [], []⟩
  | help => ⟨.status 0, CommandLine.help, [], []⟩
  | mistaken f => refusal f
  | batch o => runBatch p l o content

end

end NarseseDialects.CommandLine
