import NarseseDialects.CommandLine.Conversion
import NarseseDialects.Text.Lines

namespace NarseseDialects.CommandLine

structure Log where
  results : List Text
  remarks : List Text
  report : Report

inductive Ending where
  | finished
  | full
  | halted (halt : Halt)
  deriving DecidableEq

namespace Log

def start (r : Report) : Log := ⟨[], [], r⟩

def mention (g : Log) (label : Text) : Log :=
  { g with remarks := g.remarks ++ [g.report.remark ["Translating", label]] }

def add (g : Log) (t : Text) : Log := { g with results := g.results ++ [t] }

def file (g : Log) (i : Issue) : Log := { g with report := g.report.file i }

def output (g : Log) : Text := g.results.flatMap fun t => t ++ ['\n']

def commentary (g : Log) : Text := g.remarks.flatten

end Log

def runItems (convert : BatchItem → Except Mishap Text) : List BatchItem → Log → Log × Ending
  | [], g => (g, .finished)
  | i :: is, g =>
    let g := g.mention i.label
    match convert i with
    | .ok t => runItems convert is (g.add t)
    | .error (.issue x) =>
      if (g.file x).report.isFull then (g.file x, .full) else runItems convert is (g.file x)
    | .error (.halt h) => (g, .halted h)

def argumentItems (texts : List Text) : List BatchItem :=
  (texts.zipIdx 1).map fun (t, n) => ⟨t, "argument " ++ Text.ofNat n⟩

def fileItems (name : Text) (lines : List Text) : List BatchItem :=
  (lines.zipIdx 1).filterMap fun (l, n) =>
    if l.all Text.isBlank then none else some ⟨Text.chomp l, name ++ " line " ++ Text.ofNat n⟩

end NarseseDialects.CommandLine
