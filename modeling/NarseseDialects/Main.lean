import NarseseDialects.CommandLine.Drawing
import NarseseDialects.CommandLine.Run

namespace NarseseDialects.CommandLine

def faultOfError : IO.Error → FileFault
  | .noFileOrDirectory .. => .refused "No such file or directory"
  | .inappropriateType .. => .refused "Is a directory"
  | e => .refused (toString e).toList

def readFile? : Option Text → IO (Except FileFault ByteArray)
  | none => return .error .malformedPath
  | some path => do
    try
      return .ok (← IO.FS.readBinFile (String.ofList path))
    catch e => return .error (faultOfError e)

def chooseLament : IO Lament := do
  let opening ← IO.rand 0 (Report.openings.length - 1)
  let complaint ← IO.rand 0 (Report.complaints.length - 1)
  return ⟨opening, complaint⟩

def exitCode : Exit → UInt32
  | .status code => code.toUInt32
  | _ => 1

end NarseseDialects.CommandLine

open NarseseDialects CommandLine in
def main (arguments : List String) : IO UInt32 := do
  let request := Request.ofArguments (arguments.map String.toList)
  let content ← readFile? request.path?
  let outcome := request.outcome marker (← chooseLament) content
  IO.print (String.ofList outcome.output)
  IO.eprint (String.ofList outcome.commentary)
  return exitCode outcome.exit
