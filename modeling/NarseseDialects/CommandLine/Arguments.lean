import NarseseDialects.CommandLine.Options
import NarseseDialects.Text.Classes
import NarseseDialects.Text.Cut
import NarseseDialects.Text.Quoted

namespace NarseseDialects.CommandLine

inductive Fault where
  | ambiguous (given : Text) (candidates : List Flag)
  | valueExpected (flag : Flag)
  | unwantedValue (flag : Flag) (value : Text)
  | invalidChoice (flag : Flag) (value : Text)
  | unrecognised (arguments : List Text)
  | nothingToDo

def Fault.message : Fault → Text
  | ambiguous t fs =>
    "ambiguous option: " ++ t ++ " could match " ++ Text.join ", " (fs.map Flag.longForm)
  | valueExpected f => "argument " ++ f.display ++ ": expected one argument"
  | unwantedValue f v => "argument " ++ f.display ++ ": ignored explicit argument " ++ Text.quoted v
  | invalidChoice f v =>
    "argument " ++ f.display ++ ": invalid choice: " ++ Text.quoted v ++ " (choose from " ++
      Text.join ", " (f.choices.map Text.quoted) ++ ")"
  | unrecognised ts => "unrecognized arguments: " ++ Text.join " " ts
  | nothingToDo => "Give some Narsese to translate, or a file of it."

inductive Stop where
  | help
  | fault (fault : Fault)

structure Cluster where
  settings : List (Flag × Text)
  waiting : Option Flag

namespace Cluster

def alone (f : Flag) : Cluster :=
  if f.takesValue then ⟨[], some f⟩ else ⟨[(f, [])], none⟩

def spelled (f : Flag) : Option Text → Except Fault Cluster
  | none => .ok (alone f)
  | some value =>
    if f.takesValue then .ok ⟨[(f, value)], none⟩ else .error (.unwantedValue f value)

def cons (f : Flag) (c : Cluster) : Cluster := { c with settings := (f, []) :: c.settings }

def lettered (f : Flag) : Text → Except Fault Cluster
  | [] => if f.takesValue then .ok ⟨[(f, [])], none⟩ else .error (.unwantedValue f [])
  | c :: rest =>
    if f.takesValue then .ok ⟨[(f, c :: rest)], none⟩
    else
      match Flag.ofLetter? c with
      | none => .error (.unwantedValue f (c :: rest))
      | some g => (if rest.isEmpty then .ok (alone g) else lettered g rest).map (cons f)

end Cluster

inductive Argument where
  | plain (text : Text)
  | divider
  | flags (cluster : Except Fault Cluster)
  | unknown (text : Text)

def cutAtEquals (t : Text) : Text × Option Text :=
  match Text.firstCut? "=" t with
  | some (a, b) => (a, some b)
  | none => (t, none)

/-- Digits of any script with at most one point, which is not the last character, and perhaps a line
feed at the very end. -/
def looksNumeric (t : Text) : Bool :=
  let isDigit (c : Char) : Bool := (Text.decimalValue? c).isSome
  let body := (Text.before? "\n" t).getD t
  match body.dropWhile isDigit with
  | [] => !body.isEmpty
  | '.' :: fraction => !fraction.isEmpty && fraction.all isDigit
  | _ => false

def unmatched (t : Text) : Argument :=
  if looksNumeric (t.drop 1) || ' ' ∈ t then .plain t else .unknown t

def classifyWord (given rest : Text) : Except Fault Argument :=
  let (word, value) := cutAtEquals rest
  match Flag.all.find? fun f => f.word = word with
  | some f => .ok (.flags (Cluster.spelled f value))
  | none =>
    match Flag.all.filter fun f => (Text.after? word f.word).isSome with
    | [] => .ok (unmatched given)
    | [f] => .ok (.flags (Cluster.spelled f value))
    | fs => .error (.ambiguous given fs)

def classifyLetter (c : Char) (rest : Text) : Argument :=
  match Flag.ofLetter? c, rest with
  | none, _ => unmatched ('-' :: c :: rest)
  | some f, [] => .flags (.ok (.alone f))
  | some f, '=' :: attached | some f, attached => .flags (Cluster.lettered f attached)

def classify : Text → Except Fault Argument
  | '-' :: '-' :: rest => classifyWord ('-' :: '-' :: rest) rest
  | '-' :: c :: rest => .ok (classifyLetter c rest)
  | t => .ok (.plain t)

def classifyAll : List Text → Except Fault (List Argument)
  | [] => .ok []
  | t :: ts =>
    if t = "--" then .ok (.divider :: ts.map .plain)
    else do
      let a ← classify t
      return a :: (← classifyAll ts)

inductive Phase where
  | before
  | within
  | behind
  deriving DecidableEq

structure Progress where
  options : Options
  phase : Phase
  unrecognised : List Text

namespace Progress

def start : Progress := ⟨.default, .before, []⟩

def leave (p : Progress) : Progress := if p.phase = .within then { p with phase := .behind } else p

def refuse (p : Progress) (t : Text) : Progress := { p with unrecognised := p.unrecognised ++ [t] }

def addItem (p : Progress) (t : Text) : Progress :=
  if p.phase = .behind then p.refuse t
  else { p with phase := .within, options := { p.options with items := p.options.items ++ [t] } }

def divide (p : Progress) : Progress :=
  if p.phase = .behind then p.refuse "--" else { p with phase := .within }

def set (p : Progress) (f : Flag) (value : Text) : Except Stop Progress :=
  if f = .help then .error .help
  else
    match p.options.set? f value with
    | some o => .ok { p with options := o }
    | none => .error (.fault (.invalidChoice f value))

def setAll (p : Progress) : List (Flag × Text) → Except Stop Progress
  | [] => .ok p
  | (f, value) :: settings => do (← p.set f value).setAll settings

end Progress

def Progress.takeCluster (p : Progress) (c : Cluster) (next : Option Text) :
    Except Stop Progress := do
  match c.waiting, next with
  | none, _ => p.leave.setAll c.settings
  | some f, some value => p.leave.setAll (c.settings ++ [(f, value)])
  | some f, none => .error (.fault (.valueExpected f))

def Progress.take : List Argument → Progress → Except Stop Progress
  | [], p => .ok p
  | .plain t :: as, p => take as (p.addItem t)
  | .divider :: as, p => take as p.divide
  | .unknown t :: as, p => take as (p.leave.refuse t)
  | .flags (.error f) :: _, _ => .error (.fault f)
  | .flags (.ok c) :: .plain t :: as, p =>
    if c.waiting.isSome then (p.takeCluster c (some t)).bind (take as)
    else (p.takeCluster c none).bind fun q => take as (q.addItem t)
  | .flags (.ok c) :: as, p => (p.takeCluster c none).bind (take as)

def readArguments (arguments : List Text) : Except Stop Options := do
  let p ← Progress.take (← (classifyAll arguments).mapError .fault) .start
  if !p.unrecognised.isEmpty then throw (.fault (.unrecognised p.unrecognised))
  return p.options

end NarseseDialects.CommandLine
