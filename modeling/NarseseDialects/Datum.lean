import NarseseDialects.Lexical.Display
import NarseseDialects.Number.Written
import NarseseDialects.Value.Display

/-! Data of any kind, as they are handed to constructors before it is known whether they fit: bare
scalars, typed values and their parts, and lexical trees. -/

namespace NarseseDialects

inductive Datum where
  | nothing
  | truthValue (b : Bool)
  | whole (i : Int)
  | real (x : Double)
  | text (t : Text)
  | value (v : Value)
  | truth (t : Truth)
  | budget (b : Budget)
  | stamp (s : Stamp)
  | node (n : Lexical.Node)

namespace Datum

def display? : Datum → Option Text
  | nothing => some absent
  | truthValue true => some "True"
  | truthValue false => some "False"
  | whole i => Written.ofInt? i
  | real x => some x.display
  | text t => some (Text.quoted t)
  | value v => Value.display? v
  | truth t => some t.display
  | budget b => some b.display
  | stamp s => s.display?
  | node n => some (Lexical.Node.display n)

def mention? (d : Datum) (before behind : Text) : Option Text := d.display?.map fun t => before ++ t ++ behind

def integer? : Datum → Option Int
  | truthValue b => some b.toInt
  | whole i => some i
  | _ => none

def sameNumber? : Datum → Datum → Option Bool
  | real x, real y => some (x.same y)
  | real x, d | d, real x => d.integer?.map x.sameInt
  | a, b => do return (← a.integer?) == (← b.integer?)

def same (a b : Datum) : Bool :=
  match a, b with
  | nothing, nothing => true
  | text t, text u => t == u
  | value v, value w => Value.same v w
  | truth t, truth u => t.same u
  | budget t, budget u => t.same u
  | stamp s, stamp t => s == t
  | node m, node n => Lexical.Node.same m n
  | a, b => (sameNumber? a b).getD false

def isEmpty : Datum → Bool
  | nothing => true
  | truthValue b => !b
  | whole i => i == 0
  | real x => x.isZero
  | text t => t.isEmpty
  | truth t => t.isEmpty
  | budget b => b.isEmpty
  | value _ | stamp _ | node _ => false

/-- Values and lexical nodes can be members of sets of values; scalars and stamps cannot. -/
def isObject : Datum → Bool
  | value _ | truth _ | budget _ | node _ => true
  | _ => false

inductive RealFault where
  | malformed (text : Text)
  | tooLarge
  | notNumber

def RealFault.message : RealFault → Text
  | malformed t => "could not convert string to float: " ++ Text.quoted t
  | tooLarge => "int too large to convert to float"
  | notNumber => "There is no number."

def real? : Datum → Except RealFault Double
  | real x => .ok x
  | text t => (Written.real? t).elim (.error (.malformed t)) .ok
  | d =>
    match d.integer? with
    | some i => (Double.ofInt? i).elim (.error .tooLarge) .ok
    | none => .error .notNumber

end Datum

end NarseseDialects
