import NarseseDialects.Number.Written
import NarseseDialects.Term.Construct

namespace NarseseDialects.Term

structure Builder where
  kind : Kind
  index : Datum
  name : Option Text
  components : List Term

inductive Refusal where
  | fault (fault : Fault)
  | tooManyDigits (count : Nat)

namespace Builder

def start (kind : Kind) (index : Datum) : Builder := ⟨kind, index, none, []⟩

def nameFault? (k : Kind) (n : Text) : Option Fault :=
  match k with
  | .placeholder => if n.isEmpty then none else some (.namedPlaceholder n)
  | .interval =>
    if !n.isEmpty && n.all Text.isPlainDigit then none else some (.notNatural (.text n))
  | .name k =>
    if n.isEmpty then some (.emptyName (.name k))
    else if n.all Text.isNameChar then none
    else some (.unwritable (.name k) n)
  | k => some (.notAtom k)

/-- What a request comes to, and the builder behind it. -/
def setName (b : Builder) (n : Text) : Except Fault Unit × Builder :=
  match nameFault? b.kind n with
  | some f => (.error f, b)
  | none => (.ok (), { b with name := some n })

def termsOf : List Datum → Except Fault (List Term)
  | [] => .ok []
  | .value (.term t) :: ds => (termsOf ds).map (t :: ·)
  | d :: _ => .error (.notTerm d)

def push (b : Builder) (given : List Datum) : Except Fault Unit × Builder :=
  if b.kind.capacity.isMulti then
    match termsOf given with
    | .ok ts => (.ok (), { b with components := b.components ++ ts })
    | .error f => (.error f, b)
  else (.error (.fixedCount b.kind), b)

def interval (digits : Text) : Except Refusal Term :=
  match Written.limited digits with
  | .ok n => .ok (.interval n)
  | .error (.tooLong n) => .error (.tooManyDigits n)
  | .error .malformed => .error (.fault (.notNatural (.text digits)))

def build (b : Builder) : Except Refusal Term :=
  match b.kind, b.name with
  | .placeholder, _ => .ok .placeholder
  | .interval, some n => interval n
  | .name k, some n => (named? k n).mapError .fault
  | .interval, none | .name _, none => .error (.fault (.unnamed b.kind))
  | .collection k, _ => (collection? k b.components).mapError .fault
  | .chain k, _ => (chain? k b.components).mapError .fault
  | .image s, _ => (image? s b.index b.components).mapError .fault
  | k, _ => .error (.fault (.fixedCount k))

end Builder

end NarseseDialects.Term
