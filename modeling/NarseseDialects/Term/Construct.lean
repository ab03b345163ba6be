import NarseseDialects.Datum
import NarseseDialects.Text.Classes

namespace NarseseDialects.Term

inductive Fault where
  | notTerm (given : Datum)
  | badName (kind : Kind) (given : Datum)
  | unwritable (kind : Kind) (name : Text)
  | notNatural (given : Datum)
  | noComponents (kind : Kind)
  | placeholderAlone (kind : Kind)
  | badIndex (given : Datum) (count : Nat)
  | namedPlaceholder (name : Text)
  | emptyName (kind : Kind)
  | unnamed (kind : Kind)
  | notAtom (kind : Kind)
  | fixedCount (kind : Kind)

namespace Fault

def message? : Fault → Option Text
  | notTerm g => g.mention? "Components must be terms, not " "."
  | badName k g => g.mention? (k.display ++ " needs a non-empty name, not ") "."
  | unwritable k n => some (Text.quoted n ++ " cannot be written as the name of a " ++ k.display ++ ".")
  | notNatural g => g.mention? "An interval is a natural number, not " "."
  | noComponents k => some (k.display ++ " needs at least one component.")
  | placeholderAlone k => some (k.display ++ " needs a component besides the placeholder.")
  | badIndex g n => g.mention? "Image index " (" is out of range for " ++ Text.ofNat n ++ " components.")
  | namedPlaceholder n => some ("The placeholder takes no name, but got " ++ Text.quoted n ++ ".")
  | emptyName k => some (k.display ++ " needs a non-empty name.")
  | unnamed k => some (k.display ++ " has no name yet.")
  | notAtom k => some (k.display ++ " is not an atom, so it has no name.")
  | fixedCount k => some (k.display ++ " has a fixed number of components; construct it whole.")

def isCapacity : Fault → Bool
  | notAtom _ | fixedCount _ => true
  | _ => false

end Fault

def named? (k : NameKind) (n : Text) : Except Fault Term :=
  if n.isEmpty then .error (.badName (.name k) (.text n))
  else if n.all Text.isNameChar then .ok (named k n)
  else .error (.unwritable (.name k) n)

def collection? (k : CollectionKind) (cs : List Term) : Except Fault Term :=
  if cs.isEmpty then .error (.noComponents (.collection k)) else .ok (collection k (firsts cs))

def chain? (k : Chain) (cs : List Term) : Except Fault Term :=
  if cs.isEmpty then .error (.noComponents (.chain k)) else .ok (chain k cs)

/-- The place of the placeholder, which may stand before, between and behind the components. -/
def index? (given : Datum) (count : Nat) : Option Nat :=
  match given with
  | .whole (.ofNat i) => if i ≤ count then some i else none
  | _ => none

def image? (s : Side) (index : Datum) (cs : List Term) : Except Fault Term :=
  if cs.isEmpty then .error (.placeholderAlone (.image s))
  else
    match index? index cs.length with
    | some i => .ok (image s i cs)
    | none => .error (.badIndex index cs.length)

end NarseseDialects.Term

namespace NarseseDialects

def Shorthand.expand (h : Shorthand) (s p : Term) : Term :=
  let one (side : Side) (t : Term) := Term.collection (.set side) [t]
  match h with
  | instanceOf => .ordered .inheritance (one .extension s) p
  | property => .ordered .inheritance s (one .intension p)
  | instanceProperty => .ordered .inheritance (one .extension s) (one .intension p)
  | equivalenceRetrospective => .ordered .equivalencePredictive p s

def Copula.apply (c : Copula) (s p : Term) : Term :=
  match c with
  | ordered k => .ordered k s p
  | symmetric k => .symmetric k s p
  | shorthand h => h.expand s p

end NarseseDialects
