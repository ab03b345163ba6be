import NarseseDialects.Item
import NarseseDialects.Kind

namespace NarseseDialects.Lexical

inductive Term where
  | atom (sigil name : Text) (spot : Option Nat)
  | compound (connector : Text) (terms : List Term) (spot : Option Nat)
  | set (left : Text) (terms : List Term) (right : Text) (spot : Option Nat)
  | statement (copula : Text) (subject predicate : Term) (spot : Option Nat)

structure Sentence where
  term : Term
  punctuation : Text
  stamp : Text
  truth : List Text
  spot : Option Nat

structure Task where
  budget : List Text
  sentence : Sentence
  spot : Option Nat

abbrev Node := Item Term Sentence Task

namespace Term

def spot : Term → Option Nat
  | atom _ _ s | compound _ _ s | set _ _ _ s | statement _ _ _ s => s

def children : Term → List Term
  | atom .. => []
  | compound _ ts _ | set _ ts _ _ => ts
  | statement _ s p _ => [s, p]

def category : Term → Category
  | atom .. => .atom
  | compound .. | set .. => .compound
  | statement .. => .statement

/-- Before it has a meaning, every bracketed term holds its components in order. -/
def capacity : Term → Capacity
  | atom .. => .atom
  | compound .. | set .. => .vector
  | statement .. => .binaryVector

mutual

def same : Term → Term → Bool
  | atom p n _, atom q m _ => p == q && n == m
  | compound c ts _, compound e us _ => c == e && sameAll ts us
  | set l ts r _, set k us q _ => l == k && sameAll ts us && r == q
  | statement c s p _, statement e t q _ => c == e && same s t && same p q
  | _, _ => false

def sameAll : List Term → List Term → Bool
  | [], [] => true
  | t :: ts, u :: us => same t u && sameAll ts us
  | _, _ => false

end

mutual

def relocate (f : Nat → Nat) : Term → Term
  | atom p n s => atom p n (s.map f)
  | compound c ts s => compound c (relocateAll f ts) (s.map f)
  | set l ts r s => set l (relocateAll f ts) r (s.map f)
  | statement c t u s => statement c (relocate f t) (relocate f u) (s.map f)

def relocateAll (f : Nat → Nat) : List Term → List Term
  | [] => []
  | t :: ts => relocate f t :: relocateAll f ts

end

theorem relocateAll_eq_map (f : Nat → Nat) (ts : List Term) :
    relocateAll f ts = ts.map (relocate f) := by
  induction ts with
  | nil => rfl
  | cons t ts ih => simp [relocateAll, ih]

theorem spot_relocate (f : Nat → Nat) (t : Term) : (t.relocate f).spot = t.spot.map f := by
  cases t <;> rfl

end Term

namespace Sentence

def same (a b : Sentence) : Bool :=
  a.term.same b.term && a.punctuation == b.punctuation && a.stamp == b.stamp && a.truth == b.truth

def relocate (f : Nat → Nat) (s : Sentence) : Sentence :=
  { s with term := s.term.relocate f, spot := s.spot.map f }

end Sentence

namespace Task

def same (a b : Task) : Bool := a.budget == b.budget && a.sentence.same b.sentence

def relocate (f : Nat → Nat) (k : Task) : Task :=
  { k with sentence := k.sentence.relocate f, spot := k.spot.map f }

end Task

namespace Node

def spot : Node → Option Nat := Item.elim Term.spot Sentence.spot Task.spot

def same : Node → Node → Bool
  | .term t, .term u => t.same u
  | .sentence s, .sentence t => s.same t
  | .task k, .task l => k.same l
  | _, _ => false

def relocate (f : Nat → Nat) : Node → Node :=
  Item.map (Term.relocate f) (Sentence.relocate f) (Task.relocate f)

end Node

end NarseseDialects.Lexical
