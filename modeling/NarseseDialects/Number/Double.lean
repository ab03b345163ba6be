import NarseseDialects.Number.Magnitude

namespace NarseseDialects

inductive Double where
  | finite (negative : Bool) (magnitude : Magnitude)
  | infinite (negative : Bool)
  | nan
  deriving DecidableEq

namespace Double

def zero : Double := finite false .zero

def ofMagnitude? (negative : Bool) : Option Magnitude → Double
  | some x => finite negative x
  | none => infinite negative

def ofDecimal (negative : Bool) (n : Nat) (x : Int) : Double :=
  ofMagnitude? negative (Magnitude.ofDecimal? n x)

def ofInt? (i : Int) : Option Double :=
  (Magnitude.ofNat? i.natAbs).map (finite (decide (i < 0)))

def units? : Double → Option Int
  | finite false x => some x.units
  | finite true x => some (-x.units)
  | _ => none

def same : Double → Double → Bool
  | finite s x, finite t y => (finite s x).units? == (finite t y).units?
  | infinite s, infinite t => s == t
  | _, _ => false

def sameInt (x : Double) (i : Int) : Bool := x.units? == some (i * Magnitude.unitsOfOne)

def inUnit (x : Double) : Bool :=
  match x.units? with
  | some u => 0 ≤ u && u ≤ Magnitude.unitsOfOne
  | none => false

def isZero (x : Double) : Bool := x.units? == some 0

example : (finite true .zero).same zero ∧ finite true .zero ≠ zero := by decide

end Double

end NarseseDialects
