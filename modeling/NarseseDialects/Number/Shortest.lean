import NarseseDialects.Number.Double
import NarseseDialects.Text.Basic

/-! The fewest decimal digits that read back as a given magnitude, and of those the nearest ones; of
two that are equally near, the even ones. Every candidate is tested by reading it back. -/

namespace NarseseDialects

structure Decimal where
  digits : Nat
  exponent : Int
  deriving DecidableEq

namespace Decimal

def magnitude? (d : Decimal) : Option Magnitude := Magnitude.ofDecimal? d.digits d.exponent

def text (d : Decimal) : Text := ((Text.ofNat d.digits).reverse.dropWhile (· = '0')).reverse

def point (d : Decimal) : Int := (Text.ofNat d.digits).length + d.exponent

def compareFraction (n m : Nat) (d : Decimal) : Ordering :=
  match d.exponent with
  | .ofNat k => compare n (d.digits * Nat.pow 10 k * m)
  | .negSucc k => compare (n * Nat.pow 10 (k + 1)) (d.digits * m)

end Decimal

namespace Magnitude

/-- The magnitude in units of `10 ^ -400`, rounded down: all digits that a choice can hang on. -/
def fine (x : Magnitude) : Nat := x.units * Nat.pow 10 400 / unitsOfOne

/-- The nearer of two neighbours on a decimal grid, when both read back; else the one that does. -/
def choose? (x : Magnitude) (low high : Decimal) : Option Decimal :=
  match decide (low.magnitude? = some x), decide (high.magnitude? = some x) with
  | true, true =>
    match Decimal.compareFraction (2 * x.units) unitsOfOne ⟨low.digits + high.digits, low.exponent⟩ with
    | .lt => some low
    | .gt => some high
    | .eq => some (if low.digits % 2 = 0 then low else high)
  | true, false => some low
  | false, true => some high
  | false, false => none

def withDigits? (x : Magnitude) (fine length n : Nat) : Option Decimal :=
  let low := fine / Nat.pow 10 (length - n)
  let exponent := (length : Int) - 400 - n
  choose? x ⟨low, exponent⟩ ⟨low + 1, exponent⟩

def exact (x : Magnitude) : Decimal := ⟨x.units * Nat.pow 5 1074, -1074⟩

def shortest (x : Magnitude) : Decimal :=
  if x.mantissa = 0 then ⟨0, 0⟩
  else
    let f := x.fine
    let length := (Text.ofNat f).length
    (((List.range 17).map (· + 1)).findSome? (withDigits? x f length)).getD x.exact

theorem choose?_reads {x : Magnitude} {low high d : Decimal} (h : choose? x low high = some d) :
    d.magnitude? = some x := by
  unfold choose? at h
  split at h
  · next h₁ h₂ =>
    simp only [decide_eq_true_eq] at h₁ h₂
    split at h <;> cases h <;> (try split) <;> assumption
  · next h₁ _ => cases h; simpa using h₁
  · next _ h₂ => cases h; simpa using h₂
  · cases h

end Magnitude

end NarseseDialects
