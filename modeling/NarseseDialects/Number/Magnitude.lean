/-! Binary magnitudes of 53 significant bits, as natural multiples of the least one, `2 ^ -1074`, and
the magnitude nearest to a fraction. A tie goes to the even mantissa. -/

namespace NarseseDialects

/-- The multiple `mantissa * 2 ^ exponent` of the least magnitude. Only the lowest exponent has
mantissas below `2 ^ 52`, so each value is written in one way. -/
structure Magnitude where
  mantissa : Nat
  exponent : Nat
  mantissa_lt : mantissa < Nat.pow 2 53
  exponent_le : exponent ≤ 2045
  normal : exponent = 0 ∨ Nat.pow 2 52 ≤ mantissa
  deriving DecidableEq

namespace Magnitude

def units (x : Magnitude) : Nat := x.mantissa * Nat.pow 2 x.exponent

def unitsOfOne : Nat := Nat.pow 2 1074

def zero : Magnitude := ⟨0, 0, by decide, by decide, .inl rfl⟩

def nearest (n d : Nat) : Nat :=
  let q := n / d
  let r := n % d
  if 2 * r < d then q else if d < 2 * r then q + 1 else q + q % 2

/-- The magnitude with this mantissa, which may have reached `2 ^ 53`; none when it is too large. -/
def ofMantissa? (m e : Nat) : Option Magnitude :=
  if h : m < Nat.pow 2 53 ∧ e ≤ 2045 ∧ (e = 0 ∨ Nat.pow 2 52 ≤ m) then
    some ⟨m, e, h.1, h.2.1, h.2.2⟩
  else if h : m = Nat.pow 2 53 ∧ e < 2045 then
    some ⟨Nat.pow 2 52, e + 1, by decide, h.2, .inr (by decide)⟩
  else none

def exponentFor (q : Nat) : Nat := q.log2 - 52

def ofUnits? (n d : Nat) : Option Magnitude :=
  let e := exponentFor (n / d)
  ofMantissa? (nearest n (d * Nat.pow 2 e)) e

/-- The magnitude nearest to `n * 10 ^ x`. A scale that is far out of range is decided by size. -/
def ofDecimal? (n : Nat) (x : Int) : Option Magnitude :=
  if n = 0 then some zero
  else match x with
    | .ofNat k => if 400 < k then none else ofUnits? (n * Nat.pow 10 k * unitsOfOne) 1
    | .negSucc k =>
      if n.log2 + 1101 < 3 * (k + 1) then some zero
      else ofUnits? (n * unitsOfOne) (Nat.pow 10 (k + 1))

def ofNat? (n : Nat) : Option Magnitude := ofUnits? (n * unitsOfOne) 1

theorem nearest_mul_right (q : Nat) {d : Nat} (h : 0 < d) : nearest (q * d) d = q := by
  simp [nearest, Nat.mul_div_cancel _ h, h]

theorem ofMantissa?_self (x : Magnitude) : ofMantissa? x.mantissa x.exponent = some x :=
  dif_pos ⟨x.mantissa_lt, x.exponent_le, x.normal⟩

theorem exponentFor_units (x : Magnitude) : exponentFor x.units = x.exponent := by
  unfold exponentFor units
  rcases x.normal with h | h
  · rw [h, show Nat.pow 2 0 = 1 from rfl, Nat.mul_one]
    rcases Nat.eq_zero_or_pos x.mantissa with h0 | h0
    · simp [h0]
    · have := (Nat.log2_lt (Nat.pos_iff_ne_zero.1 h0)).2 x.mantissa_lt
      omega
  · have hpos : 0 < Nat.pow 2 x.exponent := Nat.two_pow_pos _
    have hm : x.mantissa ≠ 0 := Nat.pos_iff_ne_zero.1 (Nat.lt_of_lt_of_le (by decide) h)
    have hne : x.mantissa * Nat.pow 2 x.exponent ≠ 0 := Nat.mul_ne_zero hm (Nat.pos_iff_ne_zero.1 hpos)
    have hlo : 52 + x.exponent ≤ (x.mantissa * Nat.pow 2 x.exponent).log2 := by
      refine (Nat.le_log2 hne).2 ?_
      exact Nat.le_trans (Nat.le_of_eq (Nat.pow_add 2 52 x.exponent)) (Nat.mul_le_mul_right _ h)
    have hhi : (x.mantissa * Nat.pow 2 x.exponent).log2 < 53 + x.exponent := by
      refine (Nat.log2_lt hne).2 ?_
      exact Nat.lt_of_lt_of_le (Nat.mul_lt_mul_of_pos_right x.mantissa_lt hpos)
        (Nat.le_of_eq (Nat.pow_add 2 53 x.exponent).symm)
    omega

theorem ofUnits?_units (x : Magnitude) {d : Nat} (h : 0 < d) : ofUnits? (x.units * d) d = some x := by
  simp only [ofUnits?, Nat.mul_div_cancel _ h, exponentFor_units]
  have : x.units * d = x.mantissa * (d * Nat.pow 2 x.exponent) := by
    rw [units, Nat.mul_assoc, Nat.mul_comm d]
  have hpos : 0 < d * Nat.pow 2 x.exponent := Nat.mul_pos h (Nat.two_pow_pos _)
  rw [this, nearest_mul_right _ hpos, ofMantissa?_self]

end Magnitude

end NarseseDialects
