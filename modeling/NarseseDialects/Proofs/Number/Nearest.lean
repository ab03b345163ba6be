import Mathlib.Algebra.Group.Nat.Defs
import Mathlib.Tactic.Lemma
import NarseseDialects.Number.Magnitude

/-! The magnitude nearest to a decimal is that nearest to the same number as a fraction: where the size of
a decimal decides, rounding would have decided alike, and a shift of the point changes nothing. -/

namespace NarseseDialects.Magnitude

lemma nearest_mul_mul_right (n d : Nat) {c : Nat} (hc : 0 < c) : nearest (n * c) (d * c) = nearest n d := by
  have hl : 2 * (n % d * c) < d * c ↔ 2 * (n % d) < d := by
    rw [← Nat.mul_assoc]
    exact Nat.mul_lt_mul_right hc
  have hr : d * c < 2 * (n % d * c) ↔ d < 2 * (n % d) := by
    rw [← Nat.mul_assoc]
    exact Nat.mul_lt_mul_right hc
  simp only [nearest, Nat.mul_div_mul_right n d hc, Nat.mul_mod_mul_right, hl, hr]

lemma ofUnits?_mul_mul_right (n d : Nat) {c : Nat} (hc : 0 < c) : ofUnits? (n * c) (d * c) = ofUnits? n d := by
  simp only [ofUnits?, Nat.mul_div_mul_right n d hc]
  rw [Nat.mul_right_comm, nearest_mul_mul_right _ _ hc]

lemma ofUnits?_of_lt {n d : Nat} (h : 2 * n < d) : ofUnits? n d = some zero := by
  have hn : n < d := by omega
  have he : exponentFor 0 = 0 := by decide
  have hp : Nat.pow 2 0 = 1 := rfl
  simp only [ofUnits?, Nat.div_eq_of_lt hn, he, hp, Nat.mul_one, nearest, Nat.mod_eq_of_lt hn, if_pos h]
  exact ofMantissa?_self zero

lemma ofMantissa?_eq_none {m e : Nat} (h : 2045 < e) : ofMantissa? m e = none := by
  rw [ofMantissa?, dif_neg (by omega), dif_neg (by omega)]

lemma ofUnits?_of_le {n d k : Nat} (hk : 2098 ≤ k) (h : 2 ^ k ≤ n / d) : ofUnits? n d = none := by
  have hne : n / d ≠ 0 := Nat.pos_iff_ne_zero.1 (Nat.lt_of_lt_of_le (Nat.two_pow_pos k) h)
  have hl : k ≤ (n / d).log2 := (Nat.le_log2 hne).2 h
  rw [ofUnits?]
  apply ofMantissa?_eq_none
  rw [exponentFor]
  omega

lemma two_pow_le_ten_pow (k : Nat) : 2 ^ (3 * k) ≤ 10 ^ k := by
  rw [Nat.pow_mul]
  exact Nat.pow_le_pow_left (by decide) k

lemma ofUnits?_zero_left {d : Nat} (hd : 0 < d) : ofUnits? 0 d = some zero := ofUnits?_of_lt (by omega)

lemma two_pow_mul_unitsOfOne (j : Nat) : 2 ^ j * unitsOfOne = 2 ^ (j + 1074) := by
  have h (k : Nat) : 2 ^ j * Nat.pow 2 k = 2 ^ (j + k) := (Nat.pow_add 2 j k).symm
  exact h 1074

lemma unitsOfOne_pos : 0 < unitsOfOne := by
  have h (j : Nat) : 0 < 2 ^ j * unitsOfOne := by
    rw [two_pow_mul_unitsOfOne]
    exact Nat.two_pow_pos _
  exact Nat.pos_of_mul_pos_left (h 0)

lemma ofDecimal?_eq (n : Nat) (x : Int) :
    ofDecimal? n x = ofUnits? (n * 10 ^ x.toNat * unitsOfOne) (10 ^ (-x).toNat) := by
  by_cases hn : n = 0
  · have hd : 0 < 10 ^ (-x).toNat := Nat.pow_pos (by decide)
    rw [ofDecimal?.eq_def, if_pos hn, hn, Nat.zero_mul, Nat.zero_mul, ofUnits?_zero_left hd]
  rw [ofDecimal?.eq_def, if_neg hn]
  cases x with
  | ofNat k =>
    have h₁ : (Int.ofNat k).toNat = k := rfl
    have h₂ : (-Int.ofNat k).toNat = 0 := by simp
    rw [h₁, h₂, Nat.pow_zero]
    dsimp only
    split
    next hk =>
      refine (ofUnits?_of_le (by omega : 2098 ≤ 3 * k + 1074) ?_).symm
      have h10 : 2 ^ (3 * k) ≤ n * 10 ^ k :=
        Nat.le_trans (two_pow_le_ten_pow k) (Nat.le_mul_of_pos_left _ (Nat.pos_of_ne_zero hn))
      rw [Nat.div_one]
      calc 2 ^ (3 * k + 1074) = 2 ^ (3 * k) * unitsOfOne := (two_pow_mul_unitsOfOne (3 * k)).symm
        _ ≤ n * 10 ^ k * unitsOfOne := Nat.mul_le_mul_right _ h10
    · rfl
  | negSucc k =>
    have h₁ : (Int.negSucc k).toNat = 0 := rfl
    have h₂ : (-Int.negSucc k).toNat = k + 1 := rfl
    rw [h₁, h₂, Nat.pow_zero, Nat.mul_one]
    dsimp only
    split
    next hk =>
      -- A number this small is nearest to zero, which the fraction shows without its digits.
      refine (ofUnits?_of_lt ?_).symm
      have hl : n < 2 ^ (n.log2 + 1) := Nat.lt_log2_self
      calc 2 * (n * unitsOfOne) < 2 * (2 ^ (n.log2 + 1) * unitsOfOne) := by
            exact Nat.mul_lt_mul_of_pos_left (Nat.mul_lt_mul_of_pos_right hl unitsOfOne_pos) (by decide)
        _ = 2 ^ (n.log2 + 1 + 1074 + 1) := by rw [two_pow_mul_unitsOfOne, Nat.mul_comm, ← Nat.pow_succ]
        _ ≤ 2 ^ (3 * (k + 1)) := Nat.pow_le_pow_right (by decide) (by omega)
        _ ≤ 10 ^ (k + 1) := two_pow_le_ten_pow (k + 1)
    · rfl

lemma ofDecimal?_mul_ten (n : Nat) (x : Int) : ofDecimal? (n * 10) (x - 1) = ofDecimal? n x := by
  rw [ofDecimal?_eq, ofDecimal?_eq]
  by_cases h : 0 < x
  · have h₁ : x.toNat = (x - 1).toNat + 1 := by omega
    have h₂ : (-(x - 1)).toNat = (-x).toNat := by omega
    rw [h₁, h₂, Nat.pow_succ, Nat.mul_assoc n, Nat.mul_comm 10]
  · have h₁ : x.toNat = (x - 1).toNat := by omega
    have h₂ : (-(x - 1)).toNat = (-x).toNat + 1 := by omega
    rw [h₁, h₂, Nat.pow_succ, Nat.mul_right_comm n, Nat.mul_right_comm _ 10,
      ofUnits?_mul_mul_right _ _ (by decide)]

lemma ofDecimal?_mul_ten_pow (n : Nat) (x : Int) (j : Nat) :
    ofDecimal? (n * 10 ^ j) (x - j) = ofDecimal? n x := by
  induction j with
  | zero => rw [Nat.pow_zero, Nat.mul_one, Int.natCast_zero, Int.sub_zero]
  | succ j ih =>
    have h := ofDecimal?_mul_ten (n * 10 ^ j) (x - j)
    rw [Nat.mul_assoc, ← Nat.pow_succ, Int.sub_sub, ih] at h
    rw [← h, Int.natCast_succ]

end NarseseDialects.Magnitude
