import NarseseDialects.Number.Layout
import NarseseDialects.Proofs.Number.Nearest
import NarseseDialects.Proofs.Number.Written

namespace NarseseDialects

namespace Magnitude

lemma eq_zero_of_mantissa {x : Magnitude} (h : x.mantissa = 0) : x = zero := by
  have he : x.exponent = 0 := by
    rcases x.normal with he | hm
    · exact he
    · rw [h] at hm
      exact absurd hm (by decide)
  cases x
  cases h
  cases he
  rfl

lemma ofDecimal?_mul_five_pow (x : Magnitude) {k : Nat} (hk : unitsOfOne = Nat.pow 2 k) :
    ofDecimal? (x.units * Nat.pow 5 k) (-k) = some x := by
  have h₁ : (-(k : Int)).toNat = 0 := by omega
  have h₂ : (-(-(k : Int))).toNat = k := by omega
  have h₃ : x.units * Nat.pow 5 k * 10 ^ 0 * unitsOfOne = x.units * 10 ^ k := by
    rw [hk, Nat.pow_zero, Nat.mul_one, Nat.mul_assoc]
    exact congrArg (x.units * ·) (Nat.mul_pow 5 2 k).symm
  rw [ofDecimal?_eq, h₁, h₂, h₃]
  exact ofUnits?_units x (Nat.pow_pos (by decide))

lemma exact_reads (x : Magnitude) : x.exact.magnitude? = some x :=
  ofDecimal?_mul_five_pow x (k := 1074) rfl

lemma shortest_reads (x : Magnitude) : x.shortest.magnitude? = some x := by
  rw [shortest]
  split
  next h =>
    rw [eq_zero_of_mantissa h]
    rfl
  next =>
    dsimp only
    cases hf : ((List.range 17).map (· + 1)).findSome? (withDigits? x x.fine (Text.ofNat x.fine).length) with
    | none => exact exact_reads x
    | some d =>
      obtain ⟨n, -, hn⟩ := List.exists_of_findSome?_eq_some hf
      exact choose?_reads hn

lemma shortest_digits_ne_zero {x : Magnitude} (hx : x.mantissa ≠ 0) : x.shortest.digits ≠ 0 := by
  intro h
  have hr := x.shortest_reads
  rw [Decimal.magnitude?, h] at hr
  have hz : x = .zero := (Option.some.inj hr).symm
  rw [hz] at hx
  exact hx rfl

end Magnitude

namespace Decimal

lemma exists_text_append_zeros (d : Decimal) : ∃ j, Text.ofNat d.digits = d.text ++ List.replicate j '0' := by
  have hz : ∀ c ∈ Text.takeBack (· = '0') (Text.ofNat d.digits), c = '0' := fun c hc =>
    of_decide_eq_true (List.all_eq_true.1 List.all_takeWhile c (List.mem_reverse.1 hc))
  have hs := Text.dropBack_append_takeBack (· = '0') (Text.ofNat d.digits)
  rw [List.eq_replicate_of_mem hz] at hs
  exact ⟨_, hs.symm⟩

lemma all_text (d : Decimal) : d.text.all Text.isPlainDigit = true := by
  obtain ⟨j, hj⟩ := exists_text_append_zeros d
  have h := Text.all_ofNat d.digits
  rw [hj, List.all_append, Bool.and_eq_true] at h
  exact h.1

lemma text_ne_nil {d : Decimal} (h : d.digits ≠ 0) : d.text ≠ [] := by
  obtain ⟨j, hj⟩ := exists_text_append_zeros d
  intro ht
  have hd := Text.digitsValue_ofNat d.digits
  rw [hj, ht, List.nil_append, Text.digitsValue_zeros] at hd
  exact h hd.symm

lemma magnitude?_eq (d : Decimal) :
    d.magnitude? = Magnitude.ofDecimal? (Text.digitsValue d.text) (d.point - d.text.length) := by
  obtain ⟨j, hj⟩ := exists_text_append_zeros d
  have hd : d.digits = Text.digitsValue d.text * 10 ^ j := by
    rw [← Text.digitsValue_ofNat d.digits, hj, Text.digitsValue_append, Text.digitsValue_zeros,
      List.length_replicate, Nat.add_zero]
  have hx : d.exponent = d.point - d.text.length - j := by
    rw [point, hj, List.length_append, List.length_replicate]
    omega
  rw [magnitude?, hd, hx, Magnitude.ofDecimal?_mul_ten_pow]

end Decimal

namespace Double

lemma placed_succ (t : Text) (k : Nat) :
    placed t (Int.ofNat (k + 1)) =
      if k + 1 < t.length then t.take (k + 1) ++ '.' :: t.drop (k + 1)
      else t ++ List.replicate (k + 1 - t.length) '0' := by
  rw [List.append_cons]
  rfl

lemma all_zeros (n : Nat) : (List.replicate n '0' : Text).all Text.isPlainDigit = true := by
  apply List.all_eq_true.2
  intro c hc
  rw [List.eq_of_mem_replicate hc]
  decide

section

variable {t : Text} (ht : t.all Text.isPlainDigit = true) (hne : t ≠ [])

include ht hne

lemma ofNumeral?_placed (p : Int) :
    ∃ i : Nat, Decimal.ofNumeral? (placed t p) = some ⟨Text.digitsValue t * 10 ^ i, p - t.length - i⟩ := by
  have h₀ : (['0'] : Text).all Text.isPlainDigit = true := all_zeros 1
  have hv : Text.digitsValue ['0'] = 0 := by decide
  cases p with
  | ofNat k =>
    cases k with
    | zero =>
      have hp : placed t (Int.ofNat 0) = ['0'] ++ '.' :: t := rfl
      refine ⟨0, ?_⟩
      rw [hp, Decimal.ofNumeral?_point h₀ ht hne, Text.digitsValue_append, hv]
      congr 2
      · omega
      · simp
    | succ k =>
      rw [placed_succ]
      split
      next h =>
        have hts := List.take_append_drop (k + 1) t
        have hta := ht
        rw [← hts, List.all_append, Bool.and_eq_true] at hta
        refine ⟨0, ?_⟩
        rw [Decimal.ofNumeral?_point hta.1 hta.2 (by simpa using h), hts, List.length_drop]
        congr 2
        · simp
        · simp only [Int.ofNat_eq_natCast]
          omega
      next h =>
        refine ⟨k + 1 - t.length, ?_⟩
        have ha : (t ++ List.replicate (k + 1 - t.length) '0').all Text.isPlainDigit = true := by
          rw [List.all_append, ht, all_zeros, Bool.and_self]
        rw [Decimal.ofNumeral?_of_all ha (by simp [hne]), Text.digitsValue_append, Text.digitsValue_zeros,
          List.length_replicate, Nat.add_zero]
        congr 2
        simp only [Int.ofNat_eq_natCast]
        omega
  | negSucc k =>
    have hp : placed t (Int.negSucc k) = ['0'] ++ '.' :: (List.replicate (k + 1) '0' ++ t) := rfl
    have ha : (List.replicate (k + 1) '0' ++ t).all Text.isPlainDigit = true := by
      rw [List.all_append, ht, all_zeros, Bool.and_self]
    refine ⟨0, ?_⟩
    rw [hp, Decimal.ofNumeral?_point h₀ ha (by simp [hne]), Text.digitsValue_append, hv,
      Text.digitsValue_append, Text.digitsValue_zeros, List.length_append, List.length_replicate]
    congr 2
    · omega
    · omega

lemma ofNumeral?_placed_zero {p : Int} (hp : t.length ≤ p) :
    ∃ i : Nat, Decimal.ofNumeral? (placed t p ++ ".0") = some ⟨Text.digitsValue t * 10 ^ i, p - t.length - i⟩ := by
  obtain ⟨k, rfl⟩ : ∃ k : Nat, p = Int.ofNat (k + 1) := by
    have := List.length_pos_iff.2 hne
    refine ⟨p.toNat - 1, ?_⟩
    rw [Int.ofNat_eq_natCast]
    omega
  have hk : ¬ k + 1 < t.length := by
    simp only [Int.ofNat_eq_natCast] at hp
    omega
  have ha : (t ++ List.replicate (k + 1 - t.length) '0').all Text.isPlainDigit = true := by
    rw [List.all_append, ht, all_zeros, Bool.and_self]
  have h₀ : (['0'] : Text).all Text.isPlainDigit = true := all_zeros 1
  have hs : ('.' :: ['0'] : Text) = ".0" := by decide
  refine ⟨k + 1 - t.length + 1, ?_⟩
  rw [placed_succ, if_neg hk, ← hs, Decimal.ofNumeral?_point ha h₀ (by simp)]
  congr 2
  · rw [Text.digitsValue_append, Text.digitsValue_append, Text.digitsValue_zeros, List.length_replicate, Nat.add_zero,
      Nat.pow_succ, Nat.mul_assoc]
    rfl
  · simp only [Int.ofNat_eq_natCast, List.length_singleton]
    omega

end

lemma ofNumeral?_numeral (x : Magnitude) :
    ∃ d, Decimal.ofNumeral? (numeral (finite false x)) = some d ∧ d.magnitude? = some x := by
  by_cases hx : x.mantissa = 0
  · rw [Magnitude.eq_zero_of_mantissa hx]
    exact ⟨⟨0, -1⟩, by decide, by decide⟩
  have hr := x.shortest_reads
  have ht := x.shortest.all_text
  have hne := Decimal.text_ne_nil (Magnitude.shortest_digits_ne_zero hx)
  have hs : ∀ i : Nat, Magnitude.ofDecimal? (Text.digitsValue x.shortest.text * 10 ^ i)
      (x.shortest.point - x.shortest.text.length - i) = some x := fun i => by
    rw [Magnitude.ofDecimal?_mul_ten_pow, ← Decimal.magnitude?_eq, hr]
  have hp : digitsOf x = (x.shortest.text, x.shortest.point) := if_neg hx
  rw [numeral, hp]
  dsimp only
  split
  next hpos =>
    rw [display, hp]
    dsimp only
    rw [if_pos hpos]
    split
    next hw =>
      obtain ⟨i, hi⟩ := ofNumeral?_placed_zero ht hne hw
      exact ⟨_, hi, hs i⟩
    next =>
      obtain ⟨i, hi⟩ := ofNumeral?_placed ht hne x.shortest.point
      rw [← List.append_nil (placed _ _)] at hi
      exact ⟨_, hi, hs i⟩
  next =>
    obtain ⟨i, hi⟩ := ofNumeral?_placed ht hne x.shortest.point
    exact ⟨_, hi, hs i⟩

lemma real?_numeral (x : Magnitude) : Written.real? (numeral (finite false x)) = some (finite false x) := by
  obtain ⟨d, hd, hx⟩ := ofNumeral?_numeral x
  rw [Written.real?_of_ofNumeral? hd, ofDecimalText, ofDecimal]
  rw [Decimal.magnitude?] at hx
  rw [hx]
  rfl

end Double

end NarseseDialects
