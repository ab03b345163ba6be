import Mathlib.Tactic.Lemma
import NarseseDialects.Text.Basic
import NarseseDialects.Text.Classes

namespace NarseseDialects.Text

/-- What holds of every character of a text is decided along the text, not along all characters. -/
instance decidableForallMem {t : Text} {P : Char → Prop} [DecidablePred P] : Decidable (∀ c ∈ t, P c) :=
  List.decidableBAll P t

def plainDigits : Text := "0123456789"

def numeralChars : Text := '.' :: plainDigits

def timeChars : Text := '+' :: '-' :: plainDigits

lemma isPlainDigit_iff_mem {c : Char} : isPlainDigit c = true ↔ c ∈ plainDigits := by
  constructor
  · intro h
    simp only [isPlainDigit, Bool.and_eq_true, decide_eq_true_eq] at h
    obtain ⟨h₀, h₉⟩ := h
    have h₀' : 48 ≤ c.toNat := h₀
    have h₉' : c.toNat ≤ 57 := h₉
    have hd : ∀ n < 10, Char.ofNat (48 + n) ∈ plainDigits := by decide
    have hc := hd (c.toNat - 48) (by omega)
    rwa [Nat.add_sub_of_le h₀', Char.ofNat_toNat] at hc
  · have hd : ∀ c ∈ plainDigits, isPlainDigit c = true := by decide
    exact hd c

def disjointRanges (rs ss : List (Nat × Nat)) : Bool :=
  rs.all fun r => ss.all fun s => r.2 < s.1 || s.2 < r.1

lemma exists_of_inRanges {rs : List (Nat × Nat)} {n : Nat} (h : inRanges rs n = true) :
    ∃ r ∈ rs, r.1 ≤ n ∧ n ≤ r.2 := by
  induction rs with
  | nil => cases h
  | cons r rs ih =>
    simp only [inRanges, Bool.and_eq_true, Bool.or_eq_true, decide_eq_true_eq] at h
    obtain ⟨h₁, h₂ | h₂⟩ := h
    · exact ⟨r, List.mem_cons_self, h₁, h₂⟩
    · obtain ⟨s, hs, hn⟩ := ih h₂
      exact ⟨s, List.mem_cons_of_mem r hs, hn⟩

lemma not_inRanges_of_disjoint {rs ss : List (Nat × Nat)} {n : Nat} (h : disjointRanges rs ss = true)
    (hr : inRanges rs n = true) : inRanges ss n = false := by
  cases hs : inRanges ss n with
  | false => rfl
  | true =>
    obtain ⟨r, hrm, hr₁, hr₂⟩ := exists_of_inRanges hr
    obtain ⟨s, hsm, hs₁, hs₂⟩ := exists_of_inRanges hs
    simp only [disjointRanges, List.all_eq_true, Bool.or_eq_true, decide_eq_true_eq] at h
    rcases h r hrm s hsm with h | h <;> omega

lemma toNat_le (c : Char) : c.toNat ≤ 0x10FFFF := by
  rw [Char.toNat]
  rcases c.valid with h | h <;> omega

lemma not_isNameChar_of_isBlank {c : Char} (h : isBlank c = true) : isNameChar c = false := by
  have ha : isAlphanumeric c = false :=
    not_inRanges_of_disjoint (by decide +kernel : disjointRanges blankRanges alphanumericRanges = true) h
  have ho : disjointRanges blankRanges [(0x2D, 0x2D), (0x5F, 0x5F), (0x1F300, 0x10FFFF)] = true := by
    decide
  have hs := not_inRanges_of_disjoint ho h
  simp only [inRanges, Bool.and_eq_false_iff, Bool.or_eq_false_iff, decide_eq_false_iff_not] at hs
  have hv := toNat_le c
  simp only [isNameChar, ha, Bool.false_or, Bool.or_eq_false_iff, decide_eq_false_iff_not]
  refine ⟨⟨?_, ?_⟩, ?_⟩
  · rintro rfl
    simp at hs
  · rintro rfl
    simp at hs
  · omega

lemma isNameChar_of_isAlphanum {c : Char} (h : c.isAlphanum = true) : isNameChar c = true := by
  have hd : ∀ n < 128, (Char.ofNat n).isAlphanum = true → isAlphanumeric (Char.ofNat n) = true := by
    decide +kernel
  have hc : c.toNat < 128 := by
    replace h : ((decide (c.val ≥ 65 ∧ c.val ≤ 90) || (c.val ≥ 97 && c.val ≤ 122)) ||
      (c.val ≥ 48 && c.val ≤ 57)) = true := h
    simp only [Bool.or_eq_true, Bool.and_eq_true, decide_eq_true_eq, ge_iff_le, UInt32.le_iff_toNat_le] at h
    have hv : c.toNat = c.val.toNat := rfl
    rw [hv]
    rcases h with (⟨-, h⟩ | ⟨-, h⟩) | ⟨-, h⟩
    all_goals
      apply Nat.lt_of_le_of_lt h
      decide
  have hn := hd c.toNat hc
  rw [Char.ofNat_toNat] at hn
  exact isNameChar_of_isAlphanumeric (hn h)

end NarseseDialects.Text
