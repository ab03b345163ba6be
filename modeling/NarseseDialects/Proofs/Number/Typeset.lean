import Mathlib.Data.List.Basic
import NarseseDialects.Proofs.Number.Numeral
import NarseseDialects.Proofs.Text.Apart

namespace NarseseDialects

lemma Decimal.getLast?_text_ne (d : Decimal) : d.text.getLast? ≠ some '0' := by
  intro h
  rw [text, List.getLast?_reverse] at h
  have hz := List.head?_dropWhile_not (fun c => decide (c = '0')) (Text.ofNat d.digits).reverse
  rw [h] at hz
  cases hz

namespace Double

variable {t : Text} {p : Int}

lemma getLast?_placed (hne : t ≠ []) (h : p < t.length) : (placed t p).getLast? = t.getLast? := by
  cases p with
  | ofNat k =>
    cases k with
    | zero =>
      have hp : placed t (Int.ofNat 0) = "0." ++ t := rfl
      rw [hp, List.getLast?_append_of_ne_nil _ hne]
    | succ k =>
      have hk : k + 1 < t.length := by
        simp only [Int.ofNat_eq_natCast] at h
        omega
      have hd : t.drop (k + 1) ≠ [] := by simpa using hk
      rw [placed_succ, if_pos hk, List.append_cons, List.getLast?_append_of_ne_nil _ hd]
      conv => rhs; rw [← List.take_append_drop (k + 1) t]
      exact (List.getLast?_append_of_ne_nil _ hd).symm
  | negSucc k =>
    have hp : placed t (Int.negSucc k) = "0." ++ List.replicate (k + 1) '0' ++ t := rfl
    rw [hp, List.getLast?_append_of_ne_nil _ hne]

lemma exists_scientific (ht : t.all Text.isPlainDigit = true) (hne : t ≠ []) (power : Int) :
    ∃ m, scientific t power = m ++ 'e' :: powerText power ∧
      Decimal.ofNumeral? m = some ⟨Text.digitsValue t, 1 - t.length⟩ := by
  match t, ht, hne with
  | [d], ht, hne =>
    refine ⟨[d], rfl, ?_⟩
    rw [Decimal.ofNumeral?_of_all ht hne]
    simp
  | d :: e :: ds, ht, _ =>
    rw [List.all_cons, Bool.and_eq_true] at ht
    have hd : ([d] : Text).all Text.isPlainDigit = true := by simpa using ht.1
    refine ⟨[d] ++ '.' :: (e :: ds), by simp [scientific], ?_⟩
    rw [Decimal.ofNumeral?_point hd ht.2 (by simp)]
    simp only [List.singleton_append, List.length_cons]
    congr 2

lemma exists_powerText (power : Int) :
    ∃ ds : Text, powerText power = (if power < 0 then '-' else '+') :: ds ∧ ds.all Text.isPlainDigit = true ∧
      2 ≤ ds.length ∧ Text.digitsValue ds = power.natAbs := by
  refine ⟨List.replicate (2 - (Text.ofNat power.natAbs).length) '0' ++ Text.ofNat power.natAbs, ?_, ?_, ?_, ?_⟩
  · rw [powerText]
    split <;> rfl
  · rw [List.all_append, all_zeros, Text.all_ofNat, Bool.and_self]
  · rw [List.length_append, List.length_replicate]
    omega
  · rw [Text.digitsValue_append, Text.digitsValue_zeros, Text.digitsValue_ofNat, Nat.zero_mul, Nat.zero_add]

lemma power?_powerText (power : Int) : Written.power? ('e' :: powerText power) = some power := by
  obtain ⟨ds, hs, hd, hl, hv⟩ := exists_powerText power
  have he : ds.isEmpty = false := by
    cases ds with
    | nil => cases hl
    | cons => rfl
  have hsign : Written.signed (powerText power) = (decide (power < 0), ds) := by
    rw [hs]
    by_cases h : power < 0
    · rw [if_pos h, decide_eq_true h]
      rfl
    · rw [if_neg h, decide_eq_false h]
      rfl
  rw [Written.power?, hsign]
  simp only [he, hd, hv, Written.applySign_natAbs]
  rfl

lemma mem_powerText {power : Int} {c : Char} (h : c ∈ 'e' :: powerText power) : c ∈ Text.realChars := by
  obtain ⟨ds, hs, hd, -⟩ := exists_powerText power
  rw [hs, List.mem_cons, List.mem_cons] at h
  rcases h with rfl | rfl | h
  · decide
  · split <;> decide
  · apply Text.mem_realChars
    exact List.mem_cons_of_mem _ (List.mem_cons_of_mem _ (Text.isPlainDigit_iff_mem.1 (List.all_eq_true.1 hd c h)))

lemma before?_powerText (m : Text) (power : Int) : Text.before? ".0" (m ++ 'e' :: powerText power) = none := by
  obtain ⟨ds, hs, hd, hl, -⟩ := exists_powerText power
  rw [Option.eq_none_iff_forall_ne_some]
  intro r hr
  have hr := Text.before?_eq_some_iff.1 hr
  have hsuffix : ".0" <:+ ds := by
    refine List.suffix_of_suffix_length_le ⟨r, rfl⟩ ?_ hl
    rw [← hr, hs]
    exact ⟨m ++ ['e', if power < 0 then '-' else '+'], by simp⟩
  have hpoint : '.' ∈ ds := hsuffix.subset (by decide)
  have := List.all_eq_true.1 hd '.' hpoint
  revert this
  decide

lemma typeset_of_before? {x : Double} {t : Text} (h : x.display = t) (hb : Text.before? ".0" t = none) :
    x.typeset = t := by
  rw [typeset, h, hb]
  rfl

section

variable {x : Magnitude} (hx : x.mantissa ≠ 0)

include hx

lemma typeset_of_positional (hp : positional (x.shortest.point - 1) = true) :
    typeset (finite false x) = placed x.shortest.text x.shortest.point := by
  have hd : digitsOf x = (x.shortest.text, x.shortest.point) := if_neg hx
  have hne := Decimal.text_ne_nil (Magnitude.shortest_digits_ne_zero hx)
  by_cases hw : x.shortest.text.length ≤ x.shortest.point
  · have hdisplay : display (finite false x) = placed x.shortest.text x.shortest.point ++ ".0" := by
      rw [display, hd]
      simp only [hp, hw]
      rfl
    rw [typeset, hdisplay, Text.before?_append]
    rfl
  · apply typeset_of_before?
    · rw [display, hd]
      simp [hp, hw, signText]
    · rw [Option.eq_none_iff_forall_ne_some]
      intro r hr
      have hlast := congrArg List.getLast? (Text.before?_eq_some_iff.1 hr)
      rw [getLast?_placed hne (by omega), List.getLast?_append_of_ne_nil _ (by decide)] at hlast
      exact x.shortest.getLast?_text_ne hlast

lemma exists_typeset_of_not_positional (hp : positional (x.shortest.point - 1) = false) :
    ∃ m, typeset (finite false x) = m ++ 'e' :: powerText (x.shortest.point - 1) ∧
      Decimal.ofNumeral? m = some ⟨Text.digitsValue x.shortest.text, 1 - x.shortest.text.length⟩ := by
  have hd : digitsOf x = (x.shortest.text, x.shortest.point) := if_neg hx
  have hne := Decimal.text_ne_nil (Magnitude.shortest_digits_ne_zero hx)
  obtain ⟨m, hm, hn⟩ := exists_scientific x.shortest.all_text hne (x.shortest.point - 1)
  refine ⟨m, typeset_of_before? ?_ (before?_powerText m _), hn⟩
  rw [display, hd]
  simp [hp, hm, signText]

end

lemma exists_typeset (x : Magnitude) :
    ∃ m p d k, typeset (finite false x) = m ++ p ∧ Decimal.ofNumeral? m = some d ∧ Written.power? p = some k ∧
      (∀ c ∈ p, c ∈ Text.realChars) ∧ p.head?.all Written.isPowerLetter = true ∧
        ofDecimal false d.digits (d.exponent + k) = finite false x := by
  by_cases hx : x.mantissa = 0
  · rw [Magnitude.eq_zero_of_mantissa hx]
    exact ⟨"0", [], ⟨0, 0⟩, 0, by decide, by decide, rfl, by simp, rfl, by decide⟩
  have hr := x.shortest_reads
  rw [Decimal.magnitude?_eq] at hr
  have hread : ofDecimal false (Text.digitsValue x.shortest.text) (x.shortest.point - x.shortest.text.length) =
      finite false x := congrArg (ofMagnitude? false) hr
  have hne := Decimal.text_ne_nil (Magnitude.shortest_digits_ne_zero hx)
  cases hp : positional (x.shortest.point - 1) with
  | true =>
    obtain ⟨i, hi⟩ := ofNumeral?_placed x.shortest.all_text hne x.shortest.point
    refine ⟨_, [], _, 0, ?_, hi, rfl, by simp, rfl, ?_⟩
    · rw [typeset_of_positional hx hp, List.append_nil]
    · rw [Int.add_zero, ← hread, ofDecimal, ofDecimal, Magnitude.ofDecimal?_mul_ten_pow]
  | false =>
    obtain ⟨m, ht, hm⟩ := exists_typeset_of_not_positional hx hp
    have hexp : 1 - (x.shortest.text.length : Int) + (x.shortest.point - 1) =
        x.shortest.point - x.shortest.text.length := by omega
    refine ⟨m, _, _, _, ht, hm, power?_powerText _, fun c => mem_powerText, rfl, ?_⟩
    rw [hexp, hread]

lemma real?_typeset (x : Magnitude) : Written.real? (typeset (finite false x)) = some (finite false x) := by
  obtain ⟨m, p, d, k, ht, hm, hk, hp, hhead, hx⟩ := exists_typeset x
  rw [ht, Written.real?_append hm hk hp hhead, hx]

lemma mem_typeset (x : Magnitude) :
    typeset (finite false x) ≠ [] ∧ ∀ c ∈ typeset (finite false x), c ∈ Text.realChars := by
  obtain ⟨m, p, d, k, ht, hm, -, hp, -⟩ := exists_typeset x
  obtain ⟨hne, hc⟩ := Decimal.mem_numeralChars hm
  rw [ht]
  refine ⟨by simp [hne], fun c hmem => ?_⟩
  rcases List.mem_append.1 hmem with hmem | hmem
  · exact Text.mem_realChars (List.mem_cons_of_mem _ (hc c hmem))
  · exact hp c hmem

end Double

end NarseseDialects
