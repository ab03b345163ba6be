import Mathlib.Algebra.Group.Nat.Defs
import Mathlib.Data.List.TakeWhile
import NarseseDialects.Number.Written
import NarseseDialects.Proofs.Outcome
import NarseseDialects.Proofs.Text.Classes
import NarseseDialects.Proofs.Text.Trim

namespace NarseseDialects

namespace Text

lemma digitsValue_append (s t : Text) :
    digitsValue (s ++ t) = digitsValue s * 10 ^ t.length + digitsValue t := by
  rw [digitsValue, Nat.ofDigitChars_append, Nat.ofDigitChars_eq_ofDigitChars_zero, Nat.mul_comm]
  rfl

@[simp] lemma digitsValue_zeros (n : Nat) : digitsValue (List.replicate n '0') = 0 := by
  rw [digitsValue, Nat.ofDigitChars_replicate_zero, Nat.mul_zero]

lemma isPlainDigit_of_mem_ofNat {n : Nat} {c : Char} (h : c ∈ ofNat n) : isPlainDigit c = true := by
  have hd := Nat.isDigit_of_mem_toDigits (by decide) (by decide) h
  simp only [Char.isDigit, Bool.and_eq_true, decide_eq_true_eq] at hd
  simp only [isPlainDigit, Bool.and_eq_true, decide_eq_true_eq]
  exact hd

lemma all_ofNat (n : Nat) : (ofNat n).all isPlainDigit = true :=
  List.all_eq_true.2 fun _ => isPlainDigit_of_mem_ofNat

lemma ofNat_ne_nil (n : Nat) : ofNat n ≠ [] := Nat.toDigits_ne_nil

lemma digitsValue_lt {t : Text} (h : t.all isPlainDigit = true) : digitsValue t < 10 ^ t.length := by
  induction t with
  | nil => simp [digitsValue]
  | cons c t ih =>
    rw [List.all_cons, Bool.and_eq_true] at h
    have hc : digitsValue [c] ≤ 9 := by
      have : ∀ c ∈ plainDigits, digitsValue [c] ≤ 9 := by decide
      exact this c (isPlainDigit_iff_mem.1 h.1)
    calc digitsValue (c :: t) = digitsValue [c] * 10 ^ t.length + digitsValue t := digitsValue_append [c] t
      _ < digitsValue [c] * 10 ^ t.length + 10 ^ t.length := Nat.add_lt_add_left (ih h.2) _
      _ = (digitsValue [c] + 1) * 10 ^ t.length := (Nat.succ_mul _ _).symm
      _ ≤ 10 * 10 ^ t.length := Nat.mul_le_mul_right _ (Nat.succ_le_succ hc)
      _ = 10 ^ (c :: t).length := by rw [List.length_cons, Nat.pow_succ, Nat.mul_comm]

lemma length_ofNat_digitsValue_le {t : Text} (h : t.all isPlainDigit = true) (hne : t ≠ []) :
    (ofNat (digitsValue t)).length ≤ t.length :=
  (Nat.length_toDigits_le_iff (by decide) (List.length_pos_iff.2 hne)).2 (digitsValue_lt h)

lemma exists_digit_of_ofInt (i : Int) : ∃ c ∈ ofInt i, isPlainDigit c = true := by
  have hd (n : Nat) : ∃ c ∈ ofNat n, isPlainDigit c = true := by
    obtain ⟨c, cs, hc⟩ := List.exists_cons_of_ne_nil (ofNat_ne_nil n)
    have hm : c ∈ ofNat n := hc ▸ List.mem_cons_self
    exact ⟨c, hm, isPlainDigit_of_mem_ofNat hm⟩
  cases i with
  | ofNat n => exact hd n
  | negSucc n =>
    obtain ⟨c, hm, hc⟩ := hd (n + 1)
    exact ⟨c, List.mem_cons_of_mem _ hm, hc⟩

def realChars : Text := 'e' :: '+' :: '-' :: numeralChars

lemma mem_realChars {c : Char} (h : c ∈ '-' :: numeralChars) : c ∈ realChars :=
  List.mem_cons_of_mem _ (List.mem_cons_of_mem _ h)

lemma ofNat_injective : Function.Injective ofNat := by
  intro n m h
  rw [← digitsValue_ofNat n, h, digitsValue_ofNat]

end Text

namespace Decimal

variable {t : Text} {d : Decimal}

lemma ofNumeral?_of_all (h : t.all Text.isPlainDigit = true) (hne : t ≠ []) :
    ofNumeral? t = some ⟨Text.digitsValue t, 0⟩ := by
  have hw : t.takeWhile Text.isPlainDigit = t := List.takeWhile_eq_self_iff.2 (List.all_eq_true.1 h)
  have hr : t.dropWhile Text.isPlainDigit = [] := List.dropWhile_eq_nil_iff.2 (List.all_eq_true.1 h)
  simp only [ofNumeral?, hw, hr]
  rw [if_neg (by simpa using hne)]

lemma ofNumeral?_point {s : Text} (hs : s.all Text.isPlainDigit = true) (ht : t.all Text.isPlainDigit = true)
    (hne : t ≠ []) : ofNumeral? (s ++ '.' :: t) = some ⟨Text.digitsValue (s ++ t), -t.length⟩ := by
  have hp : ¬ Text.isPlainDigit '.' = true := by decide
  have hw : (s ++ '.' :: t).takeWhile Text.isPlainDigit = s := by
    rw [List.takeWhile_append_of_pos (List.all_eq_true.1 hs), List.takeWhile_cons_of_neg hp, List.append_nil]
  have hr : (s ++ '.' :: t).dropWhile Text.isPlainDigit = '.' :: t := by
    rw [List.dropWhile_append_of_pos (List.all_eq_true.1 hs), List.dropWhile_cons_of_neg hp]
  simp only [ofNumeral?, hw, hr, ht]
  rw [if_pos (by simp [hne])]

lemma mem_numeralChars (h : ofNumeral? t = some d) : t ≠ [] ∧ ∀ c ∈ t, c ∈ Text.numeralChars := by
  have hs := List.takeWhile_append_dropWhile (p := Text.isPlainDigit) (l := t)
  have hw : ∀ c ∈ t.takeWhile Text.isPlainDigit, c ∈ Text.plainDigits := fun c hc =>
    Text.isPlainDigit_iff_mem.1 (List.all_eq_true.1 List.all_takeWhile c hc)
  rw [ofNumeral?] at h
  split at h
  next hd =>
    rw [hd, List.append_nil] at hs
    split at h
    · cases h
    next he =>
    refine ⟨fun hn => he ?_, fun c hc => ?_⟩
    · simp [hn]
    · rw [← hs] at hc
      exact List.mem_cons_of_mem _ (hw c hc)
  next fraction hd =>
    rw [hd] at hs
    split at h
    next hf =>
      rw [Bool.and_eq_true] at hf
      refine ⟨fun hn => by simp [hn] at hd, fun c hc => ?_⟩
      rw [← hs, List.mem_append, List.mem_cons] at hc
      rcases hc with hc | rfl | hc
      · exact List.mem_cons_of_mem _ (hw c hc)
      · exact List.mem_cons_self
      · exact List.mem_cons_of_mem _ (Text.isPlainDigit_iff_mem.1 (List.all_eq_true.1 hf.1 c hc))
    · cases h
  · cases h

end Decimal

namespace Written

variable {t : Text}

lemma ungroup_eq {b : Bool} (h : '_' ∉ t) : ungroup b t = some t := by
  induction t generalizing b with
  | nil => rfl
  | cons c cs ih =>
    rw [List.mem_cons, not_or] at h
    rw [ungroup, if_neg (Ne.symm h.1), ih h.2]
    · rfl
    · rintro c' cs' rfl
      exact absurd rfl h.1

lemma unblanked?_eq (h : ∀ c ∈ t, c ∈ Text.realChars) : unblanked? t = some t := by
  have hb : ∀ c ∈ Text.realChars, Text.isNumberBlank c = false := by decide
  have hp : ∀ c ∈ Text.realChars, ((Text.decimalValue? c).map Nat.digitChar).getD c = c := by decide
  have hu : '_' ∉ Text.realChars := by decide
  have hm : plainDigits t = t := (List.map_congr_left fun c hc => hp c (h c hc)).trans (List.map_id t)
  have hends := Text.all_ends fun c hc => hb c (h c hc)
  rw [unblanked?, Text.trim_eq_self hends.1 hends.2, hm]
  exact ungroup_eq fun hc => hu (h _ hc)

lemma signed_eq {c : Char} {cs : Text} (hm : c ≠ '-') (hp : c ≠ '+') : signed (c :: cs) = (false, c :: cs) := by
  rw [signed]
  · rintro _ ⟨⟩
    exact hm rfl
  · rintro _ ⟨⟩
    exact hp rfl

lemma real?_append {p : Text} {d : Decimal} {k : Int} (h : Decimal.ofNumeral? t = some d)
    (hpower : power? p = some k) (hp : ∀ c ∈ p, c ∈ Text.realChars) (hhead : p.head?.all isPowerLetter = true) :
    real? (t ++ p) = some (.ofDecimal false d.digits (d.exponent + k)) := by
  obtain ⟨hne, ht⟩ := Decimal.mem_numeralChars h
  have hall : ∀ c ∈ t ++ p, c ∈ Text.realChars := fun c hc =>
    (List.mem_append.1 hc).elim (fun hc => Text.mem_realChars (List.mem_cons_of_mem _ (ht c hc))) (hp c)
  have hs : signed (t ++ p) = (false, t ++ p) := by
    obtain ⟨c, cs, rfl⟩ := List.exists_cons_of_ne_nil hne
    have hc := ht c List.mem_cons_self
    refine signed_eq ?_ ?_
    · rintro rfl
      revert hc
      decide
    · rintro rfl
      revert hc
      decide
  have hl : (t ++ p).map Char.toLower = t ++ p := by
    have : ∀ c ∈ Text.realChars, c.toLower = c := by decide
    exact (List.map_congr_left fun c hc => this c (hall c hc)).trans (List.map_id _)
  have hword : ∀ w : Text, 'n' ∈ w → t ++ p ≠ w := by
    rintro w hw rfl
    have := hall _ hw
    revert this
    decide
  have hplain : ∀ c ∈ t, (!isPowerLetter c) = true := by
    have : ∀ c ∈ Text.numeralChars, (!isPowerLetter c) = true := by decide
    exact fun c hc => this c (ht c hc)
  have hfront : (t ++ p).takeWhile (!isPowerLetter ·) = t ∧ (t ++ p).dropWhile (!isPowerLetter ·) = p := by
    rw [List.takeWhile_append_of_pos hplain, List.dropWhile_append_of_pos hplain]
    cases p with
    | nil => exact ⟨List.append_nil t, rfl⟩
    | cons c p =>
      have hc : isPowerLetter c = true := by simpa using hhead
      simp [hc]
  rw [real?, unblanked?_eq hall, Option.bind_some, hs, unsigned?, hl, if_neg, if_neg (hword _ (by decide)), hfront.1,
    hfront.2, h, hpower]
  · rfl
  · rw [Bool.or_eq_true, decide_eq_true_eq, decide_eq_true_eq]
    rintro (h | h)
    · exact hword _ (by decide) h
    · exact hword _ (by decide) h

lemma real?_of_ofNumeral? {d : Decimal} (h : Decimal.ofNumeral? t = some d) :
    real? t = some (.ofDecimalText false d) := by
  have hr := real?_append h (p := []) (k := 0) rfl (by simp) rfl
  rw [List.append_nil, Int.add_zero] at hr
  exact hr

lemma limited_of_length_le (h : t.length ≤ digitLimit) : limited t = .ok (Text.digitsValue t) :=
  if_neg (Nat.not_lt.2 h)

lemma of_limited {n : Nat} (h : limited t = .ok n) : t.length ≤ digitLimit ∧ n = Text.digitsValue t := by
  rw [limited] at h
  split at h
  · cases h
  next hl =>
    cases h
    exact ⟨Nat.not_lt.1 hl, rfl⟩

lemma length_ofNat_of_limited {n : Nat} (ht : t.all Text.isPlainDigit = true) (hne : t ≠ []) (h : limited t = .ok n) :
    (Text.ofNat n).length ≤ digitLimit := by
  obtain ⟨hl, rfl⟩ := of_limited h
  exact (Text.length_ofNat_digitsValue_le ht hne).trans hl

lemma ofInt?_eq_some_iff {i : Int} {t : Text} :
    ofInt? i = some t ↔ (Text.ofNat i.natAbs).length ≤ digitLimit ∧ Text.ofInt i = t := by
  rw [ofInt?]
  split
  next h => simp [Nat.not_le.2 h]
  next h => simp [Nat.not_lt.1 h]

lemma isSome_ofInt?_iff {i : Int} : (ofInt? i).isSome = true ↔ (Text.ofNat i.natAbs).length ≤ digitLimit := by
  rw [ofInt?]
  split
  next h => simp [Nat.not_le.2 h]
  next h => simp [Nat.not_lt.1 h]

lemma natAbs_applySign (negative : Bool) (n : Nat) : (applySign negative n).natAbs = n := by
  cases negative <;> simp [applySign]

lemma length_ofNat_of_whole {i : Int} (h : whole t = .ok i) : (Text.ofNat i.natAbs).length ≤ digitLimit := by
  rw [whole] at h
  split at h
  next negative digits _ =>
    split at h
    · cases h
    next hd =>
      rw [Bool.or_eq_true, not_or, Bool.not_eq_true, Bool.not_eq_true, Bool.not_eq_false'] at hd
      obtain ⟨n, hn, rfl⟩ := Outcome.map_eq_ok.1 h
      rw [natAbs_applySign]
      exact length_ofNat_of_limited hd.2 (by simpa using hd.1) hn
  · cases h

lemma signed_ofInt (i : Int) : signed (Text.ofInt i) = (decide (i < 0), Text.ofNat i.natAbs) := by
  cases i with
  | ofNat n =>
    obtain ⟨c, cs, hc⟩ := List.exists_cons_of_ne_nil (Text.ofNat_ne_nil n)
    have hp : Text.isPlainDigit c = true := Text.isPlainDigit_of_mem_ofNat (hc ▸ List.mem_cons_self)
    have hs : signed (Text.ofNat n) = (false, Text.ofNat n) := by
      rw [hc]
      refine signed_eq ?_ ?_
      · rintro rfl
        revert hp
        decide
      · rintro rfl
        revert hp
        decide
    exact hs
  | negSucc n =>
    rw [decide_eq_true (Int.negSucc_lt_zero n)]
    rfl

lemma mem_ofInt {i : Int} {c : Char} (h : c ∈ Text.ofInt i) : c ∈ '-' :: Text.numeralChars := by
  have hd : ∀ {n}, c ∈ Text.ofNat n → c ∈ '-' :: Text.numeralChars := fun hc =>
    List.mem_cons_of_mem _ (List.mem_cons_of_mem _ (Text.isPlainDigit_iff_mem.1 (Text.isPlainDigit_of_mem_ofNat hc)))
  cases i with
  | ofNat n => exact hd h
  | negSucc n =>
    rcases List.mem_cons.1 h with rfl | h
    · exact List.mem_cons_self
    · exact hd h

lemma applySign_natAbs (i : Int) : applySign (decide (i < 0)) i.natAbs = i := by
  rw [applySign]
  split
  next hi =>
    have := of_decide_eq_true hi
    omega
  next hi =>
    have := of_decide_eq_false (Bool.eq_false_iff.2 hi)
    omega

lemma whole_ofInt {i : Int} (h : (Text.ofNat i.natAbs).length ≤ digitLimit) : whole (Text.ofInt i) = .ok i := by
  have he : (Text.ofNat i.natAbs).isEmpty = false := by simp [Text.ofNat_ne_nil]
  rw [whole, unblanked?_eq fun c hc => Text.mem_realChars (mem_ofInt hc), Option.map_some, signed_ofInt]
  simp only [he, Text.all_ofNat, limited_of_length_le h, Text.digitsValue_ofNat]
  exact congrArg Except.ok (applySign_natAbs i)

end Written

end NarseseDialects
