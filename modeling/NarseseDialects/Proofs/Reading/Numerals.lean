import NarseseDialects.Proofs.Dialect.Marks
import NarseseDialects.Proofs.Lexical.Spelled
import NarseseDialects.Proofs.Number.Written

namespace NarseseDialects.Reading

open Lexical

variable {d : Dialect} {q : Quantity}

lemma mem_numeralChars_of_spelled {n : Text} (h : SpelledNumeral n) : n ≠ [] ∧ ∀ c ∈ n, c ∈ Text.numeralChars := by
  obtain ⟨x, hx, -⟩ := h
  exact Decimal.mem_numeralChars hx

lemma numeralFault?_of_spelled {n : Text} (h : SpelledNumeral n) : numeralFault? q n = none := by
  obtain ⟨x, hx, hu⟩ := h
  simp [numeralFault?, hx, hu]

lemma join_ne_nil {sep : Text} {ns : List Text} (hne : ns ≠ []) (h : ∀ n ∈ ns, n ≠ []) : Text.join sep ns ≠ [] := by
  cases ns with
  | nil => exact absurd rfl hne
  | cons n ns =>
    have hn := h n List.mem_cons_self
    cases ns with
    | nil => exact hn
    | cons m ms => simp [Text.join_cons_cons, hn]

lemma judgeNumerals_eq_elim {ε : Type} {fault : Fault → Nat → ε} {z : Char} {s : Text}
    (hs : (d.numerals q).separator = z :: s) {ns : List Text} (h : ∀ n ∈ ns, n ≠ [] ∧ z ∉ n)
    (hl : ns.length ≤ q.limit) (p : Nat) :
    judgeNumerals d fault q (Text.join (d.numerals q).separator ns) p =
      (ns.findSome? (numeralFault? q)).elim (.ok ns) fun f => .error (fault f p) := by
  by_cases hne : ns = []
  · subst hne
    rfl
  rw [judgeNumerals, if_neg (by simpa using join_ne_nil hne fun n hn => (h n hn).1)]
  dsimp only
  rw [hs, Text.split_join hne fun n hn => (h n hn).2, if_neg (Nat.not_lt.2 hl)]
  cases ns.findSome? (numeralFault? q) with
  | none => rfl
  | some f => rfl

lemma findSome?_numeralFault?_of_spelled {ns : List Text} (h : ∀ n ∈ ns, SpelledNumeral n) :
    ns.findSome? (numeralFault? q) = none :=
  List.findSome?_eq_none_iff.2 fun n hn => numeralFault?_of_spelled (h n hn)

lemma judgeNumerals_join {ε : Type} {fault : Fault → Nat → ε} (hs : Text.separates (d.numerals q).separator = true)
    {ns : List Text} (h : ∀ n ∈ ns, SpelledNumeral n) (hl : ns.length ≤ q.limit) (p : Nat) :
    judgeNumerals d fault q (Text.join (d.numerals q).separator ns) p = .ok ns := by
  cases hsep : (d.numerals q).separator with
  | nil => simp [Text.separates, hsep] at hs
  | cons z s =>
    have hz : z ∉ Text.numeralChars := by simpa [Text.separates, hsep] using hs
    rw [← hsep, judgeNumerals_eq_elim hsep _ hl, findSome?_numeralFault?_of_spelled h]
    · rfl
    · intro n hn
      obtain ⟨hne, hc⟩ := mem_numeralChars_of_spelled (h n hn)
      exact ⟨hne, fun hm => hz (hc z hm)⟩

lemma spelled_of_judgeNumerals {ε : Type} {fault : Fault → Nat → ε} {content : Text} {p : Nat} {ns : List Text}
    (h : judgeNumerals d fault q content p = .ok ns) : (∀ n ∈ ns, SpelledNumeral n) ∧ ns.length ≤ q.limit := by
  rw [judgeNumerals] at h
  split at h
  · cases h
    exact ⟨by simp, Nat.zero_le _⟩
  dsimp only at h
  split at h
  · cases h
  next hl =>
  split at h
  · cases h
  next hf =>
  cases h
  refine ⟨fun n hn => ?_, Nat.not_lt.1 hl⟩
  have hf := List.findSome?_eq_none_iff.1 hf n hn
  rw [numeralFault?] at hf
  split at hf
  · cases hf
  next x hx =>
  split at hf
  next hu => exact ⟨x, hx, hu⟩
  · cases hf

lemma mem_of_mem_join {sep : Text} {ns : List Text} (h : ∀ n ∈ ns, SpelledNumeral n) {c : Char}
    (hc : c ∈ Text.join sep ns) : c ∈ sep ∨ c ∈ Text.numeralChars := by
  rcases Text.mem_join hc with hc | ⟨n, hn, hc⟩
  · exact .inl hc
  · exact .inr ((mem_numeralChars_of_spelled (h n hn)).2 c hc)

section

variable (hs : Text.separates (d.numerals .budget).separator = true)

include hs

lemma allBudget_separator (r : Text) :
    allBudget d ((d.numerals .budget).separator ++ r) = allBudget d r := by
  cases hsep : (d.numerals .budget).separator with
  | nil => simp [Text.separates, hsep] at hs
  | cons z p =>
    have ho : opening? (d.numerals .budget).separator (z :: (p ++ r)) = some r := by
      rw [hsep]
      exact Text.after?_append (z :: p) r
    rw [List.cons_append, allBudget]
    split
    next r' hr =>
      rw [ho] at hr
      cases hr
      rfl
    next hr =>
      rw [ho] at hr
      cases hr

variable (hb : ∀ c ∈ Text.numeralChars, d.isBudgetContent c = true)

include hb

lemma allBudget_append {n : Text} (hn : ∀ c ∈ n, c ∈ Text.numeralChars) (r : Text) :
    allBudget d (n ++ r) = allBudget d r := by
  induction n with
  | nil => rfl
  | cons c n ih =>
    have hc := hn c List.mem_cons_self
    have ho : opening? (d.numerals .budget).separator (c :: (n ++ r)) = none := by
      cases hsep : (d.numerals .budget).separator with
      | nil => rfl
      | cons z p =>
        refine Text.after?_cons_of_ne ?_ p _
        rintro rfl
        simp [Text.separates, hsep, hc] at hs
    rw [List.cons_append, allBudget]
    split
    next r' hr =>
      rw [ho] at hr
      cases hr
    · rw [hb c hc, Bool.true_and]
      exact ih fun x hx => hn x (List.mem_cons_of_mem c hx)

lemma allBudget_join {ns : List Text} (h : ∀ n ∈ ns, SpelledNumeral n) :
    allBudget d (Text.join (d.numerals .budget).separator ns) = true := by
  induction ns with
  | nil => rw [Text.join_nil, allBudget]
  | cons n ns ih =>
    have hn := (mem_numeralChars_of_spelled (h n List.mem_cons_self)).2
    cases ns with
    | nil =>
      rw [Text.join_singleton, ← List.append_nil n, allBudget_append hs hb hn, allBudget]
    | cons m ms =>
      rw [Text.join_cons_cons, List.append_assoc, allBudget_append hs hb hn, allBudget_separator hs]
      exact ih fun x hx => h x (List.mem_cons_of_mem n hx)

end

end NarseseDialects.Reading
