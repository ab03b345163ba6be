import NarseseDialects.Proofs.Dialect.Spelling

/-! Where a literal may run over the end of a name: its front is made of characters that names may have, and
what is left of it begins like a literal that may follow a name. -/

namespace NarseseDialects

namespace Text

def cuts (e : Text) : List (Text × Text) :=
  (List.range (e.length - 1)).map fun i => (e.take (i + 1), e.drop (i + 1))

lemma mem_cuts {a b : Text} (ha : a ≠ []) (hb : b ≠ []) : (a, b) ∈ cuts (a ++ b) := by
  have hla := List.length_pos_iff.2 ha
  have hlb := List.length_pos_iff.2 hb
  refine List.mem_map.2 ⟨a.length - 1, List.mem_range.2 ?_, ?_⟩
  · rw [List.length_append]
    omega
  · rw [Nat.sub_add_cancel hla, List.take_left, List.drop_left]

lemma append_of_mem_cuts {e : Text} {p : Text × Text} (h : p ∈ cuts e) : e = p.1 ++ p.2 := by
  obtain ⟨i, -, rfl⟩ := List.mem_map.1 h
  exact (List.take_append_drop _ _).symm

lemma ne_nil_of_mem_cuts {e : Text} {p : Text × Text} (h : p ∈ cuts e) : p.1 ≠ [] ∧ p.2 ≠ [] := by
  obtain ⟨i, hi, rfl⟩ := List.mem_map.1 h
  have hi := List.mem_range.1 hi
  constructor
  · refine List.ne_nil_of_length_pos ?_
    rw [List.length_take]
    omega
  · refine List.ne_nil_of_length_pos ?_
    rw [List.length_drop]
    omega

lemma exists_of_after?_append {t b x r : Text} (h : after? t (b ++ x) = some r) :
    (∃ y, b = t ++ y ∧ r = y ++ x) ∨ ∃ e, e ≠ [] ∧ t = b ++ e ∧ x = e ++ r := by
  rcases List.append_eq_append_iff.1 (after?_eq_some_iff.1 h) with ⟨e, rfl, hx⟩ | ⟨e, rfl, hr⟩
  · by_cases he : e = []
    · exact .inl ⟨[], by simp [he], by simp [he, hx]⟩
    · exact .inr ⟨e, he, rfl, hx⟩
  · exact .inl ⟨e, rfl, hr⟩

lemma not_apart_of_append_eq {a b x y : Text} (h : a ++ x = b ++ y) : apart a b = false := by
  rw [Bool.eq_false_iff]
  intro hab
  have hn := after?_of_apart hab x
  rw [h, after?_append] at hn
  cases hn

lemma exists_append_of_not_apart {a b : Text} (h : apart a b = false) (hl : a.length ≤ b.length) :
    ∃ r, b = a ++ r := by
  induction a generalizing b with
  | nil => exact ⟨b, rfl⟩
  | cons x a ih =>
    cases b with
    | nil => simp at hl
    | cons y b =>
      rw [apart] at h
      split at h
      next hxy =>
        obtain ⟨r, rfl⟩ := ih h (by simpa using hl)
        exact ⟨r, by rw [hxy, List.cons_append]⟩
      · cases h

end Text

namespace Dialect

/-- Whether a terminator may begin in a name that the literal follows and reach into the literal. -/
def absorbs (d : Dialect) (e : Text) : Bool :=
  d.terminating.any fun t => (Text.cuts t).any fun p => p.1.all d.isIdentifier && !Text.apart p.2 e

structure ClearCuts (d : Dialect) : Prop where
  blank : ∀ c, d.spacing.isSpace c = true → d.isIdentifier c = false
  bracket : ∀ a : Opener, a ∈ (Role.members : List AtomRole).map Opener.sigil ∨
    (a.literal d).head?.any (!d.isIdentifier ·) = true
  group : ∀ e ∈ d.separator :: d.closers, e.head?.any (!d.isIdentifier ·) = true
  sigil_cut : ∀ r, ∀ p ∈ Text.cuts (d.sigils.literal r), p.1.all d.isIdentifier = true →
    ∀ e ∈ d.terminating, Text.apart p.2 e = true
  sigil_copula : ∀ r, d.sigils.literal r = [] ∨
    ∀ c ∈ d.copulas.lexicon.entries, Text.apart (d.sigils.literal r) c = true
  copula_cut : ∀ c ∈ d.copulas.lexicon.entries, ∀ p ∈ Text.cuts c, p.1.all d.isIdentifier = true →
    ∀ c' ∈ d.copulas.lexicon.entries, p.2 = c' ∨ Text.apart p.2 c' = true
  copula_name : ∀ c ∈ d.copulas.lexicon.entries, c.all d.isIdentifier = true →
    ∀ c' ∈ d.copulas.lexicon.entries, c'.head?.any d.isIdentifier = true
  reach : ∀ t ∈ d.terminating, ∀ p ∈ Text.cuts t, p.1.all d.isIdentifier = true → ∀ e ∈ d.terminating,
    p.2.length ≤ e.length ∨ Text.apart p.2 e = true
  digit : ∀ c ∈ Text.plainDigits, d.isIdentifier c = true ∧ ∀ t ∈ d.terminating, t.head? ≠ some c
  expansion : ∀ k ∈ [OrderedCopula.inheritance, .equivalencePredictive],
    d.absorbs (d.copulas.literal (.ordered k)) = false

lemma notMem_copulas (d : Dialect) {e : Text} (h : e ∈ d.separator :: d.closers) :
    e ∉ d.copulas.lexicon.entries := by
  have hc := d.clash?_eq_none
  rw [Parts.clash?] at hc
  split at hc
  · cases hc
  split at hc
  · cases hc
  next hf =>
  intro he
  have hn := List.find?_eq_none.1 hf e (List.mem_append_right _ he)
  rw [List.contains_iff_mem] at hn
  apply hn
  simp only [closers, SetBrackets.rights, List.mem_cons, List.mem_map] at h
  simp only [Parts.bracketLiterals, SetBrackets.literals, List.mem_cons, List.mem_append, List.mem_flatMap,
    List.not_mem_nil, or_false]
  rcases h with h | h | h | ⟨s, hs, h⟩
  · exact .inl h
  · exact .inr (.inl (.inr (.inl h)))
  · exact .inr (.inl (.inr (.inr (.inr h))))
  · exact .inr (.inr ⟨s, hs, .inr h.symm⟩)

lemma clearCuts_ascii : ascii.ClearCuts := by
  refine ⟨fun _ => Text.not_isNameChar_of_isBlank, ?_, ?_, ?_, ?_, ?_, ?_, ?_, ?_, ?_⟩ <;> decide +kernel

lemma clearCuts_latex : latex.ClearCuts := by
  refine ⟨fun _ => Text.not_isNameChar_of_isBlank, ?_, ?_, ?_, ?_, ?_, ?_, ?_, ?_, ?_⟩ <;> decide +kernel

lemma clearCuts_han : han.ClearCuts := by
  refine ⟨fun _ => Text.not_isNameChar_of_isBlank, ?_, ?_, ?_, ?_, ?_, ?_, ?_, ?_, ?_⟩ <;> decide +kernel

end Dialect

namespace DialectName

lemma clearCuts (n : DialectName) : n.dialect.ClearCuts := by
  cases n with
  | ascii => exact Dialect.clearCuts_ascii
  | latex => exact Dialect.clearCuts_latex
  | han => exact Dialect.clearCuts_han

lemma clearTerms (n : DialectName) : n.dialect.ClearTerms := by
  cases n with
  | ascii => exact Dialect.clearTerms_ascii
  | latex => exact Dialect.clearTerms_latex
  | han => exact Dialect.clearTerms_han

end DialectName

end NarseseDialects
