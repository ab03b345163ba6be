import NarseseDialects.Proofs.Reading.Nonblank

namespace NarseseDialects.Reading

variable {d : Dialect} {text : Text}

def NthAt (d : Dialect) (text : Text) (k i : Nat) : Prop :=
  ∃ a c b, text = a ++ c :: b ∧ d.spacing.isSpace c = false ∧ (nonblank d a).length = k ∧ a.length = i

def EndsAt (d : Dialect) (text : Text) (i : Nat) : Prop :=
  ∃ a c b, text = a ++ c :: b ∧ d.spacing.isSpace c = false ∧ nonblank d b = [] ∧ a.length + 1 = i

lemma NthAt.lt {k i : Nat} (h : NthAt d text k i) : i < text.length := by
  obtain ⟨a, c, b, rfl, -, -, rfl⟩ := h
  rw [List.length_append, List.length_cons]
  omega

lemma EndsAt.le {i : Nat} (h : EndsAt d text i) : i ≤ text.length := by
  obtain ⟨a, c, b, rfl, -, -, rfl⟩ := h
  rw [List.length_append, List.length_cons]
  omega

lemma NthAt.lt_of_lt {k l i j : Nat} (hi : NthAt d text k i) (hj : NthAt d text l j) (h : k < l) : i < j := by
  obtain ⟨a, c, b, he, -, rfl, rfl⟩ := hi
  obtain ⟨a', c', b', he', -, rfl, rfl⟩ := hj
  refine Nat.lt_of_not_le fun hle => absurd h (Nat.not_lt.2 ?_)
  have hfront : a' <+: a :=
    List.prefix_of_prefix_length_le (he' ▸ List.prefix_append a' _) (he ▸ List.prefix_append a _) hle
  exact (hfront.filter fun c => !d.spacing.isSpace c).length_le

lemma NthAt.getElem? {k i : Nat} (h : NthAt d text k i) :
    ∃ c, text[i]? = some c ∧ d.spacing.isSpace c = false := by
  obtain ⟨a, c, b, rfl, hc, -, rfl⟩ := h
  exact ⟨c, by simp, hc⟩

lemma NthAt.nonblank_drop {k i : Nat} (h : NthAt d text k i) :
    nonblank d (text.drop i) = (nonblank d text).drop k := by
  obtain ⟨a, c, b, rfl, -, rfl, rfl⟩ := h
  rw [List.drop_left, nonblank_append, List.drop_left]

lemma NthAt.endsAt {k i : Nat} (h : NthAt d text k i) (hk : (nonblank d text).length = k + 1) :
    EndsAt d text (i + 1) := by
  obtain ⟨a, c, b, rfl, hc, rfl, rfl⟩ := h
  refine ⟨a, c, b, rfl, hc, ?_, rfl⟩
  have hn : nonblank d (c :: b) = c :: nonblank d b := List.filter_cons_of_pos (by simpa using hc)
  rw [nonblank_append, hn, List.length_append, List.length_cons] at hk
  apply List.eq_nil_of_length_eq_zero
  omega

lemma exists_of_getElem?_kept {n k i : Nat} {c : Char}
    (h : ((text.zipIdx n).filter fun p => !d.spacing.isSpace p.1)[k]? = some (c, i)) :
    ∃ a b, text = a ++ c :: b ∧ d.spacing.isSpace c = false ∧ (nonblank d a).length = k ∧ n + a.length = i := by
  induction text generalizing n k with
  | nil => cases h
  | cons x xs ih =>
    rw [List.zipIdx_cons] at h
    by_cases hx : d.spacing.isSpace x = true
    · rw [List.filter_cons_of_neg (by simpa using hx)] at h
      obtain ⟨a, b, rfl, hc, rfl, rfl⟩ := ih h
      refine ⟨x :: a, b, rfl, hc, ?_, ?_⟩
      · rw [nonblank, List.filter_cons_of_neg (by simpa using hx)]
        rfl
      · rw [List.length_cons]
        omega
    · rw [List.filter_cons_of_pos (by simpa using hx)] at h
      cases k with
      | zero =>
        cases h
        exact ⟨[], xs, rfl, by simpa using hx, rfl, rfl⟩
      | succ k =>
        obtain ⟨a, b, rfl, hc, rfl, rfl⟩ := ih h
        refine ⟨x :: a, b, rfl, hc, ?_, ?_⟩
        · rw [nonblank, List.filter_cons_of_pos (by simpa using hx)]
          rfl
        · rw [List.length_cons]
          omega

section

variable (hs : d.spacing.strip = true)

include hs

lemma locate_ofText (k : Nat) :
    (Source.ofText d text).locate k =
      (((Source.kept d.spacing.isSpace text)[k]?).map Prod.snd).getD
        (((Source.kept d.spacing.isSpace text).getLast?.map fun p => p.2 + 1).getD 0) := by
  simp [Source.ofText, hs, Source.locate, Array.back?, List.getLast?_eq_getElem?, Function.comp_def]

lemma length_kept : (Source.kept d.spacing.isSpace text).length = (nonblank d text).length := by
  rw [← nonblank_ofText hs, Source.ofText, if_pos hs, List.length_map]

lemma nthAt_locate {k : Nat} (hk : k < (nonblank d text).length) :
    NthAt d text k ((Source.ofText d text).locate k) := by
  rw [← length_kept hs] at hk
  obtain ⟨a, b, he, hc, ha, hi⟩ := exists_of_getElem?_kept (List.getElem?_eq_getElem hk)
  rw [locate_ofText hs, List.getElem?_eq_getElem hk]
  exact ⟨a, _, b, he, hc, ha, by simpa using hi⟩

lemma locate_lt {k l : Nat} (h : k < l) (hl : l < (nonblank d text).length) :
    (Source.ofText d text).locate k < (Source.ofText d text).locate l :=
  (nthAt_locate hs (Nat.lt_trans h hl)).lt_of_lt (nthAt_locate hs hl) h

lemma endsAt_locate {k : Nat} (hk : (nonblank d text).length ≤ k) (hn : nonblank d text ≠ []) :
    EndsAt d text ((Source.ofText d text).locate k) := by
  -- One past the character before the last place.
  obtain ⟨n, hlen⟩ : ∃ n, (nonblank d text).length = n + 1 := Nat.exists_eq_succ_of_ne_zero (by simpa using hn)
  have hlast := (nthAt_locate hs (k := n) (by omega)).endsAt hlen
  have hkept : (Source.kept d.spacing.isSpace text).length = (nonblank d text).length := length_kept hs
  have hlt : n < (Source.kept d.spacing.isSpace text).length := by omega
  have hge : (Source.kept d.spacing.isSpace text).length ≤ k := by omega
  rw [locate_ofText hs, List.getElem?_eq_getElem hlt] at hlast
  rw [locate_ofText hs, List.getElem?_eq_none hge, List.getLast?_eq_getElem?, hkept, hlen,
    Nat.add_sub_cancel, List.getElem?_eq_getElem hlt]
  exact hlast

lemma locate_of_blank (hn : nonblank d text = []) (k : Nat) : (Source.ofText d text).locate k = 0 := by
  have hkept : Source.kept d.spacing.isSpace text = [] :=
    List.eq_nil_of_length_eq_zero (by rw [length_kept hs, hn]; rfl)
  rw [locate_ofText hs, hkept]
  rfl

end

lemma locate_le {k : Nat} (hk : k ≤ (Source.ofText d text).chars.length) :
    (Source.ofText d text).locate k ≤ text.length := by
  by_cases hs : d.spacing.strip = true
  · by_cases hn : nonblank d text = []
    · rw [locate_of_blank hs hn]
      omega
    by_cases hlt : k < (nonblank d text).length
    · exact Nat.le_of_lt (nthAt_locate hs hlt).lt
    · exact (endsAt_locate hs (by omega) hn).le
  · simpa [Source.ofText, hs, Source.locate] using hk

end NarseseDialects.Reading
