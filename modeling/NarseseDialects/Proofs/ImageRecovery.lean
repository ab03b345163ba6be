import NarseseDialects.Dialect.Ascii
import NarseseDialects.Dialect.Han
import NarseseDialects.Proofs.Meaning.Unfolding
import NarseseDialects.Proofs.Term.Equality

namespace NarseseDialects.Meaning

open Outcome

variable {s : Side} {i j : Nat} {cs ds : List Term} {index : Datum} {given : List Datum} {t : Term}

lemma exists_image_of_compound (h : Construct.compound (.image s) index given = .ok t) :
    ∃ i cs, t = .image s i cs ∧ cs ≠ [] ∧ i ≤ cs.length := by
  obtain ⟨cs, -, hcs⟩ := bind_eq_ok.1 h
  have himage := mapError_eq_ok.1 hcs
  rw [Term.image?] at himage
  split at himage
  · cases himage
  next hne =>
  split at himage
  next i hi =>
    cases himage
    exact ⟨i, cs, rfl, by simpa using hne, Term.le_of_index? hi⟩
  · cases himage

section

variable (h : Term.SameInOrder cs ds)

include h

lemma map_isPlaceholder_eq : cs.map (·.same .placeholder) = ds.map (·.same .placeholder) := by
  induction h with
  | nil => rfl
  | @cons c d _ _ hcd _ ih =>
    have hsame : c.same .placeholder = d.same .placeholder :=
      Bool.eq_iff_iff.2 ⟨Term.same_trans (Term.same_symm hcd), Term.same_trans hcd⟩
    rw [List.map_cons, List.map_cons, hsame, ih]

lemma countP_placeholder_eq : cs.countP (·.same .placeholder) = ds.countP (·.same .placeholder) := by
  have hid : ∀ es : List Term, es.countP (·.same .placeholder) = (es.map (·.same .placeholder)).countP id :=
    fun es => (List.countP_map (p := id)).symm
  rw [hid, hid, map_isPlaceholder_eq h]

lemma findIdx_placeholder_eq : cs.findIdx (·.same .placeholder) = ds.findIdx (·.same .placeholder) := by
  have hid : ∀ es : List Term, es.findIdx (·.same .placeholder) = (es.map (·.same .placeholder)).findIdx id :=
    fun es => (List.findIdx_map es _ id).symm
  rw [hid, hid, map_isPlaceholder_eq h]

lemma sameInOrder_eraseIdx (n : Nat) : Term.SameInOrder (cs.eraseIdx n) (ds.eraseIdx n) := by
  induction h generalizing n with
  | nil => exact .nil
  | cons hcd hrest ih =>
    cases n with
    | zero => exact hrest
    | succ n => exact .cons hcd (ih n)

end

lemma same_image_of_withPlaceholder (hi : i ≤ cs.length) (hj : j ≤ ds.length) (hp : .placeholder ∉ cs)
    (h : Term.SameInOrder (Term.withPlaceholder i cs) (Term.withPlaceholder j ds)) :
    (Term.image s i cs).same (.image s j ds) = true := by
  have hq : .placeholder ∉ ds := by
    have hcount := countP_placeholder_eq h
    rw [Term.countP_withPlaceholder, Term.countP_withPlaceholder, Term.countP_placeholder_eq_zero_iff.2 hp] at hcount
    exact Term.countP_placeholder_eq_zero_iff.1 (Nat.succ.inj hcount).symm
  obtain rfl : i = j := by
    have hidx := findIdx_placeholder_eq h
    rwa [Term.findIdx_withPlaceholder hi hp, Term.findIdx_withPlaceholder hj hq] at hidx
  have hcs := sameInOrder_eraseIdx h i
  rw [Term.eraseIdx_withPlaceholder hi, Term.eraseIdx_withPlaceholder hj] at hcs
  exact (Term.Matches.image s i hcs).same

lemma image_withPlaceholder_of_mem (hp : .placeholder ∈ cs) :
    image s (Term.withPlaceholder i cs) = fail (.placeholders (cs.countP (·.same .placeholder) + 1)) := by
  have hne : cs.countP (·.same .placeholder) ≠ 0 := fun hzero => Term.countP_placeholder_eq_zero_iff.1 hzero hp
  have hcount : cs.countP (·.same .placeholder) + 1 ≠ 1 := fun hone => hne (Nat.succ.inj hone)
  rw [image, Term.countP_withPlaceholder, if_neg hcount]

/-- An image is recovered from its written components, and shares them with no other image of its side, exactly
when the placeholder is none of its components. -/
theorem compound_withPlaceholder (d : Dialect) (h : Construct.compound (.image s) index given = .ok t) :
    ∃ i cs, t = .image s i cs ∧
      (.placeholder ∉ cs →
        compound d (d.connectors.literal (.image s)) (Term.withPlaceholder i cs) = .ok t ∧
        ∀ index' given' j ds, Construct.compound (.image s) index' given' = .ok (.image s j ds) →
          Term.allSame (Term.withPlaceholder i cs) (Term.withPlaceholder j ds) = true →
          t.same (.image s j ds) = true) ∧
      (.placeholder ∈ cs →
        compound d (d.connectors.literal (.image s)) (Term.withPlaceholder i cs) =
          fail (.placeholders (cs.countP (·.same .placeholder) + 1))) := by
  obtain ⟨i, cs, rfl, hne, hi⟩ := exists_image_of_compound h
  refine ⟨i, cs, rfl, ?_, ?_⟩
  · intro hp
    refine ⟨?_, ?_⟩
    · simp only [compound, Vocabulary.role?_literal]
      exact image_withPlaceholder hne hi hp
    · intro index' given' j ds hu hall
      obtain ⟨j, ds, hds, -, hj⟩ := exists_image_of_compound hu
      cases hds
      exact same_image_of_withPlaceholder hi hj hp (Term.allSame_iff.1 hall)
  · intro hp
    simp only [compound, Vocabulary.role?_literal]
    exact image_withPlaceholder_of_mem hp

theorem lastGap_compound_withPlaceholder :
    Construct.compound (.image .intension) (.whole 2)
        [.value (.term (.negation .placeholder)), .value (.term (.named .word "A"))] =
      .ok (.image .intension 2 [.negation .placeholder, .named .word "A"]) ∧
    compound .han (Dialect.han.connectors.literal (.image .intension))
        [.negation .placeholder, .named .word "A", .placeholder] =
      .ok (.image .intension 2 [.negation .placeholder, .named .word "A"]) := by
  have hmade : Construct.compound (.image .intension) (.whole 2)
      [.value (.term (.negation .placeholder)), .value (.term (.named .word "A"))] =
        .ok (.image .intension 2 [.negation .placeholder, .named .word "A"]) := rfl
  refine ⟨hmade, ?_⟩
  obtain ⟨i, cs, hcs, hrec, -⟩ := compound_withPlaceholder .han hmade
  cases hcs
  exact (hrec (by simp)).1

/-- An image of the placeholder alone is made all the same, and is written with two of them. -/
theorem gapAlone_not_recovered :
    ¬ ∀ (d : Dialect) (s : Side) (index : Datum) (given : List Datum) (t : Term),
      Construct.compound (.image s) index given = .ok t →
      ∃ i cs, t = .image s i cs ∧
        ∃ u, compound d (d.connectors.literal (.image s)) (Term.withPlaceholder i cs) = .ok u ∧
          t.same u = true := by
  intro h
  obtain ⟨i, cs, hcs, u, hu, -⟩ := h .ascii .extension (.whole 0) [.value (.term .placeholder)] _ rfl
  cases hcs
  cases hu

end NarseseDialects.Meaning
