import Mathlib.Data.Nat.SuccPred
import NarseseDialects.Proofs.Term.Congruence

namespace NarseseDialects.Term

variable {a b c t u : Term}

mutual

/-- How deep terms are nested in a term. Unlike a number of parts, equal terms share it. -/
def height : Term → Nat
  | named .. | placeholder | interval _ => 0
  | collection _ cs | chain _ cs | image _ _ cs => heightAbove cs
  | difference _ a b | ordered _ a b | symmetric _ a b => max (height a + 1) (height b + 1)
  | negation a => height a + 1

def heightAbove : List Term → Nat
  | [] => 0
  | t :: ts => max (height t + 1) (heightAbove ts)

end

lemma lt_heightAbove_iff {n : Nat} {ts : List Term} : n < heightAbove ts ↔ ∃ t ∈ ts, n ≤ t.height := by
  induction ts with
  | nil => simp [heightAbove]
  | cons t ts ih => simp [heightAbove, ← ih]

lemma lt_height_iff {n : Nat} : n < t.height ↔ ∃ c ∈ t.components, n ≤ c.height := by
  cases t with
  | named | placeholder | interval => simp [height, components]
  | collection k cs | chain k cs | image s i cs => exact lt_heightAbove_iff
  | difference s a b | ordered k a b | symmetric k a b => simp [height, components]
  | negation a => simp [height, components]

lemma SameInOrder.exists_same {cs ds : List Term} (h : SameInOrder cs ds) (hc : c ∈ cs) :
    ∃ d ∈ ds, c.same d = true := by
  induction h with
  | nil => cases hc
  | @cons x y cs ds hxy _ ih =>
    rcases List.mem_cons.1 hc with rfl | hc
    · exact ⟨y, List.mem_cons_self, hxy⟩
    · obtain ⟨d, hd, hcd⟩ := ih hc
      exact ⟨d, List.mem_cons_of_mem y hd, hcd⟩

lemma exists_same_component (h : t.same u = true) (hc : c ∈ t.components) :
    ∃ d ∈ u.components, c.same d = true := by
  cases matches_of_same h with
  | named | placeholder | interval => cases hc
  | collection k hm => exact hm.1 c hc
  | chain k hs => exact hs.exists_same hc
  | image s i hs => exact hs.exists_same hc
  | difference s h₁ h₂ => exact SameInOrder.exists_same (.cons h₁ (.cons h₂ .nil)) hc
  | negation h₁ => exact SameInOrder.exists_same (.cons h₁ .nil) hc
  | ordered k h₁ h₂ => exact SameInOrder.exists_same (.cons h₁ (.cons h₂ .nil)) hc
  | symmetric k hm => exact hm.1 c hc

lemma height_eq_of_same (h : t.same u = true) : t.height = u.height := by
  induction t using byComponents generalizing u with
  | h t ih =>
    apply Nat.le_antisymm
    · refine le_of_forall_lt fun n hn => ?_
      obtain ⟨c, hc, hnc⟩ := lt_height_iff.1 hn
      obtain ⟨d, hd, hcd⟩ := exists_same_component h hc
      exact lt_height_iff.2 ⟨d, hd, (ih c hc hcd) ▸ hnc⟩
    · refine le_of_forall_lt fun n hn => ?_
      obtain ⟨d, hd, hnd⟩ := lt_height_iff.1 hn
      obtain ⟨c, hc, hdc⟩ := exists_same_component (same_symm h) hd
      exact lt_height_iff.2 ⟨c, hc, (ih c hc (same_symm hdc)).symm ▸ hnd⟩

namespace PartOf

lemma trans (h : PartOf a b) (h' : PartOf b c) : PartOf a c := by
  induction h' with
  | self => exact h
  | inner hc _ ih => exact .inner hc ih

lemma eq_or_height_lt (h : PartOf a t) : a = t ∨ a.height < t.height := by
  induction h with
  | self => exact .inl rfl
  | inner hc _ ih =>
    refine .inr (lt_height_iff.2 ⟨_, hc, ?_⟩)
    rcases ih with rfl | hlt
    · exact Nat.le_refl _
    · exact Nat.le_of_lt hlt

lemma exists_same (h : PartOf a t) (hs : t.same u = true) : ∃ b, PartOf b u ∧ a.same b = true := by
  induction h generalizing u with
  | self => exact ⟨u, .self, hs⟩
  | inner hc _ ih =>
    obtain ⟨d, hd, hcd⟩ := exists_same_component hs hc
    obtain ⟨b, hb, hab⟩ := ih hcd
    exact ⟨b, .inner hd hb, hab⟩

end PartOf

lemma contains_iff : t.contains u = true ↔ ∃ a, PartOf a t ∧ a.same u = true := by
  constructor
  · intro h
    induction t using byComponents with
    | h t ih =>
      rw [contains_eq, Bool.or_eq_true, List.any_eq_true] at h
      rcases h with h | ⟨c, hc, h⟩
      · exact ⟨t, .self, h⟩
      · obtain ⟨a, ha, hs⟩ := ih c hc h
        exact ⟨a, .inner hc ha, hs⟩
  · rintro ⟨a, h, hs⟩
    induction h with
    | self => rw [contains_eq, hs, Bool.true_or]
    | inner hc _ ih =>
      rw [contains_eq, Bool.or_eq_true, List.any_eq_true]
      exact .inr ⟨_, hc, ih⟩

lemma contains_self (t : Term) : t.contains t = true := contains_iff.2 ⟨t, .self, same_refl t⟩

lemma contains_trans (h : a.contains b = true) (h' : b.contains c = true) : a.contains c = true := by
  obtain ⟨x, hx, hxb⟩ := contains_iff.1 h
  obtain ⟨y, hy, hyc⟩ := contains_iff.1 h'
  obtain ⟨z, hz, hyz⟩ := hy.exists_same (same_symm hxb)
  exact contains_iff.2 ⟨z, hz.trans hx, same_trans (same_symm hyz) hyc⟩

lemma height_le_of_contains (h : a.contains b = true) : b.height ≤ a.height := by
  obtain ⟨x, hx, hxb⟩ := contains_iff.1 h
  rw [← height_eq_of_same hxb]
  rcases hx.eq_or_height_lt with rfl | hlt
  · exact Nat.le_refl _
  · exact Nat.le_of_lt hlt

lemma same_of_contains (h : a.contains b = true) (h' : b.contains a = true) : a.same b = true := by
  obtain ⟨x, hx, hxb⟩ := contains_iff.1 h
  rcases hx.eq_or_height_lt with rfl | hlt
  · exact hxb
  · have hle := height_le_of_contains h'
    rw [← height_eq_of_same hxb] at hle
    omega

lemma contains_of_same {a' b' : Term} (ha : a.same a' = true) (hb : b.same b' = true) (h : a.contains b = true) :
    a'.contains b' = true := by
  obtain ⟨x, hx, hxb⟩ := contains_iff.1 h
  obtain ⟨y, hy, hxy⟩ := hx.exists_same ha
  exact contains_iff.2 ⟨y, hy, same_trans (same_symm hxy) (same_trans hxb hb)⟩

/-- Containment is reflexive, transitive, and antisymmetric up to equality, and equality of either side does
not change it. -/
theorem contains_partial_order :
    (∀ a : Term, a.contains a = true) ∧
      (∀ a b c : Term, a.contains b = true → b.contains c = true → a.contains c = true) ∧
      (∀ a b : Term, a.contains b = true → b.contains a = true → a.same b = true) ∧
      ∀ a a' b b' : Term, a.same a' = true → b.same b' = true → a.contains b = a'.contains b' := by
  refine ⟨contains_self, fun a b c => contains_trans, fun a b => same_of_contains, ?_⟩
  intro a a' b b' ha hb
  rw [Bool.eq_iff_iff]
  exact ⟨contains_of_same ha hb, contains_of_same (same_symm ha) (same_symm hb)⟩

def likeness (a b : Text) : Term := .symmetric .similarity (.named .word a) (.named .word b)

theorem likeness_contains_partial_order :
    let word := Term.named .word "a"
    let t := Term.collection (.set .extension) [likeness "a" "b", word]
    let u := Term.collection (.set .extension) [word, likeness "b" "a", word]
    t.contains word = true ∧ t.same u = true ∧
      (Term.negation t).contains (likeness "b" "a") = (Term.negation u).contains (likeness "a" "b") := by
  intro word t u
  obtain ⟨-, htrans, hantisymm, hcongr⟩ := contains_partial_order
  have hlike : (likeness "b" "a").same (likeness "a" "b") = true := by decide
  have hsame : t.same u = true := hantisymm t u (by decide) (by decide)
  have hnegated : (Term.negation t).same (Term.negation u) = true := (Matches.negation hsame).same
  exact ⟨htrans t (likeness "b" "a") word (by decide) (by decide), hsame, hcongr _ _ _ _ hnegated hlike⟩

end NarseseDialects.Term
