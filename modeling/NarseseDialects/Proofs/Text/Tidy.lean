import Mathlib.Data.List.Chain
import Mathlib.Data.List.Infix
import NarseseDialects.Proofs.Text.Trim
import NarseseDialects.Proofs.Text.Words

namespace NarseseDialects.Text

variable {inRun : Bool} {c : Char} {r t : Text}

structure Tidy (t : Text) : Prop where
  front : t.head?.all (!isBlank ·) = true
  back : t.getLast?.all (!isBlank ·) = true
  run : ∀ r, r <:+: t → r ≠ [] → r.all isBlank = true → r = " "

lemma squeeze_cons_of_not (hc : isBlank c = false) (inRun : Bool) (t : Text) :
    squeeze inRun (c :: t) = c :: squeeze false t := by
  rw [squeeze, hc]
  rfl

lemma squeeze_concat (hc : isBlank c = false) (t : Text) :
    squeeze inRun (t ++ [c]) = squeeze inRun t ++ [c] := by
  induction t generalizing inRun with
  | nil => exact squeeze_cons_of_not hc inRun []
  | cons b t ih =>
    rw [List.cons_append, squeeze, squeeze, ih, ih]
    split
    · split <;> rfl
    · rfl

lemma eq_blank_of_mem_squeeze (h : c ∈ squeeze inRun t) (hc : isBlank c = true) : c = ' ' := by
  induction t generalizing inRun with
  | nil => cases h
  | cons b t ih =>
    rw [squeeze] at h
    split at h
    · split at h
      · exact ih h
      · exact (List.mem_cons.1 h).elim id ih
    next hb =>
      rcases List.mem_cons.1 h with rfl | h
      · exact absurd hc hb
      · exact ih h

lemma isChain_squeeze (t : Text) :
    (squeeze false t).IsChain (fun c d => isBlank c = true → isBlank d = false) ∧
      (' ' :: squeeze true t).IsChain fun c d => isBlank c = true → isBlank d = false := by
  -- where a run goes on from before, the blank that was written for it is taken in
  induction t with
  | nil => exact ⟨.nil, .singleton ' '⟩
  | cons c t ih =>
    cases hc : isBlank c with
    | true =>
      rw [squeeze, squeeze, if_pos hc, if_pos hc]
      exact ⟨ih.2, ih.2⟩
    | false =>
      have hcons : (c :: squeeze false t).IsChain fun c d => isBlank c = true → isBlank d = false :=
        List.isChain_cons.2 ⟨fun _ _ hb => absurd hb (by simp [hc]), ih.1⟩
      rw [squeeze_cons_of_not hc, squeeze_cons_of_not hc]
      exact ⟨hcons, List.isChain_cons_cons.2 ⟨fun _ => hc, hcons⟩⟩

lemma run_of_squeeze (hr : r <:+: squeeze false t) (hne : r ≠ []) (hb : r.all isBlank = true) : r = " " := by
  have hb := List.all_eq_true.1 hb
  match r, hne with
  | [c], _ =>
    rw [eq_blank_of_mem_squeeze (hr.subset List.mem_cons_self) (hb c List.mem_cons_self)]
    rfl
  | c :: d :: _, _ =>
    have hchain := List.IsChain.infix (isChain_squeeze t).1 hr
    have hcd := (List.isChain_cons_cons.1 hchain).1
    rw [hb d (by simp)] at hcd
    exact absurd (hcd (hb c List.mem_cons_self)) Bool.noConfusion

lemma tidy_squeeze (hfront : t.head?.all (!isBlank ·) = true) (hback : t.getLast?.all (!isBlank ·) = true) :
    Tidy (squeeze false t) where
  front := by
    cases t with
    | nil => rfl
    | cons c t =>
      have hc : isBlank c = false := by simpa using hfront
      rw [squeeze_cons_of_not hc]
      exact hfront
  back := by
    rcases List.eq_nil_or_concat' t with rfl | ⟨s, c, rfl⟩
    · rfl
    · rw [List.getLast?_concat] at hback
      rw [squeeze_concat (by simpa using hback), List.getLast?_concat]
      exact hback
  run _ := run_of_squeeze

lemma tidy_collapse (t : Text) : Tidy (collapse t) :=
  tidy_squeeze (all_head?_trim isBlank t) (all_getLast?_trim isBlank t)

lemma squeeze_eq_self (h : ∀ r, r <:+: t → r ≠ [] → r.all isBlank = true → r = " ") : squeeze false t = t := by
  induction t with
  | nil => rfl
  | cons c t ih =>
    have htail := ih fun r hr => h r (List.infix_cons hr)
    cases hc : isBlank c with
    | false => rw [squeeze_cons_of_not hc, htail]
    | true =>
      have hone := h [c] (List.prefix_append [c] t).isInfix (by simp) (by simp [hc])
      obtain rfl : c = ' ' := List.singleton_inj.1 hone
      rw [squeeze, if_pos hc, if_neg Bool.false_ne_true]
      congr 1
      cases t with
      | nil => rfl
      | cons d t =>
        have hd : isBlank d = false := by
          rw [Bool.eq_false_iff]
          intro hd
          have htwo := h [' ', d] (List.prefix_append [' ', d] t).isInfix (by simp) (by simp [hc, hd])
          cases htwo
        rw [squeeze_cons_of_not hd] at htail ⊢
        exact htail

lemma collapse_eq_self_iff : collapse t = t ↔ Tidy t := by
  constructor
  · intro h
    exact h ▸ tidy_collapse t
  · intro h
    rw [collapse, trim_eq_self h.front h.back, squeeze_eq_self h.run]

instance : Decidable (Tidy t) := decidable_of_iff (collapse t = t) collapse_eq_self_iff

example : Tidy "lr(( times space" ∧ ¬Tidy "times " ∧ ¬Tidy "times  space" ∧ ¬Tidy "times\nspace" := by decide

lemma collapse_collapse (t : Text) : collapse (collapse t) = collapse t :=
  collapse_eq_self_iff.2 (tidy_collapse t)

lemma filter_squeeze (inRun : Bool) (t : Text) :
    (squeeze inRun t).filter (!isBlank ·) = t.filter (!isBlank ·) := by
  have hspace : isBlank ' ' = true := by decide
  induction t generalizing inRun with
  | nil => rfl
  | cons c t ih =>
    cases hc : isBlank c with
    | true =>
      rw [squeeze, if_pos hc]
      split
      · simpa [hc] using ih true
      · simpa [hc, hspace] using ih true
    | false => simpa [squeeze_cons_of_not hc, hc] using ih false

lemma filter_collapse (t : Text) : (collapse t).filter (!isBlank ·) = t.filter (!isBlank ·) := by
  rw [collapse, filter_squeeze, filter_trim]

end NarseseDialects.Text
