import NarseseDialects.Proofs.Typeset.Items
import NarseseDialects.Proofs.Typeset.Readable
import NarseseDialects.Proofs.Value.Equality

namespace NarseseDialects

namespace Typeset

open Text

variable {a b : Sentence} {k l : Task}

lemma ending_cancel (hp : bare (punctuation a.mood.punctuation) = bare (punctuation b.mood.punctuation))
    (h : endingWords a = endingWords b) : a.mood = b.mood ∧ a.stamp = b.stamp := by
  obtain ⟨hstamp, htruth⟩ := stamp_cancel h
  exact ⟨truth_injective (punctuation_injective hp) htruth, hstamp⟩

lemma sentence_injective (ha : Shown a.term) (hb : b.term.WellFormed) {r s : Text} (hr : sentence? a = some r)
    (hs : sentence? b = some s) (h : Text.words r = Text.words s) : a = b := by
  rw [words_sentence hr, words_sentence hs] at h
  obtain ⟨hterm, hrest⟩ := cancels ha _ hb _ _ h
  obtain ⟨hp, hrest⟩ := List.cons.inj hrest
  obtain ⟨hmood, hstamp⟩ := ending_cancel hp hrest
  cases a
  cases b
  cases hterm
  cases hmood
  cases hstamp
  rfl

lemma task_injective (hk : Shown k.sentence.term) (hl : l.sentence.term.WellFormed) {r s : Text}
    (hr : task? k = some r) (hs : task? l = some s) (h : Text.words r = Text.words s) : k = l := by
  rw [words_task hr, words_task hs] at h
  obtain ⟨hbudget, hrest⟩ := budget_cancel h
  obtain ⟨hterm, hrest⟩ := cancels hk _ hl _ _ (List.cons.inj hrest).2
  obtain ⟨hp, hrest⟩ := List.cons.inj hrest
  obtain ⟨hmood, hstamp⟩ := ending_cancel hp (List.cons.inj hrest).2
  obtain ⟨⟨t, m, x⟩, v⟩ := k
  obtain ⟨⟨u, n, y⟩, w⟩ := l
  cases hbudget
  cases hterm
  cases hmood
  cases hstamp
  rfl

lemma term_ne_sentence {t : Term} (ht : Shown t) (ha : a.term.WellFormed) {s : Text} (hs : sentence? a = some s) :
    Text.words (term t) ≠ Text.words s := by
  intro h
  rw [words_sentence hs, ← List.append_nil (Text.words (term t))] at h
  -- behind the term comes nothing in one and a punctuation in the other
  cases (cancels ht _ ha _ _ h).2

lemma ne_task {t : Term} (ht : t.WellFormed) (ws : List Text) {s : Text} (hs : task? k = some s) :
    Text.words (term t) ++ ws ≠ Text.words s := by
  intro h
  have hleft : padded " lr(\\$ " = true ∧ Text.words " lr(\\$ " = ["lr(\\$".toList] := by decide
  have hright : padded " \\$) " = true := by decide
  obtain ⟨w, ls, hw, hn⟩ := exists_lead ht
  have hbudget : ∃ ms, Text.words (budget k.budget) = "lr(\\$".toList :: ms := by
    refine ⟨Text.words (join "\";\"" (k.budget.values.map Double.typeset)) ++ Text.words " \\$) ", ?_⟩
    rw [budget, numbers, words_append_padded hright, words_padded_append hleft.1, hleft.2]
    rfl
  obtain ⟨ms, hms⟩ := hbudget
  rw [hw, words_task hs, hms] at h
  exact hn ((List.cons.inj h).1 ▸ List.mem_cons_self)

lemma sentence_ne_task (ha : Shown a.term) {r s : Text} (hr : sentence? a = some r) (hs : task? k = some s) :
    Text.words r ≠ Text.words s := by
  rw [words_sentence hr]
  exact ne_task ha.wellFormed _ hs

lemma term_ne_task {t : Term} (ht : Shown t) {s : Text} (hs : task? k = some s) :
    Text.words (term t) ≠ Text.words s := by
  rw [← List.append_nil (Text.words (term t))]
  exact ne_task ht.wellFormed _ hs

lemma words_pieces_injective {x y : Value} (hx : Shown x.subject) (hy : Shown y.subject) {r s : Text}
    (hr : pieces? x = some r) (hs : pieces? y = some s) (h : Text.words r = Text.words s) : x = y := by
  cases x with
  | term t =>
    cases hr
    cases y with
    | term u =>
      cases hs
      have h' := congrArg (· ++ []) h
      exact congrArg Item.term (cancels hx u hy.wellFormed [] [] h').1
    | sentence b => exact absurd h (term_ne_sentence hx hy.wellFormed hs)
    | task l => exact absurd h (term_ne_task hx hs)
  | sentence a =>
    cases y with
    | term u =>
      cases hs
      exact absurd h.symm (term_ne_sentence hy hx.wellFormed hr)
    | sentence b => exact congrArg Item.sentence (sentence_injective hx hy.wellFormed hr hs h)
    | task l => exact absurd h (sentence_ne_task hx hr hs)
  | task k =>
    cases y with
    | term u =>
      cases hs
      exact absurd h.symm (term_ne_task hy hr)
    | sentence b => exact absurd h.symm (sentence_ne_task hy hs hr)
    | task l => exact congrArg Item.task (task_injective hx hy.wellFormed hr hs h)

end Typeset

namespace Value

open Typeset

/-- Values with one formula are equal, if the only placeholder that an image shows is the one at its index. -/
theorem typeset_injective {x y : Value} (hx : x.Made) (hy : y.Made)
    (hgx : ∀ s i cs, Term.PartOf (.image s i cs) x.subject → .placeholder ∉ cs)
    (hgy : ∀ s i cs, Term.PartOf (.image s i cs) y.subject → .placeholder ∉ cs) {t : Text}
    (htx : x.typeset? = some t) (hty : y.typeset? = some t) : x = y ∧ x.same y = true := by
  obtain ⟨r, hr, rfl⟩ := Option.map_eq_some_iff.1 htx
  obtain ⟨s, hs, hcollapse⟩ := Option.map_eq_some_iff.1 hty
  have hwords := congrArg Text.words hcollapse
  rw [Text.words_collapse, Text.words_collapse] at hwords
  obtain rfl := words_pieces_injective ⟨hx.wellFormed, hgx⟩ ⟨hy.wellFormed, hgy⟩ hr hs hwords.symm
  exact ⟨rfl, same_equivalence.refl x⟩

def wordImage : Term := .image .extension 1 [.named .word "a", .named .word "b"]

def imageGoal : Value := .sentence ⟨wordImage, .goal .empty, .tense .past⟩

lemma made_imageGoal : imageGoal.Made := by
  have himage : Made (.term wordImage) := by
    refine @Value.Made.compound (.image .extension) (.whole 1)
      [.value (.term (.named .word "a")), .value (.term (.named .word "b"))] _ ?_ rfl
    simpa using ⟨Made.named rfl, Made.named rfl⟩
  refine @Value.Made.sentence .goal (.value (.term _)) (.truth .empty) (.stamp (.tense .past)) _ ?_ rfl
  rintro v ⟨⟩
  exact himage

lemma gap_wordImage {s : Side} {i : Nat} {cs : List Term} (h : Term.PartOf (.image s i cs) wordImage) :
    .placeholder ∉ cs := by
  have hatom : ∀ k n, ¬Term.PartOf (.image s i cs) (.named k n) := by
    rintro k n (_ | ⟨hc, -⟩)
    cases hc
  cases h with
  | self => simp
  | inner hc ha =>
    rcases List.mem_pair.1 hc with rfl | rfl
    · exact absurd ha (hatom _ _)
    · exact absurd ha (hatom _ _)

theorem imageGoal_typeset_injective :
    imageGoal.Made ∧ (∀ s i cs, Term.PartOf (.image s i cs) imageGoal.subject → .placeholder ∉ cs) ∧
      imageGoal.typeset?.isSome = true ∧ imageGoal.same imageGoal = true := by
  have hgap : ∀ s i cs, Term.PartOf (.image s i cs) imageGoal.subject → .placeholder ∉ cs := fun _ _ _ => gap_wordImage
  exact ⟨made_imageGoal, hgap, rfl, (typeset_injective made_imageGoal made_imageGoal hgap hgap rfl rfl).2⟩

example :
    typeset? (.term (.image .extension 0 [.named .word "a", .placeholder])) =
        typeset? (.term (.image .extension 2 [.placeholder, .named .word "a"])) ∧
      same (.term (.image .extension 0 [.named .word "a", .placeholder]))
        (.term (.image .extension 2 [.placeholder, .named .word "a"])) = false := by
  decide

end Value

end NarseseDialects
