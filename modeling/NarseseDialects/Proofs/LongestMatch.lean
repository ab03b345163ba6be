import Mathlib.Data.List.Nodup
import NarseseDialects.Lexicon
import NarseseDialects.Proofs.Text.Apart

namespace NarseseDialects.Lexicon

variable {l : Lexicon} {cs e r : Text}

lemma findSome?_longest {β : Type} {es : List Text} {f : Text → Option β} {b : β}
    (hs : es.Pairwise fun a b => b.length ≤ a.length) (he : e ∈ es) (hb : f e = some b)
    (hu : ∀ a ∈ es, e.length ≤ a.length → a ≠ e → f a = none) : es.findSome? f = some b := by
  induction es with
  | nil => cases he
  | cons a es ih =>
    rw [List.pairwise_cons] at hs
    rw [List.findSome?_cons]
    by_cases hae : a = e
    · rw [hae, hb]
    · have hm := (List.mem_cons.1 he).resolve_left (Ne.symm hae)
      rw [hu a List.mem_cons_self (hs.1 e hm) hae]
      exact ih hs.2 hm fun x hx => hu x (List.mem_cons_of_mem _ hx)

lemma front?_eq_some (he : e ∈ l.entries)
    (hl : ∀ a ∈ l.entries, e.length < a.length → Text.after? a (e ++ r) = none) :
    l.front? (e ++ r) = some (e, r) := by
  apply findSome?_longest l.longestFirst he (by simp)
  intro a ha hle hne
  rcases Nat.lt_or_eq_of_le hle with hlt | heq
  · simp [hl a ha hlt]
  · simp only [Option.map_eq_none_iff]
    cases h : Text.after? a (e ++ r) with
    | none => rfl
    | some x => exact absurd (List.append_inj_left (Text.after?_eq_some_iff.1 h) heq).symm hne

lemma back?_eq_some (he : e ∈ l.entries)
    (hl : ∀ a ∈ l.entries, e.length < a.length → Text.before? a (r ++ e) = none) :
    l.back? (r ++ e) = some (r, e) := by
  apply findSome?_longest l.longestFirst he (by simp)
  intro a ha hle hne
  rcases Nat.lt_or_eq_of_le hle with hlt | heq
  · simp [hl a ha hlt]
  · simp only [Option.map_eq_none_iff]
    cases h : Text.before? a (r ++ e) with
    | none => rfl
    | some x =>
      exact absurd (List.append_inj_right' (Text.before?_eq_some_iff.1 h) heq).symm hne

lemma back?_eq_none (h : ∀ a ∈ l.entries, Text.before? a cs = none) : l.back? cs = none := by
  simp only [back?, List.findSome?_eq_none_iff, Option.map_eq_none_iff]
  exact h

lemma front?_eq_none (h : ∀ a ∈ l.entries, Text.after? a cs = none) : l.front? cs = none := by
  simp only [front?, List.findSome?_eq_none_iff, Option.map_eq_none_iff]
  exact h

lemma front?_of_apart (he : e ∈ l.entries) (hl : ∀ a ∈ l.entries, a ≠ e → Text.apart e a) (r : Text) :
    l.front? (e ++ r) = some (e, r) := by
  refine front?_eq_some he fun a ha hlt => Text.after?_of_apart (hl a ha ?_) r
  rintro rfl
  exact Nat.lt_irrefl _ hlt

lemma back?_of_apart (he : e ∈ l.entries) (hl : ∀ a ∈ l.entries, a ≠ e → Text.apartBack e a) (r : Text) :
    l.back? (r ++ e) = some (r, e) := by
  refine back?_eq_some he fun a ha hlt => Text.before?_of_apartBack (hl a ha ?_) r
  rintro rfl
  exact Nat.lt_irrefl _ hlt

lemma exists_longest_of_findSome? {β : Type} {es : List Text} {f : Text → Option β} {b : β}
    (hs : es.Pairwise fun a b => b.length ≤ a.length) (h : es.findSome? f = some b) :
    ∃ e, f e = some b ∧ ∀ a ∈ es, e.length < a.length → f a = none := by
  obtain ⟨before, e, behind, rfl, he, hn⟩ := List.findSome?_eq_some_iff.1 h
  refine ⟨e, he, fun a ha hlt => ?_⟩
  rcases List.mem_append.1 ha with ha | ha
  · exact hn a ha
  · rcases List.mem_cons.1 ha with rfl | ha
    · exact absurd hlt (Nat.lt_irrefl _)
    · exact absurd hlt (Nat.not_lt.2 (List.rel_of_pairwise_cons (List.pairwise_append.1 hs).2.1 ha))

lemma after?_of_front? (h : l.front? cs = some (e, r)) {a : Text} (ha : a ∈ l.entries) (hlt : e.length < a.length) :
    Text.after? a cs = none := by
  obtain ⟨b, hb, hn⟩ := exists_longest_of_findSome? l.longestFirst h
  obtain ⟨x, -, hx⟩ := Option.map_eq_some_iff.1 hb
  cases hx
  exact Option.map_eq_none_iff.1 (hn a ha hlt)

lemma back?_append_cons {z : Char} (hz : ∀ e ∈ l.entries, z ∉ e) (y r : Text) :
    l.back? (y ++ z :: r) = (l.back? r).map fun p => (y ++ z :: p.1, p.2) := by
  rw [back?, back?]
  generalize l.entries = es at hz
  induction es with
  | nil => rfl
  | cons e es ih =>
    rw [List.findSome?_cons, List.findSome?_cons, Text.before?_append_cons (hz e List.mem_cons_self),
      ih fun a ha => hz a (List.mem_cons_of_mem e ha)]
    cases Text.before? e r <;> rfl

end NarseseDialects.Lexicon

namespace NarseseDialects.BracketFamily

lemma rightOf?_of_mem {f : BracketFamily} {l r : Text} (h : (l, r) ∈ f.pairs) : f.rightOf? l = some r := by
  rw [rightOf?]
  cases hf : f.pairs.find? (·.1 = l) with
  | none =>
    have := List.find?_eq_none.1 hf (l, r) h
    simp at this
  | some p =>
    have hl : p.1 = l := by simpa using List.find?_some hf
    rw [List.inj_on_of_nodup_map f.distinct (List.mem_of_find?_eq_some hf) h hl]
    rfl

end NarseseDialects.BracketFamily
