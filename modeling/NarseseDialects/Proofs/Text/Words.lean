import NarseseDialects.Proofs.Text.Classes
import NarseseDialects.Typeset

namespace NarseseDialects.Text

def words (t : Text) : List Text := (t.splitOnP isBlank).filter (!·.isEmpty)

def padded (t : Text) : Bool := t.head?.any isBlank && t.getLast?.any isBlank

variable {c : Char} {p t : Text}

@[simp] lemma words_nil : words [] = [] := rfl

lemma words_append_cons (hc : isBlank c = true) (a b : Text) : words (a ++ c :: b) = words a ++ words b := by
  rw [words, List.splitOnP_append_cons a b hc, List.filter_append, words, words]

lemma words_cons (hc : isBlank c = true) (t : Text) : words (c :: t) = words t := words_append_cons hc [] t

lemma words_of_forall (hne : t ≠ []) (h : ∀ c ∈ t, isBlank c = false) : words t = [t] := by
  rw [words, List.splitOnP_eq_singleton h]
  simp [hne]

lemma words_append_of_head? {b : Text} (h : b.head?.all isBlank = true) (a : Text) :
    words (a ++ b) = words a ++ words b := by
  cases b with
  | nil => rw [List.append_nil, words_nil, List.append_nil]
  | cons c b =>
    have hc : isBlank c = true := by simpa using h
    rw [words_append_cons hc, words_cons hc]

lemma words_append_of_getLast? {a : Text} (h : a.getLast?.all isBlank = true) (b : Text) :
    words (a ++ b) = words a ++ words b := by
  by_cases hne : a = []
  · rw [hne]
    rfl
  · have hl := List.dropLast_concat_getLast hne
    have hc : isBlank (a.getLast hne) = true := by simpa [List.getLast?_eq_some_getLast hne] using h
    rw [← hl, List.append_assoc, List.singleton_append, words_append_cons hc, words_append_cons hc, words_nil,
      List.append_nil]

lemma words_append_padded (h : padded p = true) (a : Text) : words (a ++ p) = words a ++ words p := by
  obtain ⟨hhead, -⟩ := Bool.and_eq_true_iff.1 h
  apply words_append_of_head?
  cases p with
  | nil => rfl
  | cons c p => exact hhead

lemma words_padded_append (h : padded p = true) (b : Text) : words (p ++ b) = words p ++ words b := by
  obtain ⟨-, hlast⟩ := Bool.and_eq_true_iff.1 h
  apply words_append_of_getLast?
  cases hl : p.getLast? with
  | none => rfl
  | some c =>
    rw [hl] at hlast
    exact hlast

lemma words_around (h : padded p = true) (a b : Text) : words (a ++ p ++ b) = words a ++ words p ++ words b := by
  obtain ⟨c, q, rfl⟩ : ∃ c q, p = c :: q := by
    cases p with
    | nil => cases h
    | cons c q => exact ⟨c, q, rfl⟩
  have hc : isBlank c = true := (Bool.and_eq_true_iff.1 h).1
  rw [List.append_assoc, List.append_assoc, ← words_padded_append h, List.cons_append, words_append_cons hc,
    words_cons hc]

lemma words_of_forall_isBlank (h : ∀ c ∈ t, isBlank c = true) : words t = [] := by
  induction t with
  | nil => rfl
  | cons c t ih =>
    rw [words_cons (h c List.mem_cons_self), ih fun x hx => h x (List.mem_cons_of_mem c hx)]

lemma words_squeeze (t : Text) :
    (∀ a, words (a ++ squeeze false t) = words (a ++ t)) ∧ words (squeeze true t) = words t := by
  -- within a run of blanks the one that parts the words is written already, so nothing need stand in front
  induction t with
  | nil => exact ⟨fun a => rfl, rfl⟩
  | cons c t ih =>
    obtain ⟨hfalse, htrue⟩ := ih
    by_cases hc : isBlank c = true
    · constructor
      · intro a
        have hb : isBlank ' ' = true := by decide
        rw [squeeze, if_pos hc, if_neg Bool.false_ne_true, words_append_cons hb, words_append_cons hc, htrue]
      · rw [squeeze, if_pos hc, if_pos rfl, words_cons hc, htrue]
    · constructor
      · intro a
        rw [squeeze, if_neg hc, List.append_cons, hfalse, ← List.append_cons]
      · rw [squeeze, if_neg hc]
        exact hfalse [c]

lemma words_dropWhile (t : Text) : words (t.dropWhile isBlank) = words t := by
  induction t with
  | nil => rfl
  | cons c t ih =>
    by_cases hc : isBlank c = true
    · rw [List.dropWhile_cons_of_pos hc, words_cons hc, ih]
    · rw [List.dropWhile_cons_of_neg hc]

lemma words_dropBack (t : Text) : words (dropBack isBlank t) = words t := by
  have hb : ∀ c ∈ takeBack isBlank t, isBlank c = true := fun c hc =>
    List.all_eq_true.1 List.all_takeWhile c (List.mem_reverse.1 hc)
  have hhead : (takeBack isBlank t).head?.all isBlank = true := by
    rw [Option.all_eq_true]
    exact fun c hc => hb c (List.mem_of_head? hc)
  have h := words_append_of_head? hhead (dropBack isBlank t)
  rw [dropBack_append_takeBack, words_of_forall_isBlank hb, List.append_nil] at h
  exact h.symm

lemma words_collapse (t : Text) : words (collapse t) = words t := by
  have h := (words_squeeze (trim isBlank t)).1 []
  rw [List.nil_append, List.nil_append, trim, words_dropBack, words_dropWhile] at h
  exact h

lemma words_join (h : padded p = true) (ts : List Text) :
    words (join p ts) = List.intercalate (words p) (ts.map words) := by
  induction ts with
  | nil => rfl
  | cons t ts ih =>
    cases ts with
    | nil => simp
    | cons u us =>
      rw [join_cons_cons, words_around h, ih]
      exact List.intercalate_cons_cons.symm

lemma infix_of_mem_words {w t : Text} (h : w ∈ words t) : w <:+: t := by
  cases hb : t.any isBlank with
  | true =>
    obtain ⟨c, hc, hblank⟩ := List.any_eq_true.1 hb
    obtain ⟨a, b, ht⟩ := List.append_of_mem hc
    have hl : t.length = a.length + (b.length + 1) := by rw [ht, List.length_append, List.length_cons]
    rw [ht, words_append_cons hblank, List.mem_append] at h
    rw [ht]
    rcases h with h | h
    · exact (infix_of_mem_words h).trans (List.prefix_append a (c :: b)).isInfix
    · exact (infix_of_mem_words h).trans ((List.suffix_cons c b).trans (List.suffix_append a (c :: b))).isInfix
  | false =>
    have hnone : ∀ c ∈ t, isBlank c = false := by simpa using hb
    by_cases hne : t = []
    · rw [hne] at h
      cases h
    · rw [words_of_forall hne hnone, List.mem_singleton] at h
      exact h ▸ List.infix_rfl
termination_by t.length
decreasing_by all_goals omega

end NarseseDialects.Text
