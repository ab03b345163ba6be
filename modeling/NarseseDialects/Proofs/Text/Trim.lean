import Mathlib.Tactic.Lemma
import NarseseDialects.Text.Cut

namespace NarseseDialects.Text

variable {q : Char → Bool} {b t w : Text}

lemma all_ends (h : ∀ c ∈ t, q c = false) : t.head?.all (!q ·) = true ∧ t.getLast?.all (!q ·) = true := by
  have hall : ∀ o : Option Char, (∀ c ∈ o, c ∈ t) → o.all (!q ·) = true := by
    intro o ho
    rw [Option.all_eq_true]
    exact fun c hc => congrArg not (h c (ho c hc))
  exact ⟨hall _ fun _ => List.mem_of_mem_head?, hall _ fun _ => List.mem_of_getLast?⟩

lemma all_head?_dropWhile (q : Char → Bool) (t : Text) : (t.dropWhile q).head?.all (!q ·) = true := by
  have h := List.head?_dropWhile_not q t
  cases hc : (t.dropWhile q).head? with
  | none => rfl
  | some c =>
    rw [hc] at h
    exact congrArg not h

lemma all_getLast?_dropBack (q : Char → Bool) (t : Text) : (dropBack q t).getLast?.all (!q ·) = true := by
  rw [dropBack, List.getLast?_reverse]
  exact all_head?_dropWhile q t.reverse

lemma dropWhile_eq_self (h : t.head?.all (!q ·) = true) : t.dropWhile q = t := by
  cases t with
  | nil => rfl
  | cons c t => exact List.dropWhile_cons_of_neg (by simpa using h)

lemma dropWhile_append (hb : b.all q = true) (hw : w.head?.all (!q ·) = true) : (b ++ w).dropWhile q = w := by
  rw [List.dropWhile_append_of_pos (List.all_eq_true.1 hb), dropWhile_eq_self hw]

lemma takeBack_append (ht : t.all q = true) (hw : w.getLast?.all (!q ·) = true) :
    takeBack q (w ++ t) = t ∧ dropBack q (w ++ t) = w := by
  have hd : dropBack q (w ++ t) = w := by
    rw [dropBack, List.reverse_append, dropWhile_append (by rwa [List.all_reverse]) (by rwa [List.head?_reverse]),
      List.reverse_reverse]
  have h := dropBack_append_takeBack q (w ++ t)
  rw [hd] at h
  exact ⟨List.append_cancel_left h, hd⟩

lemma dropBack_eq_self (h : t.getLast?.all (!q ·) = true) : dropBack q t = t := by
  rw [dropBack, dropWhile_eq_self (by rwa [List.head?_reverse]), List.reverse_reverse]

lemma trim_eq_self (hfront : t.head?.all (!q ·) = true) (hback : t.getLast?.all (!q ·) = true) : trim q t = t := by
  rw [trim, dropWhile_eq_self hfront, dropBack_eq_self hback]

lemma all_head?_trim (q : Char → Bool) (t : Text) : (trim q t).head?.all (!q ·) = true := by
  have hfront := all_head?_dropWhile q t
  -- what is dropped at the back stands in front of nothing that is kept
  rw [← dropBack_append_takeBack q (t.dropWhile q)] at hfront
  rw [trim]
  cases hd : dropBack q (t.dropWhile q) with
  | nil => rfl
  | cons c s =>
    rw [hd] at hfront
    exact hfront

lemma all_getLast?_trim (q : Char → Bool) (t : Text) : (trim q t).getLast?.all (!q ·) = true :=
  all_getLast?_dropBack q _

lemma filter_dropWhile (q : Char → Bool) (t : Text) : (t.dropWhile q).filter (!q ·) = t.filter (!q ·) := by
  induction t with
  | nil => rfl
  | cons c t ih =>
    by_cases hc : q c = true
    · rw [List.dropWhile_cons_of_pos hc, ih, List.filter_cons_of_neg (by simpa using hc)]
    · rw [List.dropWhile_cons_of_neg hc]

lemma filter_dropBack (q : Char → Bool) (t : Text) : (dropBack q t).filter (!q ·) = t.filter (!q ·) := by
  rw [dropBack, List.filter_reverse, filter_dropWhile, ← List.filter_reverse, List.reverse_reverse]

lemma filter_trim (q : Char → Bool) (t : Text) : (trim q t).filter (!q ·) = t.filter (!q ·) := by
  rw [trim, filter_dropBack, filter_dropWhile]

end NarseseDialects.Text
