import NarseseDialects.Proofs.Text.Apart
import NarseseDialects.Proofs.Typeset.Items
import NarseseDialects.Value.Display

namespace NarseseDialects

open Text

namespace Double

variable {v : Double} {vs us : List Double}

lemma mem_display_of_inUnit (h : v.inUnit = true) : v.display ≠ [] ∧ ∀ c ∈ v.display, c ∈ realChars := by
  obtain ⟨hne, hc⟩ := Typeset.mem_typeset_of_inUnit h
  rw [typeset] at hne hc
  cases hb : before? ".0" v.display with
  | none =>
    rw [hb] at hne hc
    exact ⟨hne, hc⟩
  | some r =>
    have hzero : ∀ c ∈ ".0".toList, c ∈ realChars := by decide
    rw [hb] at hc
    rw [before?_eq_some_iff.1 hb]
    refine ⟨by simp, fun c hm => ?_⟩
    exact (List.mem_append.1 hm).elim (hc c) (hzero c)

lemma map_display_injective (hv : ∀ v ∈ vs, v.inUnit = true) (hu : ∀ v ∈ us, v.inUnit = true)
    (h : vs.map display = us.map display) : vs = us := by
  have htypeset : ∀ ws : List Double, ws.map typeset = (ws.map display).map fun t => (before? ".0" t).getD t := by
    intro ws
    rw [List.map_map]
    rfl
  apply Typeset.map_typeset_injective hv hu
  rw [htypeset, htypeset, h]

end Double

namespace Measure

variable {q : Quantity}

lemma mem_display_of_mem_values {m : Measure q} {t : Text} (h : t ∈ m.values.map Double.display) :
    t ≠ [] ∧ ∀ c ∈ t, c ∈ realChars := by
  obtain ⟨v, hv, rfl⟩ := List.mem_map.1 h
  exact Double.mem_display_of_inUnit (m.inUnit v hv)

lemma display_injective {m n : Measure q} (h : m.display = n.display) : m = n := by
  have hcomma : ',' ∉ realChars := by decide
  have hitem : ∀ m : Measure q, ∀ t ∈ m.values.map Double.display, t ≠ [] ∧ ',' ∉ t := by
    intro m t ht
    obtain ⟨hne, hc⟩ := mem_display_of_mem_values ht
    exact ⟨hne, fun hm => hcomma (hc _ hm)⟩
  have hjoin := List.append_cancel_left (List.append_cancel_right h)
  exact Typeset.values_injective (Double.map_display_injective m.inUnit n.inUnit
    (join_injective (hitem m) (hitem n) hjoin))

lemma newline_notMem_display (m : Measure q) : '\n' ∉ m.display := by
  have hkind : '\n' ∉ q.kindName ++ "(" := by cases q <;> decide
  have hreal : '\n' ∉ realChars := by decide
  rw [display, List.mem_append, List.mem_append]
  rintro ((h | h) | h)
  · exact hkind h
  · rcases mem_join h with h | ⟨t, ht, h⟩
    · revert h
      decide
    · exact hreal ((mem_display_of_mem_values ht).2 _ h)
  · revert h
    decide

end Measure

namespace Stamp

lemma display?_fixed {i : Int} {t : Text} (h : (fixed i).display? = some t) : "Stamp.fixed(" ++ ofInt i ++ ")" = t := by
  obtain ⟨digits, hdigits, rfl⟩ := Option.map_eq_some_iff.1 h
  obtain ⟨-, rfl⟩ := Written.ofInt?_eq_some_iff.1 hdigits
  rfl

lemma display_injective {a b : Stamp} {t : Text} (ha : a.display? = some t) (hb : b.display? = some t) : a = b := by
  have hinj : ∀ t u : Tense, t.display = u.display → t = u := by decide
  have heternal : ∀ t : Tense, t.display ≠ "ETERNAL" := by decide
  have hfixed : ∀ t : Tense, t.display.head? ≠ some 'S' := by decide
  cases a with
  | eternal =>
    cases ha
    cases b with
    | eternal => rfl
    | tense u => exact absurd (Option.some.inj hb) (heternal u)
    | fixed j => cases display?_fixed hb
  | tense t =>
    cases ha
    cases b with
    | eternal => exact absurd (Option.some.inj hb).symm (heternal t)
    | tense u => exact congrArg Stamp.tense (hinj t u (Option.some.inj hb).symm)
    | fixed j => exact absurd (congrArg List.head? (display?_fixed hb)).symm (hfixed t)
  | fixed i =>
    have hi := display?_fixed ha
    cases b with
    | eternal =>
      cases hb
      cases hi
    | tense u =>
      cases hb
      exact absurd (congrArg List.head? hi).symm (hfixed u)
    | fixed j =>
      have hj := List.append_cancel_left (List.append_cancel_right (hi.trans (display?_fixed hb).symm))
      exact congrArg Stamp.fixed (Typeset.ofInt_injective hj)

lemma mem_display {a : Stamp} {t : Text} {c : Char} (ht : a.display? = some t) (h : c ∈ t) : c ≠ ' ' ∧ c ≠ '\n' := by
  have heternal : ∀ c ∈ "ETERNAL".toList, c ≠ ' ' ∧ c ≠ '\n' := by decide
  have htense : ∀ t : Tense, ∀ c ∈ t.display, c ≠ ' ' ∧ c ≠ '\n' := by decide
  have hleft : ∀ c ∈ "Stamp.fixed(".toList, c ≠ ' ' ∧ c ≠ '\n' := by decide
  have hright : ∀ c ∈ ")".toList, c ≠ ' ' ∧ c ≠ '\n' := by decide
  have hnumeral : ∀ c ∈ '-' :: numeralChars, c ≠ ' ' ∧ c ≠ '\n' := by decide
  cases a with
  | eternal =>
    cases ht
    exact heternal c h
  | tense t =>
    cases ht
    exact htense t c h
  | fixed i =>
    rw [← display?_fixed ht] at h
    rcases List.mem_append.1 h with h | h
    · exact (List.mem_append.1 h).elim (hleft c) fun hi => hnumeral c (Written.mem_ofInt hi)
    · exact hright c h

end Stamp

namespace Mood

lemma displayTruth_injective {m n : Mood} (hp : m.punctuation = n.punctuation) (h : m.displayTruth = n.displayTruth) :
    m = n := by
  apply eq_of_punctuation hp
  intro t ht u hu
  rw [displayTruth, displayTruth, Option.mem_def.1 ht, Option.mem_def.1 hu] at h
  exact Measure.display_injective h

lemma newline_notMem_displayTruth (m : Mood) : '\n' ∉ m.displayTruth := by
  rw [displayTruth]
  cases m.truth? with
  | none => decide
  | some t => exact t.newline_notMem_display

end Mood

end NarseseDialects
