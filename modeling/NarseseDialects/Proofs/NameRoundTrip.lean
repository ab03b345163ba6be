import NarseseDialects.Proofs.Reading.WrittenNodes
import NarseseDialects.Proofs.Value.Origin

namespace NarseseDialects.Reading

open Lexical Meaning

variable {k : NameKind} {m : Text} {t : NarseseDialects.Term}

lemma whole_of_all (hm : m.all Text.isNameChar = true) : Whole .ascii m := by
  have hmark : ∀ e ∈ Dialect.ascii.terminating, e.any (!Text.isNameChar ·) = true := by decide
  have hspan : nameSpan .ascii (m ++ []) = (m, []) := by
    refine nameSpan_append_of_follows (fun c => Text.not_isNameChar_of_isBlank) (.inl rfl)
      (List.all_eq_true.1 hm) fun b _ hb e he => ?_
    rw [List.append_nil, Option.eq_none_iff_forall_ne_some]
    intro r hr
    obtain rfl := Text.after?_eq_some_iff.1 hr
    obtain ⟨c, hc, hn⟩ := List.any_eq_true.1 (hmark e he)
    have := List.all_eq_true.1 hm c (hb.subset (List.mem_append_left r hc))
    rw [this] at hn
    cases hn
  rwa [List.append_nil] at hspan

lemma plain_iff (hm : m.all Text.isNameChar = true) :
    Plain .ascii (Dialect.ascii.sigils.literal (.name k)) m ↔ ¬ (k = .word ∧ m.head? = some '_') := by
  have hsigil : ∀ k, Dialect.ascii.sigils.literal (.name k) = [] ↔ k = .word := by
    intro k
    cases k <;> decide
  have hlow : ∀ r, Dialect.ascii.sigils.literal r ≠ [] → Dialect.ascii.sigils.literal r = ['_'] ∨
      (Dialect.ascii.sigils.literal r).any (!Text.isNameChar ·) = true := by decide
  constructor
  · rintro hp ⟨hk, hh⟩
    obtain ⟨s, rfl⟩ : ∃ s, m = '_' :: s := List.head?_eq_some_iff.1 hh
    have hnone := hp ((hsigil k).2 hk) .placeholder (by decide)
    cases hnone
  · intro hn hk r hr
    rw [Option.eq_none_iff_forall_ne_some]
    intro y hy
    have hms := Text.after?_eq_some_iff.1 hy
    rcases hlow r hr with hu | hu
    · rw [hu] at hms
      exact hn ⟨(hsigil k).1 hk, by rw [hms]; rfl⟩
    · obtain ⟨c, hc, hcn⟩ := List.any_eq_true.1 hu
      have hmem : c ∈ m := hms ▸ List.mem_append_left y hc
      rw [List.all_eq_true.1 hm c hmem] at hcn
      cases hcn

lemma readValue_write_named (hne : m ≠ []) (hm : m.all Text.isNameChar = true)
    (hp : Plain .ascii (Dialect.ascii.sigils.literal (.name k)) m) :
    readValue .ascii ((NarseseDialects.Term.named k m).textIn .ascii) = .ok (.term (.named k m)) := by
  have ht : Node.Spelled .ascii anyName (.term (unfoldTerm .ascii (.named k m))) :=
    ⟨.name k, rfl, hm, fun h => absurd h hne⟩
  have hstands : Stands .ascii (Dialect.ascii.sigils.literal (.name k)) m [] :=
    ⟨hp, stopsAt_of_whole Dialect.clearCuts_ascii Dialect.clearTerms_ascii (whole_of_all hm) (.inl rfl)⟩
  have hhead : readHead .ascii Prod.mk (nonblank .ascii ((NarseseDialects.Term.named k m).textIn .ascii))
      (nonblank .ascii ((NarseseDialects.Term.named k m).textIn .ascii)) 0 = .ok none := by
    have hw : nonblank .ascii ((NarseseDialects.Term.named k m).textIn .ascii) =
        (unfoldTerm .ascii (.named k m)).write (Dialect.ascii.withGaps [] []) := nonblank_write_anyName .ascii ht
    have h := readHead_write_anyName .ascii ht (by decide) (y := []) (by simp)
    rw [List.append_nil] at h
    rw [hw]
    exact h _ 0
  obtain ⟨n, hn, hsame⟩ := exists_readLexical_of_stands .ascii ht hstands fun _ => ⟨none, hhead, fun _ => rfl⟩
  have hfold : fold .ascii (.term (unfoldTerm .ascii (.named k m))) = .ok (.term (.named k m)) :=
    fold_of_unfolded (s := .latex) (DialectName.tellsTenses .ascii).tellsStamps ⟨hne, hm⟩ rfl rfl
  exact (readValue_eq_ok_iff hn _).2 ((fold_congr hsame).2 hfold)

/-- A bare atom is read from its text on the plain keyboard, unless it is a word that begins with a low line. -/
theorem readValue_write_name (h : Construct.name k (.text m) = .ok t) :
    readValue .ascii (t.textIn .ascii) = .ok (.term t) ↔ ¬ (k = .word ∧ m.head? = some '_') := by
  obtain ⟨⟨hne, hm⟩, rfl⟩ := Term.named?_eq_ok_iff.1 (Outcome.mapError_eq_ok.1 h)
  rw [← plain_iff hm]
  constructor
  · intro hr
    have hnative : (NarseseDialects.Term.named k m).Native .ascii := native_of_readValue (n := .ascii) hr
    exact hnative.2
  · exact readValue_write_named hne hm

theorem hyphens_readValue_write_name :
    let word : NarseseDialects.Term := .named .word "_a--"
    let operator : NarseseDialects.Term := .named .operator "_a--"
    Construct.name .word (.text "_a--") = .ok word ∧ Construct.name .operator (.text "_a--") = .ok operator ∧
    readValue .ascii (word.textIn .ascii) ≠ .ok (.term word) ∧
    readValue .ascii (operator.textIn .ascii) = .ok (.term operator) :=
  ⟨rfl, rfl, fun h => (readValue_write_name (k := .word) (m := "_a--") rfl).1 h ⟨rfl, rfl⟩,
    (readValue_write_name (k := .operator) (m := "_a--") rfl).2 (by decide)⟩

/-- The text of the word `_` is that of the placeholder. -/
theorem low_line_not_read :
    ¬ ∀ (k : NameKind) (m : Text) (t : NarseseDialects.Term), Construct.name k (.text m) = .ok t →
      readValue .ascii (t.textIn .ascii) = .ok (.term t) := by
  intro h
  have hnative : (NarseseDialects.Term.named .word "_").Native .ascii :=
    native_of_readValue (n := .ascii) (h .word "_" _ rfl)
  exact (plain_iff (by decide)).1 hnative.2 ⟨rfl, rfl⟩

end NarseseDialects.Reading
