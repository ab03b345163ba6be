import NarseseDialects.Proofs.Composition
import NarseseDialects.Proofs.Reading.Recovery
import NarseseDialects.Proofs.Tailless

namespace NarseseDialects

namespace Text

lemma exists_append_of_append_eq {w x u y : Text} {z : Char} (h : w ++ x = u ++ y) (hu : u.getLast? = some z)
    (hz : z ∉ x) : ∃ v, w = u ++ v ∧ y = v ++ x := by
  rcases List.append_eq_append_iff.1 h with ⟨a, rfl, rfl⟩ | ⟨v, rfl, rfl⟩
  · cases a with
    | nil => exact ⟨[], by simp⟩
    | cons c a =>
      rw [List.getLast?_append_of_ne_nil w (List.cons_ne_nil c a)] at hu
      exact absurd (List.mem_append_left y (List.mem_of_getLast? hu)) hz
  · exact ⟨v, rfl, rfl⟩

end Text

namespace Lexical

lemma Node.exists_frame {d : Dialect} {fits : AtomRole → Text → Bool} {m : Node} (h : Node.Spelled d fits m) :
    m.subject.Spelled d fits ∧
      (m = .term m.subject ∨ ∃ f : Frame, f.Spelled d ∧ Node.shape m = Node.shape (f.node m.subject)) := by
  cases m with
  | term t => exact ⟨h, .inl rfl⟩
  | sentence s =>
    exact ⟨h.term, .inr ⟨⟨none, s.punctuation, s.stamp, s.truth⟩,
      ⟨by simp, h.punctuation, h.stamp, h.truth, h.length_le⟩, rfl⟩⟩
  | task k =>
    obtain ⟨hs, hns, hl⟩ := h
    exact ⟨hs.term, .inr ⟨⟨some k.budget, k.sentence.punctuation, k.sentence.stamp, k.sentence.truth⟩,
      ⟨by rintro _ ⟨⟩; exact ⟨hns, hl⟩, hs.punctuation, hs.stamp, hs.truth, hs.length_le⟩, rfl⟩⟩

end Lexical

namespace Reading

open Lexical

section

variable {d : Dialect} {q : Char → Bool} {fits : AtomRole → Text → Bool} {f : Frame} {t : Lexical.Term}

lemma nonblank_frame_write (hd : d.ClearTerms) (hn : d.ClearChars q fits) {q' : Char → Bool} (hi : d.ClearItems q')
    (ht : d.spacing.betweenTerms.all d.spacing.isSpace = true)
    (hb : d.spacing.betweenItems.all d.spacing.isSpace = true) (hf : f.Spelled d) (h : t.Spelled d fits) :
    nonblank d (Node.write d (f.node t)) = f.front d ++ (t.write (d.withGaps [] []) ++ f.back d) := by
  have hback := nonblank_back hi hf
  have hfront := nonblank_front hi hf
  have hs : nonblank d ((f.sentence t).write d) = t.write (d.withGaps [] []) ++ f.back d := by
    rw [← hback, nonblank_sentence hb, Frame.back]
    simp [Frame.sentence, nonblank_write hd hn ht h]
  rw [Frame.node]
  cases hbudget : f.budget with
  | none => rwa [Frame.front_eq_nil hbudget]
  | some ns =>
    rw [Frame.front_eq_writeNumerals hbudget] at hfront ⊢
    simp only [Node.write, Item.elim, Lexical.Task.write, nonblank_append, nonblank_eq_nil hb, hs, hfront,
      List.append_nil]

lemma readTail_of_notMem {region : Text} {j : Nat}
    (h : ∀ e ∈ d.punctuations.lexicon.entries, ∃ c ∈ e, c ∉ region) : readTail d Prod.mk region j = .ok none := by
  have hb : beforeTruth d region <+: region := by
    rw [beforeTruth]
    split
    next hb => exact (prefix_skipBack _).trans (prefix_of_bracketedBack? hb)
    · exact List.prefix_rfl
  have hp : skipBack d (stampBack d (beforeTruth d region)).before <+: region :=
    (prefix_skipBack _).trans ((prefix_stampBack _).trans hb)
  rw [readTail_eq_none_iff]
  refine Lexicon.back?_eq_none fun e he => ?_
  obtain ⟨c, hc, hr⟩ := h e he
  rw [Option.eq_none_iff_forall_ne_some]
  intro x hx
  exact hr (hp.subset (Text.before?_eq_some_iff.1 hx ▸ List.mem_append_right x hc))

lemma exists_append_of_readHead {z : Char} (hz : d.ClearFront z) {w x whole inner : Text} {p : Nat} {head : Head}
    (hx : z ∉ x) (h : readHead d Prod.mk (w ++ x) whole p = .ok (some (head, inner))) :
    ∃ y, y <:+ w ∧ inner = y ++ x := by
  obtain ⟨content, hw, -⟩ := exists_of_readHead h
  have hl : ((d.numerals .budget).brackets.left ++ content ++ (d.numerals .budget).brackets.right).getLast? =
      some z := by
    rw [List.getLast?_append, hz.last]
    rfl
  obtain ⟨y, hy, rfl⟩ := Text.exists_append_of_append_eq hw hl hx
  exact ⟨y, hy ▸ List.suffix_append _ y, rfl⟩

variable (hd : d.ClearTerms) (hc : d.ClearCuts) (hq : d.isIdentifier = Text.isNameChar) (ht : t.Spelled d anyName)

include hd hc hq ht

lemma recovered_of_readsWhole {k : Nat} {u : Lexical.Term} (h : t.EachAtom d (Unmistakable d) [])
    (hr : ReadsWhole d k (t.write (d.withGaps [] [])) u) :
    u.shape = t.shape ∧ t.EachAtom d (fun _ n e => StopsAt d n e) [] := by
  obtain ⟨rest, hr, hs⟩ := hr
  rw [← List.append_nil (t.write _)] at hr
  rcases recovered_of_readsTerm hd hc hq ht (.inl rfl) h after_self hr with ⟨-, hu, ha⟩ | ⟨a, b, hn, -, hb, rfl⟩
  · exact ⟨hu, ha⟩
  · obtain ⟨c, b, rfl⟩ := List.exists_cons_of_ne_nil hb
    have hi : d.isIdentifier c = true := List.all_eq_true.1 hn c (by simp)
    rw [List.cons_append, skip_of_isIdentifier hc hi] at hs
    cases hs

lemma exists_readsWhole_of_stands {k : Nat} (h : t.EachAtom d (Stands d) []) :
    t.write (d.withGaps [] []) ≠ [] ∧ ∃ u, u.shape = t.shape ∧ ReadsWhole d k (t.write (d.withGaps [] [])) u := by
  have hs : Settled d [] (fun x => x = []) t :=
    settled_of_stands hd hc hq ht (.inl rfl) h fun x hx => hx ▸ after_self
  obtain ⟨a, ho⟩ := opens_of_settled (h := []) hd hs rfl
  obtain ⟨u, hu, hr⟩ := exists_readsTerm_settled (j := k) (h := []) hd rfl hs (b := []) rfl rfl
  rw [List.append_nil] at ho hr
  exact ⟨ho.ne_nil, u, hu, [], hr, rfl⟩

end

end Reading

namespace DialectName

lemma isIdentifier_eq (n : DialectName) : n.dialect.isIdentifier = Text.isNameChar := by cases n <;> rfl

lemma clearChars (n : DialectName) : n.dialect.ClearChars Text.isNameChar Lexical.anyName where
  all h := h
  not_isSpace {c} h := by
    cases hs : n.dialect.spacing.isSpace c with
    | false => rfl
    | true =>
      have hi := n.clearCuts.blank c hs
      rw [n.isIdentifier_eq, h] at hi
      cases hi

lemma blank_between (n : DialectName) : n.dialect.spacing.betweenTerms.all n.dialect.spacing.isSpace = true ∧
    n.dialect.spacing.betweenItems.all n.dialect.spacing.isSpace = true := by
  cases n <;> decide

end DialectName

namespace Reading

open Lexical

variable (n : DialectName) {t : Lexical.Term} {j : Nat}

section

variable (ht : t.Spelled n.dialect anyName)

include ht

lemma readTail_write_anyName :
    readTail n.dialect Prod.mk (t.write (n.dialect.withGaps [] [])) j = .ok none := by
  cases n with
  | ascii => exact readTail_write Dialect.clearTerms_ascii (DialectName.clearChars .ascii) Dialect.clearItems_ascii ht
  | latex => exact readTail_write Dialect.clearTerms_latex (DialectName.clearChars .latex) Dialect.clearItems_latex ht
  | han =>
    rcases exists_ending (g := []) (h := []) ht with ⟨x, e, he, hw⟩ | ⟨r, m, hf, -, hw⟩
    · rw [show t.write (DialectName.han.dialect.withGaps [] []) = _ from hw]
      exact readTail_of_ending Dialect.clearTerms_han Dialect.clearItems_han he x
    · have hp : ∀ e ∈ Dialect.han.punctuations.lexicon.entries,
          e.any (fun c => !Text.isNameChar c && Dialect.han.sigils.lexicon.entries.all (!·.contains c)) = true := by
        decide +kernel
      refine readTail_of_notMem fun e he => ?_
      obtain ⟨c, hc, h⟩ := List.any_eq_true.1 (hp e he)
      simp only [Bool.and_eq_true, Bool.not_eq_true', List.all_eq_true, List.contains_eq_mem,
        decide_eq_false_iff_not] at h
      refine ⟨c, hc, fun hmem => ?_⟩
      rw [show t.write (DialectName.han.dialect.withGaps [] []) = _ from hw, List.mem_append] at hmem
      rcases hmem with hmem | hmem
      · exact h.2 _ (Vocabulary.literal_mem _ r) hmem
      · have := List.all_eq_true.1 hf c hmem
        rw [h.1] at this
        cases this

lemma readHead_write_anyName (hn : n ≠ .han) {y : Text}
    (hy : ∀ z, n.dialect.spacing.isSpace z = false → (∀ e ∈ n.dialect.marks, z ∉ e) → z ∉ y) (whole : Text) (p : Nat) :
    readHead n.dialect Prod.mk (t.write (n.dialect.withGaps [] []) ++ y) whole p = .ok none := by
  have hword : ∀ {l : Text}, l.head?.any (!Text.isNameChar ·) = true → ∀ {c m},
      anyName (.name .word) (c :: m) = true → l.head? ≠ some c := by
    intro l hl c m hm hc
    have := List.all_eq_true.1 hm c List.mem_cons_self
    simp [hc, this] at hl
  cases n with
  | ascii =>
    exact readHead_of_spelled Dialect.clearItems_ascii Dialect.clearTerms_ascii (DialectName.clearChars .ascii)
      (hword (by decide +kernel)) ht hy whole p
  | latex =>
    exact readHead_of_spelled Dialect.clearItems_latex Dialect.clearTerms_latex (DialectName.clearChars .latex)
      (hword (by decide +kernel)) ht hy whole p
  | han => exact absurd rfl hn

lemma nonblank_write_anyName : nonblank n.dialect (t.write n.dialect) = t.write (n.dialect.withGaps [] []) :=
  nonblank_write n.clearTerms n.clearChars n.blank_between.1 ht

lemma not_isSpace_of_mem_write : ∀ c ∈ t.write (n.dialect.withGaps [] []), n.dialect.spacing.isSpace c = false := by
  rw [← nonblank_write_anyName n ht]
  exact fun c => not_isSpace_of_mem_nonblank

lemma exists_readsWhole_of_readsRegion_write {p : Parse} (h : ReadsRegion n.dialect
      (t.write (n.dialect.withGaps [] [])) (t.write (n.dialect.withGaps [] [])) 0 p) :
    ∃ k u, p = .term u ∧ ReadsWhole n.dialect k (t.write (n.dialect.withGaps [] [])) u := by
  obtain ⟨z, hz⟩ := n.exists_clearFront
  have htail := fun j => readTail_write_anyName n ht (j := j)
  cases h with
  | term _ _ hw => exact ⟨_, _, rfl, hw⟩
  | sentence _ hc =>
    cases hc with
    | intro hr => cases hr.symm.trans (htail _)
  | task hh hc =>
    cases hc with
    | intro hr => cases hr.symm.trans (readTail_of_readHead hz hh (htail _))

lemma exists_word_of_readHead {y : Text}
    (hy : ∀ z, n.dialect.spacing.isSpace z = false → (∀ e ∈ n.dialect.marks, z ∉ e) → z ∉ y)
    (h : readHead n.dialect Prod.mk (t.write (n.dialect.withGaps [] []) ++ y)
      (t.write (n.dialect.withGaps [] []) ++ y) 0 ≠ .ok none) :
    n = .han ∧ ∃ w s, t = .atom (n.dialect.sigils.literal (.name .word)) w s := by
  have hn : n = .han := by
    by_contra hn
    exact h (readHead_write_anyName n ht hn hy _ 0)
  obtain ⟨q, hi⟩ := n.exists_clearItems
  refine ⟨hn, ?_⟩
  rcases opening?_budget_of_spelled (g := []) (h := []) hi n.clearTerms ht with ho | ⟨r, w, s, htw, -, hr⟩
  · refine absurd (readHead_of_budgetCut?_eq_none ?_) h
    rw [budgetCut?, ho]
    rfl
  · subst hn
    have hsigil : ∀ r, Dialect.han.sigils.literal r ≠ (Dialect.han.numerals .budget).brackets.left := by decide
    obtain ⟨rfl, -⟩ := hr.resolve_right (hsigil r)
    exact ⟨w, s, htw⟩

lemma exists_readsWhole_of_readsRegion_frame {f : Frame} (hf : f.Spelled n.dialect) {p : Parse}
    (h : ReadsRegion n.dialect
      (f.front n.dialect ++ (t.write (n.dialect.withGaps [] []) ++ f.back n.dialect))
      (f.front n.dialect ++ (t.write (n.dialect.withGaps [] []) ++ f.back n.dialect)) 0 p) :
    (∃ k u, ReadsWhole n.dialect k (t.write (n.dialect.withGaps [] [])) u ∧
        Node.shape (node p) = Node.shape (f.node u)) ∨
      n = .han ∧ f.budget = none ∧ ∃ ns rest s k u,
        t = .atom (n.dialect.sigils.literal (.name .word))
          (writeNumerals (n.dialect.numerals .budget) ns ++ rest) s ∧
        ReadsWhole n.dialect k rest u ∧ Node.shape (node p) = Node.shape (.task ⟨ns, f.sentence u, none⟩) := by
  obtain ⟨q, hi⟩ := n.exists_clearItems
  obtain ⟨z, hz⟩ := n.exists_clearFront
  have hwb := not_isSpace_of_mem_write n ht
  have hback := fun z hz hm => notMem_back (z := z) hf hz hm
  by_cases hh : f.budget = none → readHead n.dialect Prod.mk
      (t.write (n.dialect.withGaps [] []) ++ f.back n.dialect)
      (t.write (n.dialect.withGaps [] []) ++ f.back n.dialect) 0 = .ok none
  · exact .inl (exists_readsWhole_of_readsRegion hi hf hwb hh h)
  obtain ⟨hb, hh⟩ := Classical.not_imp.1 hh
  obtain ⟨hn, w, s, rfl⟩ := exists_word_of_readHead n ht hback hh
  rw [Frame.front_eq_nil hb, List.nil_append] at h
  rw [Lexical.Term.write, Dialect.word_sigil, List.nil_append] at h hh hwb
  refine .inr ⟨hn, hb, ?_⟩
  cases h with
  | @term head _ hh' htail =>
    cases head with
    | none => exact absurd hh' hh
    | some head =>
      -- Behind what is taken for a budget the tail still stands.
      obtain ⟨y, hy, hinner⟩ := exists_append_of_readHead hz (hback z hz.blank hz.mark) hh'
      obtain ⟨tail, hr, -⟩ := exists_readTail_back hi hf (fun c hc => hwb c (hy.subset hc))
        (j := 0 + (w ++ f.back n.dialect).length)
      rw [Option.map_some, Option.getD_some, hinner] at htail
      cases hr.symm.trans htail
  | sentence hh' => exact absurd hh' hh
  | @task head inner c hh' hc =>
    obtain ⟨y, hy, rfl⟩ := exists_append_of_readHead hz (hback z hz.blank hz.mark) hh'
    obtain rfl : w = writeNumerals (n.dialect.numerals .budget) head.budget ++ y := by
      have hw := eq_append_of_readHead hh'
      rwa [← List.append_assoc, List.append_cancel_right_eq] at hw
    obtain ⟨k, u, hu, hs⟩ := exists_of_readsClause_back hi hf (fun c hc => hwb c (hy.subset hc)) hc
    exact ⟨head.budget, y, s, k, u, rfl, hu, by simp only [node, Item.map, Node.shape, Lexical.Task.shape, hs]⟩

end

variable {m : Node} (hm : Node.Spelled n.dialect anyName m)

include hm

lemma exists_nonblank_write :
    m.subject.Spelled n.dialect anyName ∧
      (m = .term m.subject ∧
          nonblank n.dialect (Node.write n.dialect m) = m.subject.write (n.dialect.withGaps [] []) ∨
        ∃ f : Frame, f.Spelled n.dialect ∧ Node.shape m = Node.shape (f.node m.subject) ∧
          (f.budget = none → m.kind = .sentence) ∧
          nonblank n.dialect (Node.write n.dialect m) =
            f.front n.dialect ++ (m.subject.write (n.dialect.withGaps [] []) ++ f.back n.dialect)) := by
  obtain ⟨q, hi⟩ := n.exists_clearItems
  obtain ⟨ht, hm⟩ := Node.exists_frame hm
  refine ⟨ht, ?_⟩
  rcases hm with hm | ⟨f, hf, hm⟩
  · have hw := congrArg (fun m => nonblank n.dialect (Node.write n.dialect m)) hm
    exact .inl ⟨hm, hw.trans (nonblank_write_anyName n ht)⟩
  · refine .inr ⟨f, hf, hm, fun hb => ?_, ?_⟩
    · rw [Node.kind_of_shape hm, Frame.node, hb]
      rfl
    · rw [Node.write_congr _ hm]
      exact nonblank_frame_write n.clearTerms n.clearChars hi n.blank_between.1 n.blank_between.2 hf ht

/-- What is read of the text of a node is the node, with every name read to its end. Only a sentence about a
word that begins with a budget may be read otherwise, as the task that has this budget and is about what the rest
of the word is read as. -/
lemma recovered_of_readLexical (h : m.subject.EachAtom n.dialect (Unmistakable n.dialect) []) {m' : Node}
    (hr : readLexical n.dialect (Node.write n.dialect m) = .ok m') :
    Node.same m' m = true ∧ m.subject.EachAtom n.dialect (fun _ x e => StopsAt n.dialect x e) [] ∨
      n = .han ∧ ∃ a ns rest s k u, m = .sentence a ∧
        a.term = .atom (n.dialect.sigils.literal (.name .word))
          (writeNumerals (n.dialect.numerals .budget) ns ++ rest) s ∧
        ReadsWhole n.dialect k rest u ∧ Node.same m' (.task ⟨ns, { a with term := u }, none⟩) = true := by
  obtain ⟨-, p, hp, rfl⟩ := exists_readsRegion_of_readLexical hr
  simp only [Node.same_iff_shape, Node.shape_relocate]
  obtain ⟨ht, ⟨hm, hw⟩ | ⟨f, hf, hm, hkind, hw⟩⟩ := exists_nonblank_write n hm
  · rw [hw] at hp
    obtain ⟨k, u, rfl, hu⟩ := exists_readsWhole_of_readsRegion_write n ht hp
    obtain ⟨hu, ha⟩ := recovered_of_readsWhole n.clearTerms n.clearCuts n.isIdentifier_eq ht h hu
    rw [hm]
    exact .inl ⟨congrArg Item.term hu, ha⟩
  · rw [hw] at hp
    rcases exists_readsWhole_of_readsRegion_frame n ht hf hp with
      ⟨k, u, hu, hs⟩ | ⟨hn, hb, ns, rest, s, k, u, hatom, hu, hs⟩
    · obtain ⟨hu, ha⟩ := recovered_of_readsWhole n.clearTerms n.clearCuts n.isIdentifier_eq ht h hu
      exact .inl ⟨by rw [hs, f.shape_node hu, hm], ha⟩
    · right
      cases m with
      | sentence a =>
        refine ⟨hn, a, ns, rest, s, k, u, rfl, hatom, hu, ?_⟩
        rw [Frame.node, hb] at hm
        simp only [Node.shape, Item.map, Lexical.Sentence.shape, Frame.sentence, Item.sentence.injEq,
          Lexical.Sentence.mk.injEq] at hm
        rw [hs]
        simp only [Node.shape, Item.map, Lexical.Task.shape, Lexical.Sentence.shape, Frame.sentence, hm]
      | _ => cases hkind hb

lemma exists_readLexical_of_stands (h : m.subject.EachAtom n.dialect (Stands n.dialect) [])
    (hh : m.kind ≠ .task → ∃ head, readHead n.dialect Prod.mk (nonblank n.dialect (Node.write n.dialect m))
      (nonblank n.dialect (Node.write n.dialect m)) 0 = .ok head ∧ (m.kind = .sentence → head = none)) :
    ∃ m', readLexical n.dialect (Node.write n.dialect m) = .ok m' ∧ Node.same m' m = true := by
  obtain ⟨q, hi⟩ := n.exists_clearItems
  obtain ⟨z, hz⟩ := n.exists_clearFront
  have hstands := fun k ht => exists_readsWhole_of_stands n.clearTerms n.clearCuts n.isIdentifier_eq ht h (k := k)
  suffices hs : ∃ p, nonblank n.dialect (Node.write n.dialect m) ≠ [] ∧
      ReadsRegion n.dialect (nonblank n.dialect (Node.write n.dialect m))
        (nonblank n.dialect (Node.write n.dialect m)) 0 p ∧ Node.shape (node p) = Node.shape m by
    obtain ⟨p, hne, hp, hs⟩ := hs
    refine ⟨_, readLexical_of_readsRegion hne hp, ?_⟩
    rw [Node.same_iff_shape, Node.shape_relocate, hs]
  obtain ⟨ht, ⟨hm, hw⟩ | ⟨f, hf, hm, hkind, hw⟩⟩ := exists_nonblank_write n hm
  · obtain ⟨head, hh, -⟩ := hh (by rw [hm]; simp [Item.kind])
    rw [hw] at hh ⊢
    obtain ⟨hne, u, hu, hr⟩ := hstands (0 + (m.subject.write (n.dialect.withGaps [] [])).length) ht
    refine ⟨.term u, hne, .term hh ?_ hr, ?_⟩
    · cases head with
      | none => exact readTail_write_anyName n ht
      | some head => exact readTail_of_readHead hz hh (readTail_write_anyName n ht)
    · rw [hm]
      exact congrArg Item.term hu
  · rw [hw] at hh ⊢
    obtain ⟨hne, u, hu, hr⟩ := hstands 0 ht
    have hhead : f.budget = none → readHead n.dialect Prod.mk
        (m.subject.write (n.dialect.withGaps [] []) ++ f.back n.dialect)
        (m.subject.write (n.dialect.withGaps [] []) ++ f.back n.dialect) 0 = .ok none := by
      intro hb
      obtain ⟨head, hh, hnone⟩ := hh (by simp [hkind hb])
      rwa [Frame.front_eq_nil hb, List.nil_append, hnone (hkind hb)] at hh
    obtain ⟨p, hp, hs⟩ := exists_readsRegion_of_readsWhole hi hf (not_isSpace_of_mem_write n ht) hhead hne hr
    exact ⟨p, by simp [hne], hp, by rw [hs, f.shape_node hu, hm]⟩

end Reading

end NarseseDialects
