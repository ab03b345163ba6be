import NarseseDialects.Proofs.Composition
import NarseseDialects.Proofs.Reading.Spelled

namespace NarseseDialects

namespace Dialect

def stripped (d : Dialect) : Dialect :=
  { d with
    spacing := { d.spacing with strip := true }
    clash?_eq_none := by
      have h := d.clash?_eq_none
      unfold Parts.clash? at h ⊢
      split at h
      · cases h
      next hw =>
      split at h
      · cases h
      next ho =>
        rw [if_neg hw]
        simp only [Parts.operators, Parts.bracketLiterals] at ho ⊢
        rw [ho]
        rfl
    terminators_eq := d.terminators_eq }

lemma stripped_latexSpaced : latexSpaced.stripped = latex := rfl

end Dialect

namespace Reading

open Lexical

variable {d : Dialect} {stop : Nat} {q : Char → Bool}

lemma nameSpan_stripped (cs : Text) : nameSpan d.stripped cs = nameSpan d cs := by
  induction cs with
  | nil => rfl
  | cons c cs ih =>
    rw [nameSpan, nameSpan, ih]
    rfl

mutual

lemma readsTerm_stripped {cs rest : Text} {t : Lexical.Term} (h : ReadsTerm d stop cs t rest) :
    ReadsTerm d.stripped stop cs t rest := by
  cases h with
  | set hs ho hl hm => exact .set hs ho hl (readsMembers_stripped hm)
  | compound hs hc hf hp ho hm => exact .compound hs hc hf hp ho (readsMembers_stripped hm)
  | statement hs hc hl h₁ hf h₂ hr =>
    exact .statement hs hc hl (readsTerm_stripped h₁) hf (readsTerm_stripped h₂) hr
  | @atom _ sigil r hs hc hl hf hn =>
    rw [← nameSpan_stripped] at hn ⊢
    exact .atom hs hc hl hf hn

lemma readsMembers_stripped {right cs rest : Text} {ts : List Lexical.Term}
    (h : ReadsMembers d stop right cs ts rest) : ReadsMembers d.stripped stop right cs ts rest := by
  cases h with
  | last ht hs hr => exact .last (readsTerm_stripped ht) hs hr
  | more ht hs hm => exact .more (readsTerm_stripped ht) hs (readsMembers_stripped hm)

end

lemma allBudget_stripped (cs : Text) : allBudget d.stripped cs = allBudget d cs := by
  fun_induction allBudget d cs with
  | case1 => rw [allBudget]
  | case2 c rest r hs _ ih =>
    rw [allBudget]
    split
    next r' hs' =>
      cases hs.symm.trans hs'
      exact ih
    next hs' => cases hs.symm.trans hs'
  | case3 c rest hs ih =>
    rw [allBudget]
    split
    next r' hs' => cases hs.symm.trans hs'
    next => rw [ih]; rfl

lemma readHead_stripped (region whole : Text) (p : Nat) :
    readHead d.stripped Prod.mk region whole p = readHead d Prod.mk region whole p := by
  have hreach : atomReach d.stripped whole = atomReach d whole := by
    simp only [atomReach, nameSpan_stripped]
    rfl
  simp only [readHead, allBudget_stripped, hreach]
  rfl

lemma readsClause_stripped {inner : Text} {c : Clause} (h : ReadsClause d inner stop c) :
    ReadsClause d.stripped inner stop c := by
  cases h with
  | intro hr hne hw =>
    obtain ⟨rest, ht, hrest⟩ := hw
    exact .intro (d := d.stripped) hr hne ⟨rest, readsTerm_stripped ht, hrest⟩

lemma readsText_stripped {cs : Text} {p : Parse} (h : ReadsText d cs p) : ReadsText d.stripped cs p := by
  refine ⟨h.1, ?_⟩
  cases h.2 with
  | term hh ht hw =>
    obtain ⟨rest, hterm, hrest⟩ := hw
    exact .term ((readHead_stripped _ _ _).trans hh) ht ⟨rest, readsTerm_stripped hterm, hrest⟩
  | sentence hh hc => exact .sentence ((readHead_stripped _ _ _).trans hh) (readsClause_stripped hc)
  | task hh hc => exact .task ((readHead_stripped _ _ _).trans hh) (readsClause_stripped hc)

def SpellsTruth (d : Dialect) (truth : List Text) (x : Text) : Prop :=
  x = writeTruth d truth ∨ x = writeNumerals (d.numerals .truth) truth

lemma exists_truth_of_readTail {inner before : Text} {tail : Tail}
    (h : readTail d Prod.mk inner stop = .ok (some (tail, before))) :
    ∃ x, SpellsTruth d tail.truth x ∧
      nonblank d inner = nonblank d before ++ nonblank d (tail.punctuation ++ tail.stamp ++ x) := by
  obtain ⟨region, content, b, hr, hp, -, hs, hj, rfl⟩ := exists_of_readTail h
  have hregion := nonblank_of_back? hp
  rw [← hs] at hregion
  rcases hr with ⟨-, rfl, rfl⟩ | ⟨a, ha, rfl⟩
  · refine ⟨[], .inl ?_, ?_⟩
    · rw [(eq_nil_of_judgeNumerals hj).1 rfl]
      rfl
    · simp [hregion]
  · refine ⟨_, .inr rfl, ?_⟩
    rw [nonblank_skipBack] at hregion
    rw [eq_append_of_bracketedBack? ha, nonblank_append, hregion, writeNumerals, join_of_judgeNumerals hj]
    simp

lemma exists_truth_of_readsClause (ht : d.spacing.betweenTerms.all d.spacing.isSpace) {inner : Text} {c : Clause}
    (h : ReadsClause d inner stop c) :
    ∃ x, SpellsTruth d c.tail.truth x ∧ nonblank d inner =
      nonblank d (c.term.write d) ++ nonblank d (c.tail.punctuation ++ c.tail.stamp ++ x) := by
  cases h with
  | intro hr _ hw =>
    obtain ⟨x, hx, hinner⟩ := exists_truth_of_readTail hr
    refine ⟨x, hx, ?_⟩
    rw [hinner, ← nonblank_skip, nonblank_of_readsWhole ht hw]

section

variable {f : Frame} {x : Text} (hi : d.ClearItems q) (hf : f.Spelled d) (hx : SpellsTruth d f.truth x)

include hi hf hx

omit hi in
lemma exists_mark_of_back {z : Char} (hz : z ∈ f.punctuation ++ f.stamp ++ x) : ∃ e ∈ d.marks, z ∈ e := by
  obtain ⟨p, hp⟩ := hf.punctuation
  rw [List.mem_append, List.mem_append] at hz
  rcases hz with (hz | hz) | hz
  · exact ⟨f.punctuation, by simp [Dialect.marks, hp, Vocabulary.literal_mem], hz⟩
  · exact exists_mark_of_stamp hf.stamp hz
  · rcases hx with rfl | rfl
    · exact exists_mark_of_truth hf.truth hz
    · exact exists_mark_of_numerals hf.truth hz

lemma findsTail_of_spellsTruth {w : Text} (hw : ∀ c ∈ w, d.spacing.isSpace c = false) :
    FindsTail d f w (f.punctuation ++ f.stamp ++ x) := by
  intro j
  rcases hx with rfl | rfl
  · exact exists_readTail_back hi hf hw
  · obtain ⟨p, hp⟩ := hf.punctuation
    obtain ⟨tail, hr, hp', hs', ht'⟩ := exists_readTail_writeNumerals (j := j) hi (h := []) rfl hf.stamp hf.truth
      hf.length_le w p
    refine ⟨tail, ?_, hp'.trans hp.symm, hs', ht'⟩
    rw [skipBack_eq_self hw] at hr
    simpa [hp] using hr

variable (hd : d.ClearTerms) (hn : d.ClearNames q (identifiers d))
  (ht : d.spacing.betweenTerms.all d.spacing.isSpace)

include hd hn ht

lemma exists_readsText_of_frame {t : Lexical.Term} (hs : t.Spelled d (identifiers d)) {cs : Text}
    (hcs : nonblank d cs = f.front d ++ (nonblank d (t.write d) ++ nonblank d (f.punctuation ++ f.stamp ++ x))) :
    ∃ p, ReadsText d (nonblank d cs) p ∧ Node.shape (node p) = Node.shape (f.node t) := by
  have hy := nonblank_of_all (nonblank_of_marks hi fun z => exists_mark_of_back hf hx (z := z))
  have hwrite := nonblank_write hd hn.toClearChars ht hs
  have hw : ∀ c ∈ t.write (d.withGaps [] []), d.spacing.isSpace c = false := by
    rw [← hwrite]
    exact fun c => not_isSpace_of_mem_nonblank
  obtain ⟨a, hopens⟩ := opens_write (g := []) (h := []) hd hn rfl hs (.inl rfl)
  rw [List.append_nil] at hopens
  obtain ⟨u, hu, hwhole⟩ := exists_readsWhole_write (g := []) (h := []) (j := 0) hd hn rfl hs
  have hhead : f.budget = none → readHead d Prod.mk (t.write (d.withGaps [] []) ++ (f.punctuation ++ f.stamp ++ x))
      (t.write (d.withGaps [] []) ++ (f.punctuation ++ f.stamp ++ x)) 0 = .ok none := by
    intro _
    refine readHead_write hi hd hn hs (fun z _ hz hmem => ?_) _ 0
    obtain ⟨e, he, hze⟩ := exists_mark_of_back hf hx hmem
    exact hz e he hze
  obtain ⟨p, hp, hshape⟩ := exists_readsRegion_of_findsTail hi hf (findsTail_of_spellsTruth hi hf hx hw) hhead
    hopens.ne_nil hw hwhole
  rw [hwrite, hy] at hcs
  refine ⟨p, (readsText_iff (fun c => not_isSpace_of_mem_nonblank) p).2 ⟨?_, hcs ▸ hp⟩, ?_⟩
  · rw [hcs]
    simp [hopens.ne_nil]
  · rw [hshape, f.shape_node hu]

end

section

variable (hd : d.ClearTerms) (hn : d.ClearNames q (identifiers d)) (hi : d.ClearItems q)
  (ht : d.spacing.betweenTerms.all d.spacing.isSpace)

include hd hn hi ht

lemma exists_readsText_nonblank {cs : Text} {p : Parse} (h : ReadsText d cs p) :
    ∃ p', ReadsText d (nonblank d cs) p' ∧ Node.shape (node p') = Node.shape (node p) := by
  have hspelled := spelled_node h.2
  have hcs : nonblank d cs = nonblank d (skipBack d (skip d cs)) := by rw [nonblank_skipBack, nonblank_skip]
  cases h.2 with
  | @term _ t _ _ hw =>
    have hs : t.Spelled d (identifiers d) := hspelled
    rw [hcs, nonblank_of_readsWhole ht hw, nonblank_write hd hn.toClearChars ht hs]
    exact exists_readsText_write hi hd hn rfl rfl (n := .term t) hs
  | @sentence c _ hc =>
    have hs : c.sentence.Spelled d (identifiers d) := hspelled
    have hf : Frame.Spelled ⟨none, c.tail.punctuation, c.tail.stamp, c.tail.truth⟩ d :=
      ⟨fun _ h => (by cases h), hs.punctuation, hs.stamp, hs.truth, hs.length_le⟩
    obtain ⟨x, hx, hinner⟩ := exists_truth_of_readsClause ht hc
    exact exists_readsText_of_frame hi hf hx hd hn ht hs.term (hcs.trans hinner)
  | @task head inner c hh hc =>
    obtain ⟨hs, hbudget, hlen⟩ := hspelled
    have hf : Frame.Spelled ⟨some head.budget, c.tail.punctuation, c.tail.stamp, c.tail.truth⟩ d :=
      ⟨fun ns h => Option.some.inj h ▸ ⟨hbudget, hlen⟩, hs.punctuation, hs.stamp, hs.truth, hs.length_le⟩
    obtain ⟨x, hx, hinner⟩ := exists_truth_of_readsClause ht hc
    refine exists_readsText_of_frame hi hf hx hd hn ht hs.term ?_
    rw [hcs, eq_append_of_readHead hh, nonblank_append, hinner, nonblank_budget hi hbudget]
    rfl

lemma exists_readLexical_stripped (hs : d.spacing.strip = false) {text : Text} {n : Node}
    (h : readLexical d text = .ok n) : ∃ m, readLexical d.stripped text = .ok m ∧ Node.same m n = true := by
  obtain ⟨p, hp, rfl⟩ := exists_readsText_of_readLexical h
  have hchars : (Source.ofText d text).chars = text := by
    rw [Source.ofText, hs]
    rfl
  rw [hchars] at hp
  obtain ⟨p', hp', hshape⟩ := exists_readsText_nonblank hd hn hi ht hp
  have hstripped : (Source.ofText d.stripped text).chars = nonblank d text := nonblank_ofText rfl text
  refine ⟨_, readLexical_of_readsText (hstripped ▸ readsText_stripped hp'), ?_⟩
  rw [Node.same_iff_shape, Node.shape_relocate, Node.shape_relocate, hshape]

end

/-- Every text that is read with blanks that count is read alike without them. -/
theorem readLexical_stripped {text : Text} {n : Node} (h : readLexical .latexSpaced text = .ok n) :
    ∃ m, readLexical .latex text = .ok m ∧ Node.same m n = true := by
  rw [← Dialect.stripped_latexSpaced]
  exact exists_readLexical_stripped Dialect.clearTerms_latexSpaced (Spelling.clearNames_latex false fun h => h)
    Dialect.clearItems_latexSpaced (by decide) rfl h

def spacedJudgement : Text :=
  " \\left< a \\rightarrow\x7b\x7d b \\right> . t=5 \\langle\x7b\x7d\\rangle\x7b\x7d "

theorem spacedJudgement_readLexical_stripped :
    ∃ n m, readLexical .latexSpaced spacedJudgement = .ok n ∧ readLexical .latex spacedJudgement = .ok m ∧
      Node.same m n = true := by
  have hsome : (readLexical .latexSpaced spacedJudgement).toOption.isSome = true := by decide +kernel
  obtain ⟨n, h⟩ := Outcome.exists_of_toOption_isSome hsome
  obtain ⟨m, hm, hsame⟩ := readLexical_stripped h
  exact ⟨n, m, h, hm, hsame⟩

end Reading

end NarseseDialects
