import NarseseDialects.Proofs.Reading.WrittenTexts

namespace NarseseDialects.Reading

open Lexical

variable {d : Dialect} {q : Char → Bool} {fits : AtomRole → Text → Bool}

lemma nonblank_of_all {e : Text} (h : e.all (!d.spacing.isSpace ·) = true) : nonblank d e = e :=
  List.filter_eq_self.2 (List.all_eq_true.1 h)

lemma nonblank_joint (hd : d.ClearTerms) {e : Text} (he : e ∈ d.joints) : nonblank d e = e :=
  nonblank_of_all (hd.joint e he).2

lemma nonblank_opener (hd : d.ClearTerms) (a : Dialect.Opener) : nonblank d (a.literal d) = a.literal d := by
  rcases hd.opener a with rfl | ⟨-, h⟩
  · rw [Dialect.Opener.literal, d.word_sigil]
    rfl
  · exact nonblank_of_all h

mutual

lemma nonblank_write (hd : d.ClearTerms) (hn : d.ClearChars q fits)
    (ht : d.spacing.betweenTerms.all d.spacing.isSpace = true) {t : Lexical.Term} (h : t.Spelled d fits) :
    nonblank d (t.write d) = t.write (d.withGaps [] []) := by
  cases t with
  | atom p n _ =>
    obtain ⟨r, rfl, hf, -⟩ := h
    rw [Term.write, Term.write, nonblank_append, nonblank_of_all (name_nonblank hn hf)]
    exact congrArg (· ++ n) (nonblank_opener hd (.sigil r))
  | compound c ts _ =>
    obtain ⟨⟨k, rfl⟩, -, hts⟩ := h
    have hl := nonblank_opener hd .compound
    have hc := nonblank_joint hd (e := d.connectors.literal k) (by simp [Dialect.joints, Vocabulary.literal_mem])
    have hs := nonblank_joint hd (e := d.separator) (by simp [Dialect.joints])
    have hr := nonblank_joint hd (e := d.compound.right) (by simp [Dialect.joints, Dialect.closers])
    rw [Dialect.Opener.literal] at hl
    simp only [Term.write, componentSeparator, nonblank_append, hl, hc, hs, hr, nonblank_eq_nil ht,
      nonblank_writeAll hd hn ht hts]
    rfl
  | set l ts r _ =>
    obtain ⟨⟨s, rfl, rfl⟩, -, hts⟩ := h
    have hl := nonblank_opener hd (.set s)
    have hr := nonblank_joint hd (e := (d.sets.pair s).right)
      (by simp [Dialect.joints, Dialect.closers, SetBrackets.rights, Role.mem_members])
    rw [Dialect.Opener.literal] at hl
    simp only [Term.write, nonblank_append, hl, hr, nonblank_writeAll hd hn ht hts]
  | statement c t u _ =>
    obtain ⟨⟨k, rfl⟩, h₁, h₂⟩ := h
    have hl := nonblank_opener hd .statement
    have hc := nonblank_joint hd (e := d.copulas.literal k) (by simp [Dialect.joints, Vocabulary.literal_mem])
    have hr := nonblank_joint hd (e := d.statement.right) (by simp [Dialect.joints, Dialect.closers])
    rw [Dialect.Opener.literal] at hl
    simp only [Term.write, nonblank_append, hl, hc, hr, nonblank_eq_nil ht, nonblank_write hd hn ht h₁,
      nonblank_write hd hn ht h₂]
    rfl

lemma nonblank_writeAll (hd : d.ClearTerms) (hn : d.ClearChars q fits)
    (ht : d.spacing.betweenTerms.all d.spacing.isSpace = true) {ts : List Lexical.Term}
    (h : Term.SpelledAll d fits ts) :
    nonblank d (Term.writeAll d ts) = Term.writeAll (d.withGaps [] []) ts := by
  cases ts with
  | nil => rfl
  | cons t ts =>
    rw [Term.writeAll, Term.writeAll, nonblank_append, nonblank_write hd hn ht h.1, nonblank_writeMore hd hn ht h.2]

lemma nonblank_writeMore (hd : d.ClearTerms) (hn : d.ClearChars q fits)
    (ht : d.spacing.betweenTerms.all d.spacing.isSpace = true) {ts : List Lexical.Term}
    (h : Term.SpelledAll d fits ts) :
    nonblank d (Term.writeMore d ts) = Term.writeMore (d.withGaps [] []) ts := by
  cases ts with
  | nil => rfl
  | cons t ts =>
    have hs := nonblank_joint hd (e := d.separator) (by simp [Dialect.joints])
    simp only [Term.writeMore, componentSeparator, nonblank_append, hs, nonblank_eq_nil ht, nonblank_write hd hn ht h.1,
      nonblank_writeMore hd hn ht h.2]
    rfl

end

section

variable (hd : d.ClearTerms) (hn : d.ClearChars q fits)
  (ht : d.spacing.betweenTerms.all d.spacing.isSpace = true)
  (hi : d.ClearItems q) (hb : d.spacing.betweenItems.all d.spacing.isSpace = true)

include hd hn ht hi hb

omit hd hn ht hi in
lemma nonblank_lead {x : Text} (hx : x.all (!d.spacing.isSpace ·) = true) :
    nonblank d (lead d.spacing.betweenItems x) = lead [] x := by
  rw [lead, lead]
  split
  · rfl
  · rw [nonblank_append, nonblank_eq_nil hb, nonblank_of_all hx]

omit hd hn ht hb in
lemma nonblank_budget {ns : List Text} (hns : ∀ n ∈ ns, SpelledNumeral n) :
    nonblank d (writeNumerals (d.numerals .budget) ns) = writeNumerals (d.numerals .budget) ns := by
  have hl := nonblank_of_all (hi.budget_blank (d.numerals .budget).brackets.left (by simp))
  have hr := nonblank_of_all (hi.budget_blank (d.numerals .budget).brackets.right (by simp))
  have hj : nonblank d (Text.join (d.numerals .budget).separator ns) =
      Text.join (d.numerals .budget).separator ns := by
    refine nonblank_of_all (List.all_eq_true.2 fun z hz => ?_)
    rcases mem_of_mem_join hns hz with hz | hz
    · exact List.all_eq_true.1 (hi.budget_blank (d.numerals .budget).separator (by simp)) z hz
    · exact List.all_eq_true.1 (hi.blank Text.numeralChars (by simp [Dialect.marks])) z hz
  simp only [writeNumerals, nonblank_append, hl, hr, hj]

lemma nonblank_sentence_write {s : Lexical.Sentence} (hs : s.Spelled d fits) :
    nonblank d (s.write d) = s.write (d.withGaps [] []) := by
  obtain ⟨hst, ⟨p, hp⟩, hss, hns, -⟩ := hs
  obtain ⟨hne, hpb⟩ := punctuation_ne_nil hi p
  rw [← hp] at hne hpb
  have hw := sentence_write (d := d) (g := d.spacing.betweenTerms) (h := d.spacing.betweenItems) hne
  have hstamp := nonblank_of_marks hi fun z => exists_mark_of_stamp hss
  have htruth := nonblank_of_marks hi fun z => exists_mark_of_truth hns
  rw [d.withGaps_self] at hw
  rw [hw, sentence_write hne]
  simp only [nonblank_append, nonblank_write hd hn ht hst, nonblank_of_all hpb, nonblank_lead hb hstamp,
    nonblank_lead hb htruth]

lemma nonblank_node_write {n : Node} (h : Node.Spelled d fits n) :
    nonblank d (Node.write d n) = Node.write (d.withGaps [] []) n := by
  cases n with
  | term t => exact nonblank_write hd hn ht h
  | sentence s => exact nonblank_sentence_write hd hn ht hi hb h
  | task k =>
    obtain ⟨hs, hns, -⟩ := h
    simp only [Node.write, Item.elim, Lexical.Task.write, nonblank_append, nonblank_budget hi hns,
      nonblank_eq_nil hb, nonblank_sentence_write hd hn ht hi hb hs]
    rfl

end

section

variable (hd : d.ClearTerms) (hn : d.ClearNames q fits) (ht : d.spacing.betweenTerms.all d.spacing.isSpace = true)
  (hi : d.ClearItems q) (hb : d.spacing.betweenItems.all d.spacing.isSpace = true)

include hd hn ht hi hb

lemma exists_readLexical_write {n : Node} (h : Node.Spelled d fits n) :
    ∃ m, readLexical d (Node.write d n) = .ok m ∧ Node.same m n := by
  have hc : ∃ g h', g.all d.spacing.isSpace = true ∧ h'.all d.spacing.isSpace = true ∧
      (Source.ofText d (Node.write d n)).chars = Node.write (d.withGaps g h') n := by
    cases hs : d.spacing.strip with
    | true => exact ⟨[], [], rfl, rfl, by rw [nonblank_ofText hs, nonblank_node_write hd hn.toClearChars ht hi hb h]⟩
    | false =>
      refine ⟨_, _, ht, hb, ?_⟩
      rw [d.withGaps_self, Source.ofText, hs]
      rfl
  obtain ⟨g, h', hg, hh, hchars⟩ := hc
  obtain ⟨p, hp, hshape⟩ := exists_readsText_write hi hd hn hg hh h
  rw [← hchars] at hp
  refine ⟨_, readLexical_of_readsText hp, ?_⟩
  rw [Node.same_iff_shape, Node.shape_relocate, hshape]

end

lemma blank_between (s : Spelling) : s.dialect.spacing.betweenTerms.all s.dialect.spacing.isSpace = true ∧
    s.dialect.spacing.betweenItems.all s.dialect.spacing.isSpace = true := by
  cases s <;> decide

/-- Writing a tree made of the literals of a dialect and reading the text gives the tree again. -/
theorem readLexical_write (s : Spelling) {n : Node} (h : Node.Spelled s.dialect s.fits n) :
    ∃ m, readLexical s.dialect (Node.write s.dialect n) = .ok m ∧ Node.same m n :=
  exists_readLexical_write s.clearTerms s.clearNames (blank_between s).1 s.clearItems (blank_between s).2 h

def instanceTask : Node :=
  .task ⟨["0.5", "1"], ⟨.statement "\x7b--" (.atom "" "a" none)
    (.set "\x7b" [.atom "$" "x" none, .atom "_" "" none] "\x7d" none) none, "?", ":!-5:", [".9"], none⟩, none⟩

lemma spelled_instanceTask : Node.Spelled Spelling.ascii.dialect Spelling.ascii.fits instanceTask := by
  have hn : ∀ n ∈ (["0.5", "1", ".9"] : List Text), SpelledNumeral n := by
    intro n hn
    simp only [List.mem_cons, List.not_mem_nil, or_false] at hn
    rcases hn with rfl | rfl | rfl
    · exact ⟨⟨5, -1⟩, by decide +kernel, by decide +kernel⟩
    · exact ⟨⟨1, 0⟩, by decide +kernel, by decide +kernel⟩
    · exact ⟨⟨9, -1⟩, by decide +kernel, by decide +kernel⟩
  have ht : Term.Spelled Spelling.ascii.dialect Spelling.ascii.fits (.statement "\x7b--" (.atom "" "a" none)
      (.set "\x7b" [.atom "$" "x" none, .atom "_" "" none] "\x7d" none) none) :=
    ⟨⟨.shorthand .instanceOf, rfl⟩, ⟨.name .word, rfl, by decide +kernel, by decide⟩,
      ⟨.extension, rfl, rfl⟩, by simp, ⟨.name .independent, rfl, by decide +kernel, by decide⟩,
      ⟨.placeholder, rfl, by decide +kernel, fun _ => rfl⟩, trivial⟩
  refine ⟨⟨ht, ⟨.question, rfl⟩, .inr (.inr ⟨['-', '5'], by decide, rfl⟩), ?_, by decide⟩, ?_, by decide⟩
  · exact fun n h => hn n (by simp_all)
  · exact fun n h => hn n (by simp_all; tauto)

theorem instanceTask_readLexical_write :
    Node.Spelled Spelling.ascii.dialect Spelling.ascii.fits instanceTask ∧
      ∃ m, readLexical .ascii (Node.write .ascii instanceTask) = .ok m ∧ Node.same m instanceTask :=
  ⟨spelled_instanceTask, readLexical_write .ascii spelled_instanceTask⟩

end NarseseDialects.Reading
