import NarseseDialects.Proofs.Reading.WrittenItems

namespace NarseseDialects.Reading

open Lexical

variable {d : Dialect} {j : Nat} {q : Char → Bool} {fits : AtomRole → Text → Bool} {g h : Text}

lemma sentence_write {s : Lexical.Sentence} (hp : s.punctuation ≠ []) :
    s.write (d.withGaps g h) = s.term.write (d.withGaps g h) ++ s.punctuation ++ lead h s.stamp ++
      lead h (writeTruth d s.truth) := by
  have hne : (s.term.write (d.withGaps g h) ++ s.punctuation).isEmpty = false := by simp [hp]
  have ht : writeTruth (d.withGaps g h) s.truth = writeTruth d s.truth := by cases s.truth <;> rfl
  rw [Lexical.Sentence.write, writeItems, ht, lead, lead]
  have hg : (d.withGaps g h).spacing.betweenItems = h := rfl
  rw [hg]
  cases hs : s.stamp.isEmpty <;> cases hw : (writeTruth d s.truth).isEmpty <;>
    simp [hne, hs, hw, Text.join_cons_cons]

lemma readsText_of_edges {cs : Text} {p : Parse} (hne : cs ≠ [])
    (hf : cs.head?.all (!d.spacing.isSpace ·) = true) (hl : cs.getLast?.all (!d.spacing.isSpace ·) = true)
    (hr : ReadsRegion d cs cs 0 p) : ReadsText d cs p := by
  rw [ReadsText, skip_of_head hf, skipBack_of_last hl, Nat.sub_self]
  exact ⟨hne, hr⟩

lemma head_append {w : Text} (hw : w.head?.all (!d.spacing.isSpace ·) = true) (hne : w ≠ []) (x : Text) :
    (w ++ x).head?.all (!d.spacing.isSpace ·) = true := by
  rwa [List.head?_append_of_ne_nil w hne]

lemma notMem_tail {z : Char} (hz : d.spacing.isSpace z = false) (hm : ∀ e ∈ d.marks, z ∉ e)
    (hh : h.all d.spacing.isSpace = true) {s : Text} (hs : SpelledStamp d s) {ns : List Text}
    (hns : ∀ n ∈ ns, SpelledNumeral n) (p : Punctuation) :
    z ∉ d.punctuations.literal p ++ lead h s ++ lead h (writeTruth d ns) := by
  have hzh : z ∉ h := by
    intro hmem
    rw [List.all_eq_true.1 hh z hmem] at hz
    cases hz
  have hlead : ∀ x : Text, z ∉ x → z ∉ lead h x := by
    intro x hx
    rw [lead]
    split
    · simp
    · simp [hzh, hx]
  have hzs : z ∉ s := fun hmem => by
    obtain ⟨e, he, hze⟩ := exists_mark_of_stamp hs hmem
    exact hm e he hze
  have hzt : z ∉ writeTruth d ns := fun hmem => by
    obtain ⟨e, he, hze⟩ := exists_mark_of_truth hns hmem
    exact hm e he hze
  simp only [List.mem_append, not_or]
  exact ⟨⟨hm _ (by simp [Dialect.marks, Vocabulary.literal_mem]), hlead s hzs⟩, hlead _ hzt⟩

section

variable (hi : d.ClearItems q)

include hi

lemma readHead_writeNumerals {ns : List Text} (hns : ∀ n ∈ ns, SpelledNumeral n)
    (hl : ns.length ≤ Quantity.budget.limit) (rest whole : Text) (p : Nat) :
    readHead d Prod.mk (writeNumerals (d.numerals .budget) ns ++ rest) whole p =
      .ok (some (⟨ns, p⟩, rest)) := by
  have hb := hi.budget
  have hcut : (opening? (d.numerals .budget).brackets.left
      (writeNumerals (d.numerals .budget) ns ++ rest)).bind
      (Text.firstCut? (d.numerals .budget).brackets.right) =
        some (Text.join (d.numerals .budget).separator ns, rest) := by
    rw [writeNumerals, List.append_assoc, List.append_assoc, opening?_append hi.budget_left,
      Option.bind_some]
    cases hr : (d.numerals .budget).brackets.right with
    | nil => simp [hr, Text.encloses] at hb
    | cons z e =>
      simp only [hr, Text.encloses, Bool.and_eq_true, Bool.not_eq_true', List.contains_eq_mem,
        decide_eq_false_iff_not] at hb
      obtain ⟨⟨-, hsep⟩, hnum⟩ := hb
      exact Text.firstCut?_append (fun hz => (mem_of_mem_join hns hz).elim hsep hnum) rest
  have hall := allBudget_join hi.budget_separator hi.isBudgetContent hns
  simp only [readHead, hcut, hall, judgeNumerals_join hi.budget_separator hns hl]
  rfl

lemma readHead_of_atom {w y : Text}
    (hw : opening? (d.numerals .budget).brackets.left (w ++ y) = none ∨
      ∃ (a : Dialect.Opener) (n : Text), a.literal d = (d.numerals .budget).brackets.left ∧
        w = (d.numerals .budget).brackets.left ++ n ∧ n.all q = true)
    (hy : ∀ z, d.spacing.isSpace z = false → (∀ e ∈ d.marks, z ∉ e) → z ∉ y) (whole : Text) (p : Nat) :
    readHead d Prod.mk (w ++ y) whole p = .ok none := by
  apply readHead_of_budgetCut?_eq_none
  rw [budgetCut?]
  rcases hw with ho | ⟨a, n, ha, rfl, hq⟩
  · rw [ho, Option.bind_none]
  · obtain ⟨z, hz, hz'⟩ := List.any_eq_true.1 (hi.opener_budget a ha).2
    simp only [Bool.and_eq_true, Bool.not_eq_true', List.all_eq_true, List.contains_eq_mem,
      decide_eq_false_iff_not] at hz'
    obtain ⟨⟨hzq, hzs⟩, hzm⟩ := hz'
    rw [List.append_assoc, opening?_append hi.budget_left, Option.bind_some]
    apply Text.firstCut?_eq_none_of_notMem hz
    intro hmem
    rcases List.mem_append.1 hmem with hmem | hmem
    · rw [List.all_eq_true.1 hq z hmem] at hzq
      cases hzq
    · exact hy z hzs hzm hmem

lemma bracket_ne_budget {a : Dialect.Opener} (ha : ∀ r, a ≠ .sigil r) :
    a.literal d ≠ (d.numerals .budget).brackets.left := by
  intro he
  obtain ⟨r, -, hr⟩ := List.mem_map.1 (hi.opener_budget a he).1
  exact ha r hr.symm

variable (hd : d.ClearTerms)

include hd

lemma opening?_budget_of_spelled {t : Lexical.Term} (ht : t.Spelled d fits) :
    (∀ y, opening? (d.numerals .budget).brackets.left (t.write (d.withGaps g h) ++ y) = none) ∨
      ∃ r n p, t = .atom (d.sigils.literal r) n p ∧ fits r n = true ∧
        (r = .name .word ∧ n ≠ [] ∨ d.sigils.literal r = (d.numerals .budget).brackets.left) := by
  have hb : ∀ (a : Dialect.Opener) (r : Text), (∀ role, a ≠ .sigil role) →
      opening? (d.numerals .budget).brackets.left (a.literal d ++ r) = none := by
    intro a r ha
    have hapart := ((hd.opener_budget a).resolve_left ((hd.opener a).resolve_left (ha _)).1).resolve_left
      (bracket_ne_budget hi ha)
    exact opening?_eq_none (Text.after?_of_apart hapart r)
  cases t with
  | atom p n s =>
    obtain ⟨r, rfl, hf, hne⟩ := ht
    rw [Lexical.Term.write]
    rcases hd.opener_budget (.sigil r) with hl | hl | hl
    · obtain rfl : r = .name .word := d.sigils.literal_injective (hl.trans d.word_sigil.symm)
      exact .inr ⟨_, n, s, rfl, hf, .inl ⟨rfl, fun hnil => by cases hne hnil⟩⟩
    · exact .inr ⟨r, n, s, rfl, hf, .inr hl⟩
    · refine .inl fun y => ?_
      rw [List.append_assoc]
      exact opening?_eq_none (Text.after?_of_apart hl _)
  | compound c ts _ =>
    simp only [Lexical.Term.write, List.append_assoc]
    exact .inl fun y => (hb .compound _ (by simp))
  | set l ts r _ =>
    obtain ⟨⟨s, rfl, rfl⟩, -⟩ := ht
    simp only [Lexical.Term.write, List.append_assoc]
    exact .inl fun y => (hb (.set s) _ (by simp))
  | statement c t u _ =>
    simp only [Lexical.Term.write, List.append_assoc]
    exact .inl fun y => (hb .statement _ (by simp))

lemma readHead_of_spelled (hn : d.ClearChars q fits)
    (hw : ∀ {c n}, fits (.name .word) (c :: n) = true → (d.numerals .budget).brackets.left.head? ≠ some c)
    {t : Lexical.Term} (ht : t.Spelled d fits) {y : Text}
    (hy : ∀ z, d.spacing.isSpace z = false → (∀ e ∈ d.marks, z ∉ e) → z ∉ y) (whole : Text) (p : Nat) :
    readHead d Prod.mk (t.write (d.withGaps g h) ++ y) whole p = .ok none := by
  refine readHead_of_atom hi ?_ hy whole p
  rcases opening?_budget_of_spelled (g := g) (h := h) hi hd ht with ho | ⟨r, n, s, rfl, hf, hr⟩
  · exact .inl (ho y)
  rw [Lexical.Term.write]
  rcases hr with ⟨rfl, hne⟩ | hl
  · obtain ⟨c, n, rfl⟩ := List.exists_cons_of_ne_nil hne
    rw [d.word_sigil]
    exact .inl (opening?_of_head (hw hf) _)
  · exact .inr ⟨.sigil r, n, hl, congrArg (· ++ n) hl, hn.all hf⟩

variable (hn : d.ClearNames q fits)

include hn

lemma readHead_write {t : Lexical.Term} (ht : t.Spelled d fits) {y : Text}
    (hy : ∀ z, d.spacing.isSpace z = false → (∀ e ∈ d.marks, z ∉ e) → z ∉ y) (whole : Text) (p : Nat) :
    readHead d Prod.mk (t.write (d.withGaps g h) ++ y) whole p = .ok none :=
  readHead_of_spelled hi hd hn.toClearChars (fun hf => (hn.word hf).2.2) ht hy whole p

variable (hg : g.all d.spacing.isSpace = true) (hh : h.all d.spacing.isSpace = true)

include hg

omit hi in
lemma exists_readsWhole_write {t : Lexical.Term} (ht : t.Spelled d fits) :
    ∃ u, u.shape = t.shape ∧ ReadsWhole d j (t.write (d.withGaps g h)) u := by
  obtain ⟨u, hu, hr⟩ := exists_readsTerm_write (j := j) (g := g) (h := h) hd hn hg ht (b := []) rfl
    (.inl rfl)
  rw [List.append_nil, List.nil_append] at hr
  exact ⟨u, hu, [], hr, rfl⟩

include hh

lemma exists_readsClause_write {s : Lexical.Sentence} (hs : s.Spelled d fits) {b : Text}
    (hb : b.all d.spacing.isSpace = true) :
    ∃ c, ReadsClause d (b ++ s.write (d.withGaps g h)) j c ∧ c.sentence.shape = s.shape := by
  obtain ⟨ht, ⟨p, hp⟩, hst, hns, hl⟩ := hs
  obtain ⟨tail, hr, hp', hst', htr'⟩ := exists_readTail_write (j := j) hi hh hst hns hl
    (b ++ s.term.write (d.withGaps g h)) p
  obtain ⟨a, ho⟩ := opens_write (h := h) hd hn hg ht (.inl rfl)
  rw [List.append_nil] at ho
  have hw : b ++ s.write (d.withGaps g h) = b ++ s.term.write (d.withGaps g h) ++ d.punctuations.literal p ++
      lead h s.stamp ++ lead h (writeTruth d s.truth) := by
    rw [sentence_write (by rw [hp]; exact (punctuation_ne_nil hi p).1), hp]
    simp only [List.append_assoc]
  have hk : skipBack d (b ++ s.term.write (d.withGaps g h)) = b ++ s.term.write (d.withGaps g h) := by
    apply skipBack_of_last
    have hlast := last_write (g := g) (h := h) hd hn.toClearChars ht
    rwa [List.getLast?_append_of_ne_nil b ho.ne_nil]
  have hsk := skip_append hb (head_of_opens ho)
  rw [hk] at hr
  obtain ⟨u, hu, hread⟩ := exists_readsWhole_write (h := h) hd hn hg ht
    (j := j - (b ++ s.write (d.withGaps g h)).length + (b ++ s.term.write (d.withGaps g h)).length)
  have hread' : ReadsWhole d (j - (b ++ s.write (d.withGaps g h)).length +
      (b ++ s.term.write (d.withGaps g h)).length) (skip d (b ++ s.term.write (d.withGaps g h))) u := by
    rw [hsk]
    exact hread
  rw [← hw] at hr
  refine ⟨_, .intro hr ?_ hread', ?_⟩
  · rw [hsk]
    exact ho.ne_nil
  · simp [Clause.sentence, Lexical.Sentence.shape, hu, hp, hp', hst', htr']

omit hd hn hg in
lemma last_sentence_write {s : Lexical.Sentence} (hs : s.Spelled d fits) (b : Text) :
    (b ++ s.write (d.withGaps g h)).getLast?.all (!d.spacing.isSpace ·) = true := by
  obtain ⟨-, ⟨p, hp⟩, hst, hns, -⟩ := hs
  rw [sentence_write (by rw [hp]; exact (punctuation_ne_nil hi p).1), hp, ← List.append_assoc,
    ← List.append_assoc, ← List.append_assoc]
  cases s.truth with
  | nil =>
    have hl : lead h (writeTruth d []) = [] := rfl
    rw [hl, List.append_nil]
    exact (stamped hi hh hst _ p).2.2
  | cons n ns =>
    have hne : (d.numerals .truth).brackets.right ≠ [] := by
      intro hnil
      have hq := hi.name_mark _ List.mem_cons_self
      rw [hnil] at hq
      cases hq
    have hb := hi.blank (d.numerals .truth).brackets.right (by simp [Dialect.marks])
    have hl : lead h (writeTruth d (n :: ns)) = h ++ writeNumerals (d.numerals .truth) (n :: ns) := by
      rw [lead, if_neg]
      · rfl
      · simp [writeTruth, writeNumerals, hne]
    rw [hl, writeNumerals, ← List.append_assoc, ← List.append_assoc]
    exact last_of_all hne hb _

omit hh in
lemma exists_readsText_term {t : Lexical.Term} (hs : t.Spelled d fits) :
    ∃ p, ReadsText d (t.write (d.withGaps g h)) p ∧ Node.shape (node p) = .term t.shape := by
  obtain ⟨a, ho⟩ := opens_write (h := h) hd hn hg hs (.inl rfl)
  have hh := readHead_write (g := g) (h := h) hi hd hn hs (y := []) (by simp) (t.write (d.withGaps g h)) 0
  rw [List.append_nil] at ho hh
  obtain ⟨u, hu, hr⟩ := exists_readsWhole_write (h := h) hd hn hg hs
    (j := 0 + (t.write (d.withGaps g h)).length)
  refine ⟨.term u, readsText_of_edges ho.ne_nil (head_of_opens ho) (last_write hd hn.toClearChars hs)
    (.term hh (readTail_write hd hn.toClearChars hi hs) hr), ?_⟩
  exact congrArg Item.term hu

lemma exists_readsText_sentence {s : Lexical.Sentence} (hs : s.Spelled d fits) :
    ∃ p, ReadsText d (s.write (d.withGaps g h)) p ∧ Node.shape (node p) = .sentence s.shape := by
  have hs' : s.Spelled d fits := hs
  obtain ⟨ht, ⟨p, hp⟩, hst, hns, -⟩ := hs
  have hw : s.write (d.withGaps g h) = s.term.write (d.withGaps g h) ++
      (d.punctuations.literal p ++ lead h s.stamp ++ lead h (writeTruth d s.truth)) := by
    rw [sentence_write (by rw [hp]; exact (punctuation_ne_nil hi p).1), hp]
    simp only [List.append_assoc]
  obtain ⟨a, ho⟩ := opens_write (h := h) hd hn hg ht (.inl rfl)
  rw [List.append_nil] at ho
  have hne := List.append_ne_nil_of_left_ne_nil ho.ne_nil
    (d.punctuations.literal p ++ lead h s.stamp ++ lead h (writeTruth d s.truth))
  have hhead := head_append (head_of_opens ho) ho.ne_nil
    (d.punctuations.literal p ++ lead h s.stamp ++ lead h (writeTruth d s.truth))
  have hno := readHead_write (g := g) (h := h) hi hd hn ht
    (fun z hz hm => notMem_tail hz hm hh hst hns p) (s.write (d.withGaps g h)) 0
  rw [← hw] at hne hhead hno
  have hl := last_sentence_write (g := g) hi hh hs' []
  obtain ⟨c, hc, hcs⟩ := exists_readsClause_write hi hd hn hg hh hs' (b := []) rfl
    (j := 0 + (s.write (d.withGaps g h)).length)
  rw [List.nil_append] at hc hl
  refine ⟨.sentence c, readsText_of_edges hne hhead hl
    (.sentence hno hc), ?_⟩
  exact congrArg Item.sentence hcs

lemma exists_readsText_task {k : Lexical.Task} (hs : k.Spelled d fits) :
    ∃ p, ReadsText d (k.write (d.withGaps g h)) p ∧ Node.shape (node p) = .task k.shape := by
  obtain ⟨hks, hns, hlen⟩ := hs
  have hw : k.write (d.withGaps g h) =
      writeNumerals (d.numerals .budget) k.budget ++ (h ++ k.sentence.write (d.withGaps g h)) := by
    rw [Lexical.Task.write, List.append_assoc]
    rfl
  have hhead := readHead_writeNumerals hi hns hlen (h ++ k.sentence.write (d.withGaps g h))
    (k.write (d.withGaps g h)) 0
  have hl := last_sentence_write (g := g) hi hh hks (writeNumerals (d.numerals .budget) k.budget ++ h)
  obtain ⟨z, e, he⟩ := List.exists_cons_of_ne_nil hi.budget_left
  have hz : d.spacing.isSpace z = false := by
    simpa using List.all_eq_true.1 (hi.budget_blank _ List.mem_cons_self) z (by simp [he])
  obtain ⟨c, hc, hcs⟩ := exists_readsClause_write hi hd hn hg hh hks hh
    (j := 0 + (k.write (d.withGaps g h)).length)
  rw [List.append_assoc, ← hw] at hl
  rw [← hw] at hhead
  refine ⟨.task (⟨k.budget, 0⟩, c), readsText_of_edges ?_ ?_ hl (.task hhead hc), ?_⟩
  · rw [hw, writeNumerals, he]
    simp
  · rw [hw, writeNumerals, he]
    simp [hz]
  · simp only [node, Item.map, Node.shape, Task.shape, hcs]

lemma exists_readsText_write {n : Node} (hs : Node.Spelled d fits n) :
    ∃ p, ReadsText d (Node.write (d.withGaps g h) n) p ∧ Node.shape (node p) = Node.shape n := by
  cases n with
  | term t => exact exists_readsText_term hi hd hn hg hs
  | sentence s => exact exists_readsText_sentence hi hd hn hg hh hs
  | task k => exact exists_readsText_task hi hd hn hg hh hs

end

end NarseseDialects.Reading
