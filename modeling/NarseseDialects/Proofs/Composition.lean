import NarseseDialects.Proofs.Conservation
import NarseseDialects.Proofs.LexicalRoundTrip
import NarseseDialects.Proofs.Reading.Placement

namespace NarseseDialects

namespace Lexical

/-- What stands around the term of a sentence, or of a task if there is a budget. -/
structure Frame where
  budget : Option (List Text)
  punctuation : Text
  stamp : Text
  truth : List Text

namespace Frame

variable (f : Frame) (d : Dialect)

def front : Text := (f.budget.map (writeNumerals (d.numerals .budget))).getD []

def back : Text := f.punctuation ++ f.stamp ++ writeTruth d f.truth

def sentence (t : Term) : Sentence := ⟨t, f.punctuation, f.stamp, f.truth, none⟩

def node (t : Term) : Node :=
  match f.budget with
  | none => .sentence (f.sentence t)
  | some ns => .task ⟨ns, f.sentence t, none⟩

variable {f d} in
lemma front_eq_nil (h : f.budget = none) : f.front d = [] := by
  rw [front, h]
  rfl

variable {f d} in
lemma front_eq_writeNumerals {ns : List Text} (h : f.budget = some ns) :
    f.front d = writeNumerals (d.numerals .budget) ns := by
  rw [front, h]
  rfl

lemma shape_node {t u : Term} (h : t.shape = u.shape) : Node.shape (f.node t) = Node.shape (f.node u) := by
  rw [node, node]
  cases f.budget <;> simp [Node.shape, Item.map, Task.shape, Sentence.shape, sentence, h]

structure Spelled : Prop where
  budget : ∀ ns, f.budget = some ns → (∀ n ∈ ns, SpelledNumeral n) ∧ ns.length ≤ Quantity.budget.limit
  punctuation : ∃ p, f.punctuation = d.punctuations.literal p
  stamp : SpelledStamp d f.stamp
  truth : ∀ n ∈ f.truth, SpelledNumeral n
  length_le : f.truth.length ≤ Quantity.truth.limit

end Frame

end Lexical

namespace Reading

open Lexical

variable {d : Dialect} {i j : Nat} {q : Char → Bool}

lemma opening?_budget_of_readsWhole (hd : d.ClearTerms) (hi : d.ClearItems q)
    (hq : ∀ c, d.isIdentifier c = true → q c = true)
    (hl : (d.numerals .budget).brackets.left.head?.any (!q ·) = true) {w : Text}
    (hw : ∀ c ∈ w, d.spacing.isSpace c = false) {t : Lexical.Term} (h : ReadsWhole d i w t) (y : Text) :
    opening? (d.numerals .budget).brackets.left (w ++ y) = none ∨
      ∃ (a : Dialect.Opener) (n : Text), a.literal d = (d.numerals .budget).brackets.left ∧
        w = (d.numerals .budget).brackets.left ++ n ∧ n.all q = true := by
  obtain ⟨rest, ht, hr⟩ := h
  have hopens := exists_opener ht
  rw [skip_eq_self hw] at hopens
  rcases hopens with ⟨a, r, ha, rfl⟩ | ⟨role, r, rfl, rfl, hne⟩
  · rw [List.append_assoc]
    rcases hd.opener_budget a with hb | hb | hb
    · exact absurd hb ((hd.opener a).resolve_left (ha _)).1
    · exact absurd hb (bracket_ne_budget hi ha)
    · exact .inl (opening?_eq_none (Text.after?_of_apart hb _))
  · -- Nothing follows the name of an atom that is the whole text.
    have hspan := nameSpan_append d r
    have hrest : (nameSpan d r).2 = [] := by
      rw [← hr, skip_eq_self]
      intro c hc
      exact hw c (List.mem_append_right _ (hspan ▸ List.mem_append_right _ hc))
    rw [hrest, List.append_nil] at hspan
    have hall : r.all q = true := List.all_eq_true.2 fun c hc =>
      hq c (isIdentifier_of_mem_nameSpan (hspan.symm ▸ hc))
    rcases hd.opener_budget (.sigil role) with hb | hb | hb
    · left
      rw [show d.sigils.literal role = [] from hb, List.nil_append]
      cases r with
      | nil =>
        rw [hne hspan] at hb
        exact absurd hb d.placeholder_sigil_ne_nil
      | cons c r =>
        apply opening?_of_head
        intro hc
        rw [List.all_cons, Bool.and_eq_true] at hall
        simp [hc, hall.1] at hl
    · exact .inr ⟨.sigil role, r, hb, congrArg (· ++ r) hb, hall⟩
    · left
      rw [List.append_assoc]
      exact opening?_eq_none (Text.after?_of_apart hb _)

lemma readHead_of_readsWhole (n : DialectName) {w y : Text} (hne : w ≠ [])
    (hw : ∀ c ∈ w, n.dialect.spacing.isSpace c = false) {t : Lexical.Term} (h : ReadsWhole n.dialect i w t)
    (hb : n = .han → ¬ (n.dialect.numerals .budget).brackets.left <+: w)
    (hy : ∀ z, n.dialect.spacing.isSpace z = false → (∀ e ∈ n.dialect.marks, z ∉ e) → z ∉ y)
    (whole : Text) (p : Nat) : readHead n.dialect Prod.mk (w ++ y) whole p = .ok none := by
  cases n with
  | ascii =>
    exact readHead_of_atom Dialect.clearItems_ascii (opening?_budget_of_readsWhole Dialect.clearTerms_ascii
      Dialect.clearItems_ascii (fun c hc => hc) (by decide +kernel) hw h y) hy whole p
  | latex =>
    exact readHead_of_atom Dialect.clearItems_latex (opening?_budget_of_readsWhole Dialect.clearTerms_latex
      Dialect.clearItems_latex (fun c hc => hc) (by decide +kernel) hw h y) hy whole p
  | han =>
    refine readHead_of_atom Dialect.clearItems_han (.inl ?_) hy whole p
    obtain ⟨c, r, rfl⟩ := List.exists_cons_of_ne_nil hne
    apply opening?_of_head
    rintro hc
    cases hc
    exact hb rfl (List.prefix_append _ r)

def FindsTail (d : Dialect) (f : Frame) (w y : Text) : Prop :=
  ∀ j, ∃ tail, readTail d Prod.mk (w ++ y) j = .ok (some (tail, w)) ∧
    tail.punctuation = f.punctuation ∧ tail.stamp = f.stamp ∧ tail.truth = f.truth

lemma exists_readsClause_of_findsTail {f : Frame} {w y : Text} (hy : FindsTail d f w y) (hne : w ≠ [])
    (hw : ∀ c ∈ w, d.spacing.isSpace c = false) {t : Lexical.Term} (h : ReadsWhole d i w t) :
    ∃ c, ReadsClause d (w ++ y) j c ∧ c.sentence.shape = (f.sentence t).shape := by
  obtain ⟨tail, hr, hp, hs', ht⟩ := hy j
  have hs := skip_eq_self hw
  obtain ⟨u, hu, hwhole⟩ : ∃ u, u.shape = t.shape ∧
      ReadsWhole d (j - (w ++ y).length + w.length) (skip d w) u := by
    rw [hs]
    exact exists_readsWhole_at h
  refine ⟨_, .intro hr (by rwa [hs]) hwhole, ?_⟩
  simp [Clause.sentence, Lexical.Sentence.shape, Frame.sentence, hu, hp, hs', ht]

section

variable {f : Frame} (hi : d.ClearItems q) (hf : f.Spelled d)

include hi hf

lemma nonblank_front : nonblank d (f.front d) = f.front d := by
  rw [Frame.front]
  cases hb : f.budget with
  | none => rfl
  | some ns => exact nonblank_budget hi (hf.budget ns hb).1

lemma nonblank_back : nonblank d (f.back d) = f.back d := by
  obtain ⟨p, hp⟩ := hf.punctuation
  have hm : f.punctuation ∈ d.marks := by simp [Dialect.marks, hp, Vocabulary.literal_mem]
  rw [Frame.back, nonblank_append, nonblank_append, nonblank_of_all (hi.blank _ hm),
    nonblank_of_all (nonblank_of_marks hi fun z => exists_mark_of_stamp hf.stamp),
    nonblank_of_all (nonblank_of_marks hi fun z => exists_mark_of_truth hf.truth)]

lemma exists_readTail_back {w : Text} (hw : ∀ c ∈ w, d.spacing.isSpace c = false) :
    ∃ tail, readTail d Prod.mk (w ++ f.back d) j = .ok (some (tail, w)) ∧
      tail.punctuation = f.punctuation ∧ tail.stamp = f.stamp ∧ tail.truth = f.truth := by
  obtain ⟨p, hp⟩ := hf.punctuation
  obtain ⟨tail, hr, hp', hs', ht'⟩ := exists_readTail_write (j := j) hi (h := []) rfl hf.stamp hf.truth
    hf.length_le w p
  have hback : w ++ d.punctuations.literal p ++ lead [] f.stamp ++ lead [] (writeTruth d f.truth) =
      w ++ f.back d := by
    simp [Frame.back, hp]
  rw [skipBack_eq_self hw, hback] at hr
  exact ⟨tail, hr, hp'.trans hp.symm, hs', ht'⟩

lemma exists_of_readsClause_back {w : Text} (hw : ∀ c ∈ w, d.spacing.isSpace c = false) {c : Clause}
    (h : ReadsClause d (w ++ f.back d) j c) :
    ∃ k t, ReadsWhole d k w t ∧ c.sentence.shape = (f.sentence t).shape := by
  obtain ⟨tail, hr, hp, hs', ht⟩ := exists_readTail_back (j := j) hi hf hw
  cases h with
  | @intro tail' before t hr' hne hwhole =>
    rw [hr] at hr'
    cases hr'
    rw [skip_eq_self hw] at hwhole
    exact ⟨_, t, hwhole, by simp [Clause.sentence, Lexical.Sentence.shape, Frame.sentence, hp, hs', ht]⟩

lemma readHead_front {r : Text} (hh : f.budget = none → readHead d Prod.mk r r 0 = .ok none) :
    readHead d Prod.mk (f.front d ++ r) (f.front d ++ r) 0 = .ok (f.budget.map fun ns => (⟨ns, 0⟩, r)) := by
  cases hbudget : f.budget with
  | none =>
    rw [Frame.front_eq_nil hbudget, List.nil_append]
    exact hh hbudget
  | some ns =>
    obtain ⟨hns, hl⟩ := hf.budget ns hbudget
    rw [Frame.front_eq_writeNumerals hbudget]
    exact readHead_writeNumerals hi hns hl _ _ 0

lemma exists_readsRegion_of_findsTail {w y : Text} (hy : FindsTail d f w y)
    (hh : f.budget = none → readHead d Prod.mk (w ++ y) (w ++ y) 0 = .ok none) (hne : w ≠ [])
    (hw : ∀ c ∈ w, d.spacing.isSpace c = false) {t : Lexical.Term} (h : ReadsWhole d i w t) :
    ∃ p, ReadsRegion d (f.front d ++ (w ++ y)) (f.front d ++ (w ++ y)) 0 p ∧
      Node.shape (node p) = Node.shape (f.node t) := by
  have hhead := readHead_front hi hf hh
  obtain ⟨c, hc, hcs⟩ := exists_readsClause_of_findsTail (j := 0 + (f.front d ++ (w ++ y)).length) hy hne hw h
  cases hbudget : f.budget with
  | none =>
    rw [hbudget, Frame.front_eq_nil hbudget, List.nil_append] at hhead
    rw [Frame.front_eq_nil hbudget, List.nil_append] at hc ⊢
    refine ⟨.sentence c, .sentence hhead hc, ?_⟩
    simp only [node, Item.map, Node.shape, Frame.node, hbudget, hcs]
  | some ns =>
    rw [hbudget] at hhead
    refine ⟨.task (⟨ns, 0⟩, c), .task hhead hc, ?_⟩
    simp only [node, Item.map, Node.shape, Task.shape, Frame.node, hbudget, hcs]

section

variable {w : Text} (hw : ∀ c ∈ w, d.spacing.isSpace c = false)
  (hh : f.budget = none → readHead d Prod.mk (w ++ f.back d) (w ++ f.back d) 0 = .ok none)

include hw hh

lemma exists_readsRegion_of_readsWhole (hne : w ≠ []) {t : Lexical.Term} (h : ReadsWhole d i w t) :
    ∃ p, ReadsRegion d (f.front d ++ (w ++ f.back d)) (f.front d ++ (w ++ f.back d)) 0 p ∧
      Node.shape (node p) = Node.shape (f.node t) :=
  exists_readsRegion_of_findsTail hi hf (fun _ => exists_readTail_back hi hf hw) hh hne hw h

lemma exists_readsWhole_of_readsRegion {p : Parse}
    (h : ReadsRegion d (f.front d ++ (w ++ f.back d)) (f.front d ++ (w ++ f.back d)) 0 p) :
    ∃ k t, ReadsWhole d k w t ∧ Node.shape (node p) = Node.shape (f.node t) := by
  have hhead := readHead_front hi hf hh
  have htail := fun j => exists_readTail_back (j := j) hi hf hw
  cases hbudget : f.budget with
  | none =>
    rw [hbudget, Frame.front_eq_nil hbudget, List.nil_append] at hhead
    rw [Frame.front_eq_nil hbudget, List.nil_append] at h
    cases h with
    | term hh' ht =>
      cases hhead.symm.trans hh'
      obtain ⟨tail, hr, -⟩ := htail (0 + (w ++ f.back d).length)
      cases hr.symm.trans ht
    | sentence _ hc =>
      obtain ⟨k, t, ht, hs⟩ := exists_of_readsClause_back hi hf hw hc
      exact ⟨k, t, ht, by simp only [node, Item.map, Node.shape, Frame.node, hbudget, hs]⟩
    | task hh' => cases hhead.symm.trans hh'
  | some ns =>
    rw [hbudget] at hhead
    cases h with
    | term hh' ht =>
      cases hhead.symm.trans hh'
      obtain ⟨tail, hr, -⟩ := htail (0 + (f.front d ++ (w ++ f.back d)).length)
      cases hr.symm.trans ht
    | sentence hh' => cases hhead.symm.trans hh'
    | task hh' hc =>
      cases hhead.symm.trans hh'
      obtain ⟨k, t, ht, hs⟩ := exists_of_readsClause_back hi hf hw hc
      exact ⟨k, t, ht, by simp only [node, Item.map, Node.shape, Task.shape, Frame.node, hbudget, hs]⟩

end

omit hi in
lemma notMem_back {z : Char} (hz : d.spacing.isSpace z = false) (hm : ∀ e ∈ d.marks, z ∉ e) : z ∉ f.back d := by
  obtain ⟨p, hp⟩ := hf.punctuation
  have hmem := notMem_tail (h := []) hz hm rfl hf.stamp hf.truth p
  rwa [lead_nil, lead_nil, ← hp] at hmem

end

lemma exists_readsRegion_around (n : DialectName) {f : Frame} (hf : f.Spelled n.dialect) {w : Text} (hne : w ≠ [])
    (hw : ∀ c ∈ w, n.dialect.spacing.isSpace c = false) {t : Lexical.Term} (h : ReadsWhole n.dialect i w t)
    (hb : n = .han → f.budget = none → ¬ (n.dialect.numerals .budget).brackets.left <+: w) :
    ∃ p, ReadsRegion n.dialect (f.front n.dialect ++ (w ++ f.back n.dialect))
        (f.front n.dialect ++ (w ++ f.back n.dialect)) 0 p ∧
      Node.shape (node p) = Node.shape (f.node t) := by
  obtain ⟨q, hi⟩ := n.exists_clearItems
  refine exists_readsRegion_of_readsWhole hi hf hw (fun hbudget => ?_) hne h
  exact readHead_of_readsWhole n hne hw h (fun hn => hb hn hbudget) (fun z hz hm => notMem_back hf hz hm) _ 0

lemma exists_readsRegion_of_readLexical {n : DialectName} {text : Text} {m : Node}
    (h : readLexical n.dialect text = .ok m) :
    nonblank n.dialect text ≠ [] ∧
      ∃ p, ReadsRegion n.dialect (nonblank n.dialect text) (nonblank n.dialect text) 0 p ∧
        m = Node.relocate (Source.ofText n.dialect text).locate (node p) := by
  obtain ⟨p, hp, hm⟩ := exists_readsText_of_readLexical h
  rw [nonblank_ofText n.strip] at hp
  obtain ⟨hne, hr⟩ := (readsText_iff (fun c => not_isSpace_of_mem_nonblank) p).1 hp
  exact ⟨hne, p, hr, hm⟩

lemma readLexical_of_readsRegion {n : DialectName} {text : Text} (hne : nonblank n.dialect text ≠ []) {p : Parse}
    (h : ReadsRegion n.dialect (nonblank n.dialect text) (nonblank n.dialect text) 0 p) :
    readLexical n.dialect text = .ok (Node.relocate (Source.ofText n.dialect text).locate (node p)) := by
  apply readLexical_of_readsText
  rw [nonblank_ofText n.strip]
  exact (readsText_iff (fun c => not_isSpace_of_mem_nonblank) p).2 ⟨hne, h⟩

lemma exists_readsWhole_of_readLexical {n : DialectName} {u : Text} {t : Lexical.Term}
    (h : readLexical n.dialect u = .ok (.term t)) :
    nonblank n.dialect u ≠ [] ∧
      ∃ t', t'.shape = t.shape ∧ ReadsWhole n.dialect (0 + (nonblank n.dialect u).length)
        (nonblank n.dialect u) t' := by
  obtain ⟨hne, p, hr, hn⟩ := exists_readsRegion_of_readLexical h
  refine ⟨hne, ?_⟩
  cases hr with
  | @term _ t' _ _ hw =>
    refine ⟨t', ?_, hw⟩
    obtain rfl := Item.term.inj hn
    rw [Term.shape_relocate]
    rfl
  | sentence => cases hn
  | task => cases hn

/-- A sentence or a task is read by its parts around any text that is read as a bare term, with blanks
anywhere between or inside the parts. -/
theorem readLexical_around (n : DialectName) {f : Frame} (hf : f.Spelled n.dialect) {u text : Text}
    {t : Lexical.Term} (hu : readLexical n.dialect u = .ok (.term t))
    (hb : n = .han → f.budget = none →
      ¬ (n.dialect.numerals .budget).brackets.left <+: nonblank n.dialect u)
    (htext : nonblank n.dialect text =
      nonblank n.dialect (f.front n.dialect ++ u ++ f.back n.dialect)) :
    ∃ m, readLexical n.dialect text = .ok m ∧ Node.same m (f.node t) := by
  obtain ⟨q, hi⟩ := n.exists_clearItems
  obtain ⟨hne, t', ht', hw⟩ := exists_readsWhole_of_readLexical hu
  rw [nonblank_append, nonblank_append, nonblank_front hi hf, nonblank_back hi hf, List.append_assoc] at htext
  obtain ⟨p, hp, hs⟩ := exists_readsRegion_around n hf hne (fun c => not_isSpace_of_mem_nonblank) hw hb
  rw [← htext] at hp
  have htne : nonblank n.dialect text ≠ [] := by
    rw [htext]
    simp [hne]
  refine ⟨_, readLexical_of_readsRegion htne hp, ?_⟩
  rw [Node.same_iff_shape, Node.shape_relocate, hs, f.shape_node ht']

def pastFrame : Frame := ⟨none, "。", "发生在-3", ["1", "0.9"]⟩

lemma spelled_pastFrame : pastFrame.Spelled .han where
  budget ns h := by cases h
  punctuation := ⟨.judgement, rfl⟩
  stamp := .inr (.inr ⟨['-', '3'], by decide, rfl⟩)
  truth n h := by
    rcases List.mem_cons.1 h with rfl | h
    · exact ⟨⟨1, 0⟩, by decide +kernel, by decide +kernel⟩
    · rw [List.mem_singleton.1 h]
      exact ⟨⟨9, -1⟩, by decide +kernel, by decide +kernel⟩
  length_le := by decide

theorem pastFrame_readLexical_around :
    ∃ t, t.shape = .atom "" "甲预" none ∧ readLexical .han "甲预" = .ok (.term t) ∧ pastFrame.Spelled .han ∧
      ∃ m, readLexical .han "甲 预。发生在 -3 真1、0.9值" = .ok m ∧ Node.same m (pastFrame.node t) := by
  have hu : (readLexical .han "甲预").toOption.map (Node.same · (.term (.atom "" "甲预" none))) = some true := by
    decide +kernel
  obtain ⟨n, h, hsame⟩ := Outcome.exists_of_toOption_map hu
  have hn := (Node.same_iff_shape n _).1 hsame
  obtain ⟨t, rfl⟩ : ∃ t, n = .term t := by
    cases n with
    | term t => exact ⟨t, rfl⟩
    | sentence s => cases hn
    | task k => cases hn
  refine ⟨t, Item.term.inj hn, h, spelled_pastFrame, ?_⟩
  exact readLexical_around .han spelled_pastFrame h (fun _ _ => by decide) (by decide)

end Reading

end NarseseDialects
