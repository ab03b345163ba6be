import NarseseDialects.Proofs.Reading.EmptyTruth

namespace NarseseDialects.Reading

open Lexical

variable {d : Dialect} {stop : Nat}

def behindBudget (d : Dialect) (cs : Text) : Text :=
  match readHead d Prod.mk cs cs 0 with
  | .ok (some (_, inner)) => inner
  | _ => cs

/-- What is read of a text and not written: the empty truth of a sentence. -/
def unwritten (d : Dialect) (cs : Text) : Node → Text
  | .term _ => []
  | _ => droppedTruth d (behindBudget d cs)

lemma nonblank_of_readsWhole (hb : d.spacing.betweenTerms.all d.spacing.isSpace) {cs : Text}
    {t : Lexical.Term} (h : ReadsWhole d stop cs t) : nonblank d cs = nonblank d (t.write d) := by
  obtain ⟨rest, ht, hr⟩ := h
  have he := nonblank_skip (d := d) rest
  rw [hr] at he
  rw [nonblank_of_readsTerm hb ht, ← he]
  simp

section

variable (ht : d.spacing.betweenTerms.all d.spacing.isSpace)
  (hi : d.spacing.betweenItems.all d.spacing.isSpace)

include ht hi

lemma nonblank_of_readsClause {inner : Text} {c : Clause} (h : ReadsClause d inner stop c) :
    nonblank d inner = nonblank d (c.sentence.write d) ++ nonblank d (droppedTruth d inner) := by
  cases h with
  | @intro tail before t hr _ hw =>
    rw [nonblank_of_readTail hr, ← nonblank_skip before, nonblank_of_readsWhole ht hw, nonblank_sentence hi]
    rfl

lemma nonblank_of_readsRegion {cs : Text} {p : Parse} (h : ReadsRegion d cs cs 0 p) :
    nonblank d cs = nonblank d (Node.write d (node p)) ++ nonblank d (unwritten d cs (node p)) := by
  cases h with
  | term _ _ hw =>
    rw [nonblank_of_readsWhole ht hw]
    simp [unwritten, node, Item.map, Node.write, Item.elim]
  | sentence hh hc =>
    have he : behindBudget d cs = cs := by simp only [behindBudget, hh]
    rw [nonblank_of_readsClause ht hi hc]
    simp [unwritten, node, Item.map, Node.write, Item.elim, he]
  | @task head inner c hh hc =>
    have he : behindBudget d cs = inner := by simp only [behindBudget, hh]
    have hcs := congrArg (nonblank d) (eq_append_of_readHead hh)
    rw [hcs, nonblank_append, nonblank_of_readsClause ht hi hc]
    simp [unwritten, node, Item.map, Node.write, Item.elim, he, Lexical.Task.write, nonblank_eq_nil hi]

end

lemma readsClause_of_emptyTruth (hd : d.ClearTail) {a : Text} {c : Clause}
    (ha : ∀ c ∈ a, d.spacing.isSpace c = false)
    (hb : bracketedBack? d .truth (a ++ emptyTruth d) = some (a, [])) {n : Nat}
    (h : ReadsClause d (a ++ emptyTruth d) (n + (a ++ emptyTruth d).length) c) :
    (∃ c, d.stopsNames c = true ∧ c ∈ a) ∧
      ∃ c', ReadsClause d a (n + a.length) c' ∧ c'.sentence = c.sentence := by
  cases h with
  | @intro tail before t hr hn hw =>
    obtain ⟨region, content, b, hreg, hp, ho, -, -, -⟩ := exists_of_readTail hr
    have ha' := skipBack_eq_self ha
    have hra : region = a := by
      rcases hreg with ⟨hf, -⟩ | ⟨a', hf, rfl⟩
      · rw [hb] at hf
        cases hf
      · rw [hb] at hf
        cases hf
        exact ha'
    rw [hra] at hp
    have hq := readTail_of_emptyTruth hd ha' hb hr
    have h₁ : n + (a ++ emptyTruth d).length - (emptyTruth d).length = n + a.length := by
      rw [List.length_append]
      omega
    have h₂ : n + (a ++ emptyTruth d).length - (a ++ emptyTruth d).length = n + a.length - a.length := by
      omega
    rw [h₁] at hq
    rw [h₂] at hw ⊢
    exact ⟨exists_stopsNames hd hp, _, .intro hq hn hw, rfl⟩

lemma bracketedBack?_of_droppedTruth {inner : Text} (h : droppedTruth d inner ≠ []) :
    ∃ a, inner = a ++ emptyTruth d ∧ droppedTruth d inner = emptyTruth d ∧
      bracketedBack? d .truth (a ++ emptyTruth d) = some (a, []) := by
  rw [droppedTruth] at h ⊢
  split at h
  next hany =>
    obtain ⟨⟨a, content⟩, hb, he⟩ := (Option.any_eq_true _ _).1 hany
    obtain rfl := List.isEmpty_iff.1 he
    have ha := eq_append_of_bracketedBack? hb
    rw [List.append_nil] at ha
    rw [if_pos hany]
    refine ⟨a, ha, rfl, ?_⟩
    rw [emptyTruth, ← ha]
    exact hb
  · exact absurd rfl h

lemma droppedTruth_suffix (inner : Text) : droppedTruth d inner <:+ inner := by
  by_cases h : droppedTruth d inner = []
  · rw [h]
    exact List.nil_suffix
  · obtain ⟨a, ha, hd, -⟩ := bracketedBack?_of_droppedTruth h
    rw [hd]
    exact ⟨a, ha.symm⟩

lemma behindBudget_suffix (cs : Text) : behindBudget d cs <:+ cs := by
  rw [behindBudget]
  split
  next head inner h => exact ⟨_, (eq_append_of_readHead h).symm⟩
  · exact List.suffix_rfl

lemma unwritten_suffix (cs : Text) (n : Node) : unwritten d cs n <:+ cs := by
  cases n with
  | term t => exact List.nil_suffix
  | sentence s => exact (droppedTruth_suffix _).trans (behindBudget_suffix cs)
  | task k => exact (droppedTruth_suffix _).trans (behindBudget_suffix cs)

lemma unwritten_eq_emptyTruth {cs : Text} {n : Node} (h : unwritten d cs n ≠ []) :
    unwritten d cs n = emptyTruth d := by
  cases n with
  | term t => exact absurd rfl h
  | sentence s =>
    obtain ⟨_, _, he, _⟩ := bracketedBack?_of_droppedTruth h
    exact he
  | task k =>
    obtain ⟨_, _, he, _⟩ := bracketedBack?_of_droppedTruth h
    exact he

lemma readsText_iff {cs : Text} (h : ∀ c ∈ cs, d.spacing.isSpace c = false) (p : Parse) :
    ReadsText d cs p ↔ cs ≠ [] ∧ ReadsRegion d cs cs 0 p := by
  rw [ReadsText, skip_eq_self h, skipBack_eq_self h, Nat.sub_self]

lemma readsText_of_emptyTruth (hd : d.ClearTail) {w : Text} {p : Parse}
    (hw : ∀ c ∈ w, d.spacing.isSpace c = false) (hu : unwritten d (w ++ emptyTruth d) (node p) ≠ [])
    (h : ReadsRegion d (w ++ emptyTruth d) (w ++ emptyTruth d) 0 p) :
    ∃ p', ReadsText d w p' ∧ node p' = node p := by
  cases h with
  | term => exact absurd rfl hu
  | sentence hh hc =>
    have hin : behindBudget d (w ++ emptyTruth d) = w ++ emptyTruth d := by simp only [behindBudget, hh]
    simp only [unwritten, node, Item.map, hin] at hu
    obtain ⟨a, ha, -, hb⟩ := bracketedBack?_of_droppedTruth hu
    obtain rfl := List.append_cancel_right ha
    obtain ⟨⟨x, hx, hm⟩, c', hc', he⟩ := readsClause_of_emptyTruth hd hw hb hc
    refine ⟨.sentence c', (readsText_iff hw _).2 ⟨List.ne_nil_of_mem hm, ?_⟩, by simp [node, Item.map, he]⟩
    exact .sentence (readHead_none_of_append hd hx hm hh) hc'
  | @task head inner c hh hc =>
    have hin : behindBudget d (w ++ emptyTruth d) = inner := by simp only [behindBudget, hh]
    simp only [unwritten, node, Item.map, hin] at hu
    obtain ⟨a, rfl, -, hb⟩ := bracketedBack?_of_droppedTruth hu
    have hwa := eq_append_of_readHead hh
    rw [← List.append_assoc, List.append_cancel_right_eq] at hwa
    have ha : ∀ c ∈ a, d.spacing.isSpace c = false := fun c hc => hw c (by simp [hwa, hc])
    have hl := congrArg List.length hwa
    rw [List.length_append] at hl
    have hs : 0 + (w ++ emptyTruth d).length = (w.length - a.length) + (a ++ emptyTruth d).length := by
      simp only [List.length_append]
      omega
    have hs' : (w.length - a.length) + a.length = 0 + w.length := by omega
    rw [hs] at hc
    obtain ⟨⟨x, hx, hm⟩, c', hc', he⟩ := readsClause_of_emptyTruth hd ha hb hc
    rw [hs'] at hc'
    have hmw : x ∈ w := by simp [hwa, hm]
    refine ⟨.task (head, c'), (readsText_iff hw _).2 ⟨List.ne_nil_of_mem hmw, ?_⟩,
      by simp [node, Item.map, he]⟩
    exact .task (readHead_some_of_append hd hx hm hh) hc'

lemma exists_same_of_readsText (hs : d.spacing.strip = true) {n : Node} {p p' : Parse} {f : Nat → Nat}
    (h : ReadsText d (nonblank d (Node.write d n)) p') (hp : node p' = node p)
    (hn : n = Node.relocate f (node p)) :
    ∃ m, readLexical d (Node.write d n) = .ok m ∧ Node.same m n := by
  rw [← nonblank_ofText hs] at h
  refine ⟨_, readLexical_of_readsText h, ?_⟩
  rw [Node.same_iff_shape, hn, hp, Node.shape_relocate, Node.shape_relocate]

/-- Reading a text and writing what was read gives the text again, but for blanks and the empty truth of
a sentence, and reading that gives the same tree. An empty truth ends in a mark of its own in the
dialects known by name, so there its loss changes nothing. -/
theorem readLexical_loses_nothing (hs : d.spacing.strip = true)
    (ht : d.spacing.betweenTerms.all d.spacing.isSpace) (hi : d.spacing.betweenItems.all d.spacing.isSpace)
    {text : Text} {n : Node} (h : readLexical d text = .ok n) :
    nonblank d text = nonblank d (Node.write d n) ++ unwritten d (nonblank d text) n ∧
      (unwritten d (nonblank d text) n = [] ∨ d ∈ Dialect.canonical →
        ∃ m, readLexical d (Node.write d n) = .ok m ∧ Node.same m n) := by
  obtain ⟨p, hp, hn⟩ := exists_readsText_of_readLexical h
  have hb : ∀ c ∈ nonblank d text, d.spacing.isSpace c = false := fun c => not_isSpace_of_mem_nonblank
  have hw : Node.write d n = Node.write d (node p) :=
    Node.write_congr d (by rw [hn, Node.shape_relocate])
  have hu : ∀ cs, unwritten d cs n = unwritten d cs (node p) := by
    intro cs
    rw [hn]
    cases p <;> rfl
  rw [nonblank_ofText hs] at hp
  obtain ⟨hne, hr⟩ := (readsText_iff hb p).1 hp
  have hk : nonblank d text = nonblank d (Node.write d n) ++ unwritten d (nonblank d text) n := by
    have hc := nonblank_of_readsRegion ht hi hr
    have hsub : ∀ c ∈ unwritten d (nonblank d text) n, d.spacing.isSpace c = false :=
      fun c hc => hb c ((unwritten_suffix _ n).subset hc)
    rwa [nonblank_nonblank, ← hw, ← hu, nonblank_eq_self hsub] at hc
  refine ⟨hk, fun hcase => ?_⟩
  by_cases he : unwritten d (nonblank d text) n = []
  · rw [he, List.append_nil] at hk
    rw [hk] at hp
    exact exists_same_of_readsText hs hp rfl hn
  · -- The text without its empty truth is another text: its tail and its budget are read anew.
    have hd := Dialect.clearTail_of_mem_canonical (hcase.resolve_left he)
    rw [unwritten_eq_emptyTruth he] at hk
    rw [hk] at hr he
    rw [hu] at he
    obtain ⟨p', hp', hnode⟩ := readsText_of_emptyTruth hd (fun c => not_isSpace_of_mem_nonblank) he hr
    exact exists_same_of_readsText hs hp' hnode hn

theorem judgement_loses_empty_truth :
    ∃ n, readLexical .ascii "A. %%" = .ok n ∧
      nonblank .ascii "A. %%" = nonblank .ascii (Node.write .ascii n) ++ "%%" ∧
      ∃ m, readLexical .ascii (Node.write .ascii n) = .ok m ∧ Node.same m n := by
  have hu : (readLexical .ascii "A. %%").toOption.map (unwritten .ascii (nonblank .ascii "A. %%")) = some "%%" := by
    decide +kernel
  have hc : Dialect.ascii ∈ Dialect.canonical := List.mem_map.2 ⟨.ascii, DialectName.mem_all _, rfl⟩
  obtain ⟨n, h, hn⟩ := Outcome.exists_of_toOption_map hu
  obtain ⟨hk, hm⟩ := readLexical_loses_nothing rfl (by decide) (by decide) h
  exact ⟨n, h, hk.trans (congrArg _ hn), hm (.inr hc)⟩

end NarseseDialects.Reading
