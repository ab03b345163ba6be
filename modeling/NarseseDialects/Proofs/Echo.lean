import NarseseDialects.Proofs.Reading.WrittenNodes
import NarseseDialects.Proofs.Value.Origin

namespace NarseseDialects

lemma DialectName.clearTail (n : DialectName) : n.dialect.ClearTail :=
  Dialect.clearTail_of_mem_canonical (List.mem_map.2 ⟨n, n.mem_all, rfl⟩)

/-- Whether no name that ends in two hyphens is written before the right bracket of a statement or of an
intensional set, where they are read as the front of a copula. -/
def Value.HyphensApart (v : Value) : Prop :=
  (Meaning.unfoldTerm .ascii v.subject).EachAtom .ascii
    (fun _ n e => (Text.before? "--" n).isSome → e ≠ ">" ∧ e ≠ "]") []

namespace Reading

open Lexical Meaning Outcome

section

variable {d : Dialect} {p m e : Text}

lemma clings_ascii (hm : m.all Text.isNameChar = true) (he : e ∈ Dialect.ascii.separator :: Dialect.ascii.closers) :
    Dialect.ascii.clings m e = true ↔ (Text.before? "--" m).isSome ∧ (e = ">" ∨ e = "]") := by
  have hcuts : ∀ e ∈ Dialect.ascii.separator :: Dialect.ascii.closers, ∀ t ∈ Dialect.ascii.terminating,
      ∀ p ∈ Text.cuts t, p.1.all Text.isNameChar = false ∨ Text.apart p.2 e = true ∨
        p.1 = "--" ∧ (e = ">" ∨ e = "]") := by
    decide +kernel
  rw [Dialect.clings_eq_true_iff]
  constructor
  · rintro ⟨a, b, hab, ht, ⟨y, rfl⟩, hb⟩
    rw [List.all_append, Bool.and_eq_true] at hm
    obtain ⟨rfl, he⟩ := ((hcuts e he _ ht _ hab).resolve_left (by simp [hm.2])).resolve_left (by simp [hb])
    exact ⟨by rw [Text.before?_append]; rfl, he⟩
  · rintro ⟨hs, he⟩
    obtain ⟨y, hy⟩ := Option.isSome_iff_exists.1 hs
    obtain rfl := Text.before?_eq_some_iff.1 hy
    rcases he with rfl | rfl
    · exact ⟨"--", ">", by decide, by decide, List.suffix_append y _, by decide⟩
    · exact ⟨"--", "]", by decide, by decide, List.suffix_append y _, by decide⟩

lemma stands_of_own (hd : d.ClearTerms) (hc : d.ClearCuts) (h : Own d p m e) (he : Ends d e)
    (hcl : e ∈ d.separator :: d.closers → d.clings m e = false) : Stands d p m e := by
  refine ⟨h.plain, ?_⟩
  rcases he with rfl | he
  · exact stopsAt_of_whole hc hd h.whole (.inl rfl)
  rcases List.mem_append.1 he with hm | hm
  · exact h.copula hm
  · exact stopsAt_of_whole hc hd h.whole (.inr ⟨he, hcl hm⟩)

lemma unmistakable_of_own (h : Own d p m e) : Unmistakable d p m e := by
  refine ⟨h.plain, fun he a ha hs hm => ?_⟩
  have hn := after?_of_nameSpan (x := e) (h.copula he e after_self) ha hs (List.mem_append_left _ hm)
  rw [Text.after?_self] at hn
  cases hn

end

section

variable {d : Dialect} {c z : Char} {w x y : Text}

lemma readHead_none_congr (hd : d.ClearTail) (hl : (d.numerals .budget).brackets.left ≠ []) (hz : d.ClearFront z)
    (hc : d.stopsNames c = true) (hw : c ∈ w) (hy : z ∉ y) {p : Nat}
    (h : readHead d Prod.mk (w ++ x) (w ++ x) p = .ok none) : readHead d Prod.mk (w ++ y) (w ++ y) p = .ok none := by
  have hnone := readHead_none_of_append hd hc hw h
  cases hb : budgetCut? d w with
  | some ab =>
    rw [readHead_append hd hc hw hb, hnone]
    rfl
  | none =>
    apply readHead_of_budgetCut?_eq_none
    rw [Option.eq_none_iff_forall_ne_some]
    rintro ⟨a, b⟩ hab
    have hlast : ((d.numerals .budget).brackets.left ++ a ++ (d.numerals .budget).brackets.right).getLast? =
        some z := by
      rw [List.getLast?_append, hz.last]
      rfl
    obtain ⟨v, rfl, -⟩ := Text.exists_append_of_append_eq (eq_append_of_budgetCut? hab) hlast hy
    obtain ⟨a, b, hab⟩ := exists_budgetCut? hl a v
    rw [hb] at hab
    cases hab

end

section

variable {n : DialectName} {text : Text} {v : Value}

lemma shape_eq_of_budget {u : Lexical.Term} {t : NarseseDialects.Term} (hf : foldTerm n.dialect u = .ok t)
    (ht : (unfoldTerm n.dialect t).Spelled n.dialect anyName) :
    (∀ y, opening? (n.dialect.numerals .budget).brackets.left
        ((unfoldTerm n.dialect t).write (n.dialect.withGaps [] []) ++ y) = none) ∨
      u.shape = (unfoldTerm n.dialect t).shape := by
  have hnamed : ∀ r, n.dialect.sigils.literal r = (n.dialect.numerals .budget).brackets.left →
      r ≠ .placeholder ∧ r ≠ .interval := by
    cases n <;> decide
  obtain ⟨q, hi⟩ := n.exists_clearItems
  rcases opening?_budget_of_spelled hi n.clearTerms ht with ho | ⟨r, x, s, hx, -, hr⟩
  · exact .inl ho
  have hr : r ≠ .placeholder ∧ r ≠ .interval := by
    rcases hr with ⟨rfl, -⟩ | hr
    · simp
    · exact hnamed r hr
  right
  cases t with
  | named k m =>
    obtain ⟨s, rfl⟩ := eq_atom_of_foldTerm hf
    rfl
  | placeholder =>
    exact absurd (n.dialect.sigils.literal_injective (Lexical.Term.atom.inj hx).1).symm hr.1
  | interval m => exact absurd (n.dialect.sigils.literal_injective (Lexical.Term.atom.inj hx).1).symm hr.2
  | collection k cs => cases k <;> cases hx
  | chain | difference | negation | image | ordered | symmetric => cases hx

lemma nonblank_write_of_shape {u t : Lexical.Term} (h : u.shape = t.shape) (ht : t.Spelled n.dialect anyName) :
    nonblank n.dialect (u.write n.dialect) = t.write (n.dialect.withGaps [] []) := by
  rw [← nonblank_write_anyName n ht, ← Term.write_shape, h, Term.write_shape]

lemma readHead_of_opening? {d : Dialect} {w : Text} (h : opening? (d.numerals .budget).brackets.left w = none) :
    readHead d Prod.mk w w 0 = .ok none := by
  apply readHead_of_budgetCut?_eq_none
  rw [budgetCut?, h]
  rfl

lemma exists_readHead_write_term {t : NarseseDialects.Term} (h : readValue n.dialect text = .ok (.term t)) :
    ∃ head, readHead n.dialect Prod.mk (nonblank n.dialect ((unfoldTerm n.dialect t).write n.dialect))
      (nonblank n.dialect ((unfoldTerm n.dialect t).write n.dialect)) 0 = .ok head := by
  have ht : (unfoldTerm n.dialect t).Spelled n.dialect anyName := spelled_unfoldTerm_anyName h n.dialect
  obtain ⟨p, hp, hf⟩ := exists_readsRegion_of_readValue h
  rw [nonblank_write_anyName n ht]
  rcases shape_eq_of_budget (foldTerm_subject hf) ht with hnone | hshape
  · have ho := hnone []
    rw [List.append_nil] at ho
    exact ⟨none, readHead_of_opening? ho⟩
  cases hp with
  | term hh _ hw =>
    have hn := nonblank_of_readsWhole n.blank_between.1 hw
    rw [nonblank_nonblank] at hn
    rw [hn.trans (nonblank_write_of_shape hshape ht)] at hh
    exact ⟨_, hh⟩
  | sentence => cases kind_of_fold hf
  | task => cases kind_of_fold hf

lemma readHead_write_sentence {x : NarseseDialects.Sentence} {y : Lexical.Sentence}
    (h : readValue n.dialect text = .ok (.sentence x)) (hx : unfoldSentence? n.dialect x = some y) :
    readHead n.dialect Prod.mk (nonblank n.dialect (y.write n.dialect)) (nonblank n.dialect (y.write n.dialect)) 0 =
      .ok none := by
  obtain ⟨q, hi⟩ := n.exists_clearItems
  obtain ⟨z, hz⟩ := n.exists_clearFront
  obtain ⟨ht, -, hst, htr, -⟩ : y.Spelled n.dialect anyName :=
    spelled_unfold_anyName h (x := .sentence y) (congrArg (Option.map _) hx)
  obtain ⟨p, hp, hf⟩ := exists_readsRegion_of_readValue h
  have hy : y.term = unfoldTerm n.dialect x.term ∧
      y.punctuation = n.dialect.punctuations.literal x.mood.punctuation := by
    obtain ⟨stamp, -, rfl⟩ := Option.map_eq_some_iff.1 hx
    exact ⟨rfl, rfl⟩
  rw [hy.1] at ht
  rw [nonblank_sentence n.blank_between.2, hy.1, hy.2, nonblank_write_anyName n ht]
  rcases shape_eq_of_budget (foldTerm_subject hf) ht with hnone | hshape
  · simp only [List.append_assoc]
    exact readHead_of_opening? (hnone _)
  cases hp with
  | term => cases kind_of_fold hf
  | task => cases kind_of_fold hf
  | @sentence c hh hc =>
    -- Both texts begin with the term and the punctuation, and no name runs over that.
    obtain ⟨y, hy, hxy⟩ := map_eq_ok.1 hf
    cases hxy
    have hpunct := (exists_of_foldSentence hy).2.1
    have hterm : nonblank n.dialect (c.sentence.term.write n.dialect) =
        (unfoldTerm n.dialect x.term).write (n.dialect.withGaps [] []) := nonblank_write_of_shape hshape ht
    have hblank := nonblank_of_all (punctuation_ne_nil hi x.mood.punctuation).2
    have hn := nonblank_of_readsClause n.blank_between.1 n.blank_between.2 hc
    rw [nonblank_nonblank, nonblank_sentence n.blank_between.2, hpunct, hterm, hblank, List.append_assoc,
      List.append_assoc] at hn
    rw [hn] at hh
    obtain ⟨a, ha, hstops⟩ := List.any_eq_true.1 (n.clearTail.stops x.mood.punctuation)
    have hmark : ∀ {e : Text}, (∀ y ∈ e, ∃ a ∈ n.dialect.marks, y ∈ a) → z ∉ nonblank n.dialect e := by
      intro e he hmem
      obtain ⟨a, ha, hza⟩ := he z (List.mem_filter.1 hmem).1
      exact hz.mark a ha hza
    rw [hblank, List.append_assoc]
    refine readHead_none_congr n.clearTail hi.budget_left hz hstops (List.mem_append_right _ ha) ?_ hh
    rw [List.mem_append, not_or]
    exact ⟨hmark fun y => exists_mark_of_stamp hst, hmark fun y => exists_mark_of_truth htr⟩

lemma own_of_readValue (h : readValue n.dialect text = .ok v) :
    (unfoldTerm n.dialect v.subject).EachAtom n.dialect (Own n.dialect) [] := by
  refine own_unfoldTerm n.clearTerms n.clearCuts (native_of_readValue h) fun hnil => ?_
  exact absurd rfl (n.clearTerms.joint [] (mem_joints_of_mem_terminating (List.mem_append_left _ hnil))).1

lemma stands_of_readValue (h : readValue n.dialect text = .ok v) (ha : n = .ascii → v.HyphensApart) :
    (unfoldTerm n.dialect v.subject).EachAtom n.dialect (Stands n.dialect) [] := by
  have ho := own_of_readValue h
  have hn := eachAtom_unfold h n
  have hstands : (∀ e ∈ n.dialect.separator :: n.dialect.closers, n.dialect.absorbs e = false) →
      (unfoldTerm n.dialect v.subject).EachAtom n.dialect (Stands n.dialect) [] := by
    intro habs
    refine ho.imp (fun p m e ho hn => stands_of_own n.clearTerms n.clearCuts ho hn.2 fun he => ?_) hn
    exact Dialect.clings_eq_false (n.isIdentifier_eq ▸ hn.1) (habs e he)
  cases n with
  | latex => exact hstands (by decide +kernel)
  | han => exact hstands (by decide +kernel)
  | ascii =>
    have hboth := ho.imp (fun p m e ho hn => And.intro ho hn) hn
    refine hboth.imp (fun p m e h hy => ?_) (ha rfl)
    refine stands_of_own Dialect.clearTerms_ascii Dialect.clearCuts_ascii h.1 h.2.2 fun he => ?_
    rw [Bool.eq_false_iff]
    intro hcl
    obtain ⟨hs, rfl | rfl⟩ := (clings_ascii h.2.1 he).1 hcl
    · exact (hy hs).1 rfl
    · exact (hy hs).2 rfl

lemma hyphensApart_of_stopsAt (h : readValue DialectName.ascii.dialect text = .ok v)
    (hs : (unfoldTerm .ascii v.subject).EachAtom .ascii (fun _ m e => StopsAt .ascii m e) []) : v.HyphensApart := by
  have hn := eachAtom_unfold h .ascii
  refine hs.imp (fun p m e hs hn hm => ?_) hn
  have hne : ∀ {b : Text}, b ∈ Dialect.ascii.closers → b = ">" ∨ b = "]" → e ≠ b := by
    rintro _ hb he rfl
    have ht := mem_terminating_of_mem_closers hb
    have hcl := ((stopsAt_iff Dialect.clearCuts_ascii Dialect.clearTerms_ascii ht).1 hs).2
    rw [(clings_ascii hn.1 (List.mem_cons_of_mem _ hb)).2 ⟨hm, he⟩] at hcl
    cases hcl
  exact ⟨hne (by decide) (.inl rfl), hne (by decide) (.inr rfl)⟩

lemma readValue_write_of_stands {x : Node} (h : readValue n.dialect text = .ok v)
    (hx : unfolded? n.dialect v = some x)
    (hs : (unfoldTerm n.dialect v.subject).EachAtom n.dialect (Stands n.dialect) []) :
    readValue n.dialect (x.write n.dialect) = .ok v := by
  rw [← subject_of_unfolded hx] at hs
  obtain ⟨m, hm, hsame⟩ := exists_readLexical_of_stands n (spelled_unfold_anyName h hx) hs fun hk => by
    cases v with
    | term t =>
      cases hx
      obtain ⟨head, hh⟩ := exists_readHead_write_term h
      exact ⟨head, hh, fun hk => by cases hk⟩
    | sentence a =>
      obtain ⟨y, hy, rfl⟩ := Option.map_eq_some_iff.1 hx
      exact ⟨none, readHead_write_sentence h hy, fun _ => rfl⟩
    | task k => exact absurd (kind_of_unfolded hx) hk
  exact readValue_of_readLexical h hx hm hsame

/-- What is written for a value that was read is read as the same value or not at all, and it is read unless
two hyphens at the end of a name have come to stand where they are the front of a copula. -/
theorem readValue_echo (h : readValue n.dialect text = .ok v) :
    ∃ t, v.write? n.dialect = some t ∧ (readValue n.dialect t = .ok v ↔ (n = .ascii → v.HyphensApart)) ∧
      ∀ w, readValue n.dialect t = .ok w → w = v := by
  obtain ⟨x, hx⟩ := exists_unfolded_of_readValue h n.dialect
  have hunmistakable : x.subject.EachAtom n.dialect (Unmistakable n.dialect) [] := by
    have ho := own_of_readValue h
    rw [subject_of_unfolded hx]
    exact ho.imp (fun p m e ho _ => unmistakable_of_own ho) ho
  -- On the plain keyboard no word is taken for a budget, so that nothing else can be read.
  have hascii : n = .ascii → ∀ w, readValue n.dialect (x.write n.dialect) = .ok w → w = v ∧ v.HyphensApart := by
    rintro rfl w hw
    obtain ⟨m, hm⟩ := readLexical_isOk_of_readValue hw
    rcases recovered_of_readLexical .ascii (spelled_unfold_anyName h hx) hunmistakable hm with ⟨hsame, hs⟩ | ⟨hn, -⟩
    · cases hw.symm.trans (readValue_of_readLexical h hx hm hsame)
      rw [subject_of_unfolded hx] at hs
      exact ⟨rfl, hyphensApart_of_stopsAt h hs⟩
    · cases hn
  have hread := fun ha => readValue_write_of_stands h hx (stands_of_readValue h ha)
  refine ⟨x.write n.dialect, congrArg (Option.map _) hx, ⟨fun hr hn => (hascii hn v hr).2, hread⟩, fun w hw => ?_⟩
  by_cases hn : n = .ascii
  · exact (hascii hn w hw).1
  · cases hw.symm.trans (hread fun ha => absurd ha hn)
    rfl

def hyphenTerm : NarseseDialects.Term :=
  .ordered .inheritance (.named .word "a--") (.collection (.set .intension) [.named .word "b"])

lemma readValue_hyphenTerm : readValue .ascii "<a-- --> [b, b]>" = .ok (.term hyphenTerm) := by
  refine readValue_of_same (x := .term (.statement "-->" (.atom "" "a--" none)
    (.set "[" [.atom "" "b" none, .atom "" "b" none] "]" none) none)) (by decide +kernel) rfl

theorem hyphenTerm_readValue_echo :
    readValue .ascii "<a-- --> [b, b]>" = .ok (.term hyphenTerm) ∧
      ∃ t, Value.write? .ascii (.term hyphenTerm) = some t ∧ readValue .ascii t = .ok (.term hyphenTerm) := by
  obtain ⟨t, ht, hecho, -⟩ := readValue_echo (n := .ascii) readValue_hyphenTerm
  refine ⟨readValue_hyphenTerm, t, ht, hecho.2 fun _ => ?_⟩
  exact ⟨fun _ => by decide, fun hb => by revert hb; decide⟩

def hyphenSet : NarseseDialects.Term :=
  .collection (.set .intension) [.named .word "b", .named .word "a--"]

/-- Of the set `[b, a--, b]` the second `b` is dropped, and then the hyphens join the right bracket. -/
theorem hyphens_not_echoed :
    ¬ ∀ (n : DialectName) (text : Text) (v : Value), readValue n.dialect text = .ok v →
      ∃ t, v.write? n.dialect = some t ∧ readValue n.dialect t = .ok v := by
  intro h
  have hv : readValue .ascii "[b, a--, b]" = .ok (.term hyphenSet) :=
    readValue_of_same (x := .term (.set "[" [.atom "" "b" none, .atom "" "a--" none, .atom "" "b" none] "]" none))
      (by decide +kernel) rfl
  have hw : (readValue .ascii (hyphenSet.textIn .ascii)).toOption.isSome = false := by decide +kernel
  obtain ⟨t, ht, hecho⟩ := h .ascii _ _ hv
  obtain rfl : hyphenSet.textIn .ascii = t := Option.some.inj ht
  rw [show readValue .ascii (hyphenSet.textIn .ascii) = _ from hecho] at hw
  cases hw

end

end Reading

end NarseseDialects
