import NarseseDialects.Proofs.Meaning.Assembled
import NarseseDialects.Proofs.Reading.Standing

/-! Values whose names were read in a dialect. Folding may put a name in front of another literal than the one
that it was read in front of, but it makes no name anew, and where a copula comes to stand behind a name, the
name has stood before it already or fits before it whatever it is. -/

namespace NarseseDialects

open Reading

namespace Term

mutual

/-- Whether every name is one that the dialect reads, and a name that is the subject of a statement is read to
its end in front of the copula. -/
def Native (d : Dialect) : Term → Prop
  | named k n => Whole d n ∧ Plain d (d.sigils.literal (.name k)) n
  | placeholder | interval _ => True
  | collection _ cs | chain _ cs | image _ _ cs => NativeAll d cs
  | difference _ l r => Native d l ∧ Native d r
  | negation t => Native d t
  | ordered c s p =>
    (∀ k n, s = named k n → StopsAt d n (d.copulas.literal (.ordered c))) ∧ Native d s ∧ Native d p
  | symmetric c s p =>
    (∀ k n, s = named k n → StopsAt d n (d.copulas.literal (.symmetric c))) ∧ Native d s ∧ Native d p

def NativeAll (d : Dialect) : List Term → Prop
  | [] => True
  | t :: ts => Native d t ∧ NativeAll d ts

end

variable {d : Dialect}

lemma nativeAll_iff {ts : List Term} : NativeAll d ts ↔ ∀ t ∈ ts, t.Native d := by
  induction ts with
  | nil => simp [NativeAll]
  | cons t ts ih => simp [NativeAll, ih]

end Term

namespace Reading

open Meaning Outcome

variable {d : Dialect} {j : Nat}

lemma native_of_assembled {cs : List Term} {t : Term} (h : ∀ c ∈ cs, c.Native d) (ha : Assembled cs t) :
    t.Native d := by
  cases ha with
  | collection k hne => exact Term.nativeAll_iff.2 fun c hc => h c (Term.mem_of_mem_firsts hc)
  | chain k hne => exact Term.nativeAll_iff.2 h
  | difference s l r => exact ⟨h l (by simp), h r (by simp)⟩
  | negation t => exact h t (by simp)
  | image s hsub => exact Term.nativeAll_iff.2 fun c hc => h c (hsub c hc)

section

variable (hd : d.ClearTerms) (hc : d.ClearCuts)

include hd hc

lemma stopsAt_expansion {n : Text} (hn : Whole d n) {k : OrderedCopula}
    (hk : k ∈ [OrderedCopula.inheritance, .equivalencePredictive]) :
    StopsAt d n (d.copulas.literal (.ordered k)) := by
  have hm : d.copulas.literal (.ordered k) ∈ d.terminating :=
    List.mem_append_left _ (Vocabulary.literal_mem _ _)
  have hi : n.all d.isIdentifier = true := by
    refine all_isIdentifier_of_nameSpan (x := []) ?_
    rwa [List.append_nil]
  exact stopsAt_of_whole hc hd hn (.inr ⟨hm, Dialect.clings_eq_false hi (hc.expansion k hk)⟩)

lemma native_apply {c : Copula} {a b : Term}
    (hs : ∀ k n, a = .named k n → StopsAt d n (d.copulas.literal c)) (ha : a.Native d) (hb : b.Native d) :
    (c.apply a b).Native d := by
  have hw : ∀ {t : Term}, t.Native d → ∀ k n, t = .named k n → Whole d n := by
    rintro t ht k n rfl
    exact ht.1
  cases c with
  | ordered k => exact ⟨hs, ha, hb⟩
  | symmetric k => exact ⟨hs, ha, hb⟩
  | shorthand s =>
    cases s with
    | instanceOf => exact ⟨by simp, ⟨ha, trivial⟩, hb⟩
    | property => exact ⟨fun k n h => stopsAt_expansion hd hc (hw ha k n h) (by simp), ha, hb, trivial⟩
    | instanceProperty => exact ⟨by simp, ⟨ha, trivial⟩, hb, trivial⟩
    | equivalenceRetrospective => exact ⟨fun k n h => stopsAt_expansion hd hc (hw hb k n h) (by simp), hb, ha⟩

omit hd in
lemma native_of_atom {sigil r cs : Text} {t : Term} (hf : d.sigils.lexicon.front? cs = some (sigil, r))
    (h : atom d sigil (nameSpan d r).1 = .ok t) : t.Native d := by
  have hspan : nameSpan d ((nameSpan d r).1 ++ (nameSpan d r).2) = ((nameSpan d r).1, (nameSpan d r).2) := by
    rw [nameSpan_append]
  have ha := assembled_of_atom h
  revert ha hspan
  generalize hn : (nameSpan d r).1 = n
  intro hspan ha
  cases ha with
  | named k hne hnc =>
    refine ⟨whole_of_nameSpan hc hspan, fun hnil role hr => ?_⟩
    rw [Option.eq_none_iff_forall_ne_some]
    intro x hx
    have hcs := (Lexicon.mem_of_front? hf).2
    have hnone := Lexicon.after?_of_front? hf (Vocabulary.literal_mem _ role)
      (by simpa [hnil] using List.length_pos_iff.2 hr)
    rw [hcs, hnil, ← nameSpan_append d r, hn, Text.after?_eq_some_iff.1 hx, List.nil_append, List.append_assoc,
      Text.after?_append] at hnone
    cases hnone
  | placeholder => trivial
  | interval => trivial

end

mutual

lemma native_of_readsTerm (hd : d.ClearTerms) (hc : d.ClearCuts) {cs rest : Text} {u : Lexical.Term}
    (hw : ∀ c ∈ cs, d.spacing.isSpace c = false)
    (h : ReadsTerm d j cs u rest) {t : Term} (hf : foldTerm d u = .ok t) : t.Native d := by
  have hs := skip_eq_self hw
  cases h with
  | @set _ _ _ r _ _ hz _ _ hm =>
    obtain ⟨-, cs', hcs, h⟩ := foldTerm_set.1 hf
    have hsub : skip d r <:+ cs :=
      (skip_suffix r).trans (hs ▸ BracketFamily.eq_append_of_left? hz ▸ List.suffix_append _ r)
    exact native_of_assembled (native_of_readsMembers hd hc (fun c hc => hw c (hsub.subset hc)) hm hcs)
      (assembled_of_set h)
  | @compound _ r _ q behind _ _ _ ho hk hp _ hm =>
    obtain ⟨cs', hcs, h⟩ := foldTerm_compound.1 hf
    have hsub : skip d behind <:+ cs := (skip_suffix behind).trans
      ((suffix_of_opening? hp).trans ((suffix_of_front? hk).trans (suffix_of_opening? ho)))
    exact native_of_assembled (native_of_readsMembers hd hc (fun c hc => hw c (hsub.subset hc)) hm hcs)
      (assembled_of_compound h)
  | @statement _ r v q c behind w p _ _ _ ho hv hk hw' =>
    obtain ⟨a, ha, b, hb, h⟩ := foldTerm_statement.1 hf
    obtain ⟨k, rfl, rfl⟩ := exists_of_statement h
    have hr := suffix_of_opening? ho
    have hq := (suffix_of_readsTerm hv).trans hr
    have hbeh := (suffix_of_front? hk).trans hq
    refine native_apply hd hc ?_ (native_of_readsTerm hd hc (fun c hc => hw c (hr.subset hc)) hv ha)
      (native_of_readsTerm hd hc (fun c hc => hw c (hbeh.subset hc)) hw' hb)
    -- A subject with a name is an atom, which the copula follows in the text.
    rintro kind n rfl
    obtain ⟨s, rfl⟩ := eq_atom_of_foldTerm ha
    rw [skip_eq_self fun c hc => hw c (hq.subset hc)] at hk
    obtain ⟨hm, rfl⟩ := Lexicon.mem_of_front? hk
    have ht : d.copulas.literal k ∈ d.terminating := List.mem_append_left _ hm
    refine stopsAt_of_nameSpan hc hd (.inr ht) (after_of_before hd ht ⟨behind, rfl⟩) ?_
    generalize d.copulas.literal k ++ behind = y at hv
    cases hv with
    | atom => rw [nameSpan_append]
  | atom _ _ _ hfr => exact native_of_atom hc hfr (foldTerm_atom.1 hf)

lemma native_of_readsMembers (hd : d.ClearTerms) (hc : d.ClearCuts) {right cs rest : Text} {us : List Lexical.Term}
    (hw : ∀ c ∈ cs, d.spacing.isSpace c = false) (h : ReadsMembers d j right cs us rest) {ts : List Term}
    (hf : foldTerms d us = .ok ts) : ∀ t ∈ ts, t.Native d := by
  cases h with
  | last ht =>
    rw [foldTerms] at hf
    obtain ⟨a, ha, hf⟩ := bind_eq_ok.1 hf
    cases hf
    rintro t hm
    rw [List.mem_singleton.1 hm]
    exact native_of_readsTerm hd hc hw ht ha
  | more ht hs hm =>
    rw [foldTerms] at hf
    obtain ⟨a, ha, hf⟩ := bind_eq_ok.1 hf
    obtain ⟨as, has, hf⟩ := bind_eq_ok.1 hf
    cases hf
    have hsub := (suffix_of_opening? hs).trans (suffix_of_readsTerm ht)
    rintro t hmem
    rcases List.mem_cons.1 hmem with rfl | hmem
    · exact native_of_readsTerm hd hc hw ht ha
    · exact native_of_readsMembers hd hc (fun c hc => hw c (hsub.subset hc)) hm has t hmem

end

structure Own (d : Dialect) (p n e : Text) : Prop where
  plain : Plain d p n
  whole : Whole d n
  copula : e ∈ d.copulas.lexicon.entries → StopsAt d n e

lemma own_of_digits (hd : d.ClearTerms) (hc : d.ClearCuts) {r : AtomRole} (hr : r ≠ .name .word) {n : Text}
    (hn : ∀ c ∈ n, c ∈ Text.plainDigits) (e : Text) :
    Own d (d.sigils.literal r) n e := by
  refine ⟨fun h => absurd (d.sigils.literal_injective (h.trans d.word_sigil.symm)) hr, ?_, fun he => ?_⟩
  · have h := stopsAt_of_digits hc hd hn (.inl rfl) [] after_self
    rwa [List.append_nil] at h
  · exact stopsAt_of_digits hc hd hn (.inr (List.mem_append_left _ he))

mutual

lemma own_unfoldTerm (hd : d.ClearTerms) (hc : d.ClearCuts) {t : Term} (ht : t.Native d) {e : Text}
    (he : e ∈ d.copulas.lexicon.entries → ∀ k n, t = .named k n → StopsAt d n e) :
    (unfoldTerm d t).EachAtom d (Own d) e := by
  cases t with
  | named k n => exact ⟨ht.2, ht.1, fun h => he h k n rfl⟩
  | placeholder => exact own_of_digits hd hc (by simp) (by simp) e
  | interval n =>
    refine own_of_digits hd hc (by simp) (fun c hm => ?_) e
    exact Text.isPlainDigit_iff_mem.1 (Text.isPlainDigit_of_mem_ofNat hm)
  | collection k cs =>
    cases k with
    | set s =>
      refine Lexical.Term.eachAtomAll_of_forall (own_unfoldTerms hd hc ht ?_)
      simp [Dialect.closers, SetBrackets.rights, Role.mem_members]
    | junction j => exact Lexical.Term.eachAtomAll_of_forall (own_unfoldTerms hd hc ht (by simp [Dialect.closers]))
  | chain k cs => exact Lexical.Term.eachAtomAll_of_forall (own_unfoldTerms hd hc ht (by simp [Dialect.closers]))
  | difference s l r =>
    have hs := d.notMem_copulas List.mem_cons_self
    have hr := d.notMem_copulas (e := d.compound.right) (by simp [Dialect.closers])
    exact ⟨own_unfoldTerm hd hc ht.1 fun h => absurd h hs, own_unfoldTerm hd hc ht.2 fun h => absurd h hr⟩
  | negation t =>
    have hr := d.notMem_copulas (e := d.compound.right) (by simp [Dialect.closers])
    have ho : (unfoldTerm d t).EachAtom d (Own d) d.compound.right :=
      own_unfoldTerm hd hc (t := t) ht fun h => absurd h hr
    exact ho
  | image s i cs =>
    have hr : d.compound.right ∈ d.closers := by simp [Dialect.closers]
    have hcs := own_unfoldTerms hd hc ht hr
    refine Lexical.Term.eachAtomAll_of_forall fun u hu => ?_
    rcases List.mem_append.1 hu with hu | hu
    · exact hcs u (List.mem_of_mem_take hu)
    rcases List.mem_cons.1 hu with rfl | hu
    · exact ⟨own_of_digits hd hc (by simp) (by simp) _, own_of_digits hd hc (by simp) (by simp) _⟩
    · exact hcs u (List.mem_of_mem_drop hu)
  | ordered c a b =>
    have hr := d.notMem_copulas (e := d.statement.right) (by simp [Dialect.closers])
    exact ⟨own_unfoldTerm hd hc ht.2.1 fun _ => ht.1, own_unfoldTerm hd hc ht.2.2 fun h => absurd h hr⟩
  | symmetric c a b =>
    have hr := d.notMem_copulas (e := d.statement.right) (by simp [Dialect.closers])
    exact ⟨own_unfoldTerm hd hc ht.2.1 fun _ => ht.1, own_unfoldTerm hd hc ht.2.2 fun h => absurd h hr⟩

lemma own_unfoldTerms (hd : d.ClearTerms) (hc : d.ClearCuts) {ts : List Term} (ht : Term.NativeAll d ts)
    {right : Text} (hright : right ∈ d.closers) :
    ∀ u ∈ unfoldTerms d ts, u.EachAtom d (Own d) d.separator ∧ u.EachAtom d (Own d) right := by
  cases ts with
  | nil => simp [unfoldTerms]
  | cons t ts =>
    have hs := d.notMem_copulas List.mem_cons_self
    have hr := d.notMem_copulas (List.mem_cons_of_mem _ hright)
    rintro u hu
    rcases List.mem_cons.1 hu with rfl | hu
    · exact ⟨own_unfoldTerm hd hc ht.1 fun h => absurd h hs, own_unfoldTerm hd hc ht.1 fun h => absurd h hr⟩
    · exact own_unfoldTerms hd hc ht.2 hright u hu

end

end Reading

end NarseseDialects
