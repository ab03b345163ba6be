import NarseseDialects.Proofs.Meaning.Unfolding

namespace NarseseDialects.Meaning

open Outcome

variable {d : Dialect} {cs : List Term} {t : Term}

inductive Assembled : List Term → Term → Prop
  | collection (k : CollectionKind) {cs} : cs ≠ [] → Assembled cs (.collection k (Term.firsts cs))
  | chain (k : Chain) {cs} : cs ≠ [] → Assembled cs (.chain k cs)
  | difference (s : Side) (l r : Term) : Assembled [l, r] (.difference s l r)
  | negation (t : Term) : Assembled [t] (.negation t)
  | image (s : Side) {cs cs' : List Term} {i : Nat} : (∀ c ∈ cs', c ∈ cs) → cs' ≠ [] → i ≤ cs'.length →
      .placeholder ∉ cs' → Assembled cs (.image s i cs')

lemma assembled_of_collection? {k : CollectionKind} (h : Term.collection? k cs = .ok t) : Assembled cs t := by
  rw [Term.collection?] at h
  split at h
  · cases h
  next he =>
    cases h
    exact .collection k (by simpa using he)

lemma notMem_eraseIdx_findIdx {p : Term → Bool} (h : cs.countP p = 1) :
    ∀ c ∈ cs.eraseIdx (cs.findIdx p), p c = false := by
  have hlt := findIdx_lt_of_countP h
  have hp : p cs[cs.findIdx p] = true := List.findIdx_getElem
  rw [← List.take_append_drop (cs.findIdx p) cs, List.drop_eq_getElem_cons hlt, List.countP_append,
    List.countP_cons_of_pos hp] at h
  intro c hc
  rw [List.eraseIdx_eq_take_drop_succ, List.mem_append] at hc
  rw [Bool.eq_false_iff]
  intro hpc
  have hpos : 0 < (cs.take (cs.findIdx p)).countP p ∨ 0 < (cs.drop (cs.findIdx p + 1)).countP p :=
    hc.imp (fun hc => List.countP_pos_iff.2 ⟨c, hc, hpc⟩) fun hc => List.countP_pos_iff.2 ⟨c, hc, hpc⟩
  omega

lemma assembled_of_image {s : Side} (h : image s cs = .ok t) : Assembled cs t := by
  obtain ⟨hone, hne, rfl⟩ := image_eq_ok.1 h
  have hlt := findIdx_lt_of_countP hone
  refine .image s (fun c => List.mem_of_mem_eraseIdx) hne ?_ fun hc => ?_
  · rw [List.length_eraseIdx_of_lt hlt]
    omega
  · have hn := notMem_eraseIdx_findIdx hone .placeholder hc
    cases hn

lemma assembled_of_compound {c : Text} (h : compound d c cs = .ok t) : Assembled cs t := by
  unfold compound at h
  split at h
  · cases h
  · exact assembled_of_image h
  · exact assembled_of_collection? (ofTermFault_eq_ok.1 h)
  next k _ =>
    rw [ofTermFault_eq_ok, Term.chain?] at h
    split at h
    · cases h
    next he =>
      cases h
      exact .chain k (by simpa using he)
  next s _ =>
    split at h
    · cases h
      exact .difference s _ _
    · cases h
  · split at h
    · cases h
      exact .negation _
    · cases h

lemma assembled_of_set {l : Text} (h : set d l cs = .ok t) : Assembled cs t := by
  rw [set] at h
  split at h
  · cases h
  · exact assembled_of_collection? (ofTermFault_eq_ok.1 h)

lemma exists_of_statement {c : Text} {a b : Term} (h : statement d c a b = .ok t) :
    ∃ k, c = d.copulas.literal k ∧ t = k.apply a b := by
  rw [statement] at h
  split at h
  · cases h
  next k hk =>
    cases h
    exact ⟨k, (Vocabulary.role?_eq_some_iff.1 hk).symm, rfl⟩

inductive AtomAssembled (d : Dialect) : Text → Text → Term → Prop
  | named (k : NameKind) {n} : n ≠ [] → n.all Text.isNameChar = true →
      AtomAssembled d (d.sigils.literal (.name k)) n (.named k n)
  | placeholder : AtomAssembled d (d.sigils.literal .placeholder) [] .placeholder
  | interval {n} {m : Nat} : (Text.ofNat m).length ≤ Written.digitLimit →
      AtomAssembled d (d.sigils.literal .interval) n (.interval m)

lemma assembled_of_atom {p n : Text} (h : atom d p n = .ok t) : AtomAssembled d p n t := by
  obtain ⟨r, rfl⟩ : ∃ r, d.sigils.literal r = p := by
    rw [atom] at h
    split at h
    · cases h
    next r hr => exact ⟨r, Vocabulary.role?_eq_some_iff.1 hr⟩
  cases r with
  | name k =>
    obtain ⟨hne, hn, rfl⟩ := atom_name_eq_ok.1 h
    exact .named k hne hn
  | placeholder =>
    obtain ⟨rfl, rfl⟩ := atom_placeholder_eq_ok.1 h
    exact .placeholder
  | interval =>
    obtain ⟨hne, hn, hl, rfl⟩ := atom_interval_eq_ok.1 h
    exact .interval ((Text.length_ofNat_digitsValue_le hn hne).trans hl)

lemma wellFormed_of_assembled (h : ∀ c ∈ cs, c.WellFormed) (ha : Assembled cs t) : t.WellFormed := by
  cases ha with
  | collection k hne => exact Term.wellFormed_of_collection? h (by rw [Term.collection?, if_neg (by simpa using hne)])
  | chain k hne => exact ⟨hne, Term.wellFormedAll_iff.2 h⟩
  | difference s l r => exact ⟨h l (by simp), h r (by simp)⟩
  | negation t => exact h t (by simp)
  | image s hsub hne hi => exact ⟨hne, hi, Term.wellFormedAll_iff.2 fun c hc => h c (hsub c hc)⟩

lemma spellable_of_assembled {s : Spelling} (h : ∀ c ∈ cs, c.Spellable s) (ha : Assembled cs t) : t.Spellable s := by
  cases ha with
  | collection k hne => exact Term.spellableAll_iff.2 fun c hc => h c (Term.mem_of_mem_firsts hc)
  | chain k hne => exact Term.spellableAll_iff.2 h
  | difference s l r => exact ⟨h l (by simp), h r (by simp)⟩
  | negation t => exact h t (by simp)
  | image s hsub _ _ hp => exact ⟨hp, Term.spellableAll_iff.2 fun c hc => h c (hsub c hc)⟩

lemma spellable_apply {s : Spelling} {k : Copula} {a b : Term} (ha : a.Spellable s) (hb : b.Spellable s) :
    (k.apply a b).Spellable s := by
  cases k with
  | ordered k => exact ⟨ha, hb⟩
  | symmetric k => exact ⟨ha, hb⟩
  | shorthand h =>
    cases h with
    | instanceOf => exact ⟨⟨ha, trivial⟩, hb⟩
    | property => exact ⟨ha, hb, trivial⟩
    | instanceProperty => exact ⟨⟨ha, trivial⟩, hb, trivial⟩
    | equivalenceRetrospective => exact ⟨hb, ha⟩

mutual

lemma wellFormed_of_foldTerm (u : Lexical.Term) {t : Term} (h : foldTerm d u = .ok t) :
    t.WellFormed ∧ t.Spellable .latex := by
  cases u with
  | atom p n s =>
    cases assembled_of_atom (foldTerm_atom.1 h) with
    | named k hne hn => exact ⟨⟨hne, hn⟩, rfl⟩
    | placeholder => exact ⟨trivial, trivial⟩
    | interval hl => exact ⟨trivial, hl⟩
  | compound c us s =>
    obtain ⟨cs, hcs, h⟩ := foldTerm_compound.1 h
    have ha := assembled_of_compound h
    have hall := wellFormed_of_foldTerms us hcs
    exact ⟨wellFormed_of_assembled (fun c hc => (hall c hc).1) ha,
      spellable_of_assembled (fun c hc => (hall c hc).2) ha⟩
  | set l us r s =>
    obtain ⟨-, cs, hcs, h⟩ := foldTerm_set.1 h
    have ha := assembled_of_set h
    have hall := wellFormed_of_foldTerms us hcs
    exact ⟨wellFormed_of_assembled (fun c hc => (hall c hc).1) ha,
      spellable_of_assembled (fun c hc => (hall c hc).2) ha⟩
  | statement c v w s =>
    obtain ⟨a, ha, b, hb, h⟩ := foldTerm_statement.1 h
    obtain ⟨k, -, rfl⟩ := exists_of_statement h
    have hv := wellFormed_of_foldTerm v ha
    have hw := wellFormed_of_foldTerm w hb
    exact ⟨Term.wellFormed_apply hv.1 hw.1, spellable_apply hv.2 hw.2⟩

lemma wellFormed_of_foldTerms (us : List Lexical.Term) {cs : List Term} (h : foldTerms d us = .ok cs) :
    ∀ c ∈ cs, c.WellFormed ∧ c.Spellable .latex := by
  cases us with
  | nil =>
    cases h
    simp
  | cons u us =>
    rw [foldTerms] at h
    obtain ⟨a, ha, h⟩ := bind_eq_ok.1 h
    obtain ⟨as, has, h⟩ := bind_eq_ok.1 h
    cases h
    intro c hc
    rcases List.mem_cons.1 hc with rfl | hc
    · exact wellFormed_of_foldTerm u ha
    · exact wellFormed_of_foldTerms us has c hc

end

lemma eq_atom_of_foldTerm {u : Lexical.Term} {k : NameKind} {n : Text} (h : foldTerm d u = .ok (.named k n)) :
    ∃ s, u = .atom (d.sigils.literal (.name k)) n s := by
  cases u with
  | atom p m s =>
    cases assembled_of_atom (foldTerm_atom.1 h) with
    | named => exact ⟨s, rfl⟩
  | compound c us s =>
    obtain ⟨cs, -, h⟩ := foldTerm_compound.1 h
    cases assembled_of_compound h
  | set l us r s =>
    obtain ⟨-, cs, -, h⟩ := foldTerm_set.1 h
    cases assembled_of_set h
  | statement c v w s =>
    obtain ⟨a, -, b, -, h⟩ := foldTerm_statement.1 h
    obtain ⟨c, -, hk⟩ := exists_of_statement h
    rcases c with c | c | (_ | _ | _ | _) <;> cases hk

lemma notMem_of_mapM_number {ns : List Text} {vs : List Double} (hns : ∀ n ∈ ns, Lexical.SpelledNumeral n)
    (h : ns.mapM number = .ok vs) : Double.finite true .zero ∉ vs := by
  induction ns generalizing vs with
  | nil =>
    cases h
    exact List.not_mem_nil
  | cons n ns ih =>
    rw [List.mapM_cons] at h
    obtain ⟨v, hv, h⟩ := bind_eq_ok.1 h
    obtain ⟨ws, hws, h⟩ := bind_eq_ok.1 h
    cases h
    obtain ⟨x, hx, -⟩ := hns n List.mem_cons_self
    rw [number, Written.real?_of_ofNumeral? hx] at hv
    cases hv
    rw [List.mem_cons, not_or]
    refine ⟨fun hz => ?_, ih (fun m hm => hns m (List.mem_cons_of_mem n hm)) hws⟩
    rw [Double.ofDecimalText, Double.ofDecimal] at hz
    cases hm : Magnitude.ofDecimal? x.digits x.exponent with
    | none =>
      rw [hm] at hz
      cases hz
    | some y =>
      rw [hm] at hz
      cases hz

lemma spellable_of_measure {q : Quantity} {ns : List Text} {m : Measure q} (hns : ∀ n ∈ ns, Lexical.SpelledNumeral n)
    (h : measure q ns = .ok m) : m.Spellable := by
  obtain ⟨vs, hvs, h⟩ := bind_eq_ok.1 h
  rw [mapError_eq_ok, Measure.ofValues] at h
  split at h
  · split at h
    · cases h
    · cases h
      exact notMem_of_mapM_number hns hvs
  · cases h

lemma spellable_of_stamp {literal : Text} {s : Stamp} (h : stamp d literal = .ok s) : s.Spellable := by
  rw [stamp] at h
  split at h
  · cases h
    trivial
  split at h
  · cases h
    trivial
  split at h
  next ht =>
    cases h
    obtain ⟨content, -, hc⟩ := Option.map_eq_some_iff.1 ht
    exact Written.length_ofNat_of_whole hc
  · cases h

lemma exists_of_mood {p : Punctuation} {tr : Truth} {m : Mood} (h : mood p tr = .ok m) :
    m.punctuation = p ∧ ∀ t ∈ m.truth?, t = tr := by
  cases p with
  | judgement | goal =>
    cases h
    exact ⟨rfl, fun t ht => (Option.some.inj ht).symm⟩
  | question | quest =>
    rw [mood] at h
    split at h
    · cases h
      exact ⟨rfl, fun t ht => by cases ht⟩
    · cases h

lemma exists_of_foldSentence {s : Lexical.Sentence} {x : Sentence} (h : foldSentence d s = .ok x) :
    foldTerm d s.term = .ok x.term ∧ s.punctuation = d.punctuations.literal x.mood.punctuation ∧
      stamp d s.stamp = .ok x.stamp ∧ ∃ tr, measure .truth s.truth = .ok tr ∧ ∀ t ∈ x.mood.truth?, t = tr := by
  obtain ⟨t, ht, h⟩ := bind_eq_ok.1 h
  rw [atNode_eq_ok, sentence] at h
  split at h
  · cases h
  next p hp =>
  obtain ⟨tr, htr, h⟩ := bind_eq_ok.1 h
  obtain ⟨st, hst, h⟩ := bind_eq_ok.1 h
  obtain ⟨m, hm, h⟩ := bind_eq_ok.1 h
  cases h
  obtain ⟨hmp, hmt⟩ := exists_of_mood hm
  refine ⟨ht, ?_, hst, tr, htr, hmt⟩
  rw [hmp]
  exact (Vocabulary.role?_eq_some_iff.1 hp).symm

lemma exists_of_foldTask {k : Lexical.Task} {x : Task} (h : foldTask d k = .ok x) :
    foldSentence d k.sentence = .ok x.sentence ∧ measure .budget k.budget = .ok x.budget := by
  obtain ⟨y, hy, h⟩ := bind_eq_ok.1 h
  rw [atNode_eq_ok, task] at h
  obtain ⟨b, hb, h⟩ := bind_eq_ok.1 h
  cases h
  exact ⟨hy, hb⟩

lemma spellable_of_foldSentence {s : Lexical.Sentence} {x : Sentence}
    (hns : ∀ n ∈ s.truth, Lexical.SpelledNumeral n) (h : foldSentence d s = .ok x) :
    x.term.WellFormed ∧ x.Spellable .latex := by
  obtain ⟨ht, -, hst, tr, htr, hm⟩ := exists_of_foldSentence h
  obtain ⟨hw, hs⟩ := wellFormed_of_foldTerm _ ht
  exact ⟨hw, hs, fun t h => hm t h ▸ spellable_of_measure hns htr, spellable_of_stamp hst⟩

end NarseseDialects.Meaning

namespace NarseseDialects

namespace Lexical

def Node.numerals : Node → List Text :=
  Item.elim (fun _ => []) Sentence.truth fun k => k.budget ++ k.sentence.truth

lemma Node.Spelled.numerals {d : Dialect} {fits : AtomRole → Text → Bool} {n : Node} (h : Node.Spelled d fits n) :
    ∀ x ∈ Node.numerals n, SpelledNumeral x := by
  cases n with
  | term t => exact List.forall_mem_nil _
  | sentence s => exact Sentence.Spelled.truth h
  | task k => exact List.forall_mem_append.2 ⟨h.budget, h.sentence.truth⟩

end Lexical

namespace Meaning

open Outcome

lemma foldTerm_subject {d : Dialect} {m : Lexical.Node} {v : Value} (h : fold d m = .ok v) :
    foldTerm d m.subject = .ok v.subject := by
  cases m with
  | term u =>
    obtain ⟨t, ht, rfl⟩ := map_eq_ok.1 h
    exact ht
  | sentence s =>
    obtain ⟨x, hx, rfl⟩ := map_eq_ok.1 h
    exact (exists_of_foldSentence hx).1
  | task k =>
    obtain ⟨x, hx, rfl⟩ := map_eq_ok.1 h
    exact (exists_of_foldSentence (exists_of_foldTask hx).1).1

lemma wellFormed_of_fold {d : Dialect} {n : Lexical.Node} {v : Value}
    (hns : ∀ m ∈ Lexical.Node.numerals n, Lexical.SpelledNumeral m) (h : fold d n = .ok v) :
    v.WellFormed ∧ v.Spellable .latex := by
  cases n with
  | term u =>
    obtain ⟨t, ht, rfl⟩ := map_eq_ok.1 h
    exact wellFormed_of_foldTerm u ht
  | sentence s =>
    obtain ⟨x, hx, rfl⟩ := map_eq_ok.1 h
    exact spellable_of_foldSentence hns hx
  | task k =>
    obtain ⟨x, hx, rfl⟩ := map_eq_ok.1 h
    obtain ⟨hk, hb⟩ := exists_of_foldTask hx
    obtain ⟨hw, hs⟩ := spellable_of_foldSentence (fun m hm => hns m (List.mem_append_right _ hm)) hk
    exact ⟨hw, hs, spellable_of_measure (fun m hm => hns m (List.mem_append_left _ hm)) hb⟩

end Meaning

end NarseseDialects
