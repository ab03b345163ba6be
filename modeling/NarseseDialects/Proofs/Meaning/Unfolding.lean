import NarseseDialects.Proofs.Meaning.Folding

namespace NarseseDialects

namespace Term

variable {t : Term} {i : Nat} {cs : List Term}

lemma same_placeholder_iff : t.same .placeholder = true ↔ t = .placeholder := by
  cases t <;> simp [same]

lemma countP_placeholder_eq_zero_iff : cs.countP (·.same .placeholder) = 0 ↔ placeholder ∉ cs := by
  rw [List.countP_eq_zero]
  constructor
  · intro h hp
    exact h _ hp rfl
  · rintro hp c hc hs
    obtain rfl := same_placeholder_iff.1 hs
    exact hp hc

lemma countP_withPlaceholder :
    (withPlaceholder i cs).countP (·.same .placeholder) = cs.countP (·.same .placeholder) + 1 := by
  rw [withPlaceholder, List.countP_append, List.countP_cons_of_pos rfl, ← Nat.add_assoc, ← List.countP_append,
    List.take_append_drop]

lemma eraseIdx_withPlaceholder (hi : i ≤ cs.length) : (withPlaceholder i cs).eraseIdx i = cs := by
  have hl : (cs.take i).length = i := List.length_take_of_le hi
  rw [withPlaceholder, List.eraseIdx_append_of_length_le hl.le, hl, Nat.sub_self]
  exact List.take_append_drop i cs

lemma findIdx_withPlaceholder (hi : i ≤ cs.length) (hp : placeholder ∉ cs) :
    (withPlaceholder i cs).findIdx (·.same .placeholder) = i := by
  have hn : ∀ c ∈ cs.take i, c.same .placeholder = false := by
    intro c hc
    rw [Bool.eq_false_iff, ne_eq, same_placeholder_iff]
    rintro rfl
    exact hp (List.mem_of_mem_take hc)
  have hg : placeholder.same .placeholder = true := rfl
  rw [withPlaceholder, List.findIdx_append, List.findIdx_eq_length_of_false hn, if_neg (Nat.lt_irrefl _),
    List.findIdx_cons, hg, List.length_take_of_le hi]
  exact Nat.zero_add i

end Term

namespace Meaning

open Outcome

variable {d : Dialect} {s : Spelling}

lemma ofTermFault_eq_ok {α : Type} {x : Except Term.Fault α} {a : α} : ofTermFault x = .ok a ↔ x = .ok a :=
  mapError_eq_ok

section

variable {n : Text} {t : Term}

lemma atom_eq_ok {r : AtomRole} :
    atom d (d.sigils.literal r) n = .ok t ↔
      Term.Builder.nameFault? (.ofAtomRole r) n = none ∧
        Term.Builder.build ⟨.ofAtomRole r, .nothing, some n, []⟩ = .ok t := by
  rw [atom, Vocabulary.role?_literal]
  simp only [bind_eq_ok, ofTermFault_eq_ok, mapError_eq_ok, Term.Builder.setName, Term.Builder.start]
  cases Term.Builder.nameFault? (.ofAtomRole r) n with
  | none => simp
  | some f => simp

lemma atom_name_eq_ok {k : NameKind} :
    atom d (d.sigils.literal (.name k)) n = .ok t ↔ n ≠ [] ∧ n.all Text.isNameChar = true ∧ .named k n = t := by
  rw [atom_eq_ok, Kind.ofAtomRole, Term.Builder.nameFault?, Term.Builder.build]
  simp only [mapError_eq_ok, Term.named?]
  by_cases he : n = []
  · simp [he]
  · cases n.all Text.isNameChar <;> simp [he]

lemma atom_placeholder_eq_ok : atom d (d.sigils.literal .placeholder) n = .ok t ↔ n = [] ∧ .placeholder = t := by
  rw [atom_eq_ok, Kind.ofAtomRole, Term.Builder.nameFault?, Term.Builder.build]
  cases n <;> simp

lemma atom_interval_eq_ok :
    atom d (d.sigils.literal .interval) n = .ok t ↔
      n ≠ [] ∧ n.all Text.isPlainDigit = true ∧ n.length ≤ Written.digitLimit ∧
        .interval (Text.digitsValue n) = t := by
  rw [atom_eq_ok, Kind.ofAtomRole, Term.Builder.nameFault?, Term.Builder.build]
  simp only [Term.Builder.interval, Written.limited]
  by_cases he : n = []
  · simp [he]
  cases n.all Text.isPlainDigit with
  | false => simp [he]
  | true =>
    by_cases hl : Written.digitLimit < n.length
    · simp [he, hl, Nat.not_le.2 hl]
    · simp [he, hl, Nat.not_lt.1 hl]

end

lemma atom_placeholder : atom d (d.sigils.literal .placeholder) [] = .ok .placeholder :=
  atom_placeholder_eq_ok.2 ⟨rfl, rfl⟩

lemma atom_interval {n : Nat} (h : (Text.ofNat n).length ≤ Written.digitLimit) :
    atom d (d.sigils.literal .interval) (Text.ofNat n) = .ok (.interval n) :=
  atom_interval_eq_ok.2 ⟨Text.ofNat_ne_nil n, Text.all_ofNat n, h, by rw [Text.digitsValue_ofNat]⟩

section

variable {cs : List Term} (hne : cs ≠ [])

include hne

lemma collection?_of_pairwise {k : CollectionKind} (h : cs.Pairwise fun t u => t.same u = false) :
    Term.collection? k cs = .ok (.collection k cs) := by
  rw [Term.collection?, if_neg (by simpa using hne), Term.firsts_eq_self h]

lemma chain?_of_ne_nil {k : Chain} : Term.chain? k cs = .ok (.chain k cs) := by
  rw [Term.chain?, if_neg (by simpa using hne)]

lemma image?_of_le {side : Side} {i : Nat} (hi : i ≤ cs.length) :
    Term.image? side (.whole i) cs = .ok (.image side i cs) := by
  have hx : Term.index? (.whole i) cs.length = some i := if_pos hi
  rw [Term.image?, if_neg (by simpa using hne), hx]

end

section

variable {cs : List Term} {t : Term} {side : Side}

lemma findIdx_lt_of_countP {p : Term → Bool} (h : cs.countP p = 1) : cs.findIdx p < cs.length := by
  rw [List.findIdx_lt_length]
  exact List.countP_pos_iff.1 (h ▸ Nat.one_pos)

lemma image_eq_ok :
    image side cs = .ok t ↔
      cs.countP (·.same .placeholder) = 1 ∧ cs.eraseIdx (cs.findIdx (·.same .placeholder)) ≠ [] ∧
        .image side (cs.findIdx (·.same .placeholder)) (cs.eraseIdx (cs.findIdx (·.same .placeholder))) = t := by
  simp only [image]
  by_cases hone : cs.countP (·.same .placeholder) = 1
  · rw [if_pos hone, ofTermFault_eq_ok, and_iff_right hone]
    by_cases hne : cs.eraseIdx (cs.findIdx (·.same .placeholder)) = []
    · simp [Term.image?, hne]
    · have hlt := findIdx_lt_of_countP hone
      rw [image?_of_le hne (by rw [List.length_eraseIdx_of_lt hlt]; omega), Except.ok.injEq, and_iff_right hne]
  · simp [hone, fail]

lemma image_withPlaceholder {i : Nat} (hne : cs ≠ []) (hi : i ≤ cs.length) (hp : Term.placeholder ∉ cs) :
    image side (Term.withPlaceholder i cs) = .ok (.image side i cs) := by
  rw [image_eq_ok, Term.countP_withPlaceholder, Term.countP_placeholder_eq_zero_iff.2 hp,
    Term.findIdx_withPlaceholder hi hp, Term.eraseIdx_withPlaceholder hi]
  exact ⟨rfl, hne, rfl⟩

end

lemma map_unfoldTerm_withPlaceholder (i : Nat) (cs : List Term) :
    (unfoldTerms d cs).take i ++ .atom (d.sigils.literal .placeholder) [] none :: (unfoldTerms d cs).drop i =
      (Term.withPlaceholder i cs).map (unfoldTerm d) := by
  rw [Term.withPlaceholder, unfoldTerms_eq_map, List.map_append, List.map_cons, List.map_take, List.map_drop,
    unfoldTerm]

lemma foldTerms_map_unfoldTerm {cs : List Term} :
    foldTerms d (cs.map (unfoldTerm d)) = .ok cs ↔ ∀ c ∈ cs, foldTerm d (unfoldTerm d c) = .ok c := by
  rw [foldTerms_eq_ok_iff, List.forall₂_map_left_iff, List.forall₂_same]

lemma foldTerms_withPlaceholder {i : Nat} {cs : List Term} (h : foldTerms d (unfoldTerms d cs) = .ok cs) :
    foldTerms d ((Term.withPlaceholder i cs).map (unfoldTerm d)) = .ok (Term.withPlaceholder i cs) := by
  rw [unfoldTerms_eq_map, foldTerms_map_unfoldTerm] at h
  apply foldTerms_map_unfoldTerm.2
  intro c hc
  rcases List.mem_append.1 hc with hc | hc
  · exact h c (List.mem_of_mem_take hc)
  rcases List.mem_cons.1 hc with rfl | hc
  · exact foldTerm_atom.2 atom_placeholder
  · exact h c (List.mem_of_mem_drop hc)

mutual

lemma foldTerm_unfoldTerm {t : Term} (hw : t.WellFormed) (hs : t.Spellable s) :
    foldTerm d (unfoldTerm d t) = .ok t := by
  cases t with
  | named k n => exact foldTerm_atom.2 (atom_name_eq_ok.2 ⟨hw.1, hw.2, rfl⟩)
  | placeholder => exact foldTerm_atom.2 atom_placeholder
  | interval n => exact foldTerm_atom.2 (atom_interval hs)
  | collection k cs =>
    obtain ⟨hne, hp, hcs⟩ := hw
    have hc := foldTerms_unfoldTerms hcs hs
    cases k with
    | set side =>
      have hb : wrongBracket d (d.sets.pair side).left (d.sets.pair side).right = false := by
        rw [wrongBracket, d.sets.rightOf?_pair]
        exact bne_self_eq_false _
      refine foldTerm_set.2 ⟨hb, cs, hc, ?_⟩
      rw [set, d.sets.side?_pair]
      exact congrArg ofTermFault (collection?_of_pairwise hne hp)
    | junction j =>
      refine foldTerm_compound.2 ⟨cs, hc, ?_⟩
      simp only [compound, Vocabulary.role?_literal]
      exact congrArg ofTermFault (collection?_of_pairwise hne hp)
  | chain k cs =>
    refine foldTerm_compound.2 ⟨cs, foldTerms_unfoldTerms hw.2 hs, ?_⟩
    simp only [compound, Vocabulary.role?_literal]
    exact congrArg ofTermFault (chain?_of_ne_nil hw.1)
  | difference side l r =>
    refine foldTerm_compound.2 ⟨[l, r], ?_, ?_⟩
    · exact foldTerms_eq_ok_iff.2 (.cons (foldTerm_unfoldTerm hw.1 hs.1) (.cons (foldTerm_unfoldTerm hw.2 hs.2) .nil))
    · simp only [compound, Vocabulary.role?_literal]
  | negation t =>
    refine foldTerm_compound.2 ⟨[t], foldTerms_eq_ok_iff.2 (.cons (foldTerm_unfoldTerm hw hs) .nil), ?_⟩
    simp only [compound, Vocabulary.role?_literal]
  | image side i cs =>
    -- The placeholder is among the children of the tree, so the index is found again by its place.
    obtain ⟨hne, hi, hcs⟩ := hw
    have hc := foldTerms_unfoldTerms hcs hs.2
    refine foldTerm_compound.2 ⟨Term.withPlaceholder i cs, ?_, ?_⟩
    · rw [map_unfoldTerm_withPlaceholder]
      exact foldTerms_withPlaceholder hc
    · simp only [compound, Vocabulary.role?_literal]
      exact image_withPlaceholder hne hi hs.1
  | ordered c a b =>
    refine foldTerm_statement.2 ⟨a, foldTerm_unfoldTerm hw.1 hs.1, b, foldTerm_unfoldTerm hw.2 hs.2, ?_⟩
    rw [statement, Vocabulary.role?_literal]
    rfl
  | symmetric c a b =>
    refine foldTerm_statement.2 ⟨a, foldTerm_unfoldTerm hw.1 hs.1, b, foldTerm_unfoldTerm hw.2 hs.2, ?_⟩
    rw [statement, Vocabulary.role?_literal]
    rfl

lemma foldTerms_unfoldTerms {ts : List Term} (hw : Term.WellFormedAll ts) (hs : Term.SpellableAll s ts) :
    foldTerms d (unfoldTerms d ts) = .ok ts := by
  cases ts with
  | nil => rfl
  | cons t ts =>
    rw [unfoldTerms, foldTerms, foldTerm_unfoldTerm hw.1 hs.1, foldTerms_unfoldTerms hw.2 hs.2]
    rfl

end

lemma number_numeral {v : Double} (hu : v.inUnit = true) : number v.numeral = .ok v := by
  by_cases hz : v = .finite true .zero
  · have hr : Written.real? (Double.numeral (.finite true .zero)) = some (.finite true .zero) := by decide +kernel
    rw [hz, number, hr]
    rfl
  · obtain ⟨x, rfl⟩ := exists_magnitude hu hz
    rw [number, Double.real?_numeral]
    rfl

lemma mapM_number_numeral {vs : List Double} (h : ∀ v ∈ vs, v.inUnit = true) :
    (vs.map Double.numeral).mapM number = .ok vs := by
  induction vs with
  | nil => rfl
  | cons v vs ih =>
    rw [List.map_cons, List.mapM_cons, number_numeral (h v List.mem_cons_self),
      ih fun w hw => h w (List.mem_cons_of_mem _ hw)]
    rfl

lemma measure_unfoldMeasure {q : Quantity} (m : Measure q) : measure q (unfoldMeasure m) = .ok m := by
  rw [measure, unfoldMeasure, mapM_number_numeral m.inUnit, ok_bind, Measure.ofValues_values]
  rfl

/-- Tenses are written, and no fixed time is written like one of them. -/
def TellsStamps (d : Dialect) : Prop :=
  ∀ t, d.stamps.tenses.literal t ≠ [] ∧
    ∀ time : Int, d.stamps.tenses.literal t ≠ d.stamps.fixedLeft ++ Text.ofInt time ++ d.stamps.fixedRight

def TellsTenses (d : Dialect) : Prop :=
  ∀ t, d.stamps.tenses.literal t ≠ [] ∧ ∀ c ∈ d.stamps.tenses.literal t, Text.isPlainDigit c = false

lemma TellsTenses.tellsStamps (h : TellsTenses d) : TellsStamps d := by
  intro t
  refine ⟨(h t).1, ?_⟩
  intro time he
  obtain ⟨c, hm, hc⟩ := Text.exists_digit_of_ofInt time
  have hn := (h t).2 c (by simp [he, hm])
  rw [hc] at hn
  cases hn

lemma fixedContent?_append {t : Text} (hne : t ≠ []) :
    fixedContent? d (d.stamps.fixedLeft ++ t ++ d.stamps.fixedRight) = some t := by
  rw [fixedContent?, List.append_assoc, Text.after?_append, Option.bind_eq_bind, Option.bind_some,
    Text.before?_append, Option.bind_some, if_neg (by simpa using hne)]

section

variable (hd : TellsStamps d)

include hd

lemma role?_fixed (time : Int) :
    d.stamps.tenses.role? (d.stamps.fixedLeft ++ Text.ofInt time ++ d.stamps.fixedRight) = none := by
  rw [Option.eq_none_iff_forall_ne_some]
  intro t ht
  exact (hd t).2 time (Vocabulary.role?_eq_some_iff.1 ht)

lemma stamp_unfoldStamp {x : Stamp} {t : Text} (ht : unfoldStamp? d x = some t) : stamp d t = .ok x := by
  cases x with
  | eternal =>
    cases ht
    rfl
  | tense t =>
    cases ht
    rw [stamp, if_neg (by simpa using (hd t).1), Vocabulary.role?_literal]
  | fixed time =>
    obtain ⟨digits, hdigits, rfl⟩ := Option.map_eq_some_iff.1 ht
    obtain ⟨hl, rfl⟩ := Written.ofInt?_eq_some_iff.1 hdigits
    have hne : Text.ofInt time ≠ [] := by
      obtain ⟨c, hm, -⟩ := Text.exists_digit_of_ofInt time
      exact List.ne_nil_of_mem hm
    rw [stamp, if_neg (by simp [hne]), role?_fixed hd, fixedContent?_append hne, Option.map_some,
      Written.whole_ofInt hl]

lemma sentence_unfold {x : Sentence} {t : Text} (ht : unfoldStamp? d x.stamp = some t) :
    sentence d x.term (d.punctuations.literal x.mood.punctuation) t ((x.mood.truth?.map unfoldMeasure).getD []) =
      .ok x := by
  obtain ⟨u, m, st⟩ := x
  have hm : ∃ tr, measure .truth ((m.truth?.map unfoldMeasure).getD []) = .ok tr ∧ mood m.punctuation tr = .ok m := by
    cases m with
    | judgement tr => exact ⟨tr, measure_unfoldMeasure tr, rfl⟩
    | goal tr => exact ⟨tr, measure_unfoldMeasure tr, rfl⟩
    | question => exact ⟨.empty, measure_unfoldMeasure .empty, rfl⟩
    | quest => exact ⟨.empty, measure_unfoldMeasure .empty, rfl⟩
  obtain ⟨tr, htr, hmood⟩ := hm
  simp only [sentence, Vocabulary.role?_literal, htr, ok_bind, stamp_unfoldStamp hd ht, hmood]
  rfl

lemma foldSentence_unfoldSentence {x : Sentence} {y : Lexical.Sentence} (hw : x.term.WellFormed)
    (ht : x.term.Spellable s) (hy : unfoldSentence? d x = some y) : foldSentence d y = .ok x := by
  obtain ⟨stamp, hstamp, rfl⟩ := Option.map_eq_some_iff.1 hy
  simp only [foldSentence, bind_eq_ok, atNode_eq_ok]
  exact ⟨x.term, foldTerm_unfoldTerm hw ht, sentence_unfold hd hstamp⟩

lemma fold_of_unfolded {v : Value} {n : Lexical.Node} (hw : v.WellFormed) (ht : v.subject.Spellable s)
    (hn : unfolded? d v = some n) : fold d n = .ok v := by
  cases v with
  | term t =>
    cases hn
    exact map_eq_ok.2 ⟨t, foldTerm_unfoldTerm hw ht, rfl⟩
  | sentence x =>
    obtain ⟨y, hy, rfl⟩ := Option.map_eq_some_iff.1 hn
    exact map_eq_ok.2 ⟨x, foldSentence_unfoldSentence hd hw ht hy, rfl⟩
  | task k =>
    obtain ⟨y, hy, rfl⟩ := unfolded?_task.1 hn
    refine map_eq_ok.2 ⟨k, ?_, rfl⟩
    simp only [foldTask, bind_eq_ok, atNode_eq_ok]
    refine ⟨k.sentence, foldSentence_unfoldSentence hd hw ht hy, ?_⟩
    simp only [task, measure_unfoldMeasure, ok_bind]
    rfl

end

end Meaning

end NarseseDialects
