import NarseseDialects.Proofs.Lexical.Parts
import NarseseDialects.Proofs.Meaning.Assembled
import NarseseDialects.Proofs.Reading.Spelled
import NarseseDialects.Proofs.Reading.Standing
import NarseseDialects.Proofs.Reading.WrittenItems
import NarseseDialects.Proofs.Value.Origin

namespace NarseseDialects.Meaning

open Outcome Lexical

variable {d : Dialect}

def isGap (d : Dialect) : Lexical.Term → Bool
  | .atom sigil name _ => sigil == d.sigils.literal .placeholder && name.isEmpty
  | _ => false

/-- The checks that spelling does not make: the placeholder has no name, an interval is a number that is not too
long, an image has one gap besides its components, connectors of a fixed arity have as many components, questions
have no truth, and a fixed time is not too long. -/
def Sensible (d : Dialect) : Lexical.Node → Prop
  | .term (.atom sigil name _) =>
    (sigil = d.sigils.literal .placeholder → name = []) ∧
    (sigil = d.sigils.literal .interval →
      1 ≤ name.length ∧ name.length ≤ Written.digitLimit ∧ name.all Text.isPlainDigit = true)
  | .term (.compound connector ts _) =>
    (∀ s, connector = d.connectors.literal (.image s) → ts.countP (isGap d) = 1 ∧ 2 ≤ ts.length) ∧
    (connector = d.connectors.literal .negation → ts.length = 1) ∧
    (∀ s, connector = d.connectors.literal (.difference s) → ts.length = 2)
  | .sentence x =>
    (x.punctuation = d.punctuations.literal .question ∨ x.punctuation = d.punctuations.literal .quest → x.truth = []) ∧
    (∀ time, Reading.isSignedInteger time = true → x.stamp = d.stamps.fixedLeft ++ time ++ d.stamps.fixedRight →
      (Written.signed time).2.length ≤ Written.digitLimit)
  | _ => True

section Atoms

variable {n : Text}

lemma sensible_atom {r : AtomRole} {spot : Option Nat} :
    Sensible d (.term (.atom (d.sigils.literal r) n spot)) ↔
      match r with
      | .placeholder => n = []
      | .interval => 1 ≤ n.length ∧ n.length ≤ Written.digitLimit ∧ n.all Text.isPlainDigit = true
      | .name _ => True := by
  have hr (r' : AtomRole) : d.sigils.literal r = d.sigils.literal r' ↔ r = r' :=
    ⟨d.sigils.literal_injective, congrArg _⟩
  cases r <;> simp [Sensible, hr]

lemma exists_foldTerm_atom_iff {r : AtomRole} {spot : Option Nat} (hn : n.all Text.isNameChar = true)
    (hne : n = [] → r = .placeholder) :
    (∃ t, foldTerm d (.atom (d.sigils.literal r) n spot) = .ok t) ↔
      Sensible d (.term (.atom (d.sigils.literal r) n spot)) := by
  rw [sensible_atom]
  simp only [foldTerm_atom]
  cases r with
  | name k =>
    have hk : n ≠ [] := fun he => by cases hne he
    exact iff_of_true ⟨_, atom_name_eq_ok.2 ⟨hk, hn, rfl⟩⟩ trivial
  | placeholder => simp [atom_placeholder_eq_ok]
  | interval =>
    simp only [atom_interval_eq_ok]
    constructor
    · rintro ⟨t, hi, hdigits, hl, -⟩
      exact ⟨List.length_pos_iff.2 hi, hl, hdigits⟩
    · rintro ⟨hi, hl, hdigits⟩
      exact ⟨_, List.length_pos_iff.1 hi, hdigits, hl, rfl⟩

end Atoms

section Compounds

variable {cs : List Term} {ts : List Lexical.Term} {u : Lexical.Term} {c : Term}

lemma isGap_eq_of_foldTerm (h : foldTerm d u = .ok c) : isGap d u = c.same .placeholder := by
  rw [Bool.eq_iff_iff, Term.same_placeholder_iff]
  cases u with
  | atom p n s =>
    rw [foldTerm_atom] at h
    rw [isGap, Bool.and_eq_true, beq_iff_eq, List.isEmpty_iff]
    constructor
    · rintro ⟨rfl, rfl⟩
      rw [atom_placeholder] at h
      cases h
      rfl
    · rintro rfl
      cases assembled_of_atom h with
      | placeholder => exact ⟨rfl, rfl⟩
  | compound p us s =>
    obtain ⟨cs, -, h⟩ := foldTerm_compound.1 h
    cases assembled_of_compound h <;> simp [isGap]
  | set l us r s =>
    obtain ⟨-, cs, -, h⟩ := foldTerm_set.1 h
    cases assembled_of_set h <;> simp [isGap]
  | statement p v w s =>
    obtain ⟨a, -, b, -, h⟩ := foldTerm_statement.1 h
    obtain ⟨k, -, rfl⟩ := exists_of_statement h
    rcases k with k | k | (_ | _ | _ | _) <;> simp [isGap, Copula.apply, Shorthand.expand]

lemma countP_isGap (h : foldTerms d ts = .ok cs) : ts.countP (isGap d) = cs.countP (·.same .placeholder) := by
  rw [foldTerms_eq_ok_iff] at h
  induction h with
  | nil => rfl
  | cons hu _ ih => rw [List.countP_cons, List.countP_cons, ih, isGap_eq_of_foldTerm hu]

lemma exists_image_iff {s : Side} :
    (∃ t, image s cs = .ok t) ↔ cs.countP (·.same .placeholder) = 1 ∧ 2 ≤ cs.length := by
  simp only [image_eq_ok, exists_and_left, exists_eq', and_true]
  refine and_congr_right fun hone => ?_
  rw [← List.length_pos_iff, List.length_eraseIdx_of_lt (findIdx_lt_of_countP hone)]
  omega

lemma sensible_compound {k : Connector} {spot : Option Nat} :
    Sensible d (.term (.compound (d.connectors.literal k) ts spot)) ↔
      match k with
      | .image _ => ts.countP (isGap d) = 1 ∧ 2 ≤ ts.length
      | .negation => ts.length = 1
      | .difference _ => ts.length = 2
      | _ => True := by
  have hk (k' : Connector) : d.connectors.literal k = d.connectors.literal k' ↔ k = k' :=
    ⟨d.connectors.literal_injective, congrArg _⟩
  cases k <;> simp [Sensible, hk]

lemma exists_compound_iff {k : Connector} {spot : Option Nat} (hne : ts ≠ []) (h : foldTerms d ts = .ok cs) :
    (∃ t, compound d (d.connectors.literal k) cs = .ok t) ↔
      Sensible d (.term (.compound (d.connectors.literal k) ts spot)) := by
  have hl : ts.length = cs.length := (foldTerms_eq_ok_iff.1 h).length_eq
  have hcs : cs ≠ [] := by
    rw [← List.length_pos_iff, ← hl]
    exact List.length_pos_iff.2 hne
  rw [sensible_compound, hl]
  simp only [compound, Vocabulary.role?_literal]
  cases k with
  | junction j => exact iff_of_true ⟨_, congrArg ofTermFault (if_neg (by simpa using hcs))⟩ trivial
  | chain c => exact iff_of_true ⟨_, congrArg ofTermFault (chain?_of_ne_nil hcs)⟩ trivial
  | difference s =>
    dsimp only
    constructor
    · rintro ⟨t, ht⟩
      split at ht
      · rfl
      · cases ht
    · intro htwo
      obtain ⟨a, b, rfl⟩ := List.length_eq_two.1 htwo
      exact ⟨_, rfl⟩
  | image s =>
    rw [countP_isGap h]
    exact exists_image_iff
  | negation =>
    dsimp only
    constructor
    · rintro ⟨t, ht⟩
      split at ht
      · rfl
      · cases ht
    · intro hone
      obtain ⟨a, rfl⟩ := List.length_eq_one_iff.1 hone
      exact ⟨_, rfl⟩

lemma exists_set {s : Side} (hcs : cs ≠ []) : ∃ t, set d (d.sets.pair s).left cs = .ok t := by
  rw [set, d.sets.side?_pair]
  exact ⟨_, congrArg ofTermFault (if_neg (by simpa using hcs))⟩

end Compounds

mutual

lemma exists_foldTerm_iff (t : Lexical.Term) (h : t.Spelled d anyName) :
    (∃ v, foldTerm d t = .ok v) ↔ ∀ u ∈ t.subterms, Sensible d (.term u) := by
  cases t with
  | atom p n s =>
    obtain ⟨r, rfl, hn, hne⟩ := h
    rw [exists_foldTerm_atom_iff hn hne, Term.subterms, List.forall_mem_singleton]
  | compound c ts s =>
    obtain ⟨⟨k, rfl⟩, hne, hts⟩ := h
    have hiff := exists_foldTerms_iff ts hts
    rw [Term.subterms, List.forall_mem_cons, ← hiff]
    simp only [foldTerm_compound]
    constructor
    · rintro ⟨v, cs, hcs, hv⟩
      exact ⟨(exists_compound_iff hne hcs).1 ⟨v, hv⟩, cs, hcs⟩
    · rintro ⟨hs, cs, hcs⟩
      obtain ⟨v, hv⟩ := (exists_compound_iff hne hcs).2 hs
      exact ⟨v, cs, hcs, hv⟩
  | set l ts r s =>
    obtain ⟨⟨side, rfl, rfl⟩, hne, hts⟩ := h
    have hiff := exists_foldTerms_iff ts hts
    rw [Term.subterms, List.forall_mem_cons, ← hiff]
    simp only [foldTerm_set]
    constructor
    · rintro ⟨v, -, cs, hcs, -⟩
      exact ⟨trivial, cs, hcs⟩
    · rintro ⟨-, cs, hcs⟩
      have hcne : cs ≠ [] := by
        rintro rfl
        exact hne (List.eq_nil_of_length_eq_zero (foldTerms_eq_ok_iff.1 hcs).length_eq)
      obtain ⟨v, hv⟩ := exists_set hcne
      refine ⟨v, ?_, cs, hcs, hv⟩
      rw [wrongBracket, d.sets.rightOf?_pair]
      exact bne_self_eq_false _
  | statement c t u s =>
    obtain ⟨⟨k, rfl⟩, ht, hu⟩ := h
    have hst : Sensible d (.term (.statement (d.copulas.literal k) t u s)) := trivial
    rw [Term.subterms, List.forall_mem_cons, List.forall_mem_append, ← exists_foldTerm_iff t ht,
      ← exists_foldTerm_iff u hu, and_iff_right hst]
    simp only [foldTerm_statement, statement, Vocabulary.role?_literal]
    constructor
    · rintro ⟨v, a, ha, b, hb, -⟩
      exact ⟨⟨a, ha⟩, b, hb⟩
    · rintro ⟨⟨a, ha⟩, b, hb⟩
      exact ⟨_, a, ha, b, hb, rfl⟩

lemma exists_foldTerms_iff (ts : List Lexical.Term) (h : Term.SpelledAll d anyName ts) :
    (∃ vs, foldTerms d ts = .ok vs) ↔ ∀ u ∈ Term.subtermsAll ts, Sensible d (.term u) := by
  cases ts with
  | nil => exact iff_of_true ⟨[], rfl⟩ (by simp [Term.subtermsAll])
  | cons t ts =>
    rw [Term.subtermsAll, List.forall_mem_append, ← exists_foldTerm_iff t h.1, ← exists_foldTerms_iff ts h.2]
    simp only [foldTerms_eq_ok_iff, List.forall₂_cons_left_iff]
    constructor
    · rintro ⟨-, v, vs, hv, hvs, -⟩
      exact ⟨⟨v, hv⟩, vs, hvs⟩
    · rintro ⟨⟨v, hv⟩, vs, hvs⟩
      exact ⟨_, v, vs, hv, hvs, rfl⟩

end

section Sentences

variable {q : Quantity} {ns : List Text} {x : Text}

lemma exists_mapM_number (hns : ∀ m ∈ ns, SpelledNumeral m) :
    ∃ vs, ns.mapM number = .ok vs ∧ vs.length = ns.length ∧ ∀ v ∈ vs, v.inUnit = true := by
  induction ns with
  | nil => exact ⟨[], rfl, rfl, by simp⟩
  | cons m ms ih =>
    obtain ⟨y, hy, hu⟩ := hns m List.mem_cons_self
    obtain ⟨vs, hvs, hlen, hunit⟩ := ih fun m' hm => hns m' (List.mem_cons_of_mem m hm)
    have hm : number m = .ok (.ofDecimalText false y) := by
      rw [number, Written.real?_of_ofNumeral? hy]
      rfl
    refine ⟨.ofDecimalText false y :: vs, ?_, congrArg Nat.succ hlen, List.forall_mem_cons.2 ⟨hu, hunit⟩⟩
    rw [List.mapM_cons, hm, hvs]
    rfl

lemma exists_measure (hns : ∀ m ∈ ns, SpelledNumeral m) (hl : ns.length ≤ q.limit) :
    ∃ m : Measure q, measure q ns = .ok m ∧ (m.isEmpty = true ↔ ns = []) := by
  obtain ⟨vs, hvs, hlen, hunit⟩ := exists_mapM_number hns
  refine ⟨⟨vs, hlen.trans_le hl, hunit⟩, ?_, ?_⟩
  · rw [measure, hvs, ok_bind, Measure.ofValues_values ⟨vs, hlen.trans_le hl, hunit⟩]
    rfl
  · rw [Measure.isEmpty, List.isEmpty_iff, ← List.length_eq_zero_iff, hlen, List.length_eq_zero_iff]

lemma exists_mood_iff {p : Punctuation} {tr : Truth} :
    (∃ m, mood p tr = .ok m) ↔ (p = .question ∨ p = .quest → tr.isEmpty = true) := by
  cases p with
  | judgement | goal => exact iff_of_true ⟨_, rfl⟩ (by simp)
  | question | quest =>
    rw [mood]
    cases tr.isEmpty with
    | true => exact iff_of_true ⟨_, rfl⟩ fun _ => rfl
    | false => exact iff_of_false (by rintro ⟨m, ⟨⟩⟩) (by simp)

lemma exists_whole_iff (h : Reading.isSignedInteger x = true) :
    (∃ i, Written.whole x = .ok i) ↔ (Written.signed x).2.length ≤ Written.digitLimit := by
  have hchars : ∀ c ∈ Text.timeChars, c ∈ Text.realChars := by decide
  have hdigits : ((Written.signed x).2.isEmpty || !(Written.signed x).2.all Text.isPlainDigit) = false := by
    simpa [Reading.isSignedInteger] using h
  rw [Written.whole, Written.unblanked?_eq fun c hc => hchars c (Reading.mem_timeChars h c hc), Option.map_some]
  simp only [hdigits, Bool.false_eq_true, if_false, map_eq_ok]
  constructor
  · rintro ⟨i, m, hm, -⟩
    exact (Written.of_limited hm).1
  · intro hl
    exact ⟨_, _, Written.limited_of_length_le hl, rfl⟩

lemma exists_digit_of_isSignedInteger (h : Reading.isSignedInteger x = true) :
    ∃ c ∈ x, Text.isPlainDigit c = true := by
  obtain ⟨y, c, hc, rfl⟩ := Reading.exists_of_isSignedInteger h
  exact ⟨c, by simp, Text.isPlainDigit_iff_mem.2 hc⟩

lemma TellsTenses.literal_ne (hd : TellsTenses d) (h : Reading.isSignedInteger x = true) (t : Tense) :
    d.stamps.tenses.literal t ≠ d.stamps.fixedLeft ++ x ++ d.stamps.fixedRight := by
  intro he
  obtain ⟨c, hc, hdigit⟩ := exists_digit_of_isSignedInteger h
  have hn := (hd t).2 c (by simp [he, hc])
  rw [hdigit] at hn
  cases hn

lemma exists_stamp_iff (hd : TellsTenses d) (hx : SpelledStamp d x) :
    (∃ s, stamp d x = .ok s) ↔ ∀ time, Reading.isSignedInteger time = true →
      x = d.stamps.fixedLeft ++ time ++ d.stamps.fixedRight →
      (Written.signed time).2.length ≤ Written.digitLimit := by
  rcases hx with rfl | ⟨t, rfl⟩ | ⟨time, ht, rfl⟩
  · refine iff_of_true ⟨.eternal, rfl⟩ ?_
    intro time ht he
    obtain ⟨c, hc, -⟩ := exists_digit_of_isSignedInteger ht
    have hm : c ∈ d.stamps.fixedLeft ++ time ++ d.stamps.fixedRight := by simp [hc]
    rw [← he] at hm
    cases hm
  · refine iff_of_true ⟨.tense t, ?_⟩ fun time ht he => absurd he (hd.literal_ne ht t)
    rw [stamp, if_neg (by simpa using (hd t).1), Vocabulary.role?_literal]
  · obtain ⟨c, hc, -⟩ := exists_digit_of_isSignedInteger ht
    have hne : time ≠ [] := List.ne_nil_of_mem hc
    have hrole : d.stamps.tenses.role? (d.stamps.fixedLeft ++ time ++ d.stamps.fixedRight) = none := by
      rw [Option.eq_none_iff_forall_ne_some]
      exact fun t htense => hd.literal_ne ht t (Vocabulary.role?_eq_some_iff.1 htense)
    rw [stamp, if_neg (by simp [hne]), hrole, fixedContent?_append hne, Option.map_some]
    dsimp only
    constructor
    · rintro ⟨s, hs⟩ time' - he
      obtain rfl : time = time' := List.append_cancel_left (List.append_cancel_right he)
      split at hs
      next i hi => exact (exists_whole_iff ht).1 ⟨i, Option.some.inj hi⟩
      · cases hs
    · intro h
      obtain ⟨i, hi⟩ := (exists_whole_iff ht).2 (h time ht rfl)
      rw [hi]
      exact ⟨_, rfl⟩

lemma exists_sentence_iff (hd : TellsTenses d) {s : Lexical.Sentence} (h : s.Spelled d anyName) (t : Term) :
    (∃ v, sentence d t s.punctuation s.stamp s.truth = .ok v) ↔ Sensible d (.sentence s) := by
  obtain ⟨-, ⟨p, hp⟩, hstamp, htruth, hlen⟩ := h
  obtain ⟨m, hm, hempty⟩ := exists_measure htruth hlen
  have hpunct (p' : Punctuation) : s.punctuation = d.punctuations.literal p' ↔ p = p' := by
    rw [hp]
    exact ⟨d.punctuations.literal_injective, congrArg _⟩
  have hsentence : (∃ v, sentence d t s.punctuation s.stamp s.truth = .ok v) ↔
      (∃ x, mood p m = .ok x) ∧ ∃ x, stamp d s.stamp = .ok x := by
    rw [hp, sentence, Vocabulary.role?_literal]
    simp only [hm, ok_bind, bind_eq_ok]
    constructor
    · rintro ⟨v, x, hx, y, hy, -⟩
      exact ⟨⟨y, hy⟩, x, hx⟩
    · rintro ⟨⟨y, hy⟩, x, hx⟩
      exact ⟨_, x, hx, y, hy, rfl⟩
  rw [hsentence, exists_mood_iff, exists_stamp_iff hd hstamp, hempty, Sensible, hpunct, hpunct]

lemma exists_foldSentence_iff (hd : TellsTenses d) {s : Lexical.Sentence} (h : s.Spelled d anyName) :
    (∃ v, foldSentence d s = .ok v) ↔
      Sensible d (.sentence s) ∧ ∀ u ∈ s.term.subterms, Sensible d (.term u) := by
  rw [← exists_foldTerm_iff s.term h.term]
  simp only [foldSentence, bind_eq_ok, atNode_eq_ok]
  constructor
  · rintro ⟨v, t, ht, hv⟩
    exact ⟨(exists_sentence_iff hd h t).1 ⟨v, hv⟩, t, ht⟩
  · rintro ⟨hs, t, ht⟩
    obtain ⟨v, hv⟩ := (exists_sentence_iff hd h t).2 hs
    exact ⟨v, t, ht, hv⟩

lemma exists_foldTask_iff {k : Lexical.Task} (h : k.Spelled d anyName) :
    (∃ v, foldTask d k = .ok v) ↔ ∃ v, foldSentence d k.sentence = .ok v := by
  obtain ⟨m, hm, -⟩ := exists_measure h.budget h.length_le
  simp only [foldTask, bind_eq_ok, atNode_eq_ok, task, hm]
  constructor
  · rintro ⟨v, s, hs, -⟩
    exact ⟨s, hs⟩
  · rintro ⟨s, hs⟩
    exact ⟨_, s, hs, m, rfl, rfl⟩

end Sentences

lemma exists_fold_iff (hd : TellsTenses d) {n : Node} (h : Node.Spelled d anyName n) :
    (∃ v, fold d n = .ok v) ↔ ∀ m ∈ Node.parts n, Sensible d m := by
  cases n with
  | term t =>
    rw [Node.parts, List.forall_mem_map]
    exact exists_map_eq_ok.trans (exists_foldTerm_iff t h)
  | sentence s =>
    rw [Node.parts, List.forall_mem_cons, List.forall_mem_map]
    exact exists_map_eq_ok.trans (exists_foldSentence_iff hd h)
  | task k =>
    have hk : Sensible d (.task k) := trivial
    rw [Node.parts, List.forall_mem_cons, List.forall_mem_cons, List.forall_mem_map, and_iff_right hk]
    exact exists_map_eq_ok.trans ((exists_foldTask_iff h).trans (exists_foldSentence_iff hd h.sentence))

end NarseseDialects.Meaning

namespace NarseseDialects.Reading

open Lexical Meaning

lemma spelled_anyName_of_readLexical (n : DialectName) {text : Text} {t : Node}
    (h : readLexical n.dialect text = .ok t) : Node.Spelled n.dialect anyName t := by
  have hnames : identifiers n.dialect = anyName := by cases n <;> rfl
  have ht := spelled_of_readLexical h
  rwa [hnames] at ht

/-- The tree of a text has a meaning exactly when all its nodes pass the checks that reading does not make. -/
theorem exists_fold_readLexical_iff (n : DialectName) {text : Text} {t : Node}
    (h : readLexical n.dialect text = .ok t) :
    (∃ v, fold n.dialect t = .ok v) ↔ ∀ m ∈ Node.parts t, Sensible n.dialect m :=
  exists_fold_iff n.tellsTenses (spelled_anyName_of_readLexical n h)

theorem deepPlaceholder_exists_fold_readLexical :
    ∃ t, readLexical .ascii "(/, (--, _), _)! :!-7:" = .ok t ∧ (∃ v, fold .ascii t = .ok v) ∧
      ∀ m ∈ Node.parts t, Sensible .ascii m := by
  have hsame : (readLexical .ascii "(/, (--, _), _)! :!-7:").toOption.map (Node.same · (.sentence
      ⟨.compound "/" [.compound "--" [.atom "_" "" none] none, .atom "_" "" none] none, "!", ":!-7:", [], none⟩)) =
        some true := by decide +kernel
  obtain ⟨t, h, hsame⟩ := Outcome.exists_of_toOption_map hsame
  have hfold : ∃ v, fold .ascii t = .ok v := ⟨_, (fold_congr hsame).2 rfl⟩
  exact ⟨t, h, hfold, (exists_fold_readLexical_iff .ascii h).1 hfold⟩

end NarseseDialects.Reading
