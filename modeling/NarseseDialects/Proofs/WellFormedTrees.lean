import NarseseDialects.Dialect.Ascii
import NarseseDialects.Proofs.Lexical.Parts
import NarseseDialects.Proofs.Reading.Spelled

namespace NarseseDialects.Reading

open Lexical

variable {d : Dialect} {front chars : Text}

def Trails (d : Dialect) (stamp : Text) (truth : List Text) (behind : Text) : Prop :=
  ∃ x y z last, behind = x ++ stamp ++ y ++ last ++ z ∧ (x ++ y ++ z).all d.spacing.isSpace = true ∧
    (last = [] ∧ truth = [] ∨ last = writeNumerals (d.numerals .truth) truth)

/-- A text up to the end of its term: a bare term ends where the text does, and that of a sentence ends before
the punctuation. -/
def TermEnds (d : Dialect) (chars front : Text) : Lexical.Node → Prop :=
  Item.elim (fun _ => front = skipBack d chars) before fun k => before k.sentence
where
  before (s : Lexical.Sentence) : Prop :=
    ∃ before behind, chars = before ++ s.punctuation ++ behind ∧ Trails d s.stamp s.truth behind ∧
      front = skipBack d before

structure AtomAt (d : Dialect) (front sigil name : Text) (place : Nat) : Prop where
  stands : sigil ++ name <+: front.drop place
  longest : ∀ r, d.sigils.literal r <+: front.drop place → (d.sigils.literal r).length ≤ sigil.length
  unended : ∀ i < name.length, ∀ e ∈ d.terminating, ¬ e <+: front.drop (place + sigil.length + i)

lemma not_terminating_of_nameSpan {cs : Text} :
    ∀ i < (nameSpan d cs).1.length, ∀ e ∈ d.terminating, ¬ e <+: cs.drop i := by
  induction cs with
  | nil => exact fun i hi => absurd hi (Nat.not_lt_zero i)
  | cons c cs ih =>
    rw [nameSpan]
    split
    next hc =>
      intro i hi e he hp
      cases i with
      | zero =>
        obtain ⟨r, hr⟩ := hp
        rw [List.drop_zero] at hr
        rw [← hr, startsWithAny_of_mem he, Bool.not_true, Bool.and_false] at hc
        cases hc
      | succ i => exact ih i (Nat.lt_of_succ_lt_succ hi) e he hp
    · exact fun i hi => absurd hi (Nat.not_lt_zero i)

lemma atomAt_of_front? {cs sigil r : Text} (hcs : cs <:+ front)
    (hf : d.sigils.lexicon.front? cs = some (sigil, r)) :
    AtomAt d front sigil (nameSpan d r).1 (place front.length cs) := by
  have hdrop : front.drop (place front.length cs) = cs := (List.suffix_iff_eq_drop.1 hcs).symm
  have hr := (Lexicon.mem_of_front? hf).2
  refine ⟨?_, ?_, ?_⟩
  · rw [hdrop, hr]
    refine ⟨(nameSpan d r).2, ?_⟩
    rw [List.append_assoc, nameSpan_append]
  · intro role hp
    rw [hdrop] at hp
    obtain ⟨x, hx⟩ := hp
    by_contra hlt
    have hnone := Lexicon.after?_of_front? hf (d.sigils.literal_mem role) (Nat.not_le.1 hlt)
    rw [Text.after?_eq_some_iff.2 hx.symm] at hnone
    cases hnone
  · intro i hi e he hp
    rw [Nat.add_assoc, ← List.drop_drop, hdrop, hr, ← List.drop_drop, List.drop_left] at hp
    exact not_terminating_of_nameSpan i hi e he hp

def AtomsAt (d : Dialect) (front : Text) (ts : List Lexical.Term) : Prop :=
  ∀ sigil name spot, .atom sigil name spot ∈ ts → ∃ place, spot = some place ∧ AtomAt d front sigil name place

lemma atomsAt_of_readsTerm {cs rest : Text} {t : Lexical.Term} (hcs : cs <:+ front)
    (h : ReadsTerm d front.length cs t rest) : AtomsAt d front t.subterms := by
  intro sigil name spot hm
  obtain ⟨cs', rest', hcs', h'⟩ := exists_readsTerm_of_mem_subterms h hm
  cases h' with
  | atom _ _ _ hf _ => exact ⟨_, rfl, atomAt_of_front? ((skip_suffix _).trans (hcs'.trans hcs)) hf⟩

lemma skipBack_append_of_ne_nil {cs : Text} (h : skipBack d cs ≠ []) (x : Text) :
    skipBack d (x ++ cs) = x ++ skipBack d cs := by
  have hne : (cs.reverse.dropWhile d.spacing.isSpace).isEmpty = false := by
    rw [skipBack, Text.dropBack] at h
    simpa using h
  rw [skipBack, Text.dropBack, List.reverse_append, List.dropWhile_append, hne, if_neg Bool.false_ne_true,
    List.reverse_append, List.reverse_reverse]
  rfl

lemma exists_blanks_front (cs : Text) :
    ∃ x, x.all d.spacing.isSpace = true ∧ cs = x ++ skip d cs ∧ cs.length - (skip d cs).length = x.length := by
  refine ⟨cs.takeWhile d.spacing.isSpace, List.all_takeWhile, List.takeWhile_append_dropWhile.symm, ?_⟩
  have hl := congrArg List.length (List.takeWhile_append_dropWhile (p := d.spacing.isSpace) (l := cs))
  rw [List.length_append] at hl
  rw [skip]
  omega

lemma exists_blanks_back (cs : Text) : ∃ x, x.all d.spacing.isSpace = true ∧ cs = skipBack d cs ++ x := by
  refine ⟨Text.takeBack d.spacing.isSpace cs, ?_, (Text.dropBack_append_takeBack _ cs).symm⟩
  rw [Text.takeBack, List.all_reverse]
  exact List.all_takeWhile

lemma exists_trails_of_readTail {stop : Nat} {inner before blanks : Text} {tail : Tail}
    (hb : blanks.all d.spacing.isSpace = true) (h : readTail d Prod.mk inner stop = .ok (some (tail, before))) :
    ∃ b behind, inner ++ blanks = b ++ tail.punctuation ++ behind ∧ Trails d tail.stamp tail.truth behind ∧
      before = skipBack d b := by
  obtain ⟨region, content, b, hr, hp, -, hs, hj, rfl⟩ := exists_of_readTail h
  obtain ⟨x, hx, hcut⟩ := exists_blanks_back (d := d) (stampBack d region).before
  have hregion : region = b ++ tail.punctuation ++ (x ++ tail.stamp) := by
    rw [← stampBack_append (d := d) region, ← hs, hcut, (Lexicon.mem_of_back? hp).2, List.append_assoc]
  rcases hr with ⟨-, rfl, rfl⟩ | ⟨a, ha, rfl⟩
  · refine ⟨b, x ++ tail.stamp ++ blanks, by rw [hregion, List.append_assoc], ?_, rfl⟩
    refine ⟨x, [], blanks, [], by simp, ?_, .inl ⟨rfl, (eq_nil_of_judgeNumerals hj).1 rfl⟩⟩
    simp only [List.append_nil, List.all_append, hx, hb, Bool.and_self]
  · obtain ⟨y, hy, hacut⟩ := exists_blanks_back (d := d) a
    refine ⟨b, x ++ tail.stamp ++ y ++ writeNumerals (d.numerals .truth) tail.truth ++ blanks, ?_, ?_, rfl⟩
    · rw [eq_append_of_bracketedBack? ha, hacut, hregion, writeNumerals, join_of_judgeNumerals hj]
      simp
    · exact ⟨x, y, blanks, _, rfl, by simp only [List.all_append, hx, hy, hb, Bool.and_self], .inr rfl⟩

lemma exists_readsWhole_of_readsClause {lead inner blanks : Text} {c : Clause}
    (hb : blanks.all d.spacing.isSpace = true) (h : ReadsClause d inner (lead ++ inner).length c) :
    ∃ front cs, TermEnds.before d (lead ++ inner ++ blanks) front c.sentence ∧ cs <:+ front ∧
      ReadsWhole d front.length cs c.term := by
  cases h with
  | @intro tail before t hr hne hw =>
    obtain ⟨b, behind, hcut, htrails, rfl⟩ := exists_trails_of_readTail hb hr
    have hbne : skipBack d b ≠ [] := by
      intro he
      rw [he] at hne
      exact hne rfl
    have hplace : (lead ++ inner).length - inner.length + (skipBack d b).length = (lead ++ skipBack d b).length := by
      simp only [List.length_append]
      omega
    rw [hplace] at hw
    refine ⟨lead ++ skipBack d b, _, ⟨lead ++ b, behind, ?_, htrails, (skipBack_append_of_ne_nil hbne lead).symm⟩,
      (skip_suffix _).trans (List.suffix_append _ _), hw⟩
    rw [List.append_assoc, hcut]
    simp [Clause.sentence]

lemma exists_readsWhole_of_readsText {p : Parse} (h : ReadsText d chars p) :
    ∃ front cs, TermEnds d chars front (node p) ∧ cs <:+ front ∧
      ReadsWhole d front.length cs (Node.subject (node p)) := by
  obtain ⟨hne, hregion⟩ := h
  obtain ⟨x, -, hfront, hlen⟩ := exists_blanks_front (d := d) chars
  obtain ⟨y, hy, hback⟩ := exists_blanks_back (d := d) (skip d chars)
  have hchars : chars = x ++ skipBack d (skip d chars) ++ y := by rw [List.append_assoc, ← hback, ← hfront]
  rw [hlen] at hregion
  cases hregion with
  | term _ _ hw =>
    rw [← List.length_append] at hw
    refine ⟨x ++ skipBack d (skip d chars), _, ?_, List.suffix_append _ _, hw⟩
    have hskip := skipBack_append_of_ne_nil hne x
    rw [← hfront] at hskip
    exact hskip.symm
  | sentence _ hc =>
    rw [← List.length_append] at hc
    obtain ⟨front, cs, hends, hcs, hw⟩ := exists_readsWhole_of_readsClause hy hc
    rw [← hchars] at hends
    exact ⟨front, cs, hends, hcs, hw⟩
  | task hh hc =>
    have hinner := eq_append_of_readHead hh
    rw [← List.length_append, hinner, ← List.append_assoc] at hc
    rw [hinner, ← List.append_assoc] at hchars
    obtain ⟨front, cs, hends, hcs, hw⟩ := exists_readsWhole_of_readsClause hy hc
    rw [← hchars] at hends
    exact ⟨front, cs, hends, hcs, hw⟩

lemma exists_front_of_readsText {p : Parse} (h : ReadsText d chars p) :
    ∃ front, TermEnds d chars front (node p) ∧ AtomsAt d front (Node.subject (node p)).subterms := by
  obtain ⟨front, cs, hends, hcs, rest, ht, -⟩ := exists_readsWhole_of_readsText h
  exact ⟨front, hends, atomsAt_of_readsTerm hcs ht⟩

lemma termEnds_relocate {n : Node} (f : Nat → Nat) :
    TermEnds d chars front (Node.relocate f n) ↔ TermEnds d chars front n := by
  cases n <;> rfl

lemma exists_atom_of_relocate {n : Node} {f : Nat → Nat} {sigil name : Text} {spot : Option Nat}
    (h : .term (.atom sigil name spot) ∈ Node.parts (Node.relocate f n)) :
    ∃ spot', .term (.atom sigil name spot') ∈ Node.parts n ∧ spot = spot'.map f := by
  rw [Node.parts_relocate, List.mem_map] at h
  obtain ⟨m, hm, he⟩ := h
  cases m with
  | term t =>
    cases t with
    | atom sigil name spot' =>
      cases he
      exact ⟨spot', hm, rfl⟩
    | _ => cases he
  | _ => cases he

lemma mem_parts_atom {n : Node} {sigil name : Text} {spot : Option Nat} :
    .term (.atom sigil name spot) ∈ Node.parts n ↔ .atom sigil name spot ∈ (Node.subject n).subterms := by
  cases n <;> simp [Node.parts, Node.subject, Item.elim]

/-- Whatever a text is read as is made of the literals of the dialect, and every atom is as long as it can be. -/
theorem readLexical_well_formed {text : Text} {n : Node} (h : readLexical d text = .ok n) :
    Node.Spelled d (identifiers d) n ∧
      ∃ front, TermEnds d (Source.ofText d text).chars front n ∧
        ∀ sigil name spot, .term (.atom sigil name spot) ∈ Node.parts n →
          ∃ place, spot = some ((Source.ofText d text).locate place) ∧ AtomAt d front sigil name place := by
  have hspelled := spelled_of_readLexical h
  obtain ⟨p, hp, rfl⟩ := exists_readsText_of_readLexical h
  obtain ⟨front, hends, hat⟩ := exists_front_of_readsText hp
  refine ⟨hspelled, front, (termEnds_relocate _).2 hends, ?_⟩
  intro sigil name spot hm
  obtain ⟨spot', hm', rfl⟩ := exists_atom_of_relocate hm
  obtain ⟨place, rfl, hplace⟩ := hat sigil name spot' (mem_parts_atom.1 hm')
  exact ⟨place, rfl, hplace⟩

theorem tightCopula_readLexical_well_formed :
    ∃ n, readLexical .ascii "<a-b-->\x7b_\x7d>. :|:" = .ok n ∧ Node.Spelled .ascii (identifiers .ascii) n ∧
      ∃ front, TermEnds .ascii (Source.ofText .ascii "<a-b-->\x7b_\x7d>. :|:").chars front n ∧
        ∀ sigil name spot, .term (.atom sigil name spot) ∈ Node.parts n →
          ∃ place, spot = some ((Source.ofText .ascii "<a-b-->\x7b_\x7d>. :|:").locate place) ∧
            AtomAt .ascii front sigil name place := by
  have hsome : (readLexical .ascii "<a-b-->\x7b_\x7d>. :|:").toOption.isSome = true := by decide +kernel
  obtain ⟨n, h⟩ := Outcome.exists_of_toOption_isSome hsome
  exact ⟨n, h, readLexical_well_formed h⟩

end NarseseDialects.Reading
