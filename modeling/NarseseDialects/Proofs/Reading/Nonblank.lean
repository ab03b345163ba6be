import NarseseDialects.Proofs.Lexical.Shape
import NarseseDialects.Proofs.Reading.Lexical
import NarseseDialects.Proofs.Text.Trim

namespace NarseseDialects.Reading

open Lexical

variable {d : Dialect} {stop : Nat}

def nonblank (d : Dialect) (cs : Text) : Text := cs.filter fun c => !d.spacing.isSpace c

@[simp] lemma nonblank_nil : nonblank d [] = [] := rfl

@[simp] lemma nonblank_append (a b : Text) : nonblank d (a ++ b) = nonblank d a ++ nonblank d b :=
  List.filter_append ..

@[simp] lemma nonblank_nonblank (a : Text) : nonblank d (nonblank d a) = nonblank d a := by
  simp [nonblank]

lemma nonblank_eq_nil {a : Text} (h : a.all d.spacing.isSpace) : nonblank d a = [] := by
  simpa [nonblank] using h

@[simp] lemma nonblank_skip (cs : Text) : nonblank d (skip d cs) = nonblank d cs := Text.filter_dropWhile _ cs

@[simp] lemma nonblank_skipBack (cs : Text) : nonblank d (skipBack d cs) = nonblank d cs := Text.filter_dropBack _ cs

lemma nonblank_eq_self {cs : Text} (h : ∀ c ∈ cs, d.spacing.isSpace c = false) : nonblank d cs = cs :=
  List.filter_eq_self.2 fun c hc => by simp [h c hc]

lemma skip_eq_self {cs : Text} (h : ∀ c ∈ cs, d.spacing.isSpace c = false) : skip d cs = cs :=
  Text.dropWhile_eq_self (Text.all_ends h).1

lemma skipBack_eq_self {cs : Text} (h : ∀ c ∈ cs, d.spacing.isSpace c = false) : skipBack d cs = cs :=
  Text.dropBack_eq_self (Text.all_ends h).2

lemma not_isSpace_of_mem_nonblank {cs : Text} {c : Char} (h : c ∈ nonblank d cs) :
    d.spacing.isSpace c = false := by
  simpa [nonblank] using (List.mem_filter.1 h).2

lemma nonblank_ofText (hs : d.spacing.strip = true) (text : Text) :
    (Source.ofText d text).chars = nonblank d text := by
  have h : ∀ n, ((text.zipIdx n).filter fun p => !d.spacing.isSpace p.1).map Prod.fst = nonblank d text := by
    induction text with
    | nil => exact fun n => rfl
    | cons c cs ih =>
      intro n
      have hc := ih (n + 1)
      by_cases h : d.spacing.isSpace c <;> simp_all [nonblank]
  simpa [Source.ofText, hs, Source.kept] using h 0

lemma eq_append_of_opening? {p cs r : Text} (h : opening? p cs = some r) : cs = p ++ r := by
  cases p with
  | nil => cases h
  | cons c p => exact Text.after?_eq_some_iff.1 h

lemma nonblank_of_opening? {p cs r : Text} (h : opening? p (skip d cs) = some r) :
    nonblank d cs = nonblank d p ++ nonblank d r := by
  rw [← nonblank_skip, eq_append_of_opening? h, nonblank_append]

lemma nonblank_of_front? {l : Lexicon} {cs e r : Text} (h : l.front? (skip d cs) = some (e, r)) :
    nonblank d cs = nonblank d e ++ nonblank d r := by
  rw [← nonblank_skip, (Lexicon.mem_of_front? h).2, nonblank_append]

lemma nonblank_componentSeparator (hb : d.spacing.betweenTerms.all d.spacing.isSpace) :
    nonblank d (componentSeparator d) = nonblank d d.separator := by
  rw [componentSeparator, nonblank_append, nonblank_eq_nil hb, List.append_nil]

mutual

lemma nonblank_of_readsTerm (hb : d.spacing.betweenTerms.all d.spacing.isSpace) {cs rest : Text}
    {t : Lexical.Term} (h : ReadsTerm d stop cs t rest) :
    nonblank d cs = nonblank d (t.write d) ++ nonblank d rest := by
  cases h with
  | set hs _ _ hm =>
    rw [← nonblank_skip, BracketFamily.eq_append_of_left? hs, Term.write]
    have := nonblank_of_readsMembers hb hm
    simp_all
  | compound _ hc hf hp _ hm =>
    rw [nonblank_of_opening? hc, nonblank_of_front? hf, nonblank_of_opening? hp, Term.write]
    have := nonblank_of_readsMembers hb hm
    simp_all [nonblank_componentSeparator hb]
  | statement _ _ hl h₁ hf h₂ hr =>
    rw [nonblank_of_opening? hl, nonblank_of_readsTerm hb h₁, nonblank_of_front? hf,
      nonblank_of_readsTerm hb h₂, nonblank_of_opening? hr, Term.write]
    simp [nonblank_eq_nil hb]
  | @atom _ _ r _ _ _ hf _ =>
    rw [nonblank_of_front? hf, Term.write, nonblank_append, List.append_assoc,
      ← nonblank_append (nameSpan d r).1, nameSpan_append]

lemma nonblank_of_readsMembers (hb : d.spacing.betweenTerms.all d.spacing.isSpace)
    {right cs rest : Text} {ts : List Lexical.Term} (h : ReadsMembers d stop right cs ts rest) :
    nonblank d cs = nonblank d (Term.writeAll d ts) ++ nonblank d right ++ nonblank d rest := by
  cases h with
  | last ht _ hr =>
    rw [nonblank_of_readsTerm hb ht, nonblank_of_opening? hr, Term.writeAll]
    simp [Term.writeMore]
  | @more _ _ _ _ _ ts _ ht hs hm =>
    rw [nonblank_of_readsTerm hb ht, nonblank_of_opening? hs, nonblank_of_readsMembers hb hm,
      Term.writeAll]
    cases ts with
    | nil => cases hm
    | cons u us =>
      simp [Term.writeMore, Term.writeAll, nonblank_componentSeparator hb]

end

lemma join_of_judgeNumerals {q : Quantity} {content : Text} {p : Nat} {ns : List Text}
    (h : judgeNumerals d Prod.mk q content p = .ok ns) :
    Text.join (d.numerals q).separator ns = content := by
  rw [judgeNumerals] at h
  split at h
  next he =>
    cases h
    exact (List.isEmpty_iff.1 he).symm
  dsimp only at h
  split at h
  · cases h
  split at h
  · cases h
  · cases h
    exact Text.join_split _ _

lemma eq_nil_of_judgeNumerals {q : Quantity} {content : Text} {p : Nat} {ns : List Text}
    (h : judgeNumerals d Prod.mk q content p = .ok ns) : content = [] ↔ ns = [] := by
  rw [judgeNumerals] at h
  split at h
  next he =>
    cases h
    simpa using he
  next he =>
  dsimp only at h
  split at h
  · cases h
  split at h
  · cases h
  · cases h
    simpa [Text.split_ne_nil] using he

lemma exists_of_readHead {region whole inner : Text} {p : Nat} {head : Head}
    (h : readHead d Prod.mk region whole p = .ok (some (head, inner))) :
    ∃ content, region = (d.numerals .budget).brackets.left ++ content ++
        (d.numerals .budget).brackets.right ++ inner ∧
      judgeNumerals d Prod.mk .budget content p = .ok head.budget := by
  unfold readHead at h
  dsimp only at h
  split at h
  · cases h
  next content rest hc =>
  obtain ⟨r, hr, hcut⟩ := Option.bind_eq_some_iff.1 hc
  split at h
  · cases h
  obtain ⟨ns, hns, he⟩ := Outcome.map_eq_ok.1 h
  cases he
  refine ⟨content, ?_, hns⟩
  rw [eq_append_of_opening? hr, Text.eq_append_of_firstCut? hcut]
  simp

lemma eq_append_of_readHead {region whole inner : Text} {p : Nat} {head : Head}
    (h : readHead d Prod.mk region whole p = .ok (some (head, inner))) :
    region = writeNumerals (d.numerals .budget) head.budget ++ inner := by
  obtain ⟨content, hr, hns⟩ := exists_of_readHead h
  rw [hr, writeNumerals, join_of_judgeNumerals hns]

lemma eq_append_of_bracketedBack? {q : Quantity} {region before content : Text}
    (h : bracketedBack? d q region = some (before, content)) :
    region = before ++ ((d.numerals q).brackets.left ++ content ++ (d.numerals q).brackets.right) := by
  unfold bracketedBack? at h
  dsimp only at h
  split at h
  · cases h
  obtain ⟨body, hb, hcut⟩ := Option.bind_eq_some_iff.1 h
  rw [Text.before?_eq_some_iff.1 hb, Text.eq_append_of_lastCut? hcut]
  simp

lemma stampBack_append (region : Text) :
    (stampBack d region).before ++ (stampBack d region).stamp = region := by
  rw [stampBack]
  split
  next h => exact (Lexicon.mem_of_back? h).2.symm
  cases h : fixedStampBack? d region with
  | none => simp
  | some s =>
    rw [fixedStampBack?] at h
    simp only [Option.bind_eq_bind, Option.bind_eq_some_iff] at h
    obtain ⟨body, hb, h⟩ := h
    split at h
    · cases h
    obtain ⟨before, hl, h⟩ := Option.bind_eq_some_iff.1 h
    cases h
    rw [Text.before?_eq_some_iff] at hb hl
    have ht := Text.dropBack_append_takeBack d.stamps.isTime body
    rw [hl] at ht
    rw [Option.getD_some, hb, ← List.append_assoc, ← List.append_assoc, ht]

lemma prefix_skipBack (cs : Text) : skipBack d cs <+: cs := ⟨_, Text.dropBack_append_takeBack _ cs⟩

lemma prefix_stampBack (region : Text) : (stampBack d region).before <+: region := ⟨_, stampBack_append region⟩

lemma prefix_of_bracketedBack? {q : Quantity} {region before content : Text}
    (h : bracketedBack? d q region = some (before, content)) : before <+: region :=
  ⟨_, (eq_append_of_bracketedBack? h).symm⟩

lemma exists_of_readTail {inner before : Text} {tail : Tail}
    (h : readTail d Prod.mk inner stop = .ok (some (tail, before))) :
    ∃ region content b,
      (bracketedBack? d .truth inner = none ∧ region = inner ∧ content = [] ∨
        ∃ a, bracketedBack? d .truth inner = some (a, content) ∧ region = skipBack d a) ∧
      d.punctuations.lexicon.back? (skipBack d (stampBack d region).before) = some (b, tail.punctuation) ∧
      (stampBack d region).oddTime = none ∧
      tail.stamp = (stampBack d region).stamp ∧
      judgeNumerals d Prod.mk .truth content tail.truthPlace = .ok tail.truth ∧
      before = skipBack d b := by
  obtain ⟨region, content, p, hr, he⟩ := exists_readTail_eq d Prod.mk inner stop
  rw [he] at h
  split at h
  · cases h
  next b punctuation hp =>
  split at h
  · cases h
  next ho =>
  obtain ⟨truth, ht, htail⟩ := Outcome.map_eq_ok.1 h
  cases htail
  refine ⟨region, content, b, ?_, hp, ho, rfl, ht, rfl⟩
  cases hr with
  | absent hb => exact .inl ⟨hb, rfl, rfl⟩
  | present hb => exact .inr ⟨_, hb, rfl⟩

lemma prefix_of_readTail {inner before : Text} {tail : Tail}
    (h : readTail d Prod.mk inner stop = .ok (some (tail, before))) : before <+: inner := by
  obtain ⟨region, content, b, hr, hp, -, -, -, rfl⟩ := exists_of_readTail h
  have hregion : region <+: inner := by
    rcases hr with ⟨-, rfl, -⟩ | ⟨a, ha, rfl⟩
    · exact List.prefix_rfl
    · exact (prefix_skipBack a).trans (prefix_of_bracketedBack? ha)
  have hb : b <+: skipBack d (stampBack d region).before := ⟨_, (Lexicon.mem_of_back? hp).2.symm⟩
  exact (prefix_skipBack b).trans (hb.trans ((prefix_skipBack _).trans ((prefix_stampBack region).trans hregion)))

lemma nonblank_of_back? {region b p : Text}
    (h : d.punctuations.lexicon.back? (skipBack d (stampBack d region).before) = some (b, p)) :
    nonblank d region =
      nonblank d (skipBack d b) ++ nonblank d p ++ nonblank d (stampBack d region).stamp := by
  have hr := congrArg (nonblank d) (stampBack_append (d := d) region)
  rw [nonblank_append, ← nonblank_skipBack, (Lexicon.mem_of_back? h).2, nonblank_append] at hr
  rw [← hr, nonblank_skipBack]

def emptyTruth (d : Dialect) : Text :=
  (d.numerals .truth).brackets.left ++ (d.numerals .truth).brackets.right

def droppedTruth (d : Dialect) (inner : Text) : Text :=
  if (bracketedBack? d .truth inner).any (·.2.isEmpty) then emptyTruth d else []

lemma nonblank_of_readTail {inner before : Text} {tail : Tail}
    (h : readTail d Prod.mk inner stop = .ok (some (tail, before))) :
    nonblank d inner = nonblank d before ++ nonblank d tail.punctuation ++ nonblank d tail.stamp ++
      nonblank d (writeTruth d tail.truth) ++ nonblank d (droppedTruth d inner) := by
  obtain ⟨region, content, b, hr, hp, _, hs, ht, rfl⟩ := exists_of_readTail h
  have hn := eq_nil_of_judgeNumerals ht
  rcases hr with ⟨hb, rfl, rfl⟩ | ⟨a, ha, rfl⟩
  · rw [nonblank_of_back? hp, hn.1 rfl, hs]
    simp [writeTruth, droppedTruth, hb]
  · have hi := congrArg (nonblank d) (eq_append_of_bracketedBack? ha)
    rw [nonblank_append, ← nonblank_skipBack a, nonblank_of_back? hp] at hi
    rw [hi, hs, droppedTruth, ha]
    cases hv : tail.truth with
    | nil =>
      obtain rfl := hn.2 hv
      simp [writeTruth, emptyTruth]
    | cons n ns =>
      have hj := join_of_judgeNumerals ht
      have hc : content ≠ [] := fun hc => by simp [hn.1 hc] at hv
      rw [← hj, hv] at hc ⊢
      simp [writeTruth, writeNumerals, hc]

lemma nonblank_join {sep : Text} (hb : sep.all d.spacing.isSpace) (xs : List Text) :
    nonblank d (Text.join sep xs) = (xs.map (nonblank d)).flatten := by
  induction xs with
  | nil => rfl
  | cons x xs ih =>
    cases xs with
    | nil => simp
    | cons y ys => simp [Text.join_cons_cons, ih, nonblank_eq_nil hb]

lemma nonblank_writeItems (hb : d.spacing.betweenItems.all d.spacing.isSpace) (parts : List Text) :
    nonblank d (writeItems d parts) = (parts.map (nonblank d)).flatten := by
  rw [writeItems, nonblank_join hb]
  induction parts with
  | nil => rfl
  | cons x xs ih => cases x <;> simp_all

lemma nonblank_sentence (hb : d.spacing.betweenItems.all d.spacing.isSpace) (s : Lexical.Sentence) :
    nonblank d (s.write d) = nonblank d (s.term.write d) ++ nonblank d s.punctuation ++
      nonblank d s.stamp ++ nonblank d (writeTruth d s.truth) := by
  simp [Lexical.Sentence.write, nonblank_writeItems hb]

end NarseseDialects.Reading
