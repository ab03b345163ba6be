import NarseseDialects.Proofs.Reading.EmptyTruth
import NarseseDialects.Proofs.Reading.Numerals
import NarseseDialects.Proofs.Reading.WrittenTerms

namespace NarseseDialects.Reading

open Lexical

variable {d : Dialect} {j : Nat} {q : Char → Bool} {fits : AtomRole → Text → Bool}

lemma skipBack_append {w b : Text} (hb : b.all d.spacing.isSpace = true)
    (hw : w.getLast?.all (!d.spacing.isSpace ·) = true) : skipBack d (w ++ b) = w := (Text.takeBack_append hb hw).2

lemma skipBack_of_last {w : Text} (hw : w.getLast?.all (!d.spacing.isSpace ·) = true) : skipBack d w = w :=
  Text.dropBack_eq_self hw

lemma last_of_all {e : Text} (hne : e ≠ []) (h : e.all (!d.spacing.isSpace ·) = true) (x : Text) :
    (x ++ e).getLast?.all (!d.spacing.isSpace ·) = true := by
  rw [List.getLast?_append_of_ne_nil x hne, List.getLast?_eq_getLast_of_ne_nil hne]
  exact List.all_eq_true.1 h _ (List.getLast_mem hne)

lemma fixedStampBack?_of_right {w : Text} (h : Text.before? d.stamps.fixedRight w = none) :
    fixedStampBack? d w = none := by
  rw [fixedStampBack?, h]
  rfl

lemma fixedStampBack?_of_left {w : Text} (hr : d.stamps.fixedRight = [])
    (h : Text.before? d.stamps.fixedLeft (Text.dropBack d.stamps.isTime w) = none) :
    fixedStampBack? d w = none := by
  have hw : Text.before? [] w = some w := by rw [Text.before?_eq_some_iff, List.append_nil]
  rw [fixedStampBack?, hr, hw]
  simp [h]

structure Unmarked (d : Dialect) (w : Text) : Prop where
  truth : bracketedBack? d .truth w = none
  stamp : stampBack d w = ⟨w, [], none⟩

lemma unmarked_of_quiet {e : Text} (he : d.quiet e = true) (x : Text) : Unmarked d (x ++ e) := by
  simp only [Dialect.quiet, Bool.and_eq_true, List.all_eq_true] at he
  obtain ⟨⟨ht, hs⟩, hf⟩ := he
  have hb : d.stamps.tenses.lexicon.back? (x ++ e) = none := by
    apply Lexicon.back?_eq_none
    intro a ha
    obtain ⟨t, rfl⟩ := Vocabulary.mem_lexicon.1 ha
    exact Text.before?_of_apartBack (hs t (Role.mem_members t)) x
  have hn : fixedStampBack? d (x ++ e) = none := by
    split at hf
    next hr =>
      rw [Bool.and_eq_true] at hf
      have hlast : (x ++ e).getLast?.all (!d.stamps.isTime ·) = true := by
        cases he : e.getLast? with
        | none => simp [he] at hf
        | some c =>
          rw [List.getLast?_append, he]
          simpa [he] using hf.1
      have hdrop := Text.dropBack_eq_self hlast
      apply fixedStampBack?_of_left (List.isEmpty_iff.1 hr)
      rw [hdrop]
      exact Text.before?_of_apartBack hf.2 x
    · exact fixedStampBack?_of_right (Text.before?_of_apartBack hf x)
  refine ⟨bracketedBack?_eq_none ht x, ?_⟩
  simp [stampBack, hb, hn]

lemma apartBack_of_last {c : Char} {e : Text} (h : e.getLast?.any (!q ·) = true) (hc : q c = true) :
    Text.apartBack [c] e = true := by
  rw [← List.head?_reverse] at h
  cases hr : e.reverse with
  | nil => simp [hr] at h
  | cons x r =>
    have hx : q x = false := by simpa [hr] using h
    have hne : ¬ c = x := by
      rintro rfl
      rw [hc] at hx
      cases hx
    simp [Text.apartBack, Text.apart, hr, hne]

lemma unmarked_atom (hi : d.ClearItems q) (hn : d.ClearChars q fits) {r : AtomRole} {n : Text}
    (h : fits r n = true) (hne : n ≠ []) : Unmarked d (d.sigils.literal r ++ n) := by
  obtain ⟨y, c, rfl⟩ : ∃ y c, n = y ++ [c] := ⟨_, _, (List.dropLast_concat_getLast hne).symm⟩
  have hall := List.all_eq_true.1 (hn.all h)
  have hc : q c = true := hall c (by simp)
  have hm : ∀ e ∈ (d.numerals .truth).brackets.right ::
      (d.punctuations.lexicon.entries ++ d.stamps.tenses.lexicon.entries), Text.apartBack [c] e = true :=
    fun e he => apartBack_of_last (hi.name_mark e he) hc
  rw [← List.append_assoc]
  have hb : d.stamps.tenses.lexicon.back? (d.sigils.literal r ++ y ++ [c]) = none :=
    Lexicon.back?_eq_none fun a ha => Text.before?_of_apartBack (hm a (by simp [ha])) _
  have hf : fixedStampBack? d (d.sigils.literal r ++ y ++ [c]) = none := by
    rcases hi.name_fixed with hr | ⟨hr, hz⟩
    · exact fixedStampBack?_of_right (Text.before?_of_apartBack (apartBack_of_last hr hc) _)
    · obtain ⟨z, hzl, hz⟩ := List.any_eq_true.1 hz
      simp only [Bool.and_eq_true, Bool.not_eq_true', List.all_eq_true, List.contains_eq_mem,
        decide_eq_false_iff_not] at hz
      have hnot : z ∉ d.sigils.literal r ++ y ++ [c] := by
        intro hmem
        rw [List.append_assoc, List.mem_append] at hmem
        rcases hmem with hmem | hmem
        · exact hz.2 _ (Vocabulary.literal_mem _ r) hmem
        · rw [hall z hmem] at hz
          cases hz.1
      apply fixedStampBack?_of_left hr
      rw [Option.eq_none_iff_forall_ne_some]
      intro x hx
      apply hnot
      rw [← Text.dropBack_append_takeBack d.stamps.isTime (d.sigils.literal r ++ y ++ [c]),
        Text.before?_eq_some_iff.1 hx]
      simp [hzl]
  refine ⟨bracketedBack?_eq_none (hm _ List.mem_cons_self) _, ?_⟩
  simp only [stampBack, hb, hf, Option.getD_none]

section

variable (hd : d.ClearTerms) (hn : d.ClearChars q fits) (hi : d.ClearItems q) {g h : Text}

lemma exists_ending {t : Lexical.Term} (ht : t.Spelled d fits) :
    (∃ x, ∃ e ∈ d.endings, t.write (d.withGaps g h) = x ++ e) ∨
      ∃ r n, fits r n = true ∧ n ≠ [] ∧ t.write (d.withGaps g h) = d.sigils.literal r ++ n := by
  cases t with
  | atom p n _ =>
    obtain ⟨r, rfl, hf, hne⟩ := ht
    by_cases hnil : n = []
    · subst hnil
      rw [hne rfl]
      exact .inl ⟨[], _, List.mem_cons_self, by simp [Term.write]⟩
    · exact .inr ⟨r, n, hf, hnil, rfl⟩
  | compound c ts _ =>
    have hm : d.compound.right ∈ d.endings := by simp [Dialect.endings, Dialect.closers]
    exact .inl ⟨_, _, hm, rfl⟩
  | set l ts r _ =>
    obtain ⟨⟨s, rfl, rfl⟩, -⟩ := ht
    have hm : (d.sets.pair s).right ∈ d.endings := by
      simp [Dialect.endings, Dialect.closers, SetBrackets.rights, Role.mem_members]
    exact .inl ⟨_, _, hm, rfl⟩
  | statement c t u _ =>
    have hm : d.statement.right ∈ d.endings := by simp [Dialect.endings, Dialect.closers]
    exact .inl ⟨_, _, hm, rfl⟩

include hd in
lemma ending_ne_nil {e : Text} (he : e ∈ d.endings) : e ≠ [] ∧ e.all (!d.spacing.isSpace ·) = true := by
  rw [Dialect.endings, List.mem_cons] at he
  rcases he with rfl | he
  · exact (hd.opener (.sigil .placeholder)).resolve_left (by simp)
  · exact hd.joint e (by simp [Dialect.joints, he])

include hn in
lemma name_nonblank {r : AtomRole} {n : Text} (hf : fits r n = true) : n.all (!d.spacing.isSpace ·) = true := by
  apply List.all_eq_true.2
  intro c hc
  rw [hn.not_isSpace (List.all_eq_true.1 (hn.all hf) c hc)]
  rfl

include hd hn in
lemma last_write {t : Lexical.Term} (ht : t.Spelled d fits) :
    (t.write (d.withGaps g h)).getLast?.all (!d.spacing.isSpace ·) = true := by
  rcases exists_ending (g := g) (h := h) ht with ⟨x, e, he, hw⟩ | ⟨r, n, hf, hne, hw⟩
  · rw [hw]
    obtain ⟨hne, hb⟩ := ending_ne_nil hd he
    exact last_of_all hne hb x
  · rw [hw]
    exact last_of_all hne (name_nonblank hn hf) _

include hd hi

lemma readTail_of_ending {e : Text} (he : e ∈ d.endings) (x : Text) : readTail d Prod.mk (x ++ e) j = .ok none := by
  obtain ⟨hb, hs⟩ := unmarked_of_quiet (hi.quiet e (List.mem_append_right _ he)) x
  obtain ⟨hne, hblank⟩ := ending_ne_nil hd he
  have hl := skipBack_of_last (last_of_all hne hblank x)
  have hp : d.punctuations.lexicon.back? (x ++ e) = none := by
    apply Lexicon.back?_eq_none
    intro a ha
    obtain ⟨p, rfl⟩ := Vocabulary.mem_lexicon.1 ha
    exact Text.before?_of_apartBack (hi.ending_punctuation e he p) x
  simp only [readTail, hb, hs, hl, hp]

include hn

lemma readTail_write {t : Lexical.Term} (ht : t.Spelled d fits) :
    readTail d Prod.mk (t.write (d.withGaps g h)) j = .ok none := by
  rcases exists_ending (g := g) (h := h) ht with ⟨x, e, he, hw⟩ | ⟨r, n, hf, hne, hw⟩
  · rw [hw]
    exact readTail_of_ending hd hi he x
  · obtain ⟨hb, hs⟩ := unmarked_atom hi hn hf hne
    have hl := skipBack_of_last (last_of_all hne (name_nonblank hn hf) (d.sigils.literal r))
    have hp : d.punctuations.lexicon.back? (d.sigils.literal r ++ n) = none := by
      obtain ⟨y, c, rfl⟩ : ∃ y c, n = y ++ [c] := ⟨_, _, (List.dropLast_concat_getLast hne).symm⟩
      rw [← List.append_assoc]
      refine Lexicon.back?_eq_none fun a ha => Text.before?_of_apartBack (apartBack_of_last (q := q) ?_ ?_) _
      · exact hi.name_mark a (by simp [ha])
      · exact List.all_eq_true.1 (hn.all hf) c (by simp)
    rw [hw]
    simp only [readTail, hb, hs, hl, hp]

end

lemma mem_timeChars {t : Text} (h : isSignedInteger t = true) : ∀ c ∈ t, c ∈ Text.timeChars := by
  simp only [isSignedInteger, Bool.and_eq_true, List.all_eq_true] at h
  have hd : ∀ c ∈ (Written.signed t).2, c ∈ Text.timeChars := fun c hc => by
    have := Text.isPlainDigit_iff_mem.1 (h.2 c hc)
    simp [Text.timeChars, this]
  intro c hc
  simp only [Written.signed] at hd
  split at hd
  · rcases List.mem_cons.1 hc with rfl | hc
    · decide
    · exact hd c hc
  · rcases List.mem_cons.1 hc with rfl | hc
    · decide
    · exact hd c hc
  · exact hd c hc

lemma exists_mark_of_stamp {s : Text} (hs : SpelledStamp d s) {z : Char} (hz : z ∈ s) :
    ∃ e ∈ d.marks, z ∈ e := by
  rcases hs with rfl | ⟨t, rfl⟩ | ⟨time, ht, rfl⟩
  · cases hz
  · exact ⟨_, by simp [Dialect.marks, Vocabulary.literal_mem], hz⟩
  · rw [List.mem_append, List.mem_append] at hz
    rcases hz with (hz | hz) | hz
    · exact ⟨d.stamps.fixedLeft, by simp [Dialect.marks], hz⟩
    · exact ⟨Text.timeChars, by simp [Dialect.marks], mem_timeChars ht z hz⟩
    · exact ⟨d.stamps.fixedRight, by simp [Dialect.marks], hz⟩

lemma exists_mark_of_numerals {ns : List Text} (hns : ∀ n ∈ ns, SpelledNumeral n) {z : Char}
    (hz : z ∈ writeNumerals (d.numerals .truth) ns) : ∃ e ∈ d.marks, z ∈ e := by
  rw [writeNumerals, List.mem_append, List.mem_append] at hz
  rcases hz with (hz | hz) | hz
  · exact ⟨(d.numerals .truth).brackets.left, by simp [Dialect.marks], hz⟩
  · rcases mem_of_mem_join hns hz with hz | hz
    · exact ⟨(d.numerals .truth).separator, by simp [Dialect.marks], hz⟩
    · exact ⟨Text.numeralChars, by simp [Dialect.marks], hz⟩
  · exact ⟨(d.numerals .truth).brackets.right, by simp [Dialect.marks], hz⟩

lemma exists_mark_of_truth {ns : List Text} (hns : ∀ n ∈ ns, SpelledNumeral n) {z : Char}
    (hz : z ∈ writeTruth d ns) : ∃ e ∈ d.marks, z ∈ e := by
  cases ns with
  | nil => cases hz
  | cons n ns => exact exists_mark_of_numerals hns hz

lemma nonblank_of_marks (hi : d.ClearItems q) {x : Text} (hx : ∀ z ∈ x, ∃ e ∈ d.marks, z ∈ e) :
    x.all (!d.spacing.isSpace ·) = true := by
  apply List.all_eq_true.2
  intro z hz
  obtain ⟨e, he, hze⟩ := hx z hz
  exact List.all_eq_true.1 (hi.blank e he) z hze

def lead (h x : Text) : Text := if x.isEmpty then [] else h ++ x

@[simp] lemma lead_nil (x : Text) : lead [] x = x := by cases x <;> rfl

section

variable (hi : d.ClearItems q) {h : Text}

include hi

lemma punctuation_ne_nil (p : Punctuation) :
    d.punctuations.literal p ≠ [] ∧ (d.punctuations.literal p).all (!d.spacing.isSpace ·) = true := by
  have hm := Vocabulary.literal_mem d.punctuations p
  refine ⟨fun hnil => ?_, hi.blank _ (by simp [Dialect.marks, hm])⟩
  have hq := hi.name_mark _ (List.mem_cons_of_mem _ (List.mem_append_left _ hm))
  rw [hnil] at hq
  cases hq

lemma stampBack_tense (x : Text) (t : Tense) :
    stampBack d (x ++ d.stamps.tenses.literal t) = ⟨x, d.stamps.tenses.literal t, none⟩ := by
  have hb := Lexicon.back?_of_apart (Vocabulary.literal_mem d.stamps.tenses t) (fun a ha hne => ?_) x
  · simp only [stampBack, hb]
  · obtain ⟨t', rfl⟩ := Vocabulary.mem_lexicon.1 ha
    apply (hi.tense_tense t t').resolve_left
    rintro rfl
    exact hne rfl

lemma stampBack_fixed (x : Text) {time : Text} (ht : isSignedInteger time = true) :
    stampBack d (x ++ (d.stamps.fixedLeft ++ time ++ d.stamps.fixedRight)) =
      ⟨x, d.stamps.fixedLeft ++ time ++ d.stamps.fixedRight, none⟩ := by
  have hb : d.stamps.tenses.lexicon.back? (x ++ (d.stamps.fixedLeft ++ time ++ d.stamps.fixedRight)) = none := by
    obtain ⟨y, c, hc, rfl⟩ := exists_of_isSignedInteger ht
    apply Lexicon.back?_eq_none
    intro a ha
    obtain ⟨t, rfl⟩ := Vocabulary.mem_lexicon.1 ha
    have h := Text.before?_of_apartBack (hi.fixed_tense c hc t) (x ++ d.stamps.fixedLeft ++ y)
    simpa only [List.append_assoc, List.cons_append, List.nil_append] using h
  have hlast : (x ++ d.stamps.fixedLeft).getLast?.all (!d.stamps.isTime ·) = true := by
    have hl := hi.fixedLeft
    cases he : d.stamps.fixedLeft.getLast? with
    | none => simp [he] at hl
    | some c =>
      rw [List.getLast?_append, he]
      simpa [he] using hl
  have hall : time.all d.stamps.isTime = true :=
    List.all_eq_true.2 fun c hc => hi.isTime c (mem_timeChars ht c hc)
  obtain ⟨htake, hdrop⟩ := Text.takeBack_append hall hlast
  have hne : d.stamps.fixedLeft.isEmpty = false := by
    have hl := hi.fixedLeft
    cases hf : d.stamps.fixedLeft with
    | nil => simp [hf] at hl
    | cons c r => rfl
  have hf : fixedStampBack? d (x ++ (d.stamps.fixedLeft ++ time ++ d.stamps.fixedRight)) =
      some ⟨x, d.stamps.fixedLeft ++ time ++ d.stamps.fixedRight, none⟩ := by
    rw [fixedStampBack?, ← List.append_assoc, ← List.append_assoc, Text.before?_append]
    simp only [Option.bind_eq_bind, Option.bind_some, htake, hdrop, hne, Bool.false_eq_true, if_false,
      Text.before?_append, ht, if_true]
    rfl
  simp only [stampBack, hb, hf, Option.getD_some]

lemma back?_punctuation (x b : Text) (hb : b.all d.spacing.isSpace = true) (p : Punctuation) :
    d.punctuations.lexicon.back? (skipBack d (x ++ d.punctuations.literal p ++ b)) =
      some (x, d.punctuations.literal p) := by
  obtain ⟨hne, hbl⟩ := punctuation_ne_nil hi p
  rw [skipBack_append hb (last_of_all hne hbl x)]
  refine Lexicon.back?_of_apart (Vocabulary.literal_mem _ p) (fun a ha hne => ?_) x
  obtain ⟨p', rfl⟩ := Vocabulary.mem_lexicon.1 ha
  apply (hi.punctuation_punctuation p p').resolve_left
  rintro rfl
  exact hne rfl

lemma bracketedBack?_writeNumerals {ns : List Text} (hns : ∀ n ∈ ns, SpelledNumeral n) (x : Text) :
    bracketedBack? d .truth (x ++ writeNumerals (d.numerals .truth) ns) =
      some (x, Text.join (d.numerals .truth).separator ns) := by
  have ht := hi.truth
  rw [writeNumerals, bracketedBack?, ← List.append_assoc, ← List.append_assoc, Text.before?_append]
  cases hl : (d.numerals .truth).brackets.left with
  | nil => simp [hl, Text.encloses] at ht
  | cons z p =>
    simp only [hl, Text.encloses, Bool.and_eq_true, Bool.not_eq_true', List.contains_eq_mem,
      decide_eq_false_iff_not] at ht
    obtain ⟨⟨hp, hsep⟩, hnum⟩ := ht
    have hc : z ∉ Text.join (d.numerals .truth).separator ns := fun hz =>
      (mem_of_mem_join hns hz).elim hsep hnum
    rw [Option.bind_some, List.append_assoc, Text.lastCut?_append hp hc]
    rfl

variable (hh : h.all d.spacing.isSpace = true)

include hh

lemma stamped {s : Text} (hs : SpelledStamp d s) (x : Text) (p : Punctuation) :
    bracketedBack? d .truth (x ++ d.punctuations.literal p ++ lead h s) = none ∧
      (∃ b, b.all d.spacing.isSpace = true ∧ stampBack d (x ++ d.punctuations.literal p ++ lead h s) =
        ⟨x ++ d.punctuations.literal p ++ b, s, none⟩) ∧
      (x ++ d.punctuations.literal p ++ lead h s).getLast?.all (!d.spacing.isSpace ·) = true := by
  have hb := nonblank_of_marks hi fun z => exists_mark_of_stamp hs
  rcases hs with rfl | ⟨t, rfl⟩ | ⟨time, ht, rfl⟩
  · obtain ⟨hne, hb⟩ := punctuation_ne_nil hi p
    have hq := hi.quiet _ (List.mem_append_left _ (Vocabulary.literal_mem d.punctuations p))
    obtain ⟨hu, hs⟩ := unmarked_of_quiet hq x
    have hl : lead h [] = [] := rfl
    rw [hl, List.append_nil]
    exact ⟨hu, ⟨[], rfl, by rw [hs, List.append_nil]⟩, last_of_all hne hb x⟩
  · have hm := Vocabulary.literal_mem d.stamps.tenses t
    have hne : d.stamps.tenses.literal t ≠ [] := by
      intro hnil
      have hq := hi.name_mark _ (List.mem_cons_of_mem _ (List.mem_append_right _ hm))
      rw [hnil] at hq
      cases hq
    rw [lead, if_neg (by simpa using hne), ← List.append_assoc]
    exact ⟨bracketedBack?_eq_none (hi.tense_truth t) _, ⟨h, hh, stampBack_tense hi _ t⟩, last_of_all hne hb _⟩
  · have hne : d.stamps.fixedLeft ++ time ++ d.stamps.fixedRight ≠ [] := by
      obtain ⟨y, c, -, rfl⟩ := exists_of_isSignedInteger ht
      simp
    rw [lead, if_neg (by simpa using hne), ← List.append_assoc]
    refine ⟨?_, ⟨h, hh, stampBack_fixed hi _ ht⟩, last_of_all hne hb _⟩
    obtain ⟨y, c, hc, rfl⟩ := exists_of_isSignedInteger ht
    have hq := bracketedBack?_eq_none (hi.fixed_truth c hc)
      (x ++ d.punctuations.literal p ++ h ++ d.stamps.fixedLeft ++ y)
    simpa only [List.append_assoc, List.cons_append, List.nil_append] using hq

lemma exists_readTail_writeNumerals {s : Text} (hs : SpelledStamp d s) {ns : List Text}
    (hns : ∀ n ∈ ns, SpelledNumeral n) (hl : ns.length ≤ Quantity.truth.limit) (x : Text) (p : Punctuation) :
    ∃ tail, readTail d Prod.mk
        (x ++ d.punctuations.literal p ++ lead h s ++ h ++ writeNumerals (d.numerals .truth) ns) j =
        .ok (some (tail, skipBack d x)) ∧
      tail.punctuation = d.punctuations.literal p ∧ tail.stamp = s ∧ tail.truth = ns := by
  obtain ⟨-, ⟨b, hb, hst⟩, hlast⟩ := stamped hi hh hs x p
  have hp := back?_punctuation hi x b hb p
  -- With its numerals taken off, the truth leaves the blanks before it behind the stamp.
  have hbr := bracketedBack?_writeNumerals hi hns (x ++ d.punctuations.literal p ++ lead h s ++ h)
  have hsk := skipBack_append hh hlast
  simp only [readTail, hbr, hsk, hst, hp, judgeNumerals_join hi.truth_separator hns hl]
  exact ⟨_, rfl, rfl, rfl, rfl⟩

lemma exists_readTail_write {s : Text} (hs : SpelledStamp d s) {ns : List Text}
    (hns : ∀ n ∈ ns, SpelledNumeral n) (hl : ns.length ≤ Quantity.truth.limit) (x : Text) (p : Punctuation) :
    ∃ tail, readTail d Prod.mk (x ++ d.punctuations.literal p ++ lead h s ++ lead h (writeTruth d ns)) j =
        .ok (some (tail, skipBack d x)) ∧
      tail.punctuation = d.punctuations.literal p ∧ tail.stamp = s ∧ tail.truth = ns := by
  cases ns with
  | nil =>
    obtain ⟨hu, ⟨b, hb, hst⟩, -⟩ := stamped hi hh hs x p
    have hp := back?_punctuation hi x b hb p
    have hle : lead h (writeTruth d []) = [] := rfl
    rw [hle, List.append_nil]
    simp only [readTail, hu, hst, hp]
    exact ⟨_, rfl, rfl, rfl, rfl⟩
  | cons n ns =>
    have hle : lead h (writeTruth d (n :: ns)) = h ++ writeNumerals (d.numerals .truth) (n :: ns) := by
      have hne : Text.join (d.numerals .truth).separator (n :: ns) ≠ [] :=
        join_ne_nil (List.cons_ne_nil n ns) fun m hm => (mem_numeralChars_of_spelled (hns m hm)).1
      rw [lead, if_neg]
      · rfl
      · simp [writeTruth, writeNumerals, hne]
    rw [hle, ← List.append_assoc]
    exact exists_readTail_writeNumerals hi hh hs hns hl x p

end

end NarseseDialects.Reading
