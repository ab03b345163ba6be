import NarseseDialects.Proofs.Dialect.Literals
import NarseseDialects.Proofs.Lexical.Spelled
import NarseseDialects.Proofs.LongestMatch
import NarseseDialects.Proofs.Reading.Nonblank

/-! Truth brackets with nothing inside can be left out where no mark before them ends like a truth, and
where a budget that is given up is given up without them too. -/

namespace NarseseDialects

namespace Lexicon

lemma startsWithAny_congr {l : Lexicon} {cs cs' : Text}
    (h : ∀ e ∈ l.entries, (Text.after? e cs).isSome = (Text.after? e cs').isSome) :
    l.startsWithAny cs = l.startsWithAny cs' := by
  rw [startsWithAny, startsWithAny, Bool.eq_iff_iff, front?, front?]
  simp only [List.findSome?_isSome_iff, Option.isSome_map]
  refine exists_congr fun e => and_congr_right fun he => ?_
  rw [h e he]

end Lexicon

namespace Text

lemma after?_isSome_congr {c : Char} {p : Text} (hc : c ∉ p) (x y z : Text) :
    (after? p (x ++ c :: y)).isSome = (after? p (x ++ c :: z)).isSome := by
  induction p generalizing x with
  | nil => simp
  | cons a p ih =>
    rw [List.mem_cons, not_or] at hc
    cases x with
    | nil => simp [after?, Ne.symm hc.1]
    | cons b x =>
      rw [List.cons_append, List.cons_append, after?, after?]
      split
      · exact ih hc.2 x
      · rfl

end Text

namespace Reading

variable {d : Dialect} {stop : Nat}

lemma nameSpan_congr {c : Char} (hc : d.stopsNames c = true) (x y z : Text) :
    (nameSpan d (x ++ c :: y)).1 = (nameSpan d (x ++ c :: z)).1 := by
  simp only [Dialect.stopsNames, Bool.and_eq_true, Bool.not_eq_true', List.all_eq_true,
    Bool.or_eq_true] at hc
  obtain ⟨⟨hi, -⟩, ht⟩ := hc
  induction x with
  | nil => simp [nameSpan, hi]
  | cons a x ih =>
    rw [List.cons_append, List.cons_append, nameSpan, nameSpan]
    by_cases ha : d.isIdentifier a = true
    · have hs : d.terminators.startsWithAny (a :: (x ++ c :: y)) =
          d.terminators.startsWithAny (a :: (x ++ c :: z)) := by
        apply Lexicon.startsWithAny_congr
        intro t hm
        cases t with
        | nil => simp
        | cons b t =>
          rcases ht (b :: t) (Dialect.mem_terminators.1 hm) with hb | hb
          · have hne : b ≠ a := by
              rintro rfl
              simp [Dialect.Parts.beginsAsName, ha] at hb
            simp [Text.after?_cons_of_ne hne]
          · exact Text.after?_isSome_congr (by simpa using hb) (a :: x) y z
      rw [hs]
      split
      · simp [ih]
      · rfl
    · simp [ha]

lemma opening?_append_right {p cs r : Text} (h : opening? p cs = some r) (x : Text) :
    opening? p (cs ++ x) = some (r ++ x) := by
  cases p with
  | nil => cases h
  | cons c p =>
    rw [eq_append_of_opening? h, List.append_assoc]
    exact Text.after?_append _ _

lemma exists_front?_of_budget (hd : d.ClearTail) :
    ∃ s t, (d.numerals .budget).brackets.left = s ++ t ∧
      ∀ r, d.sigils.lexicon.front? ((d.numerals .budget).brackets.left ++ r) = some (s, t ++ r) := by
  have hs : ∀ e ∈ d.sigils.lexicon.entries, e = [] ∨ e = (d.numerals .budget).brackets.left ∨
      Text.apart (d.numerals .budget).brackets.left e = true := by
    intro e he
    obtain ⟨r, rfl⟩ := Vocabulary.mem_lexicon.1 he
    exact hd.sigil r
  by_cases hl : (d.numerals .budget).brackets.left ∈ d.sigils.lexicon.entries
  · refine ⟨_, [], (List.append_nil _).symm, fun r => ?_⟩
    apply Lexicon.front?_eq_some hl
    intro a ha hlt
    rcases hs a ha with rfl | rfl | h
    · simp at hlt
    · omega
    · exact Text.after?_of_apart h r
  · refine ⟨[], _, rfl, fun r => ?_⟩
    have hw : [] ∈ d.sigils.lexicon.entries := Vocabulary.mem_lexicon.2 ⟨_, d.word_sigil⟩
    apply Lexicon.front?_eq_some hw
    intro a ha hlt
    rcases hs a ha with rfl | rfl | h
    · simp at hlt
    · exact absurd ha hl
    · exact Text.after?_of_apart h r

lemma atomReach_append (hd : d.ClearTail) {c : Char} (hc : d.stopsNames c = true) {w r : Text}
    (hw : c ∈ w) (ho : opening? (d.numerals .budget).brackets.left w = some r) (x : Text) :
    atomReach d (w ++ x) = atomReach d w := by
  obtain rfl := eq_append_of_opening? ho
  have hl : c ∉ (d.numerals .budget).brackets.left := by
    simp only [Dialect.stopsNames, Bool.and_eq_true, Bool.not_eq_true', List.contains_eq_mem,
      decide_eq_false_iff_not] at hc
    exact hc.1.2
  obtain ⟨y, z, rfl⟩ := List.append_of_mem ((List.mem_append.1 hw).resolve_left hl)
  obtain ⟨s, t, -, hf⟩ := exists_front?_of_budget hd
  have hn := nameSpan_congr hc (t ++ y) (z ++ x) z
  simp only [List.append_assoc] at hn
  simp only [atomReach, List.append_assoc, List.cons_append, hf, hn]

def budgetCut? (d : Dialect) (region : Text) : Option (Text × Text) :=
  (opening? (d.numerals .budget).brackets.left region).bind
    (Text.firstCut? (d.numerals .budget).brackets.right)

lemma eq_append_of_budgetCut? {region a b : Text} (h : budgetCut? d region = some (a, b)) :
    region = (d.numerals .budget).brackets.left ++ a ++ (d.numerals .budget).brackets.right ++ b := by
  obtain ⟨r, hr, hcut⟩ := Option.bind_eq_some_iff.1 h
  rw [eq_append_of_opening? hr, Text.eq_append_of_firstCut? hcut]
  simp

lemma exists_budgetCut? (hl : (d.numerals .budget).brackets.left ≠ []) (a b : Text) :
    ∃ x y, budgetCut? d ((d.numerals .budget).brackets.left ++ a ++ (d.numerals .budget).brackets.right ++ b) =
      some (x, y) := by
  obtain ⟨x, y, hxy⟩ := Text.exists_firstCut? a (d.numerals .budget).brackets.right b
  refine ⟨x, y, ?_⟩
  simp only [budgetCut?, List.append_assoc]
  rw [opening?_append hl, Option.bind_some, hxy]

lemma readHead_of_budgetCut?_eq_none {region whole : Text} {p : Nat} (h : budgetCut? d region = none) :
    readHead d Prod.mk region whole p = .ok none := by
  rw [budgetCut?] at h
  simp only [readHead, h]

lemma readHead_append (hd : d.ClearTail) {c : Char} (hc : d.stopsNames c = true) {w a b : Text} {p : Nat}
    (hw : c ∈ w) (h : budgetCut? d w = some (a, b)) (x : Text) :
    readHead d Prod.mk (w ++ x) (w ++ x) p =
      (readHead d Prod.mk w w p).map (Option.map fun q => (q.1, q.2 ++ x)) := by
  rw [budgetCut?] at h
  obtain ⟨r, hr, hab⟩ := Option.bind_eq_some_iff.1 h
  have hx : (opening? (d.numerals .budget).brackets.left (w ++ x)).bind
      (Text.firstCut? (d.numerals .budget).brackets.right) = some (a, b ++ x) := by
    rw [opening?_append_right hr, Option.bind_some, Text.firstCut?_append_right hab]
  simp only [readHead, h, hx, atomReach_append hd hc hw hr]
  split
  · rfl
  · cases judgeNumerals d Prod.mk .budget a p <;> rfl

lemma readHead_none_of_append (hd : d.ClearTail) {c : Char} (hc : d.stopsNames c = true) {w x : Text}
    {p : Nat} (hw : c ∈ w) (h : readHead d Prod.mk (w ++ x) (w ++ x) p = .ok none) :
    readHead d Prod.mk w w p = .ok none := by
  cases hb : budgetCut? d w with
  | none => exact readHead_of_budgetCut?_eq_none hb
  | some ab =>
    rw [readHead_append hd hc hw hb, Outcome.map_eq_ok] at h
    obtain ⟨o, ho, he⟩ := h
    rw [ho, Option.map_eq_none_iff.1 he]

lemma readHead_some_of_append (hd : d.ClearTail) {c : Char} (hc : d.stopsNames c = true)
    {w x inner : Text} {head : Head} {p : Nat} (hi : c ∈ inner)
    (h : readHead d Prod.mk (w ++ x) (w ++ x) p = .ok (some (head, inner ++ x))) :
    readHead d Prod.mk w w p = .ok (some (head, inner)) := by
  have hw := eq_append_of_readHead h
  rw [← List.append_assoc, List.append_cancel_right_eq] at hw
  have hl : (d.numerals .budget).brackets.left ≠ [] := by
    intro hl
    rw [readHead_of_budgetCut?_eq_none (by rw [budgetCut?, hl]; rfl)] at h
    cases h
  obtain ⟨a, b, hb⟩ := exists_budgetCut? hl (Text.join (d.numerals .budget).separator head.budget) inner
  rw [← Lexical.writeNumerals, ← hw] at hb
  rw [readHead_append hd hc (by simp [hw, hi]) hb, Outcome.map_eq_ok] at h
  obtain ⟨o, ho, he⟩ := h
  obtain ⟨⟨g, i⟩, rfl, hg⟩ := Option.map_eq_some_iff.1 he
  simp only [Prod.mk.injEq, List.append_cancel_right_eq] at hg
  obtain ⟨rfl, rfl⟩ := hg
  exact ho

lemma exists_of_isSignedInteger {t : Text} (h : isSignedInteger t = true) :
    ∃ x c, c ∈ Text.plainDigits ∧ t = x ++ [c] := by
  have hs : ∃ s, t = s ++ (Written.signed t).2 := by
    simp only [Written.signed]
    split
    · exact ⟨['-'], rfl⟩
    · exact ⟨['+'], rfl⟩
    · exact ⟨[], rfl⟩
  obtain ⟨s, hs⟩ := hs
  simp only [isSignedInteger, Bool.and_eq_true, Bool.not_eq_true', List.isEmpty_eq_false_iff,
    List.all_eq_true] at h
  obtain ⟨hn, ha⟩ := h
  refine ⟨s ++ (Written.signed t).2.dropLast, (Written.signed t).2.getLast hn, ?_, ?_⟩
  · exact Text.isPlainDigit_iff_mem.1 (ha _ (List.getLast_mem hn))
  · rw [List.append_assoc, List.dropLast_concat_getLast, ← hs]

lemma spelledStamp_of_stampBack {region : Text} (h : (stampBack d region).oddTime = none) :
    Lexical.SpelledStamp d (stampBack d region).stamp := by
  rw [stampBack] at h ⊢
  split
  next before stamp hb =>
    obtain ⟨t, rfl⟩ := Vocabulary.mem_lexicon.1 (Lexicon.mem_of_back? hb).1
    exact .inr (.inl ⟨t, rfl⟩)
  next hb =>
    cases hf : fixedStampBack? d region with
    | none => exact .inl rfl
    | some s =>
      simp only [hb, hf, Option.getD_some] at h ⊢
      simp only [fixedStampBack?, Option.bind_eq_bind, Option.bind_eq_some_iff] at hf
      obtain ⟨body, -, hf⟩ := hf
      split at hf
      · cases hf
      obtain ⟨before, -, hs⟩ := Option.bind_eq_some_iff.1 hf
      cases hs
      dsimp only at h
      split at h
      next ht => exact .inr (.inr ⟨_, ht, rfl⟩)
      · cases h

lemma bracketedBack?_eq_none {q : Quantity} {e : Text}
    (h : Text.apartBack e (d.numerals q).brackets.right = true) (x : Text) :
    bracketedBack? d q (x ++ e) = none := by
  simp [bracketedBack?, Text.before?_of_apartBack h]

lemma bracketedBack?_of_back? (hd : d.ClearTail) {a b p : Text} (ha : skipBack d a = a)
    (hp : d.punctuations.lexicon.back? (skipBack d (stampBack d a).before) = some (b, p))
    (ho : (stampBack d a).oddTime = none) : bracketedBack? d .truth a = none := by
  have hs := stampBack_append (d := d) a
  obtain ⟨hm, hb⟩ := Lexicon.mem_of_back? hp
  obtain ⟨p, rfl⟩ := Vocabulary.mem_lexicon.1 hm
  rcases spelledStamp_of_stampBack ho with h | ⟨t, h⟩ | ⟨time, ht, h⟩
  · rw [h, List.append_nil] at hs
    rw [hs, ha] at hb
    rw [hb]
    exact bracketedBack?_eq_none (hd.punctuation p) b
  · rw [← hs, h]
    exact bracketedBack?_eq_none (hd.tense t) _
  · obtain ⟨x, c, hc, rfl⟩ := exists_of_isSignedInteger ht
    have hend := bracketedBack?_eq_none (hd.time c hc) ((stampBack d a).before ++ d.stamps.fixedLeft ++ x)
    rw [← hs, h]
    simpa using hend

lemma readTail_of_emptyTruth (hd : d.ClearTail) {a before : Text} {tail : Tail} (ha : skipBack d a = a)
    (hb : bracketedBack? d .truth (a ++ emptyTruth d) = some (a, []))
    (h : readTail d Prod.mk (a ++ emptyTruth d) stop = .ok (some (tail, before))) :
    readTail d Prod.mk a (stop - (emptyTruth d).length) =
      .ok (some ({ tail with truthPlace := stop - (emptyTruth d).length }, before)) := by
  obtain ⟨region, content, b, hr, hp, ho, -, -, rfl⟩ := exists_of_readTail h
  obtain ⟨rfl, rfl⟩ : region = a ∧ content = [] := by
    rcases hr with ⟨hn, -⟩ | ⟨a', ha', rfl⟩
    · rw [hb] at hn
      cases hn
    · rw [hb] at ha'
      cases ha'
      exact ⟨ha, rfl⟩
  have hn := bracketedBack?_of_back? hd ha hp ho
  simp only [readTail, hb, ha, hp, ho] at h
  obtain ⟨truth, ht, hq⟩ := Outcome.map_eq_ok.1 h
  cases ht
  have hl : stop - (region ++ emptyTruth d).length = stop - (emptyTruth d).length - region.length := by
    rw [List.length_append]
    omega
  obtain ⟨punctuation, place, stamp, truth, truthPlace⟩ := tail
  simp only [Option.some.injEq, Prod.mk.injEq, Tail.mk.injEq] at hq
  obtain ⟨⟨-, rfl, rfl, rfl, -⟩, -⟩ := hq
  simp only [readTail, hn, hp, ho, hl]
  rfl

lemma exists_stopsNames (hd : d.ClearTail) {a b p : Text}
    (hp : d.punctuations.lexicon.back? (skipBack d (stampBack d a).before) = some (b, p)) :
    ∃ c, d.stopsNames c = true ∧ c ∈ a := by
  obtain ⟨hm, hb⟩ := Lexicon.mem_of_back? hp
  obtain ⟨p, rfl⟩ := Vocabulary.mem_lexicon.1 hm
  obtain ⟨c, hc, hs⟩ := List.any_eq_true.1 (hd.stops p)
  refine ⟨c, hs, ?_⟩
  rw [← stampBack_append (d := d) a,
    ← Text.dropBack_append_takeBack d.spacing.isSpace (stampBack d a).before]
  have hc' : c ∈ skipBack d (stampBack d a).before := by
    rw [hb]
    exact List.mem_append_right _ hc
  exact List.mem_append_left _ (List.mem_append_left _ hc')

end Reading

end NarseseDialects
