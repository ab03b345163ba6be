import NarseseDialects.Proofs.Conservation
import NarseseDialects.Proofs.Reading.Numerals

namespace NarseseDialects

namespace Reading

open Lexical

variable {d : Dialect} {z : Char} {ε : Type} {fault : Fault → Nat → ε}

def beforeTruth (d : Dialect) (region : Text) : Text :=
  match bracketedBack? d .truth region with
  | some (before, _) => skipBack d before
  | none => region

lemma readTail_eq_none_iff {region : Text} {stop : Nat} :
    readTail d fault region stop = .ok none ↔
      d.punctuations.lexicon.back? (skipBack d (stampBack d (beforeTruth d region)).before) = none := by
  obtain ⟨r, content, p, hr, he⟩ := exists_readTail_eq d fault region stop
  have hbefore : beforeTruth d region = r := by
    cases hr with
    | absent hb => rw [beforeTruth, hb]
    | present hb => rw [beforeTruth, hb]
  rw [he, hbefore]
  split
  next hp => simp [hp]
  next hp =>
  split
  · simp [hp]
  · simp [hp, Outcome.map_eq_ok]

section

variable (hz : d.ClearFront z)

include hz

lemma skipBack_append_cons (y r : Text) : skipBack d (y ++ z :: r) = y ++ z :: skipBack d r :=
  Text.dropBack_append_cons hz.blank y r

lemma fixedStampBack?_append_cons (y r : Text) :
    fixedStampBack? d (y ++ z :: r) =
      (fixedStampBack? d r).map fun s => { s with before := y ++ z :: s.before } := by
  have hr : z ∉ d.stamps.fixedRight := hz.mark _ (by simp [Dialect.marks])
  have hl : z ∉ d.stamps.fixedLeft := hz.mark _ (by simp [Dialect.marks])
  rw [fixedStampBack?, fixedStampBack?, Text.before?_append_cons hr]
  cases Text.before? d.stamps.fixedRight r with
  | none => rfl
  | some body =>
    simp only [Option.map_some, Option.bind_eq_bind, Option.bind_some, Text.takeBack_append_cons hz.time,
      Text.dropBack_append_cons hz.time, Text.before?_append_cons hl]
    split
    · rfl
    · cases Text.before? d.stamps.fixedLeft (Text.dropBack d.stamps.isTime body) <;> rfl

lemma stampBack_append_cons (y r : Text) :
    (stampBack d (y ++ z :: r)).before = y ++ z :: (stampBack d r).before := by
  have ht : ∀ e ∈ d.stamps.tenses.lexicon.entries, z ∉ e := fun e he => hz.mark e (by simp [Dialect.marks, he])
  rw [stampBack, stampBack, Lexicon.back?_append_cons ht]
  cases d.stamps.tenses.lexicon.back? r with
  | some p => rfl
  | none =>
    simp only [Option.map_none, fixedStampBack?_append_cons hz]
    cases fixedStampBack? d r <;> rfl

variable {c : Char} (hc : c ∈ (d.numerals .truth).brackets.left)

include hc

lemma bracketedBack?_append_cons {y : Text} (hy : c ∉ y) (r : Text) :
    bracketedBack? d .truth (y ++ z :: r) =
      (bracketedBack? d .truth r).map fun ab => (y ++ z :: ab.1, ab.2) := by
  have hr : z ∉ (d.numerals .truth).brackets.right := hz.mark _ (by simp [Dialect.marks])
  have hl : z ∉ (d.numerals .truth).brackets.left := hz.mark _ (by simp [Dialect.marks])
  rw [bracketedBack?, bracketedBack?]
  split
  · rfl
  · rw [Text.before?_append_cons hr]
    cases Text.before? (d.numerals .truth).brackets.right r with
    | none => rfl
    | some body => exact Text.lastCut?_append_cons hl hc hy body

lemma beforeTruth_append_cons {y : Text} (hy : c ∉ y) (r : Text) :
    beforeTruth d (y ++ z :: r) = y ++ z :: beforeTruth d r := by
  rw [beforeTruth, beforeTruth, bracketedBack?_append_cons hz hc hy]
  cases bracketedBack? d .truth r with
  | none => rfl
  | some ab => exact skipBack_append_cons hz y ab.1

lemma readTail_eq_none_of_append {y r : Text} (hy : c ∉ y) {stop : Nat}
    (h : readTail d fault (y ++ z :: r) stop = .ok none) : readTail d fault r stop = .ok none := by
  have hp : ∀ e ∈ d.punctuations.lexicon.entries, z ∉ e := fun e he => hz.mark e (by simp [Dialect.marks, he])
  rw [readTail_eq_none_iff] at h ⊢
  rwa [beforeTruth_append_cons hz hc hy, stampBack_append_cons hz, skipBack_append_cons hz,
    Lexicon.back?_append_cons hp, Option.map_eq_none_iff] at h

end

lemma readTail_of_readHead (hz : d.ClearFront z) {region whole inner : Text} {p stop : Nat} {head : Head}
    (hh : readHead d Prod.mk region whole p = .ok (some (head, inner)))
    (ht : readTail d fault region stop = .ok none) : readTail d fault inner stop = .ok none := by
  obtain ⟨c, hc, hcs⟩ := hz.truth
  obtain ⟨e, he⟩ := List.getLast?_eq_some_iff.1 hz.last
  obtain ⟨content, rfl, hj⟩ := exists_of_readHead hh
  have hns := (spelled_of_judgeNumerals hj).1
  rw [← join_of_judgeNumerals hj, he, List.append_assoc, List.append_assoc e, List.singleton_append,
    ← List.append_assoc] at ht
  refine readTail_eq_none_of_append hz hc (fun hmem => ?_) ht
  rw [List.mem_append, List.mem_append] at hmem
  rcases hmem with (hmem | hmem) | hmem
  · exact hcs _ (by simp) hmem
  · rcases mem_of_mem_join hns hmem with hmem | hmem
    · exact hcs _ (by simp) hmem
    · exact hcs Text.numeralChars (by simp) hmem
  · exact hcs (d.numerals .budget).brackets.right (by simp) (he ▸ List.mem_append_left _ hmem)

def Fault.concerns (q : Quantity) : Fault → Prop
  | tooManyNumerals q' _ | notNumeral q' _ | outsideUnit q' _ => q' = q
  | _ => False

lemma concerns_of_judgeNumerals {q : Quantity} {content : Text} {p : Nat} {f : Fault × Nat}
    (h : judgeNumerals d Prod.mk q content p = .error f) : f.1.concerns q ∧ f.2 = p := by
  rw [judgeNumerals] at h
  split at h
  · cases h
  dsimp only at h
  split at h
  · cases h
    exact ⟨rfl, rfl⟩
  split at h
  next g hg =>
    cases h
    obtain ⟨t, -, ht⟩ := List.exists_of_findSome?_eq_some hg
    rw [numeralFault?] at ht
    split at ht
    · cases ht
      exact ⟨rfl, rfl⟩
    split at ht
    · cases ht
    · cases ht
      exact ⟨rfl, rfl⟩
  · cases h

lemma concerns_of_readHead {region whole : Text} {p : Nat} {f : Fault × Nat}
    (h : readHead d Prod.mk region whole p = .error f) : f.1.concerns .budget ∧ f.2 = p := by
  unfold readHead at h
  dsimp only at h
  split at h
  · cases h
  split at h
  · cases h
  rename_i content rest _ _
  cases hj : judgeNumerals d Prod.mk .budget content p with
  | error e =>
    rw [hj] at h
    cases h
    exact concerns_of_judgeNumerals hj
  | ok ns =>
    rw [hj] at h
    cases h

def readAsTerm (d : Dialect) (text : Text) : Except (Located Fault) Node :=
  let source := Source.ofText d text
  match readWhole d lexicalMaker (nonblank d text).length (nonblank d text) with
  | .ok t => .ok (.term (t.relocate source.locate))
  | .error (f, p) => .error (source.blame f p)

lemma readRegion_of_tailless {region whole : Text} {start : Nat} {head : Option (Head × Text)}
    (hh : readHead d Prod.mk region whole start = .ok head)
    (ht : readTail d Prod.mk ((head.map Prod.snd).getD region) (start + region.length) = .ok none) :
    readRegion d lexicalMaker region whole start =
      (readWhole d lexicalMaker (start + region.length) region).map .term := by
  have hf : lexicalMaker.fault = Prod.mk := rfl
  rw [readRegion]
  dsimp only
  rw [hf, hh]
  simp only [Outcome.ok_bind, ht]
  cases readWhole d lexicalMaker (start + region.length) region <;> rfl

/-- What a text without punctuation is read as: nothing but the budget at its front is judged before it is
known that it is no sentence. -/
theorem readLexical_tailless (n : DialectName) {text : Text} (hne : nonblank n.dialect text ≠ [])
    (ht : readTail n.dialect Prod.mk (nonblank n.dialect text) (nonblank n.dialect text).length = .ok none) :
    (∀ f p, readHead n.dialect Prod.mk (nonblank n.dialect text) (nonblank n.dialect text) 0 = .error (f, p) →
        f.concerns .budget ∧ p = 0 ∧
          readLexical n.dialect text = .error ((Source.ofText n.dialect text).blame f 0)) ∧
      ∀ head, readHead n.dialect Prod.mk (nonblank n.dialect text) (nonblank n.dialect text) 0 = .ok head →
        readLexical n.dialect text = readAsTerm n.dialect text := by
  obtain ⟨z, hz⟩ := n.exists_clearFront
  have hw : ∀ c ∈ nonblank n.dialect text, n.dialect.spacing.isSpace c = false :=
    fun c => not_isSpace_of_mem_nonblank
  have hread : read n.dialect lexicalMaker (Source.ofText n.dialect text).chars =
      readRegion n.dialect lexicalMaker (nonblank n.dialect text) (nonblank n.dialect text) 0 := by
    rw [nonblank_ofText n.strip, read]
    simp only [skip_eq_self hw, skipBack_eq_self hw, Nat.sub_self]
    rw [if_neg (by simpa using hne)]
  refine ⟨fun f p hh => ?_, fun head hh => ?_⟩
  · obtain ⟨hf, hp⟩ := concerns_of_readHead hh
    obtain rfl : p = 0 := hp
    have hr : readRegion n.dialect lexicalMaker (nonblank n.dialect text) (nonblank n.dialect text) 0 =
        .error (f, 0) := by
      rw [readRegion, show lexicalMaker.fault = Prod.mk from rfl, hh]
      rfl
    refine ⟨hf, rfl, ?_⟩
    rw [readLexical]
    simp only [hread, hr]
  · rw [← Nat.zero_add (nonblank n.dialect text).length] at ht
    have hinner : readTail n.dialect Prod.mk ((head.map Prod.snd).getD (nonblank n.dialect text))
        (0 + (nonblank n.dialect text).length) = .ok none := by
      cases head with
      | none => exact ht
      | some h => exact readTail_of_readHead hz hh ht
    rw [readLexical, readAsTerm]
    simp only [hread, readRegion_of_tailless hh hinner, Nat.zero_add]
    cases readWhole n.dialect lexicalMaker (nonblank n.dialect text).length (nonblank n.dialect text) <;> rfl

lemma readTail_budgetWord : readTail .han Prod.mk (nonblank .han "预2算") (nonblank .han "预2算").length = .ok none :=
  readTail_eq_none_iff.2 (by decide +kernel)

theorem budgetWord_readLexical_tailless :
    nonblank .han "预2算" ≠ [] ∧
      readTail .han Prod.mk (nonblank .han "预2算") (nonblank .han "预2算").length = .ok none ∧
      readLexical .han "预2算" = .error ((Source.ofText .han "预2算").blame (.outsideUnit .budget "2") 0) := by
  have hne : nonblank .han "预2算" ≠ [] := by decide
  refine ⟨hne, readTail_budgetWord, ?_⟩
  have hh : (match readHead .han Prod.mk (nonblank .han "预2算") (nonblank .han "预2算") 0 with
      | .error e => some e
      | .ok _ => none) = some (.outsideUnit .budget "2", 0) := by decide +kernel
  split at hh
  next e he =>
    cases hh
    exact ((readLexical_tailless .han hne readTail_budgetWord).1 _ _ he).2.2
  · cases hh

/-- A word that looks like a budget, but holds a number that no budget has, is a term and yet refused. -/
theorem budgetWord_refused :
    ¬ ∀ text, nonblank .han text ≠ [] →
      readTail .han Prod.mk (nonblank .han text) (nonblank .han text).length = .ok none →
      readLexical .han text = readAsTerm .han text := by
  intro h
  have heq := h "预2算" (by decide) readTail_budgetWord
  have hl : (readLexical .han "预2算").toOption.isSome = false := by decide +kernel
  have hb : (readAsTerm .han "预2算").toOption.isSome = true := by decide +kernel
  rw [heq, hb] at hl
  cases hl

end Reading

end NarseseDialects
