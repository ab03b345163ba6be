import Mathlib.Data.Option.Basic
import NarseseDialects.Proofs.Number.Typeset
import NarseseDialects.Proofs.Typeset.Words
import NarseseDialects.Proofs.Value.Spellable

namespace NarseseDialects

lemma Mood.eq_of_punctuation {m n : Mood} (hp : m.punctuation = n.punctuation)
    (ht : ∀ t ∈ m.truth?, ∀ u ∈ n.truth?, t = u) : m = n := by
  cases m with
  | judgement t =>
    cases n with
    | judgement u => rw [ht t rfl u rfl]
    | _ => cases hp
  | goal t =>
    cases n with
    | goal u => rw [ht t rfl u rfl]
    | _ => cases hp
  | question =>
    cases n with
    | question => rfl
    | _ => cases hp
  | quest =>
    cases n with
    | quest => rfl
    | _ => cases hp

namespace Typeset

open Text

variable {v : Double} {vs us : List Double} {a b : Stamp} {m n : Mood} {r s : List Text}

lemma typeset_negative_zero : Double.typeset (.finite true .zero) = "-0" := by decide

lemma real?_typeset_of_inUnit (h : v.inUnit = true) : Written.real? v.typeset = some v := by
  by_cases hz : v = .finite true .zero
  · rw [hz, typeset_negative_zero]
    decide
  · obtain ⟨x, rfl⟩ := Meaning.exists_magnitude h hz
    exact Double.real?_typeset x

lemma mem_typeset_of_inUnit (h : v.inUnit = true) : v.typeset ≠ [] ∧ ∀ c ∈ v.typeset, c ∈ realChars := by
  by_cases hz : v = .finite true .zero
  · rw [hz, typeset_negative_zero]
    decide
  · obtain ⟨x, rfl⟩ := Meaning.exists_magnitude h hz
    exact Double.mem_typeset x

lemma map_typeset_injective (hv : ∀ v ∈ vs, v.inUnit = true) (hu : ∀ v ∈ us, v.inUnit = true)
    (h : vs.map Double.typeset = us.map Double.typeset) : vs = us := by
  have hread : ∀ ws : List Double, (∀ v ∈ ws, v.inUnit = true) →
      (ws.map Double.typeset).map Written.real? = ws.map some := by
    intro ws hw
    rw [List.map_map]
    exact List.map_congr_left fun v hm => real?_typeset_of_inUnit (hw v hm)
  apply List.map_injective_iff.2 (Option.some_injective Double)
  rw [← hread vs hv, ← hread us hu, h]

lemma run_cancel {t u e : Text} {allowed : Text} (ht : ∀ c ∈ t, c ∈ allowed) (hu : ∀ c ∈ u, c ∈ allowed)
    (hallowed : ∀ c ∈ allowed, isBlank c = false) (he : ∃ c ∈ e, c ∉ allowed)
    (h : Text.words t ++ e :: r = Text.words u ++ e :: s) : t = u ∧ r = s := by
  obtain ⟨c, hce, hc⟩ := he
  -- a text is one word or, where it is empty, none, so that the word behind it may come first
  have hrun : ∀ {t : Text}, (∀ c ∈ t, c ∈ allowed) → t ≠ [] → Text.words t = [t] ∧ t ≠ e := by
    intro t ht hne
    refine ⟨words_of_forall hne fun c hm => hallowed c (ht c hm), ?_⟩
    rintro rfl
    exact hc (ht c hce)
  by_cases htn : t = []
  · by_cases hun : u = []
    · subst htn hun
      exact ⟨rfl, (List.cons.inj h).2⟩
    · obtain ⟨hw, hne⟩ := hrun hu hun
      rw [htn, hw] at h
      exact absurd (List.cons.inj h).1.symm hne
  · obtain ⟨hw, hne⟩ := hrun ht htn
    by_cases hun : u = []
    · rw [hun, hw] at h
      exact absurd (List.cons.inj h).1 hne
    · rw [hw, (hrun hu hun).1] at h
      obtain ⟨rfl, htail⟩ := List.cons.inj h
      exact ⟨rfl, (List.cons.inj htail).2⟩

lemma numbers_cancel {left right p e : Text} {z : Char} (hleft : padded left = true)
    (hright : padded right = true ∧ Text.words right = [e]) (hz : z ∉ realChars)
    (hsep : ∀ c ∈ z :: p, isBlank c = false) (he : ∃ c ∈ e, c ∉ (z :: p) ++ realChars)
    (hv : ∀ v ∈ vs, v.inUnit = true) (hu : ∀ v ∈ us, v.inUnit = true)
    (h : Text.words (numbers left (z :: p) right vs) ++ r = Text.words (numbers left (z :: p) right us) ++ s) :
    vs = us ∧ r = s := by
  have hmem : ∀ {vs : List Double}, (∀ v ∈ vs, v.inUnit = true) →
      ∀ c ∈ join (z :: p) (vs.map Double.typeset), c ∈ (z :: p) ++ realChars := by
    intro vs hv c hc
    rcases mem_join hc with hc | ⟨x, hx, hc⟩
    · exact List.mem_append_left _ hc
    · obtain ⟨v, hm, rfl⟩ := List.mem_map.1 hx
      exact List.mem_append_right _ ((mem_typeset_of_inUnit (hv v hm)).2 c hc)
  have hblank : ∀ c ∈ (z :: p) ++ realChars, isBlank c = false := by
    have hreal : ∀ c ∈ realChars, isBlank c = false := by decide
    intro c hc
    exact (List.mem_append.1 hc).elim (hsep c) (hreal c)
  have hitem : ∀ {vs : List Double}, (∀ v ∈ vs, v.inUnit = true) → ∀ t ∈ vs.map Double.typeset, t ≠ [] ∧ z ∉ t := by
    intro vs hv t ht
    obtain ⟨v, hm, rfl⟩ := List.mem_map.1 ht
    obtain ⟨hne, hc⟩ := mem_typeset_of_inUnit (hv v hm)
    exact ⟨hne, fun hmem => hz (hc z hmem)⟩
  have hwords : ∀ vs, Text.words (numbers left (z :: p) right vs) =
      Text.words left ++ (Text.words (join (z :: p) (vs.map Double.typeset)) ++ [e]) := by
    intro vs
    rw [numbers, words_append_padded hright.1, words_padded_append hleft, hright.2, List.append_assoc]
  simp only [hwords, List.append_assoc, List.singleton_append] at h
  obtain ⟨hjoin, hrest⟩ := run_cancel (hmem hv) (hmem hu) hblank he (List.append_cancel_left h)
  exact ⟨map_typeset_injective hv hu (join_injective (hitem hv) (hitem hu) hjoin), hrest⟩

lemma values_injective {q : Quantity} {x y : Measure q} (h : x.values = y.values) : x = y := by
  cases x
  cases y
  cases h
  rfl

lemma budget_cancel {x y : Budget} (h : Text.words (budget x) ++ r = Text.words (budget y) ++ s) : x = y ∧ r = s := by
  have hright : padded " \\$) " = true ∧ Text.words " \\$) " = ["\\$)".toList] := by decide
  obtain ⟨hvalues, hrest⟩ :=
    numbers_cancel (by decide) hright (by decide) (by decide) ⟨')', by decide, by decide⟩ x.inUnit y.inUnit h
  exact ⟨values_injective hvalues, hrest⟩

lemma words_punctuation (p : Punctuation) :
    padded (punctuation p) = true ∧ Text.words (punctuation p) = [bare (punctuation p)] := by
  revert p
  decide

lemma punctuation_injective {p q : Punctuation} (h : bare (punctuation p) = bare (punctuation q)) : p = q := by
  have hall : ∀ p q, bare (punctuation p) = bare (punctuation q) → p = q := by decide
  exact hall p q h

def truthText (t : Truth) : Text := if t.isEmpty then "" else numbers " lr(angle.l " "," " angle.r) " t.values

lemma truthText_injective {t u : Truth} (h : Text.words (truthText t) = Text.words (truthText u)) : t = u := by
  have hleft : padded " lr(angle.l " = true := by decide
  have hright : padded " angle.r) " = true ∧ Text.words " angle.r) " = ["angle.r)".toList] := by decide
  have hempty : ∀ {t : Truth}, t.isEmpty = true → truthText t = [] := fun ht => if_pos ht
  have hnumbers : ∀ {t : Truth}, ¬t.isEmpty = true → truthText t = numbers " lr(angle.l " "," " angle.r) " t.values :=
    fun ht => if_neg ht
  have hne : ∀ vs, Text.words (numbers " lr(angle.l " "," " angle.r) " vs) ≠ [] := by
    intro vs
    unfold numbers
    rw [words_append_padded hright.1, hright.2]
    exact List.append_ne_nil_of_right_ne_nil _ (List.cons_ne_nil _ _)
  by_cases ht : t.isEmpty = true
  · by_cases hu : u.isEmpty = true
    · exact values_injective ((List.isEmpty_iff.1 ht).trans (List.isEmpty_iff.1 hu).symm)
    · rw [hempty ht, hnumbers hu] at h
      exact absurd h.symm (hne _)
  · by_cases hu : u.isEmpty = true
    · rw [hempty hu, hnumbers ht] at h
      exact absurd h (hne _)
    · rw [hnumbers ht, hnumbers hu] at h
      have h' := congrArg (· ++ []) h
      obtain ⟨hvalues, -⟩ :=
        numbers_cancel hleft hright (by decide) (by decide) ⟨')', by decide, by decide⟩ t.inUnit u.inUnit h'
      exact values_injective hvalues

lemma truth_injective (hp : m.punctuation = n.punctuation) (h : Text.words (truth m) = Text.words (truth n)) :
    m = n := by
  apply Mood.eq_of_punctuation hp
  intro t ht u hu
  rw [truth, truth, Option.mem_def.1 ht, Option.mem_def.1 hu] at h
  exact truthText_injective h

def stampWords : Stamp → List Text
  | .eternal => []
  | .tense t => [bare (tense t)]
  | .fixed i => ["t=", ofInt i]

lemma words_stamp {a : Stamp} {t : Text} (h : stamp? a = some t) : Text.words t = stampWords a := by
  cases a with
  | eternal =>
    cases h
    rfl
  | tense t =>
    cases h
    revert t
    decide
  | fixed i =>
    obtain ⟨digits, hdigits, rfl⟩ := Option.map_eq_some_iff.1 h
    obtain ⟨-, rfl⟩ := Written.ofInt?_eq_some_iff.1 hdigits
    have hleft : padded " t= " = true ∧ Text.words " t= " = ["t=".toList] := by decide
    have hnumeral : ∀ c ∈ '-' :: numeralChars, isBlank c = false := by decide
    have hne : ofInt i ≠ [] := by
      cases i with
      | ofNat n => exact ofNat_ne_nil n
      | negSucc n => exact List.cons_ne_nil _ _
    have h := words_padded_append hleft.1 (ofInt i)
    rw [hleft.2, words_of_forall hne fun c hc => hnumeral c (Written.mem_ofInt hc)] at h
    exact h

lemma ofInt_injective {i j : Int} (h : ofInt i = ofInt j) : i = j := by
  have hs := Written.signed_ofInt i
  rw [h, Written.signed_ofInt j] at hs
  obtain ⟨hsign, hdigits⟩ := Prod.mk.inj hs
  rw [← Written.applySign_natAbs i, ← Written.applySign_natAbs j, hsign, ofNat_injective hdigits]

lemma stamp_cancel {a b : Stamp} (h : stampWords a ++ "space".toList :: r = stampWords b ++ "space".toList :: s) :
    a = b ∧ r = s := by
  have htense : ∀ t, bare (tense t) ≠ "space".toList ∧ bare (tense t) ≠ "t=".toList := by decide
  have hinj : ∀ t u, bare (tense t) = bare (tense u) → t = u := by decide
  have hfixed : "t=".toList ≠ "space".toList := by decide
  -- an eternal stamp leaves nothing, so that the gap is met where the other stamps have their first word
  cases a with
  | eternal =>
    cases b with
    | eternal => exact ⟨rfl, (List.cons.inj h).2⟩
    | tense u => exact absurd (List.cons.inj h).1.symm (htense u).1
    | fixed j => exact absurd (List.cons.inj h).1.symm hfixed
  | tense t =>
    cases b with
    | eternal => exact absurd (List.cons.inj h).1 (htense t).1
    | tense u =>
      obtain ⟨hhead, htail⟩ := List.cons.inj h
      exact ⟨congrArg Stamp.tense (hinj t u hhead), (List.cons.inj htail).2⟩
    | fixed j => exact absurd (List.cons.inj h).1 (htense t).2
  | fixed i =>
    cases b with
    | eternal => exact absurd (List.cons.inj h).1 hfixed
    | tense u => exact absurd (List.cons.inj h).1.symm (htense u).2
    | fixed j =>
      obtain ⟨htime, htail⟩ := List.cons.inj (List.cons.inj h).2
      exact ⟨congrArg Stamp.fixed (ofInt_injective htime), (List.cons.inj htail).2⟩

def endingWords (a : Sentence) : List Text := stampWords a.stamp ++ "space".toList :: Text.words (truth a.mood)

lemma words_sentence {a : Sentence} {t : Text} (h : sentence? a = some t) :
    Text.words t =
      Text.words (term a.term) ++ bare (punctuation a.mood.punctuation) :: endingWords a := by
  obtain ⟨stamp, hstamp, rfl⟩ := Option.map_eq_some_iff.1 h
  have hp := words_punctuation a.mood.punctuation
  have h := words_around words_gap.1 (term a.term ++ punctuation a.mood.punctuation ++ stamp) (truth a.mood)
  rw [words_around hp.1, hp.2, words_gap.2, words_stamp hstamp] at h
  exact h.trans (by simp only [endingWords, List.append_assoc, List.cons_append, List.nil_append])

lemma words_task {k : Task} {t : Text} (h : task? k = some t) :
    Text.words t = Text.words (budget k.budget) ++ "space".toList :: (Text.words (term k.sentence.term) ++
      bare (punctuation k.sentence.mood.punctuation) :: "space".toList :: endingWords k.sentence) := by
  obtain ⟨stamp, hstamp, rfl⟩ := Option.map_eq_some_iff.1 h
  have hp := words_punctuation k.sentence.mood.punctuation
  have h := words_join words_gap.1 [budget k.budget, term k.sentence.term ++ punctuation k.sentence.mood.punctuation,
    stamp, truth k.sentence.mood]
  simp only [List.map_cons, List.map_nil, List.intercalate_cons_cons, List.intercalate_singleton,
    words_append_padded hp.1, hp.2, words_gap.2, words_stamp hstamp, List.append_assoc, List.singleton_append] at h
  exact h

end Typeset

end NarseseDialects
