import NarseseDialects.Meaning.Unfold
import NarseseDialects.Proofs.Lexical.Spelled
import NarseseDialects.Proofs.Number.Numeral
import NarseseDialects.Proofs.Value.Made

namespace NarseseDialects

def Spelling.admits (s : Spelling) (k : NameKind) (n : Text) : Bool :=
  match s with
  | ascii => (Text.before? "--" n).isNone && (k != .word || n.head? != some '_')
  | han => n.all Char.isAlphanum
  | latex | latexSpaced => true

namespace Term

mutual

def Spellable (s : Spelling) : Term → Prop
  | named k n => s.admits k n = true
  | placeholder => True
  | interval n => (Text.ofNat n).length ≤ Written.digitLimit
  | collection _ cs | chain _ cs => SpellableAll s cs
  | difference _ l r => Spellable s l ∧ Spellable s r
  | negation t => Spellable s t
  | image _ _ cs => placeholder ∉ cs ∧ SpellableAll s cs
  | ordered _ t u | symmetric _ t u => Spellable s t ∧ Spellable s u

def SpellableAll (s : Spelling) : List Term → Prop
  | [] => True
  | t :: ts => Spellable s t ∧ SpellableAll s ts

end

lemma spellableAll_iff {s : Spelling} {ts : List Term} : SpellableAll s ts ↔ ∀ t ∈ ts, t.Spellable s := by
  induction ts with
  | nil => simp [SpellableAll]
  | cons t ts ih => simp [SpellableAll, ih]

end Term

/-- The negative zero is not among the numbers. -/
def Measure.Spellable {q : Quantity} (m : Measure q) : Prop := Double.finite true .zero ∉ m.values

def Stamp.Spellable : Stamp → Prop
  | fixed time => (Text.ofNat time.natAbs).length ≤ Written.digitLimit
  | eternal | tense _ => True

structure Sentence.Spellable (s : Spelling) (x : Sentence) : Prop where
  term : x.term.Spellable s
  truth : ∀ t ∈ x.mood.truth?, t.Spellable
  stamp : x.stamp.Spellable

structure Task.Spellable (s : Spelling) (k : Task) : Prop where
  sentence : k.sentence.Spellable s
  budget : k.budget.Spellable

def Value.Spellable (s : Spelling) : Value → Prop :=
  Item.elim (Term.Spellable s) (Sentence.Spellable s) (Task.Spellable s)

def Value.stamp? : Value → Option Stamp :=
  Item.elim (fun _ => none) (fun x => some x.stamp) fun k => some k.sentence.stamp

lemma Value.Spellable.stamp {s : Spelling} {v : Value} (h : v.Spellable s) : ∀ x ∈ v.stamp?, x.Spellable := by
  intro x hx
  cases v with
  | term t => cases hx
  | sentence y =>
    cases hx
    exact Sentence.Spellable.stamp h
  | task k =>
    cases hx
    exact (Task.Spellable.sentence h).stamp

lemma Value.Spellable.subject {s : Spelling} {v : Value} (h : v.Spellable s) : v.subject.Spellable s := by
  cases v with
  | term t => exact h
  | sentence x => exact Sentence.Spellable.term h
  | task k => exact (Task.Spellable.sentence h).term

namespace Spelling

lemma fits_of_admits {s : Spelling} {k : NameKind} {n : Text} (hn : n.all Text.isNameChar = true)
    (h : s.admits k n = true) : s.fits (.name k) n = true := by
  cases s with
  | ascii =>
    simp only [admits, fits, nameChar, Bool.and_eq_true, Bool.or_eq_true, bne_iff_ne, ne_eq,
      AtomRole.name.injEq] at h ⊢
    exact ⟨hn, h⟩
  | latex => exact Bool.and_eq_true_iff.2 ⟨hn, rfl⟩
  | latexSpaced => exact Bool.and_eq_true_iff.2 ⟨hn, rfl⟩
  | han => exact Bool.and_eq_true_iff.2 ⟨h, rfl⟩

lemma fits_of_digits (s : Spelling) {n : Text} (hn : n.all Text.isPlainDigit = true) :
    s.fits .interval n = true := by
  have hm : ∀ c ∈ n, c ∈ Text.plainDigits := fun c hc => Text.isPlainDigit_iff_mem.1 (List.all_eq_true.1 hn c hc)
  have hc : n.all s.nameChar = true := by
    have hd : ∀ c ∈ Text.plainDigits, s.nameChar c = true := by cases s <;> decide +kernel
    exact List.all_eq_true.2 fun c hc => hd c (hm c hc)
  have hh : Text.before? "--" n = none := by
    rw [Option.eq_none_iff_forall_ne_some]
    intro r hr
    have := hm '-' (by simp [Text.before?_eq_some_iff.1 hr])
    revert this
    decide
  refine Bool.and_eq_true_iff.2 ⟨hc, ?_⟩
  cases s with
  | ascii => exact Bool.and_eq_true_iff.2 ⟨Option.isNone_iff_eq_none.2 hh, rfl⟩
  | latex => rfl
  | latexSpaced => rfl
  | han => rfl

lemma fits_ofNat (s : Spelling) (n : Nat) : s.fits .interval (Text.ofNat n) = true :=
  s.fits_of_digits (Text.all_ofNat n)

lemma fits_placeholder (s : Spelling) : s.fits .placeholder [] = true := by
  cases s <;> decide

structure Suits (s : Spelling) (fits : AtomRole → Text → Bool) : Prop where
  name : ∀ {k n}, n.all Text.isNameChar = true → s.admits k n = true → fits (.name k) n = true
  interval : ∀ n, fits .interval (Text.ofNat n) = true
  placeholder : fits .placeholder [] = true

lemma suits (s : Spelling) : s.Suits s.fits := ⟨fits_of_admits, s.fits_ofNat, s.fits_placeholder⟩

end Spelling

namespace Meaning

open Lexical

lemma spelledAll_iff {d : Dialect} {fits : AtomRole → Text → Bool} {ts : List Lexical.Term} :
    Term.SpelledAll d fits ts ↔ ∀ t ∈ ts, t.Spelled d fits := by
  induction ts with
  | nil => simp [Term.SpelledAll]
  | cons t ts ih => simp [Term.SpelledAll, ih]

variable {s : Spelling} {d : Dialect} {fits : AtomRole → Text → Bool}

lemma unfoldTerms_ne_nil {cs : List NarseseDialects.Term} (h : cs ≠ []) : unfoldTerms d cs ≠ [] := by
  simpa [unfoldTerms_eq_map] using h

mutual

lemma spelled_unfoldTerm (hf : s.Suits fits) {t : NarseseDialects.Term} (hw : t.WellFormed) (hs : t.Spellable s) :
    (unfoldTerm d t).Spelled d fits := by
  cases t with
  | named k n => exact ⟨.name k, rfl, hf.name hw.2 hs, fun h => absurd h hw.1⟩
  | placeholder => exact ⟨.placeholder, rfl, hf.placeholder, fun _ => rfl⟩
  | interval n => exact ⟨.interval, rfl, hf.interval n, fun h => absurd h (Text.ofNat_ne_nil n)⟩
  | collection k cs =>
    obtain ⟨hne, -, hcs⟩ := hw
    cases k with
    | set side => exact ⟨⟨side, rfl, rfl⟩, unfoldTerms_ne_nil hne, spelledAll_unfoldTerms hf hcs hs⟩
    | junction j => exact ⟨⟨.junction j, rfl⟩, unfoldTerms_ne_nil hne, spelledAll_unfoldTerms hf hcs hs⟩
  | chain k cs => exact ⟨⟨.chain k, rfl⟩, unfoldTerms_ne_nil hw.1, spelledAll_unfoldTerms hf hw.2 hs⟩
  | difference side l r =>
    exact ⟨⟨.difference side, rfl⟩, List.cons_ne_nil _ _, spelled_unfoldTerm hf hw.1 hs.1,
      spelled_unfoldTerm hf hw.2 hs.2, trivial⟩
  | negation t => exact ⟨⟨.negation, rfl⟩, List.cons_ne_nil _ _, spelled_unfoldTerm hf hw hs, trivial⟩
  | image side i cs =>
    have hcs := spelledAll_iff.1 (spelledAll_unfoldTerms hf hw.2.2 hs.2)
    refine ⟨⟨.image side, rfl⟩, by simp, spelledAll_iff.2 fun t ht => ?_⟩
    rcases List.mem_append.1 ht with ht | ht
    · exact hcs t (List.mem_of_mem_take ht)
    rcases List.mem_cons.1 ht with rfl | ht
    · exact ⟨.placeholder, rfl, hf.placeholder, fun _ => rfl⟩
    · exact hcs t (List.mem_of_mem_drop ht)
  | ordered c a b => exact ⟨⟨.ordered c, rfl⟩, spelled_unfoldTerm hf hw.1 hs.1, spelled_unfoldTerm hf hw.2 hs.2⟩
  | symmetric c a b => exact ⟨⟨.symmetric c, rfl⟩, spelled_unfoldTerm hf hw.1 hs.1, spelled_unfoldTerm hf hw.2 hs.2⟩

lemma spelledAll_unfoldTerms (hf : s.Suits fits) {ts : List NarseseDialects.Term} (hw : Term.WellFormedAll ts)
    (hs : Term.SpellableAll s ts) : Term.SpelledAll d fits (unfoldTerms d ts) := by
  cases ts with
  | nil => trivial
  | cons t ts => exact ⟨spelled_unfoldTerm hf hw.1 hs.1, spelledAll_unfoldTerms hf hw.2 hs.2⟩

end

lemma exists_magnitude {v : Double} (hu : v.inUnit = true) (hz : v ≠ .finite true .zero) :
    ∃ x, v = .finite false x := by
  cases v with
  | finite negative x =>
    cases negative with
    | false => exact ⟨x, rfl⟩
    | true =>
      simp only [Double.inUnit, Double.units?, Bool.and_eq_true, decide_eq_true_eq] at hu
      have hx : x.units = 0 := by omega
      have hm : x.mantissa = 0 := (Nat.mul_eq_zero.1 hx).resolve_right (Nat.two_pow_pos _).ne'
      rw [Magnitude.eq_zero_of_mantissa hm] at hz
      exact absurd rfl hz
  | infinite negative => cases hu
  | nan => cases hu

lemma spelledNumeral_numeral {v : Double} (hu : v.inUnit = true) (hz : v ≠ .finite true .zero) :
    SpelledNumeral v.numeral := by
  obtain ⟨x, rfl⟩ := exists_magnitude hu hz
  obtain ⟨d, hd, hx⟩ := Double.ofNumeral?_numeral x
  refine ⟨d, hd, ?_⟩
  have he : Double.ofDecimalText false d = .finite false x := congrArg (Double.ofMagnitude? false) hx
  rw [he]
  exact hu

section

variable {q : Quantity} {m : Measure q} (h : m.Spellable)

include h

lemma spelled_unfoldMeasure : ∀ n ∈ unfoldMeasure m, SpelledNumeral n := by
  intro n hn
  obtain ⟨v, hv, rfl⟩ := List.mem_map.1 hn
  exact spelledNumeral_numeral (m.inUnit v hv) fun hz => h (hz ▸ hv)

omit h in
lemma length_unfoldMeasure : (unfoldMeasure m).length = m.values.length := List.length_map ..

end

lemma exists_unfoldStamp {x : Stamp} (h : x.Spellable) (d : Dialect) : ∃ t, unfoldStamp? d x = some t := by
  cases x with
  | eternal => exact ⟨_, rfl⟩
  | tense t => exact ⟨_, rfl⟩
  | fixed time =>
    have htime : Written.ofInt? time = some (Text.ofInt time) := Written.ofInt?_eq_some_iff.2 ⟨h, rfl⟩
    exact ⟨_, congrArg (Option.map _) htime⟩

lemma spelled_unfoldStamp {x : Stamp} {stamp : Text} (h : unfoldStamp? d x = some stamp) : SpelledStamp d stamp := by
  cases x with
  | eternal =>
    cases h
    exact .inl rfl
  | tense t =>
    cases h
    exact .inr (.inl ⟨t, rfl⟩)
  | fixed time =>
    obtain ⟨t, ht, rfl⟩ := Option.map_eq_some_iff.1 h
    obtain ⟨-, rfl⟩ := Written.ofInt?_eq_some_iff.1 ht
    refine .inr (.inr ⟨Text.ofInt time, ?_, rfl⟩)
    simp only [Reading.isSignedInteger, Written.signed_ofInt, Text.all_ofNat, Bool.and_true]
    simp [Text.ofNat_ne_nil]

lemma exists_unfolded {v : Value} (h : ∀ x ∈ v.stamp?, x.Spellable) (d : Dialect) : ∃ n, unfolded? d v = some n := by
  have hsentence : ∀ {x : NarseseDialects.Sentence}, x.stamp.Spellable → ∃ s, unfoldSentence? d x = some s := by
    intro x hx
    obtain ⟨t, ht⟩ := exists_unfoldStamp hx d
    exact ⟨_, congrArg (Option.map _) ht⟩
  cases v with
  | term t => exact ⟨_, rfl⟩
  | sentence x =>
    obtain ⟨s, hs⟩ := hsentence (h x.stamp rfl)
    exact ⟨_, congrArg (Option.map _) hs⟩
  | task k =>
    obtain ⟨s, hs⟩ := hsentence (h k.sentence.stamp rfl)
    exact ⟨_, congrArg (Option.map _) (congrArg (Option.map _) hs)⟩

lemma unfolded?_task {k : NarseseDialects.Task} {n : Node} :
    unfolded? d (.task k) = some n ↔
      ∃ s, unfoldSentence? d k.sentence = some s ∧ .task ⟨unfoldMeasure k.budget, s, none⟩ = n := by
  simp [unfolded?, unfoldTask?, Option.map_eq_some_iff]

section

variable (hf : s.Suits fits)

include hf

lemma spelled_unfoldSentence {x : NarseseDialects.Sentence} {y : Lexical.Sentence} (hw : x.term.WellFormed)
    (hs : x.Spellable s) (hy : unfoldSentence? d x = some y) : y.Spelled d fits := by
  obtain ⟨stamp, hstamp, rfl⟩ := Option.map_eq_some_iff.1 hy
  refine ⟨spelled_unfoldTerm hf hw hs.term, ⟨x.mood.punctuation, rfl⟩, spelled_unfoldStamp hstamp, ?_, ?_⟩
  · intro n hn
    have ht := hs.truth
    cases hm : x.mood.truth? with
    | none => simp [hm] at hn
    | some t =>
      simp only [hm] at hn ht
      exact spelled_unfoldMeasure (ht t rfl) n hn
  · cases hm : x.mood.truth? with
    | none => simp
    | some t => simpa [hm] using length_unfoldMeasure.trans_le t.length_le

lemma spelled_unfold_of_suits {v : Value} {n : Node} (hw : v.WellFormed) (hs : v.Spellable s)
    (hn : unfolded? d v = some n) : Node.Spelled d fits n := by
  cases v with
  | term t =>
    cases hn
    exact spelled_unfoldTerm hf hw hs
  | sentence x =>
    obtain ⟨y, hy, rfl⟩ := Option.map_eq_some_iff.1 hn
    exact spelled_unfoldSentence hf hw hs hy
  | task k =>
    obtain ⟨y, hy, rfl⟩ := unfolded?_task.1 hn
    exact ⟨spelled_unfoldSentence hf hw hs.sentence hy, spelled_unfoldMeasure hs.budget,
      length_unfoldMeasure.trans_le k.budget.length_le⟩

end

lemma spelled_unfold {v : Value} {n : Node} (hw : v.WellFormed) (hs : v.Spellable s)
    (hn : unfolded? s.dialect v = some n) : Node.Spelled s.dialect s.fits n := spelled_unfold_of_suits s.suits hw hs hn

end Meaning

end NarseseDialects
