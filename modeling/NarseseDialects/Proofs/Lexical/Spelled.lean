import NarseseDialects.Lexical.Writer
import NarseseDialects.Number.Written
import NarseseDialects.Proofs.Dialect.Spelling
import NarseseDialects.Reading.Marks

namespace NarseseDialects.Lexical

variable (d : Dialect) (fits : AtomRole → Text → Bool)

namespace Term

mutual

def Spelled : Term → Prop
  | atom p n _ => ∃ r, p = d.sigils.literal r ∧ fits r n = true ∧ (n = [] → r = .placeholder)
  | compound c ts _ => (∃ k, c = d.connectors.literal k) ∧ ts ≠ [] ∧ SpelledAll ts
  | set l ts r _ => (∃ s, l = (d.sets.pair s).left ∧ r = (d.sets.pair s).right) ∧ ts ≠ [] ∧ SpelledAll ts
  | statement c s p _ => (∃ k, c = d.copulas.literal k) ∧ Spelled s ∧ Spelled p

def SpelledAll : List Term → Prop
  | [] => True
  | t :: ts => Spelled t ∧ SpelledAll ts

end

end Term

def SpelledStamp (stamp : Text) : Prop :=
  stamp = [] ∨ (∃ t, stamp = d.stamps.tenses.literal t) ∨
    ∃ time, Reading.isSignedInteger time = true ∧ stamp = d.stamps.fixedLeft ++ time ++ d.stamps.fixedRight

def SpelledNumeral (n : Text) : Prop :=
  ∃ x, Decimal.ofNumeral? n = some x ∧ (Double.ofDecimalText false x).inUnit = true

structure Sentence.Spelled (s : Sentence) : Prop where
  term : s.term.Spelled d fits
  punctuation : ∃ p, s.punctuation = d.punctuations.literal p
  stamp : SpelledStamp d s.stamp
  truth : ∀ n ∈ s.truth, SpelledNumeral n
  length_le : s.truth.length ≤ Quantity.truth.limit

structure Task.Spelled (k : Task) : Prop where
  sentence : k.sentence.Spelled d fits
  budget : ∀ n ∈ k.budget, SpelledNumeral n
  length_le : k.budget.length ≤ Quantity.budget.limit

def Node.Spelled : Node → Prop := Item.elim (Term.Spelled d fits) (Sentence.Spelled d fits) (Task.Spelled d fits)

variable {d fits}

lemma Term.relocateAll_ne_nil {ts : List Term} (h : ts ≠ []) (f : Nat → Nat) : relocateAll f ts ≠ [] := by
  rw [relocateAll_eq_map]
  exact mt List.map_eq_nil_iff.1 h

mutual

lemma Term.Spelled.relocate {t : Term} (h : t.Spelled d fits) (f : Nat → Nat) : (t.relocate f).Spelled d fits := by
  cases t with
  | atom p n s => exact h
  | compound c ts s => exact ⟨h.1, relocateAll_ne_nil h.2.1 f, SpelledAll.relocate h.2.2 f⟩
  | set l ts r s => exact ⟨h.1, relocateAll_ne_nil h.2.1 f, SpelledAll.relocate h.2.2 f⟩
  | statement c t u s => exact ⟨h.1, Spelled.relocate h.2.1 f, Spelled.relocate h.2.2 f⟩

lemma Term.SpelledAll.relocate {ts : List Term} (h : SpelledAll d fits ts) (f : Nat → Nat) :
    SpelledAll d fits (relocateAll f ts) := by
  cases ts with
  | nil => trivial
  | cons t ts => exact ⟨Spelled.relocate h.1 f, SpelledAll.relocate h.2 f⟩

end

lemma Sentence.Spelled.relocate {s : Sentence} (h : s.Spelled d fits) (f : Nat → Nat) :
    (s.relocate f).Spelled d fits :=
  ⟨h.term.relocate f, h.punctuation, h.stamp, h.truth, h.length_le⟩

lemma Node.Spelled.relocate {n : Node} (h : Node.Spelled d fits n) (f : Nat → Nat) :
    Node.Spelled d fits (Node.relocate f n) := by
  cases n with
  | term t => exact Term.Spelled.relocate h f
  | sentence s => exact Sentence.Spelled.relocate h f
  | task k => exact ⟨Sentence.Spelled.relocate h.sentence f, h.budget, h.length_le⟩

end NarseseDialects.Lexical
