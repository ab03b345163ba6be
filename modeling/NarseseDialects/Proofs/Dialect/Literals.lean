import NarseseDialects.Dialect.Directory
import NarseseDialects.Proofs.LongestMatch
import NarseseDialects.Proofs.Text.Apart
import NarseseDialects.Proofs.Text.Classes

namespace NarseseDialects

instance Role.decidableForall {ρ : Type} [Role ρ] {P : ρ → Prop} [DecidablePred P] : Decidable (∀ r, P r) :=
  decidable_of_iff (∀ r ∈ Role.members, P r) ⟨fun h r => h r (Role.mem_members r), fun h r _ => h r⟩

lemma Vocabulary.literal_mem {ρ : Type} [Role ρ] (v : Vocabulary ρ) (r : ρ) :
    v.literal r ∈ v.lexicon.entries := mem_lexicon.2 ⟨r, rfl⟩

lemma DialectName.strip (n : DialectName) : n.dialect.spacing.strip = true := by cases n <;> rfl

namespace SetBrackets

lemma rightOf?_pair (b : SetBrackets) (s : Side) : b.family.rightOf? (b.pair s).left = some (b.pair s).right := by
  apply BracketFamily.rightOf?_of_mem
  rw [b.family_pairs]
  exact List.mem_map.2 ⟨s, Role.mem_members s, rfl⟩

lemma side?_pair (b : SetBrackets) (s : Side) : b.side? (b.pair s).left = some s := by
  have hd := b.family.distinct
  rw [b.family_pairs, List.map_map] at hd
  cases hf : b.side? (b.pair s).left with
  | none =>
    have := List.find?_eq_none.1 hf s (Role.mem_members s)
    simp at this
  | some t =>
    have ht : (b.pair t).left = (b.pair s).left := by simpa using List.find?_some hf
    rw [List.inj_on_of_nodup_map hd (Role.mem_members t) (Role.mem_members s) ht]

end SetBrackets

namespace Dialect

def stopsNames (d : Dialect) (c : Char) : Bool :=
  !d.isIdentifier c && !(d.numerals .budget).brackets.left.contains c &&
    d.terminating.all fun t => !d.beginsAsName t || !t.contains c

structure ClearTail (d : Dialect) : Prop where
  stops : ∀ p, (d.punctuations.literal p).any d.stopsNames = true
  sigil : ∀ r, d.sigils.literal r = [] ∨ d.sigils.literal r = (d.numerals .budget).brackets.left ∨
    Text.apart (d.numerals .budget).brackets.left (d.sigils.literal r) = true
  punctuation : ∀ p, Text.apartBack (d.punctuations.literal p) (d.numerals .truth).brackets.right = true
  tense : ∀ t, Text.apartBack (d.stamps.tenses.literal t) (d.numerals .truth).brackets.right = true
  time : ∀ c ∈ Text.plainDigits,
    Text.apartBack (c :: d.stamps.fixedRight) (d.numerals .truth).brackets.right = true

lemma clearTail_of_mem_canonical {d : Dialect} (h : d ∈ canonical) : d.ClearTail := by
  simp only [canonical, DialectName.all, List.map_cons, List.map_nil, List.mem_cons, List.not_mem_nil,
    or_false] at h
  rcases h with rfl | rfl | rfl
  · constructor <;> decide +kernel
  · constructor <;> decide +kernel
  · constructor <;> decide +kernel

inductive Opener where
  | set (side : Side)
  | compound
  | statement
  | sigil (role : AtomRole)
  deriving DecidableEq

namespace Opener

def all : List Opener :=
  (Role.members : List Side).map set ++ compound :: statement :: (Role.members : List AtomRole).map sigil

lemma mem_all (a : Opener) : a ∈ all := by
  cases a with
  | set s => simp [all, Role.mem_members]
  | compound => simp [all]
  | statement => simp [all]
  | sigil r => simp [all, Role.mem_members]

instance {P : Opener → Prop} [DecidablePred P] : Decidable (∀ a, P a) :=
  decidable_of_iff (∀ a ∈ all, P a) ⟨fun h a => h a (mem_all a), fun h a _ => h a⟩

def literal (d : Dialect) : Opener → Text
  | set s => (d.sets.pair s).left
  | compound => d.compound.left
  | statement => d.statement.left
  | sigil r => d.sigils.literal r

end Opener

def closers (d : Dialect) : List Text := d.compound.right :: d.statement.right :: d.sets.rights

def joints (d : Dialect) : List Text :=
  d.separator :: d.closers ++ d.connectors.lexicon.entries ++ d.copulas.lexicon.entries

/-- The reader finds out by the literals alone where each part of a term begins and ends. -/
structure ClearTerms (d : Dialect) : Prop where
  opener : ∀ a : Opener, a = .sigil (.name .word) ∨ a.literal d ≠ [] ∧ (a.literal d).all (!d.spacing.isSpace ·)
  opener_opener : ∀ a b : Opener, a = b ∨ a.literal d = [] ∨ b.literal d = [] ∨
    Text.apart (a.literal d) (b.literal d) = true
  opener_closer : ∀ a : Opener, a.literal d = [] ∨ ∀ e ∈ d.closers, Text.apart (a.literal d) e = true
  opener_budget : ∀ a : Opener, a.literal d = [] ∨ a.literal d = (d.numerals .budget).brackets.left ∨
    Text.apart (a.literal d) (d.numerals .budget).brackets.left = true
  joint : ∀ e ∈ d.joints, e ≠ [] ∧ e.all (!d.spacing.isSpace ·)
  separator_closer : ∀ e ∈ d.closers, Text.apart e d.separator = true
  copula_copula : ∀ a b, a = b ∨ Text.apart (d.copulas.literal a) (d.copulas.literal b) = true
  connector_connector : ∀ a b, a = b ∨ (d.connectors.literal b).length ≤ (d.connectors.literal a).length ∨
    Text.apart (d.connectors.literal a ++ d.separator) (d.connectors.literal b) = true

lemma clearTerms_ascii : ascii.ClearTerms := by constructor <;> decide +kernel

lemma clearTerms_latex : latex.ClearTerms := by constructor <;> decide +kernel

lemma clearTerms_latexSpaced : latexSpaced.ClearTerms := by constructor <;> decide +kernel

lemma clearTerms_han : han.ClearTerms := by constructor <;> decide +kernel

end Dialect

end NarseseDialects
