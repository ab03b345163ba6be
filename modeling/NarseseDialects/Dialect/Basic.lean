import NarseseDialects.Dialect.Vocabulary
import NarseseDialects.Quantity

namespace NarseseDialects

structure Brackets where
  left : Text
  right : Text
  deriving DecidableEq, Inhabited

structure Spacing where
  isSpace : Char → Bool
  /-- Whether blanks mean nothing at all and are taken out before reading. -/
  strip : Bool
  betweenTerms : Text
  betweenItems : Text

structure NumeralStyle where
  brackets : Brackets
  separator : Text

structure SetBrackets where
  pair : Side → Brackets
  family : BracketFamily
  family_pairs : family.pairs = Role.members.map fun s => ((pair s).left, (pair s).right)

namespace SetBrackets

def pairs (f : Side → Brackets) : List (Text × Text) :=
  Role.members.map fun s => ((f s).left, (f s).right)

def ofDistinct (f : Side → Brackets) (h : ((pairs f).map Prod.fst).Nodup) : SetBrackets :=
  ⟨f, .ofDistinct (pairs f) h, rfl⟩

def ofPairs? (f : Side → Brackets) : Except Text SetBrackets :=
  match h : Lexicon.repeated? [] ((pairs f).map Prod.fst) with
  | some e => .error e
  | none => .ok (ofDistinct f (Lexicon.repeated?_eq_none.1 h).1)

def side? (b : SetBrackets) (left : Text) : Option Side :=
  Role.members.find? fun s => (b.pair s).left = left

def literals (b : SetBrackets) : List Text :=
  Role.members.flatMap fun s => [(b.pair s).left, (b.pair s).right]

def rights (b : SetBrackets) : List Text := Role.members.map fun s => (b.pair s).right

end SetBrackets

/-- How stamps are spelled. A tense is a mark in brackets; a fixed time is a mark and an integer in
the same brackets. -/
structure StampStyle where
  brackets : Brackets
  mark : Tense → Text
  fixedMark : Text
  isTime : Char → Bool
  tenses : Vocabulary Tense
  tenses_literal : tenses.literal = fun t => brackets.left ++ mark t ++ brackets.right

namespace StampStyle

def fixedLeft (s : StampStyle) : Text := s.brackets.left ++ s.fixedMark

def fixedRight (s : StampStyle) : Text := s.brackets.right

end StampStyle

namespace Dialect

structure Parts where
  name : Text
  spacing : Spacing
  sigils : Vocabulary AtomRole
  isIdentifier : Char → Bool
  compound : Brackets
  separator : Text
  sets : SetBrackets
  connectors : Vocabulary Connector
  statement : Brackets
  copulas : Vocabulary Copula
  punctuations : Vocabulary Punctuation
  stamps : StampStyle
  numerals : Quantity → NumeralStyle
  isBudgetContent : Char → Bool

inductive Clash where
  | wordSigil
  | operator (literal : Text)
  | delimiter (literal : Text)
  deriving DecidableEq

namespace Parts

def bracketLiterals (p : Parts) : List Text :=
  [p.compound.left, p.compound.right, p.statement.left, p.statement.right] ++ p.sets.literals

def operators (p : Parts) : List Text := p.connectors.lexicon.entries ++ p.copulas.lexicon.entries

/-- The literals that a name may run into. -/
def delimiters (p : Parts) : List Text :=
  p.bracketLiterals ++ p.separator :: p.operators ++ p.sigils.lexicon.entries

/-- Where one of these begins, a name ends, whatever characters it is made of. -/
def terminating (p : Parts) : List Text :=
  p.copulas.lexicon.entries ++ p.separator :: p.compound.right :: p.statement.right :: p.sets.rights

def beginsAsName (p : Parts) : Text → Bool
  | [] => false
  | c :: _ => p.isIdentifier c

def clash? (p : Parts) : Option Clash :=
  if !(p.sigils.literal (.name .word)).isEmpty then some .wordSigil
  else
    match p.operators.find? (p.separator :: p.bracketLiterals).contains with
    | some e => some (.operator e)
    | none =>
      if p.spacing.strip then none
      else (p.delimiters.find? p.beginsAsName).map .delimiter

end Parts

end Dialect

/-- Parts that can be told apart: words have no sigil, no bracket or separator is an operator too, and
where blanks count, no delimiter begins like a name. -/
structure Dialect extends Dialect.Parts where
  clash?_eq_none : toParts.clash? = none
  terminators : Lexicon
  terminators_eq : terminators = .ofRepeating toParts.terminating

namespace Dialect

def ofParts (p : Parts) (h : p.clash? = none) : Dialect :=
  { p with clash?_eq_none := h, terminators := .ofRepeating p.terminating, terminators_eq := rfl }

def ofParts? (p : Parts) : Except Clash Dialect :=
  match h : p.clash? with
  | some c => .error c
  | none => .ok (ofParts p h)

theorem word_sigil (d : Dialect) : d.sigils.literal (.name .word) = [] := by
  have h := d.clash?_eq_none
  unfold Parts.clash? at h
  split at h
  · cases h
  · next h' => simpa using h'

theorem placeholder_sigil_ne_nil (d : Dialect) : d.sigils.literal .placeholder ≠ [] := by
  intro h
  cases d.sigils.literal_injective (h.trans d.word_sigil.symm)

theorem mem_terminators {d : Dialect} {e : Text} :
    e ∈ d.terminators.entries ↔ e ∈ d.terminating := by
  rw [d.terminators_eq, Lexicon.mem_ofRepeating]

def display (d : Dialect) : Text := "<Profile " ++ d.name ++ ">"

end Dialect

end NarseseDialects
