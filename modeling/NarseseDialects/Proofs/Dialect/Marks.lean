import NarseseDialects.Proofs.Dialect.Spelling

namespace NarseseDialects

namespace Text

def separates (sep : Text) : Bool := sep.head?.any (!numeralChars.contains ·)

def encloses (sep : Text) : Text → Bool
  | [] => false
  | z :: p => !p.contains z && !sep.contains z && !numeralChars.contains z

end Text

namespace Dialect

def endings (d : Dialect) : List Text := d.sigils.literal .placeholder :: d.closers

def quiet (d : Dialect) (e : Text) : Bool :=
  Text.apartBack e (d.numerals .truth).brackets.right &&
    (Role.members : List Tense).all (fun t => Text.apartBack e (d.stamps.tenses.literal t)) &&
      if d.stamps.fixedRight.isEmpty then
        e.getLast?.any (!d.stamps.isTime ·) && Text.apartBack e d.stamps.fixedLeft
      else Text.apartBack e d.stamps.fixedRight

def marks (d : Dialect) : List Text :=
  d.punctuations.lexicon.entries ++ d.stamps.tenses.lexicon.entries ++
    [d.stamps.fixedLeft, d.stamps.fixedRight, (d.numerals .truth).brackets.left,
      (d.numerals .truth).brackets.right, (d.numerals .truth).separator, Text.numeralChars, Text.timeChars]

structure ClearItems (d : Dialect) (q : Char → Bool) : Prop where
  blank : ∀ e ∈ d.marks, e.all (!d.spacing.isSpace ·) = true
  budget_blank : ∀ e ∈ [(d.numerals .budget).brackets.left, (d.numerals .budget).brackets.right,
    (d.numerals .budget).separator], e.all (!d.spacing.isSpace ·) = true
  quiet : ∀ e ∈ d.punctuations.lexicon.entries ++ d.endings, d.quiet e = true
  ending_punctuation : ∀ e ∈ d.endings, ∀ p, Text.apartBack e (d.punctuations.literal p) = true
  punctuation_punctuation : ∀ p p', p = p' ∨
    Text.apartBack (d.punctuations.literal p) (d.punctuations.literal p') = true
  name_mark : ∀ e ∈ (d.numerals .truth).brackets.right ::
    (d.punctuations.lexicon.entries ++ d.stamps.tenses.lexicon.entries), e.getLast?.any (!q ·) = true
  name_fixed : d.stamps.fixedRight.getLast?.any (!q ·) = true ∨
    d.stamps.fixedRight = [] ∧
      d.stamps.fixedLeft.any (fun z => !q z && d.sigils.lexicon.entries.all (!·.contains z)) = true
  tense_tense : ∀ t t', t = t' ∨
    Text.apartBack (d.stamps.tenses.literal t) (d.stamps.tenses.literal t') = true
  tense_truth : ∀ t, Text.apartBack (d.stamps.tenses.literal t) (d.numerals .truth).brackets.right = true
  fixed_truth : ∀ c ∈ Text.plainDigits,
    Text.apartBack (c :: d.stamps.fixedRight) (d.numerals .truth).brackets.right = true
  fixed_tense : ∀ c ∈ Text.plainDigits, ∀ t,
    Text.apartBack (c :: d.stamps.fixedRight) (d.stamps.tenses.literal t) = true
  fixedLeft : d.stamps.fixedLeft.getLast?.any (!d.stamps.isTime ·) = true
  isTime : ∀ c ∈ Text.timeChars, d.stamps.isTime c = true
  truth : Text.encloses (d.numerals .truth).separator (d.numerals .truth).brackets.left = true
  truth_separator : Text.separates (d.numerals .truth).separator = true
  budget : Text.encloses (d.numerals .budget).separator (d.numerals .budget).brackets.right = true
  budget_separator : Text.separates (d.numerals .budget).separator = true
  budget_left : (d.numerals .budget).brackets.left ≠ []
  isBudgetContent : ∀ c ∈ Text.numeralChars, d.isBudgetContent c = true
  opener_budget : ∀ a : Opener, a.literal d = (d.numerals .budget).brackets.left →
    a ∈ (Role.members : List AtomRole).map Opener.sigil ∧
      (d.numerals .budget).brackets.right.any (fun z =>
        !q z && !d.spacing.isSpace z && d.marks.all (!·.contains z)) = true

/-- The budget ends in a character that no mark of a tail has, and lacks a character of the bracket with
which a truth begins: no mark of a tail reaches into a budget. -/
structure ClearFront (d : Dialect) (z : Char) : Prop where
  last : (d.numerals .budget).brackets.right.getLast? = some z
  blank : d.spacing.isSpace z = false
  time : d.stamps.isTime z = false
  mark : ∀ e ∈ d.marks, z ∉ e
  truth : ∃ c ∈ (d.numerals .truth).brackets.left, ∀ e ∈ [(d.numerals .budget).brackets.left,
    (d.numerals .budget).brackets.right, (d.numerals .budget).separator, Text.numeralChars], c ∉ e

lemma clearItems_ascii : ascii.ClearItems Text.isNameChar := by constructor <;> decide +kernel

lemma clearItems_latex : latex.ClearItems Text.isNameChar := by constructor <;> decide +kernel

lemma clearItems_latexSpaced : latexSpaced.ClearItems Text.isNameChar := by constructor <;> decide +kernel

lemma clearItems_han : han.ClearItems Char.isAlphanum := by constructor <;> decide +kernel

end Dialect

lemma Spelling.clearItems (s : Spelling) : s.dialect.ClearItems s.nameChar := by
  cases s with
  | ascii => exact Dialect.clearItems_ascii
  | latex => exact Dialect.clearItems_latex
  | latexSpaced => exact Dialect.clearItems_latexSpaced
  | han => exact Dialect.clearItems_han

lemma DialectName.exists_clearItems (n : DialectName) : ∃ q, n.dialect.ClearItems q := by
  cases n with
  | ascii => exact ⟨_, Dialect.clearItems_ascii⟩
  | latex => exact ⟨_, Dialect.clearItems_latex⟩
  | han => exact ⟨_, Dialect.clearItems_han⟩

lemma DialectName.exists_clearFront (n : DialectName) : ∃ z, n.dialect.ClearFront z := by
  cases n with
  | ascii => refine ⟨'$', ?_, ?_, ?_, ?_, '%', ?_⟩ <;> decide +kernel
  | latex => refine ⟨'$', ?_, ?_, ?_, ?_, 'l', ?_⟩ <;> decide +kernel
  | han => refine ⟨'算', ?_, ?_, ?_, ?_, '真', ?_⟩ <;> decide +kernel

end NarseseDialects
