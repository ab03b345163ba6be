import NarseseDialects.Dialect.Basic

/-! Drafts of dialects: tables from role labels to literals, which may lack roles, name unknown ones,
or give one literal twice. A draft that has none of these faults and whose parts can be told apart
becomes a dialect. -/

namespace NarseseDialects

namespace Dialect

abbrev Table (α : Type) := List (Text × α)

namespace Table

/-- Replaces a role's entry in its place, adds it at the end, or takes it out. -/
def amend {α : Type} (t : Table α) (label : Text) : Option α → Table α
  | none => t.filter fun e => e.1 ≠ label
  | some a =>
    if t.any fun e => e.1 = label then t.map fun e => if e.1 = label then (label, a) else e
    else t ++ [(label, a)]

def amendAll {α : Type} (t : Table α) (changes : List (Text × Option α)) : Table α :=
  changes.foldl (fun t c => t.amend c.1 c.2) t

end Table

structure Draft where
  name : Text
  spacing : Spacing
  sigils : Table Text
  isIdentifier : Char → Bool
  compound : Brackets
  separator : Text
  sets : Table Brackets
  connectors : Table Text
  statement : Brackets
  copulas : Table Text
  punctuations : Table Text
  stampBrackets : Brackets
  stampMarks : Table Text
  isTime : Char → Bool
  truth : NumeralStyle
  budget : NumeralStyle
  isBudgetContent : Char → Bool

namespace Draft

inductive Fault where
  | mismatch (missing unknown : List Text)
  | secondRole (literal : Text)
  | secondSet (left : Text)
  | absent (role : Text)
  | clash (clash : Clash)

def Fault.message : Fault → Text
  | mismatch missing unknown =>
    "Role table mismatch; missing " ++ Text.bracketed (missing.map Text.quoted) ++ ", unknown " ++
      Text.bracketed (unknown.map Text.quoted)
  | secondRole e => "Literal " ++ Text.quoted e ++ " plays more than one role."
  | secondSet e => "Set bracket " ++ Text.quoted e ++ " is used twice."
  | absent r => Text.quoted r
  | clash .wordSigil => "The word prefix must be empty."
  | clash (.operator e) => Text.quoted e ++ " cannot be both structure and operator."
  | clash (.delimiter e) =>
    Text.quoted e ++ " begins with an identifier character, but whitespace is significant."

def complete (ρ : Type) [Role ρ] (t : Table Text) : Except Fault (ρ → Text) :=
  let labels := (Role.members : List ρ).map Role.label
  let missing := labels.filter fun l => (t.lookup l).isNone
  let unknown := (t.map Prod.fst).filter fun l => !labels.contains l
  if missing.isEmpty && unknown.isEmpty then .ok fun r => (t.lookup (Role.label r)).getD []
  else .error (.mismatch missing unknown)

def vocabulary {ρ : Type} [Role ρ] (literal : ρ → Text) : Except Fault (Vocabulary ρ) :=
  (Vocabulary.ofLiterals? literal).mapError .secondRole

def entries {ρ α : Type} [Role ρ] [Inhabited α] (t : Table α) : Except Fault (ρ → α) :=
  match (Role.members : List ρ).find? fun r => (t.lookup (Role.label r)).isNone with
  | some r => .error (.absent (Role.label r))
  | none => .ok fun r => (t.lookup (Role.label r)).getD default

def setBrackets (t : Table Brackets) : Except Fault SetBrackets := do
  let pair ← entries t
  (SetBrackets.ofPairs? pair).mapError .secondSet

def fixedLabel : Text := "fixed"

def stamps (b : Brackets) (t : Table Text) (isTime : Char → Bool) : Except Fault StampStyle := do
  let mark : Tense → Text ← entries t
  match h : Vocabulary.ofLiterals? fun r => b.left ++ mark r ++ b.right with
  | .error e => .error (.secondRole e)
  | .ok v =>
    match t.lookup fixedLabel with
    | none => .error (.absent fixedLabel)
    | some fixedMark =>
      return { brackets := b, mark, fixedMark, isTime, tenses := v
               tenses_literal := Vocabulary.literal_of_ofLiterals? h }

def build (t : Draft) : Except Fault Dialect := do
  let sigils ← vocabulary (← complete AtomRole t.sigils)
  let sets ← setBrackets t.sets
  let connectors ← vocabulary (← complete Connector t.connectors)
  let copulas ← vocabulary (← complete Copula t.copulas)
  let punctuations ← vocabulary (← complete Punctuation t.punctuations)
  let stamps ← stamps t.stampBrackets t.stampMarks t.isTime
  let parts : Parts :=
    { name := t.name, spacing := t.spacing, sigils, isIdentifier := t.isIdentifier
      compound := t.compound, separator := t.separator, sets, connectors, statement := t.statement
      copulas, punctuations, stamps
      numerals := fun
        | .truth => t.truth
        | .budget => t.budget
      isBudgetContent := t.isBudgetContent }
  (ofParts? parts).mapError .clash

def table {ρ : Type} [Role ρ] {α : Type} (f : ρ → α) : Table α :=
  (Role.members : List ρ).map fun r => (Role.label r, f r)

def ofDialect (d : Dialect) : Draft where
  name := d.name
  spacing := d.spacing
  sigils := table d.sigils.literal
  isIdentifier := d.isIdentifier
  compound := d.compound
  separator := d.separator
  sets := table d.sets.pair
  connectors := table d.connectors.literal
  statement := d.statement
  copulas := table d.copulas.literal
  punctuations := table d.punctuations.literal
  stampBrackets := d.stamps.brackets
  stampMarks := table d.stamps.mark ++ [(fixedLabel, d.stamps.fixedMark)]
  isTime := d.stamps.isTime
  truth := d.numerals .truth
  budget := d.numerals .budget
  isBudgetContent := d.isBudgetContent

end Draft

end Dialect

end NarseseDialects
