import NarseseDialects.Dialect.Basic
import NarseseDialects.Lexical.Tree

namespace NarseseDialects.Lexical

def componentSeparator (d : Dialect) : Text := d.separator ++ d.spacing.betweenTerms

namespace Term

mutual

def write (d : Dialect) : Term → Text
  | atom p n _ => p ++ n
  | compound c ts _ =>
    d.compound.left ++ c ++ componentSeparator d ++ writeAll d ts ++ d.compound.right
  | set l ts r _ => l ++ writeAll d ts ++ r
  | statement c s p _ =>
    d.statement.left ++ write d s ++ d.spacing.betweenTerms ++ c ++ d.spacing.betweenTerms ++
      write d p ++ d.statement.right

def writeAll (d : Dialect) : List Term → Text
  | [] => []
  | t :: ts => write d t ++ writeMore d ts

def writeMore (d : Dialect) : List Term → Text
  | [] => []
  | t :: ts => componentSeparator d ++ write d t ++ writeMore d ts

end

theorem writeAll_eq_join (d : Dialect) (ts : List Term) :
    writeAll d ts = Text.join (componentSeparator d) (ts.map (write d)) := by
  cases ts with
  | nil => rfl
  | cons t ts =>
    rw [writeAll]
    induction ts generalizing t with
    | nil => simp [writeMore]
    | cons u us ih =>
      rw [List.map_cons, List.map_cons, Text.join_cons_cons, ← List.map_cons, ← ih u, writeMore]
      simp only [List.append_assoc]

end Term

def writeNumerals (s : NumeralStyle) (ns : List Text) : Text :=
  s.brackets.left ++ Text.join s.separator ns ++ s.brackets.right

def writeTruth (d : Dialect) : List Text → Text
  | [] => []
  | n :: ns => writeNumerals (d.numerals .truth) (n :: ns)

def writeItems (d : Dialect) (parts : List Text) : Text :=
  Text.join d.spacing.betweenItems (parts.filter (!·.isEmpty))

def Sentence.write (d : Dialect) (s : Sentence) : Text :=
  writeItems d [s.term.write d ++ s.punctuation, s.stamp, writeTruth d s.truth]

def Task.write (d : Dialect) (k : Task) : Text :=
  writeNumerals (d.numerals .budget) k.budget ++ d.spacing.betweenItems ++ k.sentence.write d

def Node.write (d : Dialect) : Node → Text := Item.elim (Term.write d) (Sentence.write d) (Task.write d)

end NarseseDialects.Lexical
