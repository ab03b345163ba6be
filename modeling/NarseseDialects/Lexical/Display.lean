import NarseseDialects.Lexical.Tree
import NarseseDialects.Text.Quoted

namespace NarseseDialects.Lexical

namespace Term

mutual

def display : Term → Text
  | atom p n _ => "Atom(" ++ Text.quoted p ++ ", " ++ Text.quoted n ++ ")"
  | compound c ts _ => "Compound(" ++ Text.quoted c ++ ", " ++ Text.bracketed (displayAll ts) ++ ")"
  | set l ts r _ =>
    "Set(" ++ Text.quoted l ++ ", " ++ Text.bracketed (displayAll ts) ++ ", " ++ Text.quoted r ++ ")"
  | statement c s p _ =>
    "Statement(" ++ Text.quoted c ++ ", " ++ display s ++ ", " ++ display p ++ ")"

def displayAll : List Term → List Text
  | [] => []
  | t :: ts => display t :: displayAll ts

end

end Term

def displayNumerals (ns : List Text) : Text := Text.parenthesised (ns.map Text.quoted)

def Sentence.display (s : Sentence) : Text :=
  "Sentence(" ++ s.term.display ++ ", " ++ Text.quoted s.punctuation ++ ", " ++
    Text.quoted s.stamp ++ ", " ++ displayNumerals s.truth ++ ")"

def Task.display (k : Task) : Text :=
  "Task(" ++ displayNumerals k.budget ++ ", " ++ k.sentence.display ++ ")"

def Node.display : Node → Text := Item.elim Term.display Sentence.display Task.display

end NarseseDialects.Lexical
