import NarseseDialects.Dialect.Ascii
import NarseseDialects.Meaning.Unfold
import NarseseDialects.Value.Display

namespace NarseseDialects.Outline

def indent (depth : Nat) : Text := List.replicate (2 * depth) ' '

mutual

def term (depth : Nat) : Term → List Text
  | .named k n => [indent depth ++ Kind.display (.name k) ++ " " ++ Text.quoted n]
  | .placeholder => [indent depth ++ Kind.display .placeholder]
  | .interval n => [indent depth ++ Kind.display .interval ++ " " ++ Text.ofNat n]
  | .collection k cs => (indent depth ++ Kind.display (.collection k)) :: terms (depth + 1) cs
  | .chain k cs => (indent depth ++ Kind.display (.chain k)) :: terms (depth + 1) cs
  | .difference s a b =>
    (indent depth ++ Kind.display (.difference s)) :: term (depth + 1) a ++ term (depth + 1) b
  | .negation a => (indent depth ++ Kind.display .negation) :: term (depth + 1) a
  | .image s i cs =>
    (indent depth ++ Kind.display (.image s) ++ ", placeholder at " ++ Text.ofNat i) ::
      terms (depth + 1) cs
  | .ordered c a b =>
    (indent depth ++ Kind.display (.ordered c)) :: term (depth + 1) a ++ term (depth + 1) b
  | .symmetric c a b =>
    (indent depth ++ Kind.display (.symmetric c)) :: term (depth + 1) a ++ term (depth + 1) b

def terms (depth : Nat) : List Term → List Text
  | [] => []
  | t :: ts => term depth t ++ terms depth ts

end

def sentence? (depth : Nat) (s : Sentence) : Option (List Text) :=
  s.stamp.display?.map fun stamp =>
    (indent depth ++ s.mood.punctuation.display ++ " " ++ stamp ++ " " ++ s.mood.displayTruth) ::
      term (depth + 1) s.term

def task? (depth : Nat) (k : Task) : Option (List Text) :=
  (sentence? (depth + 1) k.sentence).map fun lines => (indent depth ++ "Task " ++ k.budget.display) :: lines

def lines? : Value → Option (List Text)
  | .term t => some (term 0 t)
  | .sentence s => sentence? 0 s
  | .task k => task? 0 k

def atomsLine (t : Term) : Text := "atoms: " ++ Text.join ", " ((Term.atomsOf [t]).map (Term.textIn .ascii))

end NarseseDialects.Outline

namespace NarseseDialects

def Value.outline? (v : Value) : Option (List Text) :=
  (Outline.lines? v).map fun lines => lines ++ [Outline.atomsLine v.subject]

end NarseseDialects
