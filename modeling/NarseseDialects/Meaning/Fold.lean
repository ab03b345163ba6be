import NarseseDialects.Lexical.Display
import NarseseDialects.Meaning.Assembly

namespace NarseseDialects.Meaning

inductive FoldFault where
  | failure (failure : Failure)
  | wrongBracket (left right : Text)

def FoldFault.message? : FoldFault → Option Text
  | failure f => f.message?
  | wrongBracket l r => some ("Set bracket " ++ Text.quoted r ++ " does not close " ++ Text.quoted l ++ ".")

def FoldFault.describe? (f : FoldFault) (node : Lexical.Node) : Option Text :=
  f.message?.map fun message => message ++ " (in " ++ Lexical.Node.display node ++ ")"

inductive FoldTrouble where
  | fault (fault : FoldFault) (node : Lexical.Node)
  | tooManyDigits (count : Nat)

def atNode {α : Type} (node : Lexical.Node) (r : Result α) : Except FoldTrouble α :=
  r.mapError fun
    | .failure f => .fault (.failure f) node
    | .tooManyDigits n => .tooManyDigits n

variable (d : Dialect)

def wrongBracket (left right : Text) : Bool :=
  match d.sets.family.rightOf? left with
  | some r => r != right
  | none => false

mutual

def foldTerm : Lexical.Term → Except FoldTrouble Term
  | .atom p n s => atNode (.term (.atom p n s)) (atom d p n)
  | .compound c ts s => do
    let cs ← foldTerms ts
    atNode (.term (.compound c ts s)) (compound d c cs)
  | .set l ts r s =>
    if wrongBracket d l r then .error (.fault (.wrongBracket l r) (.term (.set l ts r s)))
    else do
      let cs ← foldTerms ts
      atNode (.term (.set l ts r s)) (set d l cs)
  | .statement c t u s => do
    let subject ← foldTerm t
    let predicate ← foldTerm u
    atNode (.term (.statement c t u s)) (statement d c subject predicate)

def foldTerms : List Lexical.Term → Except FoldTrouble (List Term)
  | [] => .ok []
  | t :: ts => do
    let c ← foldTerm t
    return c :: (← foldTerms ts)

end

def foldSentence (s : Lexical.Sentence) : Except FoldTrouble Sentence := do
  let t ← foldTerm d s.term
  atNode (.sentence s) (sentence d t s.punctuation s.stamp s.truth)

def foldTask (k : Lexical.Task) : Except FoldTrouble Task := do
  let s ← foldSentence d k.sentence
  atNode (.task k) (task k.budget s)

def fold : Lexical.Node → Except FoldTrouble Value
  | .term t => (foldTerm d t).map .term
  | .sentence s => (foldSentence d s).map .sentence
  | .task k => (foldTask d k).map .task

end NarseseDialects.Meaning
