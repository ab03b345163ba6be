import NarseseDialects.Dialect.Basic
import NarseseDialects.Lexical.Writer
import NarseseDialects.Number.Layout
import NarseseDialects.Number.Written
import NarseseDialects.Sentence

namespace NarseseDialects.Meaning

variable (d : Dialect)

mutual

def unfoldTerm : Term → Lexical.Term
  | .named k n => .atom (d.sigils.literal (.name k)) n none
  | .placeholder => .atom (d.sigils.literal .placeholder) [] none
  | .interval n => .atom (d.sigils.literal .interval) (Text.ofNat n) none
  | .collection (.set s) cs => .set (d.sets.pair s).left (unfoldTerms cs) (d.sets.pair s).right none
  | .collection (.junction j) cs =>
    .compound (d.connectors.literal (.junction j)) (unfoldTerms cs) none
  | .chain c cs => .compound (d.connectors.literal (.chain c)) (unfoldTerms cs) none
  | .difference s l r =>
    .compound (d.connectors.literal (.difference s)) [unfoldTerm l, unfoldTerm r] none
  | .negation t => .compound (d.connectors.literal .negation) [unfoldTerm t] none
  | .image s i cs =>
    let ts := unfoldTerms cs
    let gap := Lexical.Term.atom (d.sigils.literal .placeholder) [] none
    .compound (d.connectors.literal (.image s)) (ts.take i ++ gap :: ts.drop i) none
  | .ordered c s p => .statement (d.copulas.literal (.ordered c)) (unfoldTerm s) (unfoldTerm p) none
  | .symmetric c s p =>
    .statement (d.copulas.literal (.symmetric c)) (unfoldTerm s) (unfoldTerm p) none

def unfoldTerms : List Term → List Lexical.Term
  | [] => []
  | t :: ts => unfoldTerm t :: unfoldTerms ts

end

theorem unfoldTerms_eq_map (ts : List Term) : unfoldTerms d ts = ts.map (unfoldTerm d) := by
  induction ts with
  | nil => rfl
  | cons t ts ih => simp [unfoldTerms, ih]

def unfoldStamp? : Stamp → Option Text
  | .eternal => some []
  | .tense t => some (d.stamps.tenses.literal t)
  | .fixed time => (Written.ofInt? time).map fun t => d.stamps.fixedLeft ++ t ++ d.stamps.fixedRight

def unfoldMeasure {q : Quantity} (m : Measure q) : List Text := m.values.map Double.numeral

def unfoldSentence? (s : Sentence) : Option Lexical.Sentence :=
  (unfoldStamp? d s.stamp).map fun stamp =>
    { term := unfoldTerm d s.term
      punctuation := d.punctuations.literal s.mood.punctuation
      stamp
      truth := (s.mood.truth?.map unfoldMeasure).getD []
      spot := none }

def unfoldTask? (k : Task) : Option Lexical.Task :=
  (unfoldSentence? d k.sentence).map fun s => ⟨unfoldMeasure k.budget, s, none⟩

def unfolded? : Value → Option Lexical.Node
  | .term t => some (.term (unfoldTerm d t))
  | .sentence s => (unfoldSentence? d s).map .sentence
  | .task k => (unfoldTask? d k).map .task

end NarseseDialects.Meaning

namespace NarseseDialects

def Term.textIn (d : Dialect) (t : Term) : Text := (Meaning.unfoldTerm d t).write d

def Value.write? (d : Dialect) (v : Value) : Option Text := (Meaning.unfolded? d v).map (Lexical.Node.write d)

end NarseseDialects
