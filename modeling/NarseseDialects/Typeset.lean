import NarseseDialects.Number.Layout
import NarseseDialects.Number.Written
import NarseseDialects.Sentence
import NarseseDialects.Text.Classes
import NarseseDialects.Text.Cut

/-! Values as typeset formulas. Every piece that is not empty brings its own blanks, and the whole is
tidied at the end. Nothing reads this text back. -/

namespace NarseseDialects.Text

def squeeze : Bool → Text → Text
  | _, [] => []
  | inRun, c :: cs =>
    if isBlank c then
      if inRun then squeeze true cs else ' ' :: squeeze true cs
    else c :: squeeze false cs

def collapse (t : Text) : Text := squeeze false (trim isBlank t)

example : collapse " a \t\n b " = "a b" := by decide

end NarseseDialects.Text

namespace NarseseDialects.Typeset

def sigil : AtomRole → Text
  | .name .word => ""
  | .placeholder => " diamond.small "
  | .name .independent => " \\$ #h(-0.05em) "
  | .name .dependent => " \\# #h(-0.05em) "
  | .name .query => " ? #h(-0.05em) "
  | .interval => " + #h(-0.05em) "
  | .name .operator => " arrow.t.double #h(-0.05em) "

def connector : Connector → Text
  | .junction (.intersection .extension) => " sect "
  | .junction (.intersection .intension) => " union "
  | .difference .extension => " minus "
  | .difference .intension => " minus.circle "
  | .chain .product => " times "
  | .image .extension => " \\/ "
  | .image .intension => " \\\\ "
  | .junction .conjunction => " and "
  | .junction .disjunction => " or "
  | .negation => " not "
  | .chain .sequential => " , "
  | .junction .parallel => " ; "

def ordered : OrderedCopula → Text
  | .inheritance => " arrow.r "
  | .implication => " arrow.r.double "
  | .implicationPredictive => " space\\/#h(-0.6em)arrow.r.double "
  | .implicationConcurrent => " space\\|#h(-0.6em)arrow.r.double "
  | .implicationRetrospective => " space\\\\#h(-0.6em)arrow.r.double "
  | .equivalencePredictive => " space\\/#h(-0.6em)arrow.l.r.double "

def symmetric : SymmetricCopula → Text
  | .similarity => " arrow.l.r "
  | .equivalence => " arrow.l.r.double "
  | .equivalenceConcurrent => " space\\|#h(-0.6em)arrow.l.r.double "

def tense : Tense → Text
  | .past => " \\/#h(-0.6em)arrow.r.double "
  | .present => " \\|#h(-0.6em)arrow.r.double "
  | .future => " \\\\#h(-0.6em)arrow.r.double "

def stamp? : Stamp → Option Text
  | .eternal => some ""
  | .tense t => some (tense t)
  | .fixed time => (Written.ofInt? time).map (" t= " ++ ·)

def punctuation : Punctuation → Text
  | .judgement => " . "
  | .goal => " ! "
  | .question => " ? "
  | .quest => " quest.inv "

def setLeft : Side → Text
  | .extension => " lr(\x7b "
  | .intension => " lr([ "

def setRight : Side → Text
  | .extension => " \x7d) "
  | .intension => " ]) "

def gap : Text := " space "

def quote (t : Text) : Text :=
  "\"" ++ t.flatMap (fun c => if c = '"' || c = '\\' then ['\\', c] else [c]) ++ "\""

/-- A compound of components that are typeset already. A connector stands between two of them, and
before any other number of them. -/
def joined (connector : Text) : List Text → Text
  | [a, b] => " lr(( " ++ a ++ connector ++ b ++ " )) "
  | parts => " lr(( " ++ connector ++ gap ++ Text.join gap parts ++ " )) "

def related (copula subject predicate : Text) : Text :=
  " lr(angle.l " ++ subject ++ copula ++ predicate ++ " angle.r) "

mutual

def term : Term → Text
  | .named k n => sigil (.name k) ++ quote n
  | .placeholder => sigil .placeholder
  | .interval n => sigil .interval ++ quote (Text.ofNat n)
  | .collection (.set s) cs => setLeft s ++ Text.join gap (terms cs) ++ setRight s
  | .collection (.junction j) cs => joined (connector (.junction j)) (terms cs)
  | .chain c cs => joined (connector (.chain c)) (terms cs)
  | .difference s a b => joined (connector (.difference s)) [term a, term b]
  | .negation a => joined (connector .negation) [term a]
  | .image s i cs =>
    let parts := terms cs
    joined (connector (.image s)) (parts.take i ++ sigil .placeholder :: parts.drop i)
  | .ordered c a b => related (ordered c) (term a) (term b)
  | .symmetric c a b => related (symmetric c) (term a) (term b)

def terms : List Term → List Text
  | [] => []
  | t :: ts => term t :: terms ts

end

def numbers (left separator right : Text) (vs : List Double) : Text :=
  left ++ Text.join separator (vs.map Double.typeset) ++ right

def truth (m : Mood) : Text :=
  match m.truth? with
  | some t => if t.isEmpty then "" else numbers " lr(angle.l " "," " angle.r) " t.values
  | none => ""

/-- The separator is quoted, since a bare one would end the formula. -/
def budget (b : Budget) : Text := numbers " lr(\\$ " "\";\"" " \\$) " b.values

def sentence? (s : Sentence) : Option Text :=
  (stamp? s.stamp).map fun stamp =>
    term s.term ++ punctuation s.mood.punctuation ++ stamp ++ gap ++ truth s.mood

def task? (k : Task) : Option Text :=
  let s := k.sentence
  (stamp? s.stamp).map fun stamp =>
    Text.join gap [budget k.budget, term s.term ++ punctuation s.mood.punctuation, stamp, truth s.mood]

def pieces? : Value → Option Text
  | .term t => some (term t)
  | .sentence s => sentence? s
  | .task k => task? k

end NarseseDialects.Typeset

namespace NarseseDialects

def Value.typeset? (v : Value) : Option Text := (Typeset.pieces? v).map Text.collapse

end NarseseDialects
