import NarseseDialects.Number.Layout
import NarseseDialects.Number.Written
import NarseseDialects.Sentence
import NarseseDialects.Text.Quoted

namespace NarseseDialects.Term

def applied (k : Kind) (args : List Text) : Text := k.display ++ "(" ++ Text.join ", " args ++ ")"

mutual

def display : Term → Text
  | named k n => applied (.name k) [Text.quoted n]
  | placeholder => "PLACEHOLDER"
  | interval n => applied .interval [Text.ofNat n]
  | collection k cs => applied (.collection k) (displayAll cs)
  | chain k cs => applied (.chain k) (displayAll cs)
  | difference s a b => applied (.difference s) [display a, display b]
  | negation a => applied .negation [display a]
  | image s i cs => applied (.image s) (Text.ofNat i :: displayAll cs)
  | ordered c a b => applied (.ordered c) [display a, display b]
  | symmetric c a b => applied (.symmetric c) [display a, display b]

def displayAll : List Term → List Text
  | [] => []
  | t :: ts => display t :: displayAll ts

end

end NarseseDialects.Term

namespace NarseseDialects

def Measure.display {q : Quantity} (m : Measure q) : Text :=
  q.kindName ++ "(" ++ Text.join ", " (m.values.map Double.display) ++ ")"

def Measure.missingMessage {q : Quantity} (m : Measure q) (component : Text) : Text :=
  m.display ++ " has no " ++ component ++ "."

def Tense.display : Tense → Text
  | past => "PAST"
  | present => "PRESENT"
  | future => "FUTURE"

def Stamp.display? : Stamp → Option Text
  | eternal => some "ETERNAL"
  | tense t => some t.display
  | fixed time => (Written.ofInt? time).map fun t => "Stamp.fixed(" ++ t ++ ")"

def Punctuation.display (p : Punctuation) : Text := Kind.capitalised (Role.label p)

def absent : Text := "None"

def Mood.displayTruth (m : Mood) : Text := (m.truth?.map Measure.display).getD absent

def Sentence.display? (s : Sentence) : Option Text :=
  s.stamp.display?.map fun stamp =>
    let truth := (s.mood.truth?.map fun t => [t.display]).getD []
    s.mood.punctuation.display ++ "(" ++ Text.join ", " (s.term.display :: truth ++ [stamp]) ++ ")"

def Task.display? (k : Task) : Option Text :=
  k.sentence.display?.map fun sentence => "Task(" ++ sentence ++ ", " ++ k.budget.display ++ ")"

def Value.display? : Value → Option Text
  | .term t => some t.display
  | .sentence s => s.display?
  | .task k => k.display?

end NarseseDialects
