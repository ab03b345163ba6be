import NarseseDialects.Item
import NarseseDialects.Quantity
import NarseseDialects.Term.Basic

namespace NarseseDialects

/-- The four stamps without a time and those that `fixed` makes. A stamp may be put together of any name and
any time; no other than these is dealt with. -/
inductive Stamp where
  | eternal
  | tense (tense : Tense)
  | fixed (time : Int)
  deriving DecidableEq

inductive Mood where
  | judgement (truth : Truth)
  | goal (truth : Truth)
  | question
  | quest
  deriving DecidableEq

namespace Mood

def punctuation : Mood → Punctuation
  | judgement _ => .judgement
  | goal _ => .goal
  | question => .question
  | quest => .quest

def truth? : Mood → Option Truth
  | judgement t | goal t => some t
  | question | quest => none

def same : Mood → Mood → Bool
  | judgement t, judgement u => t.same u
  | goal t, goal u => t.same u
  | question, question => true
  | quest, quest => true
  | _, _ => false

end Mood

structure Sentence where
  term : Term
  mood : Mood
  stamp : Stamp

structure Task where
  sentence : Sentence
  budget : Budget

abbrev Value := Item Term Sentence Task

def Sentence.same (a b : Sentence) : Bool :=
  a.term.same b.term && a.mood.same b.mood && a.stamp == b.stamp

def Task.same (a b : Task) : Bool := a.sentence.same b.sentence && a.budget.same b.budget

namespace Value

def same : Value → Value → Bool
  | .term t, .term u => t.same u
  | .sentence s, .sentence t => s.same t
  | .task k, .task l => k.same l
  | _, _ => false

def subject : Value → Term := Item.elim id Sentence.term fun k => k.sentence.term

end Value

end NarseseDialects
