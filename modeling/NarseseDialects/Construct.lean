import NarseseDialects.Term.Builder

/-! Making values from data of any kind. Each constructor checks its arguments one by one, in the order
in which it looks at them, and the first that does not fit is named. -/

namespace NarseseDialects.Construct

inductive Fault where
  | term (fault : Term.Fault)
  | componentCount
  | measure (fault : Measure.Fault)
  | notNumber (given : Datum)
  | tooLarge
  | notTime (given : Datum)
  | aboutNoTerm (given : Datum)
  | notStamp (given : Datum)
  | notTruth (given : Datum)
  | notSentence (given : Datum)
  | notBudget (given : Datum)
  | unwantedTruth (punctuation : Punctuation)
  | noLength (given : Datum)
  | unknownPunctuation (given : Datum)
  | overlong

end NarseseDialects.Construct

namespace NarseseDialects

def Measure.Fault.message : Measure.Fault → Text
  | tooMany q n =>
    q.kindName ++ " takes at most " ++ Text.ofNat q.limit ++ " values, not " ++ Text.ofNat n ++ "."
  | outside v => v.display ++ " lies outside [0, 1]."

def Punctuation.truthMessage (p : Punctuation) : Text :=
  "A " ++ Role.label p ++ " carries no truth value."

end NarseseDialects

namespace NarseseDialects.Construct

def Fault.message? : Fault → Option Text
  | term f => f.message?
  | componentCount => some "The number of components does not fit."
  | measure f => some f.message
  | notNumber g => g.mention? "" " is not a number."
  | tooLarge => some "int too large to convert to float"
  | notTime g => g.mention? "A fixed stamp needs an integer time, not " "."
  | aboutNoTerm g => g.mention? "A sentence is about a term, not " "."
  | notStamp g => g.mention? "Not a stamp: " ""
  | notTruth g => g.mention? "Not a truth-value: " ""
  | notSentence g => g.mention? "A task wraps a sentence, not " "."
  | notBudget g => g.mention? "Not a budget: " ""
  | unwantedTruth p => some p.truthMessage
  | noLength g => g.mention? "" " has no length."
  | unknownPunctuation g => g.display?
  | overlong => none

def term? : Datum → Except Fault Term
  | .value (.term t) => .ok t
  | d => .error (.term (.notTerm d))

def name (k : NameKind) : Datum → Except Fault Term
  | .text n => (Term.named? k n).mapError .term
  | d => .error (.term (.badName (.name k) d))

def interval : Datum → Except Fault Term
  | .whole (.ofNat n) => if (Written.ofInt? n).isSome then .ok (.interval n) else .error .overlong
  | d => .error (.term (.notNatural d))

def compound (k : Kind) (index : Datum) (given : List Datum) : Except Fault Term := do
  match k, given with
  | .difference s, [l, r] => return .difference s (← term? l) (← term? r)
  | .negation, [t] => return .negation (← term? t)
  | .difference _, _ | .negation, _ => throw .componentCount
  | k, _ =>
    let cs ← (Term.Builder.termsOf given).mapError .term
    match k with
    | .collection k => (Term.collection? k cs).mapError .term
    | .chain k => (Term.chain? k cs).mapError .term
    | .image s => (Term.image? s index cs).mapError .term
    | k => throw (.term (.fixedCount k))

/-- A statement of two terms. The shorthands that wrap or move the predicate look at it first. -/
def statement (c : Copula) (subject predicate : Datum) : Except Fault Term := do
  match c with
  | .shorthand .property | .shorthand .equivalenceRetrospective =>
    let p ← term? predicate
    return c.apply (← term? subject) p
  | _ =>
    let s ← term? subject
    return c.apply s (← term? predicate)

def unitNumber (given : Datum) : Except Fault Double := do
  let x ← match given with
    | .whole i => (Double.ofInt? i).elim (throw .tooLarge) pure
    | .real x => pure x
    | d => throw (.notNumber d)
  if x.inUnit then return x else throw (.measure (.outside x))

def measure (q : Quantity) (given : List Datum) : Except Fault (Measure q) := do
  if q.limit < given.length then throw (.measure (.tooMany q given.length))
  let vs ← given.mapM unitNumber
  (Measure.ofValues q vs).mapError .measure

def fixedStamp : Datum → Except Fault Stamp
  | .whole i => .ok (.fixed i)
  | d => .error (.notTime d)

def stamp? : Datum → Except Fault Stamp
  | .stamp s => .ok s
  | d => .error (.notStamp d)

def truth? : Datum → Except Fault Truth
  | .truth t => .ok t
  | d => .error (.notTruth d)

def sentence (p : Punctuation) (about truth stamp : Datum) : Except Fault Sentence := do
  let mood ← match p with
    | .judgement => do pure (Mood.judgement (← truth? truth))
    | .goal => do pure (Mood.goal (← truth? truth))
    | .question => pure .question
    | .quest => pure .quest
  match about with
  | .value (.term t) => return ⟨t, mood, ← stamp? stamp⟩
  | d => throw (.aboutNoTerm d)

/-- A sentence from the label of its punctuation. A truth that counts as empty is as good as none. -/
def fromPunctuation (label about truth stamp : Datum) : Except Fault Sentence := do
  let p : Punctuation ← match label with
    | .text l => (Role.ofLabel? l).elim (throw (.unknownPunctuation label)) pure
    | d => throw (.unknownPunctuation d)
  match p with
  | .question | .quest =>
    match truth with
    | .nothing => pure ()
    | .truth t => if !t.isEmpty then throw (.unwantedTruth p)
    | .budget b => if !b.isEmpty then throw (.unwantedTruth p)
    | d => throw (.noLength d)
    sentence p about .nothing stamp
  | _ => sentence p about (if truth.isEmpty then .truth .empty else truth) stamp

def task (sentence budget : Datum) : Except Fault Task :=
  match sentence, budget with
  | .value (.sentence s), .budget b => .ok ⟨s, b⟩
  | .value (.sentence _), d => .error (.notBudget d)
  | d, _ => .error (.notSentence d)

end NarseseDialects.Construct
