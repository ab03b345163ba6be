import NarseseDialects.Construct
import NarseseDialects.Dialect.Basic

namespace NarseseDialects.Meaning

inductive Failure where
  | unknownSigil (literal : Text)
  | unknownConnector (literal : Text)
  | unknownSetBracket (literal : Text)
  | unknownCopula (literal : Text)
  | unknownStamp (literal : Text)
  | unknownPunctuation (literal : Text)
  | placeholders (count : Nat)
  | componentCount (kind : Kind) (wanted count : Nat)
  | notNumber (numeral : Text)
  | unwantedTruth (punctuation : Punctuation)
  | term (fault : Term.Fault)
  | measure (fault : Measure.Fault)

inductive Trouble where
  | failure (failure : Failure)
  | tooManyDigits (count : Nat)

def Failure.message? : Failure → Option Text
  | unknownSigil e => some ("Unknown atom prefix " ++ Text.quoted e ++ ".")
  | unknownConnector e => some ("Unknown connector " ++ Text.quoted e ++ ".")
  | unknownSetBracket e => some ("Unknown set bracket " ++ Text.quoted e ++ ".")
  | unknownCopula e => some ("Unknown copula " ++ Text.quoted e ++ ".")
  | unknownStamp e => some ("Unknown stamp " ++ Text.quoted e ++ ".")
  | unknownPunctuation e => some ("Unknown punctuation " ++ Text.quoted e ++ ".")
  | placeholders n => some ("An image needs exactly one placeholder, not " ++ Text.ofNat n ++ ".")
  | componentCount k w n =>
    some (k.display ++ " takes exactly " ++ Text.ofNat w ++ " component(s), not " ++ Text.ofNat n ++ ".")
  | notNumber t => some ("could not convert string to float: " ++ Text.quoted t)
  | unwantedTruth p => some p.truthMessage
  | term f => f.message?
  | measure f => some f.message

abbrev Result (α : Type) := Except Trouble α

def fail {α : Type} (f : Failure) : Result α := .error (.failure f)

def ofRefusal : Term.Refusal → Trouble
  | .fault f => .failure (.term f)
  | .tooManyDigits n => .tooManyDigits n

def ofTermFault {α : Type} (r : Except Term.Fault α) : Result α :=
  r.mapError fun f => .failure (.term f)

variable (d : Dialect)

def atom (sigil name : Text) : Result Term :=
  match d.sigils.role? sigil with
  | none => fail (.unknownSigil sigil)
  | some r => do
    let named := (Term.Builder.start (.ofAtomRole r) .nothing).setName name
    ofTermFault named.1
    named.2.build.mapError ofRefusal

def image (s : Side) (cs : List Term) : Result Term :=
  let isGap (t : Term) := t.same .placeholder
  if cs.countP isGap = 1 then
    ofTermFault (Term.image? s (.whole (cs.findIdx isGap)) (cs.eraseIdx (cs.findIdx isGap)))
  else fail (.placeholders (cs.countP isGap))

def compound (connector : Text) (cs : List Term) : Result Term :=
  match d.connectors.role? connector with
  | none => fail (.unknownConnector connector)
  | some (.image s) => image s cs
  | some (.junction j) => ofTermFault (Term.collection? (.junction j) cs)
  | some (.chain c) => ofTermFault (Term.chain? c cs)
  | some (.difference s) =>
    match cs with
    | [l, r] => .ok (.difference s l r)
    | _ => fail (.componentCount (.difference s) 2 cs.length)
  | some .negation =>
    match cs with
    | [t] => .ok (.negation t)
    | _ => fail (.componentCount .negation 1 cs.length)

def set (left : Text) (cs : List Term) : Result Term :=
  match d.sets.side? left with
  | none => fail (.unknownSetBracket left)
  | some s => ofTermFault (Term.collection? (.set s) cs)

def statement (copula : Text) (subject predicate : Term) : Result Term :=
  match d.copulas.role? copula with
  | none => fail (.unknownCopula copula)
  | some c => .ok (c.apply subject predicate)

def fixedContent? (literal : Text) : Option Text := do
  let rest ← Text.after? d.stamps.fixedLeft literal
  let content ← Text.before? d.stamps.fixedRight rest
  if content.isEmpty then none else some content

def stamp (literal : Text) : Result Stamp :=
  if literal.isEmpty then .ok .eternal
  else
    match d.stamps.tenses.role? literal with
    | some t => .ok (.tense t)
    | none =>
      match (fixedContent? d literal).map Written.whole with
      | some (.ok time) => .ok (.fixed time)
      | _ => fail (.unknownStamp literal)

def number (t : Text) : Result Double := (Written.real? t).elim (fail (.notNumber t)) .ok

def measure (q : Quantity) (numerals : List Text) : Result (Measure q) := do
  let vs ← numerals.mapM number
  (Measure.ofValues q vs).mapError fun f => .failure (.measure f)

def mood (p : Punctuation) (truth : Truth) : Result Mood :=
  match p with
  | .judgement => .ok (.judgement truth)
  | .goal => .ok (.goal truth)
  | .question => if truth.isEmpty then .ok .question else fail (.unwantedTruth p)
  | .quest => if truth.isEmpty then .ok .quest else fail (.unwantedTruth p)

def sentence (t : Term) (punctuation stampLiteral : Text) (truth : List Text) : Result Sentence :=
  match d.punctuations.role? punctuation with
  | none => fail (.unknownPunctuation punctuation)
  | some p => do
    let m ← measure .truth truth
    let s ← stamp d stampLiteral
    return ⟨t, ← mood p m, s⟩

def task (budget : List Text) (s : Sentence) : Result Task := do return ⟨s, ← measure .budget budget⟩

end NarseseDialects.Meaning
