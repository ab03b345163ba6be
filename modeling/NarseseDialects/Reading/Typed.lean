import NarseseDialects.Meaning.Assembly
import NarseseDialects.Reading.Scan
import NarseseDialects.Reading.Source

namespace NarseseDialects

namespace Reading

inductive Cause where
  | fault (fault : Fault)
  | failure (failure : Meaning.Failure)

def Cause.message? : Cause → Option Text
  | fault f => some f.message
  | failure f => f.message?

inductive Obstacle where
  | cause (cause : Cause) (place : Nat)
  | tooManyDigits (count : Nat)

def assembled {α : Type} (place : Nat) (r : Meaning.Result α) : Except Obstacle α :=
  r.mapError fun
    | .failure f => .cause (.failure f) place
    | .tooManyDigits n => .tooManyDigits n

def typedMaker (d : Dialect) : Maker Obstacle Term Sentence Task where
  fault f place := .cause (.fault f) place
  atom sigil name place := assembled place (Meaning.atom d sigil name)
  compound connector cs place := assembled place (Meaning.compound d connector cs)
  set left cs _ place := assembled place (Meaning.set d left cs)
  statement copula s p place := assembled place (Meaning.statement d copula s p)
  sentence t tail _ :=
    let place := if tail.truth.isEmpty then tail.punctuationPlace else tail.truthPlace
    assembled place (Meaning.sentence d t tail.punctuation tail.stamp tail.truth)
  task h s := assembled h.place (Meaning.task h.budget s)

end Reading

inductive ReadTrouble where
  | located (cause : Reading.Located Reading.Cause)
  | tooManyDigits (count : Nat)

def readValue (d : Dialect) (text : Text) : Except ReadTrouble Value :=
  let source := Reading.Source.ofText d text
  (Reading.read d (Reading.typedMaker d) source.chars).mapError fun
    | .cause c place => .located (source.blame c place)
    | .tooManyDigits n => .tooManyDigits n

end NarseseDialects
