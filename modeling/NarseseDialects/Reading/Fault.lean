import NarseseDialects.Quantity
import NarseseDialects.Text.Quoted

namespace NarseseDialects.Reading

inductive Group where
  | set
  | compound
  deriving DecidableEq

inductive Fault where
  | nothing
  | tooManyNumerals (quantity : Quantity) (count : Nat)
  | notNumeral (quantity : Quantity) (text : Text)
  | outsideUnit (quantity : Quantity) (text : Text)
  | fractionalTime
  | sentenceWithoutTerm
  | misplacedPunctuation
  | textAfterTerm
  | termExpected
  | unclosed (right : Text)
  | mismatched (right : Text)
  | separatorExpected (separator right : Text)
  | emptyGroup (group : Group)
  | endlessSet (left : Text)
  | connectorExpected
  | separatorAfterConnector (separator connector : Text)
  | copulaExpected
  | unknownSigil
  | nameExpected (sigil : Text)
  deriving DecidableEq

def Group.label : Group → Text
  | set => "set"
  | compound => "compound"

def Fault.message : Fault → Text
  | nothing => "There is no Narsese here."
  | tooManyNumerals q n =>
    "A " ++ q.label ++ " has at most " ++ Text.ofNat q.limit ++ " components, not " ++
      Text.ofNat n ++ "."
  | notNumeral q t =>
    Text.quoted t ++ " is not a decimal number, so it cannot be part of a " ++ q.label ++ "."
  | outsideUnit q t => "The " ++ q.label ++ " component " ++ t ++ " lies outside [0, 1]."
  | fractionalTime => "A fixed stamp needs a whole number of time-steps."
  | sentenceWithoutTerm => "A sentence needs a term."
  | misplacedPunctuation => "Punctuation appears more than once, or out of place."
  | textAfterTerm => "Unexpected text after the term."
  | termExpected => "Expected a term here."
  | unclosed r => "Missing " ++ Text.quoted r ++ " to close the bracket."
  | mismatched r => "Mismatched bracket: expected " ++ Text.quoted r ++ " here."
  | separatorExpected s r => "Expected " ++ Text.quoted s ++ " or " ++ Text.quoted r ++ " here."
  | emptyGroup g => "An empty " ++ g.label ++ " is not allowed."
  | endlessSet l => "The set bracket " ++ Text.quoted l ++ " opens without end."
  | connectorExpected => "A compound term must begin with a connector."
  | separatorAfterConnector s c =>
    "Expected " ++ Text.quoted s ++ " after the connector " ++ Text.quoted c ++ "."
  | copulaExpected => "Expected a copula here."
  | unknownSigil => "Unknown atom prefix."
  | nameExpected s => "The prefix " ++ Text.quoted s ++ " needs a name after it."

end NarseseDialects.Reading
