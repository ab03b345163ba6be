import NarseseDialects.Number.Written
import NarseseDialects.Reading.Terms

/-! What stands around the term of a sentence. The budget is read from the left, and is given up when
it has no closing bracket or when its bracket begins a name. Truth, stamp and punctuation are peeled
off from the right, and are given up when there is no punctuation; numerals are judged only after
that. -/

namespace NarseseDialects.Reading

variable (d : Dialect) {ε : Type} (fault : Fault → Nat → ε)

def numeralFault? (q : Quantity) (t : Text) : Option Fault :=
  match Decimal.ofNumeral? t with
  | none => some (.notNumeral q t)
  | some n => if (Double.ofDecimalText false n).inUnit then none else some (.outsideUnit q t)

def judgeNumerals (q : Quantity) (content : Text) (place : Nat) : Except ε (List Text) :=
  if content.isEmpty then .ok []
  else
    let values := Text.split (d.numerals q).separator content
    if q.limit < values.length then .error (fault (.tooManyNumerals q values.length) place)
    else
      match values.findSome? (numeralFault? q) with
      | some f => .error (fault f place)
      | none => .ok values

def allBudget : Text → Bool
  | [] => true
  | c :: rest =>
    match hs : opening? (d.numerals .budget).separator (c :: rest) with
    | some r =>
      have := length_lt_of_opening? hs
      allBudget r
    | none => d.isBudgetContent c && allBudget rest
termination_by cs => cs.length
decreasing_by
  · exact this
  · exact Nat.lt_succ_self _

/-- How far an atom at the front of a text would reach. -/
def atomReach (cs : Text) : Nat :=
  match d.sigils.lexicon.front? cs with
  | some (sigil, r) => sigil.length + (nameSpan d r).1.length
  | none => 0

def readHead (region whole : Text) (place : Nat) : Except ε (Option (Head × Text)) :=
  let b := (d.numerals .budget).brackets
  match (opening? b.left region).bind (Text.firstCut? b.right) with
  | none => .ok none
  | some (content, rest) =>
    if !allBudget d content && b.left.length + content.length < atomReach d whole then .ok none
    else (judgeNumerals d fault .budget content place).map fun budget => some (⟨budget, place⟩, rest)

def bracketedBack? (q : Quantity) (region : Text) : Option (Text × Text) :=
  let b := (d.numerals q).brackets
  if b.left.isEmpty then none else (Text.before? b.right region).bind (Text.lastCut? b.left)

def isSignedInteger (cs : Text) : Bool :=
  let digits := (Written.signed cs).2
  !digits.isEmpty && digits.all Text.isPlainDigit

structure StampBack where
  before : Text
  stamp : Text
  oddTime : Option Text

def fixedStampBack? (region : Text) : Option StampBack := do
  let body ← Text.before? d.stamps.fixedRight region
  let time := Text.takeBack d.stamps.isTime body
  if d.stamps.fixedLeft.isEmpty then none
  else
    let before ← Text.before? d.stamps.fixedLeft (Text.dropBack d.stamps.isTime body)
    return ⟨before, d.stamps.fixedLeft ++ time ++ d.stamps.fixedRight,
      if isSignedInteger time then none else some (time ++ d.stamps.fixedRight)⟩

def stampBack (region : Text) : StampBack :=
  match d.stamps.tenses.lexicon.back? region with
  | some (before, stamp) => ⟨before, stamp, none⟩
  | none => (fixedStampBack? d region).getD ⟨region, [], none⟩

def readTail (region : Text) (stop : Nat) : Except ε (Option (Tail × Text)) :=
  let start := stop - region.length
  let (region', content, truthPlace) :=
    match bracketedBack? d .truth region with
    | some (before, content) => (skipBack d before, content, start + before.length)
    | none => (region, [], stop)
  let s := stampBack d region'
  match d.punctuations.lexicon.back? (skipBack d s.before) with
  | none => .ok none
  | some (before, punctuation) =>
    match s.oddTime with
    | some time => .error (fault .fractionalTime (start + region'.length - time.length))
    | none =>
      (judgeNumerals d fault .truth content truthPlace).map fun truth =>
        some (⟨punctuation, start + before.length, s.stamp, truth, truthPlace⟩, skipBack d before)

end NarseseDialects.Reading
