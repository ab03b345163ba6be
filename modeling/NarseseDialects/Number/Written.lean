import NarseseDialects.Number.Double
import NarseseDialects.Number.Shortest
import NarseseDialects.Text.Classes
import NarseseDialects.Text.Cut

namespace NarseseDialects

def Text.digitsValue (t : Text) : Nat := Nat.ofDigitChars 10 t 0

theorem Text.digitsValue_ofNat (n : Nat) : Text.digitsValue (Text.ofNat n) = n :=
  Nat.ofDigitChars_toDigits (by decide) (by decide)

def Decimal.ofNumeral? (t : Text) : Option Decimal :=
  let whole := t.takeWhile Text.isPlainDigit
  match t.dropWhile Text.isPlainDigit with
  | [] => if whole.isEmpty then none else some ⟨Text.digitsValue whole, 0⟩
  | '.' :: fraction =>
    if fraction.all Text.isPlainDigit && !(whole.isEmpty && fraction.isEmpty) then
      some ⟨Text.digitsValue (whole ++ fraction), -fraction.length⟩
    else none
  | _ => none

def Double.ofDecimalText (negative : Bool) (d : Decimal) : Double :=
  Double.ofDecimal negative d.digits d.exponent

namespace Written

def plainDigits (t : Text) : Text :=
  t.map fun c => ((Text.decimalValue? c).map Nat.digitChar).getD c

/-- The text without its low lines, each of which must stand between two digits. -/
def ungroup : Bool → Text → Option Text
  | _, [] => some []
  | afterDigit, '_' :: c :: cs =>
    if afterDigit && Text.isPlainDigit c then (ungroup true cs).map (c :: ·) else none
  | _, c :: cs => if c = '_' then none else (ungroup (Text.isPlainDigit c) cs).map (c :: ·)

def signed : Text → Bool × Text
  | '-' :: cs => (true, cs)
  | '+' :: cs => (false, cs)
  | cs => (false, cs)

def unblanked? (t : Text) : Option Text :=
  ungroup false (plainDigits (Text.trim Text.isNumberBlank t))

/-- Whole numbers of more digits than this are neither read nor written. -/
def digitLimit : Nat := 4300

def ofInt? (i : Int) : Option Text :=
  if digitLimit < (Text.ofNat i.natAbs).length then none else some (Text.ofInt i)

def limitMessage (digits : Nat) : Text :=
  "Exceeds the limit (" ++ Text.ofNat digitLimit ++
    " digits) for integer string conversion: value has " ++ Text.ofNat digits ++
    " digits; use sys.set_int_max_str_digits() to increase the limit"

inductive WholeFault where
  | malformed
  | tooLong (digits : Nat)
  deriving DecidableEq

def limited (digits : Text) : Except WholeFault Nat :=
  if digitLimit < digits.length then .error (.tooLong digits.length)
  else .ok (Text.digitsValue digits)

def applySign (negative : Bool) (n : Nat) : Int := if negative then -n else n

def whole (t : Text) : Except WholeFault Int :=
  match (unblanked? t).map signed with
  | some (negative, digits) =>
    if digits.isEmpty || !digits.all Text.isPlainDigit then .error .malformed
    else (limited digits).map (applySign negative)
  | none => .error .malformed

def power? : Text → Option Int
  | [] => some 0
  | _ :: cs =>
    let (negative, digits) := signed cs
    if digits.isEmpty || !digits.all Text.isPlainDigit then none
    else some (applySign negative (Text.digitsValue digits))

def isPowerLetter (c : Char) : Bool := c = 'e' || c = 'E'

def unsigned? (negative : Bool) (t : Text) : Option Double :=
  let word := t.map Char.toLower
  if word = "inf" || word = "infinity" then some (.infinite negative)
  else if word = "nan" then some .nan
  else do
    let d ← Decimal.ofNumeral? (t.takeWhile (!isPowerLetter ·))
    let power ← power? (t.dropWhile (!isPowerLetter ·))
    return .ofDecimal negative d.digits (d.exponent + power)

def real? (t : Text) : Option Double :=
  (unblanked? t).bind fun u => unsigned? (signed u).1 (signed u).2

example : real? " -1_0.5e1\n" = some (.ofDecimal true 105 0) := by decide +kernel

example : real? "1__0" = none ∧ real? "." = none ∧ real? "1e" = none := by decide

example : (whole "+٣_4").toOption = some 34 := by decide

end Written

end NarseseDialects
