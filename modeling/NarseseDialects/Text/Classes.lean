import NarseseDialects.Text.Alphanumeric
import NarseseDialects.Text.Digit
import NarseseDialects.Text.Printable

namespace NarseseDialects.Text

def inRanges : List (Nat × Nat) → Nat → Bool
  | [], _ => false
  | (first, last) :: rs, n => first ≤ n && (n ≤ last || inRanges rs n)

def isAlphanumeric (c : Char) : Bool := inRanges alphanumericRanges c.toNat

def isPrintable (c : Char) : Bool := inRanges printableRanges c.toNat

/-- The wide class of digits, which has superscripts too. -/
def isDigitLike (c : Char) : Bool := inRanges digitRanges c.toNat

def blankRanges : List (Nat × Nat) :=
  [(0x9, 0xD), (0x1C, 0x20), (0x85, 0x85), (0xA0, 0xA0), (0x1680, 0x1680), (0x2000, 0x200A),
    (0x2028, 0x2029), (0x202F, 0x202F), (0x205F, 0x205F), (0x3000, 0x3000)]

def isBlank (c : Char) : Bool := inRanges blankRanges c.toNat

/-- Blanks that may surround a number: the four information separators are not among them. -/
def isNumberBlank (c : Char) : Bool := isBlank c && !(0x1C ≤ c.toNat && c.toNat ≤ 0x1F)

def decimalValue? (c : Char) : Option Nat :=
  (decimalZeros.find? fun z => z ≤ c.toNat && c.toNat < z + 10).map fun z => c.toNat - z

def isPlainDigit (c : Char) : Bool := '0' ≤ c && c ≤ '9'

def isNameChar (c : Char) : Bool :=
  isAlphanumeric c || c = '_' || c = '-' || 0x1F2FF < c.toNat

def isNumeralChar (c : Char) : Bool := isDigitLike c || c = '.'

def isTimeChar (c : Char) : Bool := isDigitLike c || c = '+' || c = '-'

theorem isNameChar_of_isAlphanumeric {c : Char} (h : isAlphanumeric c) : isNameChar c := by
  simp_all [isNameChar]

example : isBlank ' ' ∧ isAlphanumeric 'A' ∧ isDigitLike '7' ∧ ¬ isPrintable '\n' := by decide

example : decimalValue? '٣' = some 3 := by decide

end NarseseDialects.Text
