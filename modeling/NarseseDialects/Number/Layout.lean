import NarseseDialects.Number.Shortest
import NarseseDialects.Text.Cut

namespace NarseseDialects.Double

/-- The powers of ten at which digits are written in their places, without a power behind them. -/
def positional (power : Int) : Bool := -4 ≤ power && power < 16

def placed (digits : Text) : Int → Text
  | .ofNat 0 => "0." ++ digits
  | .ofNat k =>
    if k < digits.length then digits.take k ++ "." ++ digits.drop k
    else digits ++ List.replicate (k - digits.length) '0'
  | .negSucc k => "0." ++ List.replicate (k + 1) '0' ++ digits

def powerText (power : Int) : Text :=
  let t := Text.ofNat power.natAbs
  (if power < 0 then "-" else "+") ++ List.replicate (2 - t.length) '0' ++ t

def scientific : Text → Int → Text
  | [], power => "0e" ++ powerText power
  | [d], power => d :: "e" ++ powerText power
  | d :: ds, power => d :: "." ++ ds ++ "e" ++ powerText power

def signText (negative : Bool) : Text := if negative then "-" else ""

def digitsOf (x : Magnitude) : Text × Int :=
  if x.mantissa = 0 then ("0", 1) else (x.shortest.text, x.shortest.point)

/-- A number in full. A whole number that is written in its places has a zero behind the point. -/
def display : Double → Text
  | finite s x =>
    let (digits, point) := digitsOf x
    signText s ++
      if positional (point - 1) then
        placed digits point ++ if digits.length ≤ point then ".0" else ""
      else scientific digits (point - 1)
  | infinite s => signText s ++ "inf"
  | nan => "nan"

/-- A number with every digit in its place. -/
def numeral : Double → Text
  | finite s x =>
    let (digits, point) := digitsOf x
    if positional (point - 1) then display (finite s x)
    else signText s ++ placed digits point
  | x => display x

def typeset (x : Double) : Text := (Text.before? ".0" x.display).getD x.display

end NarseseDialects.Double
