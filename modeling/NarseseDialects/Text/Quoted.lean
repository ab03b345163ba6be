import NarseseDialects.Text.Classes
import NarseseDialects.Text.Basic

namespace NarseseDialects.Text

def hexDigits : Nat → Nat → Text
  | 0, _ => []
  | width + 1, n => hexDigits width (n / 16) ++ [Nat.digitChar (n % 16)]

def escapeCode (n : Nat) : Text :=
  if n < 0x100 then "\\x" ++ hexDigits 2 n
  else if n < 0x10000 then "\\u" ++ hexDigits 4 n
  else "\\U" ++ hexDigits 8 n

def escapeChar (quote c : Char) : Text :=
  if c = quote || c = '\\' then ['\\', c]
  else if c = '\n' then "\\n"
  else if c = '\r' then "\\r"
  else if c = '\t' then "\\t"
  else if isPrintable c then [c]
  else escapeCode c.toNat

def quoteFor (t : Text) : Char := if '\x27' ∈ t ∧ '"' ∉ t then '"' else '\x27'

def quoted (t : Text) : Text := quoteFor t :: t.flatMap (escapeChar (quoteFor t)) ++ [quoteFor t]

def bracketed (items : List Text) : Text := "[" ++ join ", " items ++ "]"

/-- Items in round brackets; a comma follows an item that stands alone. -/
def parenthesised : List Text → Text
  | [x] => "(" ++ x ++ ",)"
  | items => "(" ++ join ", " items ++ ")"

example : quoted "it's" = "\"it's\"" := by decide

example : quoted "a\n\\" = ['\x27', 'a', '\\', 'n', '\\', '\\', '\x27'] := by decide

end NarseseDialects.Text
