import NarseseDialects.Lexicon

/-! Looking up the longest literal at either end of a window of a text. A negative position counts from the
end; the second position is never behind the end, and there is no window when the first lies behind it. -/

namespace NarseseDialects.Text

def position (t : Text) (i : Int) : Nat := (if i < 0 then i + t.length else i).toNat

def window? (t : Text) (start stop : Int) : Option Text :=
  let last := min t.length (position t stop)
  if position t start ≤ last then some ((t.take last).drop (position t start)) else none

@[simp] theorem position_natCast (t : Text) (n : Nat) : position t n = n := by
  simp [position, Int.not_lt.2 (Int.natCast_nonneg n)]

theorem window?_natCast (t : Text) {start stop : Nat} (h : start ≤ stop) (h' : stop ≤ t.length) :
    window? t start stop = some ((t.take stop).drop start) := by
  simp [window?, Nat.min_eq_right h', h]

example : window? "abc" 4 9 = none ∧ window? "abc" (-2) 9 = some ['b', 'c'] := by decide

end NarseseDialects.Text

namespace NarseseDialects

namespace Lexicon

def frontWithin? (l : Lexicon) (t : Text) (start stop : Int) : Option Text := do
  let w ← Text.window? t start stop
  return (← l.front? w).1

def backWithin? (l : Lexicon) (t : Text) (start stop : Int) : Option Text := do
  let w ← Text.window? t start stop
  return (← l.back? w).2

end Lexicon

namespace BracketFamily

def leftWithin? (f : BracketFamily) (t : Text) (start stop : Int) : Option (Text × Text) := do
  let l ← f.lefts.frontWithin? t start stop
  return (l, ← f.rightOf? l)

def rightWithin? (f : BracketFamily) (t : Text) (start stop : Int) : Option (Text × Text) := do
  let r ← f.rights.frontWithin? t start stop
  return (r, ← f.leftOf? r)

end BracketFamily

end NarseseDialects
