import NarseseDialects.Text.Basic

namespace NarseseDialects.Text

def breakLine (ending : Text) (lines : List Text) : List Text := ending :: lines

def extendLine (c : Char) : List Text → List Text
  | [] => [[c]]
  | l :: ls => (c :: l) :: ls

def lines : Text → List Text
  | [] => [[]]
  | '\r' :: '\n' :: cs => breakLine ['\r', '\n'] (lines cs)
  | '\r' :: cs => breakLine ['\r'] (lines cs)
  | '\n' :: cs => breakLine ['\n'] (lines cs)
  | c :: cs => extendLine c (lines cs)

theorem lines_ne_nil (t : Text) : lines t ≠ [] := by
  fun_cases lines t <;> simp [breakLine]
  unfold extendLine
  split <;> simp

theorem flatten_lines (t : Text) : (lines t).flatten = t := by
  fun_induction lines t with
  | case1 => rfl
  | case2 cs ih => simp [breakLine, ih]
  | case3 cs _ ih => simp [breakLine, ih]
  | case4 cs ih => simp [breakLine, ih]
  | case5 c cs _ _ _ ih =>
    cases h : lines cs with
    | nil => exact absurd h (lines_ne_nil cs)
    | cons l ls => rw [h] at ih; simp [extendLine, ← ih]

def chomp (l : Text) : Text := (l.reverse.dropWhile fun c => c = '\r' || c = '\n').reverse

end NarseseDialects.Text
