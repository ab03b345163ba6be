namespace NarseseDialects

abbrev Text := List Char

instance : Coe String Text := ⟨String.toList⟩

namespace Text

def join (sep : Text) : List Text → Text
  | [] => []
  | [x] => x
  | x :: y :: xs => x ++ sep ++ join sep (y :: xs)

@[simp] theorem join_nil (sep : Text) : join sep [] = [] := rfl

@[simp] theorem join_singleton (sep x : Text) : join sep [x] = x := rfl

theorem join_cons_cons (sep x y : Text) (xs : List Text) :
    join sep (x :: y :: xs) = x ++ sep ++ join sep (y :: xs) := rfl

def ofNat (n : Nat) : Text := Nat.toDigits 10 n

def ofInt : Int → Text
  | .ofNat n => ofNat n
  | .negSucc n => '-' :: ofNat (n + 1)

def padLeft (width : Nat) (t : Text) : Text := List.replicate (width - t.length) ' ' ++ t

def counted (n : Nat) (one many : Text) : Text := ofNat n ++ " " ++ if n = 1 then one else many

end Text

end NarseseDialects
