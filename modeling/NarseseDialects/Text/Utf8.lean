import NarseseDialects.Text.Basic

/-! Decoding UTF-8 in pieces. A character that the end of a piece cuts off goes on in the next piece,
and a piece with a fault is refused as a whole. -/

namespace NarseseDialects.Utf8

abbrev ByteRange := Nat × Nat

def tailRange : ByteRange := (0x80, 0xBF)

structure Progress where
  value : Nat
  expected : List ByteRange
  deriving DecidableEq

namespace Progress

def idle : Progress := ⟨0, []⟩

/-- Behind the first byte of a character. The byte after it is bounded where the character would have a
shorter form or lie behind the last one; a surrogate is told by its value. -/
def lead? (b : Nat) : Option Progress :=
  if b < 0x80 then some ⟨b, []⟩
  else if b < 0xC2 then none
  else if b < 0xE0 then some ⟨b % 0x20, [tailRange]⟩
  else if b < 0xF0 then
    some ⟨b % 0x10, [(if b = 0xE0 then 0xA0 else 0x80, 0xBF), tailRange]⟩
  else if b < 0xF5 then
    some ⟨b % 0x08, [(if b = 0xF0 then 0x90 else 0x80, if b = 0xF4 then 0x8F else 0xBF), tailRange,
      tailRange]⟩
  else none

def step? (p : Progress) (b : Nat) : Option Progress :=
  match p.expected with
  | [] => lead? b
  | (low, high) :: rest =>
    if low ≤ b ∧ b ≤ high then some ⟨p.value * 0x40 + b % 0x40, rest⟩ else none

end Progress

def decode? : Progress → List UInt8 → Option (Text × Progress)
  | p, [] => some ([], p)
  | p, b :: bs =>
    match p.step? b.toNat with
    | none => none
    | some ⟨v, []⟩ =>
      if v.isValidChar then
        (decode? .idle bs).map fun (t, q) => (Char.ofNat v :: t, q)
      else none
    | some q => decode? q bs

theorem decode?_append (p : Progress) (as bs : List UInt8) :
    decode? p (as ++ bs) =
      (decode? p as).bind fun (t, q) => (decode? q bs).map fun (u, r) => (t ++ u, r) := by
  induction as generalizing p with
  | nil => simp [decode?]
  | cons a as ih =>
    simp only [List.cons_append, decode?]
    split
    · rfl
    · split
      · cases h : decode? .idle as <;> simp [ih, h, Option.map_map, Function.comp_def]
      · rfl
    · exact ih _

/-- The text of the pieces before the first one with a fault, and whether it is the whole text. -/
def decodePieces : Progress → List (List UInt8) → Text × Bool
  | p, [] => ([], p.expected.isEmpty)
  | p, piece :: pieces =>
    match decode? p piece with
    | none => ([], false)
    | some (t, q) => (t ++ (decodePieces q pieces).1, (decodePieces q pieces).2)

theorem decodePieces_eq_true_iff (p : Progress) (pieces : List (List UInt8)) (t : Text) :
    decodePieces p pieces = (t, true) ↔
      ∃ q, decode? p pieces.flatten = some (t, q) ∧ q.expected = [] := by
  induction pieces generalizing p t with
  | nil =>
    simp only [decodePieces, List.flatten_nil, decode?, Prod.mk.injEq, List.isEmpty_iff,
      Option.some.injEq]
    exact ⟨fun ⟨h, e⟩ => ⟨p, ⟨h, rfl⟩, e⟩, fun ⟨_, ⟨h, hq⟩, e⟩ => ⟨h, hq ▸ e⟩⟩
  | cons piece pieces ih =>
    simp only [decodePieces, List.flatten_cons, decode?_append]
    cases decode? p piece with
    | none => simp
    | some r =>
      obtain ⟨u, q⟩ := r
      dsimp only
      constructor
      · intro h
        obtain ⟨rfl, hw⟩ := Prod.mk.inj h
        obtain ⟨r, hr, he⟩ := (ih q (decodePieces q pieces).1).1 (Prod.ext rfl hw)
        exact ⟨r, by simp [hr], he⟩
      · rintro ⟨r, hr, he⟩
        obtain ⟨⟨v, r'⟩, hv, h⟩ := Option.map_eq_some_iff.1 hr
        obtain ⟨rfl, rfl⟩ := Prod.mk.inj h
        simp [(ih q v).2 ⟨r', hv, he⟩]

def cut (size : Nat) : List UInt8 → List (List UInt8)
  | [] => []
  | b :: bs => (b :: bs.take (size - 1)) :: cut size (bs.drop (size - 1))
termination_by bs => bs.length
decreasing_by simp only [List.length_drop, List.length_cons]; omega

theorem flatten_cut (size : Nat) (bs : List UInt8) : (cut size bs).flatten = bs := by
  fun_induction cut size bs with
  | case1 => rfl
  | case2 b bs ih => simp [ih]

example : decode? .idle [0xC3, 0xA9, 0xE2, 0x82] = some (['é'], ⟨0x82, [tailRange]⟩) := by decide

example : decode? .idle [0x41, 0xFF] = none ∧ decode? .idle [0xED, 0xA0, 0x80] = none := by decide

end NarseseDialects.Utf8
