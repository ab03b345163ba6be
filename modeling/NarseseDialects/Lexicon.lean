import NarseseDialects.Text.Cut
import NarseseDialects.Text.Quoted

namespace NarseseDialects

structure Lexicon where
  entries : List Text
  longestFirst : entries.Pairwise fun a b => b.length ≤ a.length
  distinct : entries.Nodup

namespace Lexicon

def place (e : Text) : List Text → List Text
  | [] => [e]
  | x :: xs => if x.length < e.length then e :: x :: xs else x :: place e xs

/-- The literals longest first; those of one length keep the order in which they were given. -/
def arrange (given : List Text) : List Text := given.foldl (fun xs e => place e xs) []

theorem place_perm (e : Text) (xs : List Text) : (place e xs).Perm (e :: xs) := by
  induction xs with
  | nil => exact .refl _
  | cons x xs ih =>
    unfold place
    split
    · exact .refl _
    · exact (ih.cons x).trans (.swap e x xs)

theorem place_longestFirst {e : Text} {xs : List Text}
    (h : xs.Pairwise fun a b => b.length ≤ a.length) :
    (place e xs).Pairwise fun a b => b.length ≤ a.length := by
  induction xs with
  | nil => simp [place]
  | cons x xs ih =>
    rw [List.pairwise_cons] at h
    unfold place
    split
    · next hlt =>
      refine List.pairwise_cons.2 ⟨?_, List.pairwise_cons.2 h⟩
      intro y hy
      rcases List.mem_cons.1 hy with rfl | hy
      · omega
      · have := h.1 y hy; omega
    · next hlt =>
      refine List.pairwise_cons.2 ⟨?_, ih h.2⟩
      intro y hy
      rcases List.mem_cons.1 ((place_perm e xs).mem_iff.1 hy) with rfl | hy
      · omega
      · exact h.1 y hy

theorem foldl_place_perm (given xs : List Text) :
    (given.foldl (fun xs e => place e xs) xs).Perm (given ++ xs) := by
  induction given generalizing xs with
  | nil => exact .refl _
  | cons e given ih =>
    exact (ih _).trans (((place_perm e xs).append_left given).trans List.perm_middle)

theorem arrange_perm (given : List Text) : (arrange given).Perm given := by
  simpa [arrange] using foldl_place_perm given []

theorem arrange_longestFirst (given : List Text) :
    (arrange given).Pairwise fun a b => b.length ≤ a.length := by
  suffices ∀ xs : List Text, xs.Pairwise (fun a b => b.length ≤ a.length) →
      (given.foldl (fun xs e => place e xs) xs).Pairwise fun a b => b.length ≤ a.length from
    this [] .nil
  induction given with
  | nil => exact fun _ h => h
  | cons e given ih => exact fun xs h => ih _ (place_longestFirst h)

def ofDistinct (given : List Text) (h : given.Nodup) : Lexicon where
  entries := arrange given
  longestFirst := arrange_longestFirst given
  distinct := (arrange_perm given).nodup_iff.2 h

@[simp] theorem mem_ofDistinct {given : List Text} {h : given.Nodup} {e : Text} :
    e ∈ (ofDistinct given h).entries ↔ e ∈ given := (arrange_perm given).mem_iff

def repeated? : List Text → List Text → Option Text
  | _, [] => none
  | seen, e :: es => if e ∈ seen then some e else repeated? (e :: seen) es

theorem repeated?_eq_none {seen es : List Text} :
    repeated? seen es = none ↔ es.Nodup ∧ ∀ e ∈ es, e ∉ seen := by
  induction es generalizing seen with
  | nil => simp [repeated?]
  | cons e es ih =>
    by_cases h : e ∈ seen
    · simp [repeated?, h]
    · simp only [repeated?, h, if_false, ih, List.nodup_cons, List.mem_cons, forall_eq_or_imp,
        not_or, not_false_eq_true, true_and]
      constructor
      · rintro ⟨h₁, h₂⟩
        exact ⟨⟨fun he => (h₂ e he).1 rfl, h₁⟩, fun x hx => (h₂ x hx).2⟩
      · rintro ⟨⟨h₁, h₂⟩, h₃⟩
        exact ⟨h₂, fun x hx => ⟨fun e' => h₁ (e' ▸ hx), h₃ x hx⟩⟩

/-- The set of the given literals, or the first one that is given again. -/
def ofList? (given : List Text) : Except Text Lexicon :=
  match h : repeated? [] given with
  | some e => .error e
  | none => .ok (ofDistinct given (repeated?_eq_none.1 h).1)

theorem nodup_eraseDups_aux : ∀ (n : Nat) (es : List Text), es.length ≤ n → es.eraseDups.Nodup
  | _, [], _ => by simp
  | 0, _ :: _, h => by simp at h
  | n + 1, e :: es, h => by
    rw [List.eraseDups_cons, List.nodup_cons]
    refine ⟨by simp [List.mem_eraseDups], nodup_eraseDups_aux n _ ?_⟩
    exact Nat.le_trans (List.length_filter_le _ es) (Nat.le_of_succ_le_succ h)

def ofRepeating (given : List Text) : Lexicon :=
  ofDistinct given.eraseDups (nodup_eraseDups_aux _ given (Nat.le_refl _))

@[simp] theorem mem_ofRepeating {given : List Text} {e : Text} :
    e ∈ (ofRepeating given).entries ↔ e ∈ given := by
  simp [ofRepeating, List.mem_eraseDups]

def front? (l : Lexicon) (cs : Text) : Option (Text × Text) :=
  l.entries.findSome? fun e => (Text.after? e cs).map (e, ·)

def back? (l : Lexicon) (cs : Text) : Option (Text × Text) :=
  l.entries.findSome? fun e => (Text.before? e cs).map (·, e)

def startsWithAny (l : Lexicon) (cs : Text) : Bool := (l.front? cs).isSome

theorem mem_of_front? {l : Lexicon} {cs e r : Text} (h : l.front? cs = some (e, r)) :
    e ∈ l.entries ∧ cs = e ++ r := by
  obtain ⟨a, ha, h'⟩ := List.exists_of_findSome?_eq_some h
  obtain ⟨b, hb, hp⟩ := Option.map_eq_some_iff.1 h'
  cases hp
  exact ⟨ha, Text.after?_eq_some_iff.1 hb⟩

theorem length_le_of_front? {l : Lexicon} {cs e r : Text} (h : l.front? cs = some (e, r)) :
    r.length ≤ cs.length := by
  rw [(mem_of_front? h).2, List.length_append]
  omega

theorem mem_of_back? {l : Lexicon} {cs e r : Text} (h : l.back? cs = some (r, e)) :
    e ∈ l.entries ∧ cs = r ++ e := by
  obtain ⟨a, ha, h'⟩ := List.exists_of_findSome?_eq_some h
  obtain ⟨b, hb, hp⟩ := Option.map_eq_some_iff.1 h'
  cases hp
  exact ⟨ha, Text.before?_eq_some_iff.1 hb⟩

def display (l : Lexicon) : Text :=
  "MatchDictionary(" ++ Text.parenthesised (l.entries.map Text.quoted) ++ ")"

end Lexicon

/-- Pairs of brackets with distinct left ones. A right bracket may close several left ones. -/
structure BracketFamily where
  pairs : List (Text × Text)
  lefts : Lexicon
  rights : Lexicon
  distinct : (pairs.map Prod.fst).Nodup
  mem_lefts : ∀ l, l ∈ lefts.entries ↔ l ∈ pairs.map Prod.fst
  mem_rights : ∀ r, r ∈ rights.entries ↔ r ∈ pairs.map Prod.snd

namespace BracketFamily

def ofDistinct (pairs : List (Text × Text)) (h : (pairs.map Prod.fst).Nodup) : BracketFamily where
  pairs := pairs
  lefts := .ofDistinct _ h
  rights := .ofRepeating (pairs.map Prod.snd)
  distinct := h
  mem_lefts _ := Lexicon.mem_ofDistinct
  mem_rights _ := Lexicon.mem_ofRepeating

def ofList? (pairs : List (Text × Text)) : Except Text BracketFamily :=
  match h : Lexicon.repeated? [] (pairs.map Prod.fst) with
  | some e => .error e
  | none => .ok (ofDistinct pairs (Lexicon.repeated?_eq_none.1 h).1)

def rightOf? (f : BracketFamily) (left : Text) : Option Text :=
  (f.pairs.find? (·.1 = left)).map Prod.snd

def leftOf? (f : BracketFamily) (right : Text) : Option Text :=
  (f.pairs.find? (·.2 = right)).map Prod.fst

def left? (f : BracketFamily) (cs : Text) : Option (Text × Text × Text) := do
  let (l, rest) ← f.lefts.front? cs
  let r ← f.rightOf? l
  return (l, r, rest)

def right? (f : BracketFamily) (cs : Text) : Option (Text × Text × Text) := do
  let (r, rest) ← f.rights.front? cs
  let l ← f.leftOf? r
  return (r, l, rest)

theorem eq_append_of_left? {f : BracketFamily} {cs l r rest : Text}
    (h : f.left? cs = some (l, r, rest)) : cs = l ++ rest := by
  simp only [left?, Option.bind_eq_bind, Option.bind_eq_some_iff, Option.pure_def,
    Option.some.injEq] at h
  obtain ⟨⟨a, b⟩, h₁, c, h₂, h₃⟩ := h
  cases h₃
  exact (Lexicon.mem_of_front? h₁).2

def display (f : BracketFamily) : Text :=
  "PairedDictionary(" ++
    Text.parenthesised (f.pairs.map fun p =>
      Text.parenthesised [Text.quoted p.1, Text.quoted p.2]) ++ ")"

end BracketFamily

end NarseseDialects
