import NarseseDialects.Text.Basic

namespace NarseseDialects.Text

def after? : Text → Text → Option Text
  | [], cs => some cs
  | _ :: _, [] => none
  | p :: ps, c :: cs => if p = c then after? ps cs else none

@[simp] theorem after?_nil (cs : Text) : after? [] cs = some cs := by cases cs <;> rfl

theorem after?_eq_some_iff {p cs r : Text} : after? p cs = some r ↔ cs = p ++ r := by
  induction p generalizing cs with
  | nil => simp [eq_comm]
  | cons a p ih =>
    cases cs with
    | nil => simp [after?]
    | cons c cs =>
      by_cases h : a = c
      · simp [after?, h, ih]
      · simp [after?, h, Ne.symm h]

@[simp] theorem after?_append (p r : Text) : after? p (p ++ r) = some r := after?_eq_some_iff.2 rfl

theorem length_of_after? {p cs r : Text} (h : after? p cs = some r) :
    cs.length = p.length + r.length := by
  rw [after?_eq_some_iff.1 h, List.length_append]

def before? (p cs : Text) : Option Text := (after? p.reverse cs.reverse).map List.reverse

theorem before?_eq_some_iff {p cs r : Text} : before? p cs = some r ↔ cs = r ++ p := by
  simp only [before?, Option.map_eq_some_iff, after?_eq_some_iff]
  constructor
  · rintro ⟨a, h, rfl⟩
    have := congrArg List.reverse h
    simpa using this
  · rintro rfl
    exact ⟨r.reverse, by simp, by simp⟩

def firstCut? (p : Text) : Text → Option (Text × Text)
  | [] => (after? p []).map fun r => ([], r)
  | c :: cs =>
    match after? p (c :: cs) with
    | some r => some ([], r)
    | none => (firstCut? p cs).map fun (a, b) => (c :: a, b)

theorem eq_append_of_firstCut? {p cs a b : Text} (h : firstCut? p cs = some (a, b)) :
    cs = a ++ p ++ b := by
  induction cs generalizing a with
  | nil =>
    simp only [firstCut?, Option.map_eq_some_iff, after?_eq_some_iff] at h
    obtain ⟨r, hr, e⟩ := h
    cases e
    simpa using hr
  | cons c cs ih =>
    simp only [firstCut?] at h
    split at h
    · next r hr =>
      cases h
      simpa using after?_eq_some_iff.1 hr
    · obtain ⟨⟨a', b'⟩, h', e⟩ := Option.map_eq_some_iff.1 h
      cases e
      simp [ih h']

def lastCut? (p : Text) : Text → Option (Text × Text)
  | [] => (after? p []).map fun r => ([], r)
  | c :: cs =>
    match lastCut? p cs with
    | some (a, b) => some (c :: a, b)
    | none => (after? p (c :: cs)).map fun r => ([], r)

theorem eq_append_of_lastCut? {p cs a b : Text} (h : lastCut? p cs = some (a, b)) :
    cs = a ++ p ++ b := by
  induction cs generalizing a with
  | nil =>
    simp only [lastCut?, Option.map_eq_some_iff, after?_eq_some_iff] at h
    obtain ⟨r, hr, e⟩ := h
    cases e
    simpa using hr
  | cons c cs ih =>
    simp only [lastCut?] at h
    split at h
    · next a' b' h' =>
      cases h
      simp [ih h']
    · obtain ⟨r, hr, e⟩ := Option.map_eq_some_iff.1 h
      cases e
      simpa using after?_eq_some_iff.1 hr

/-- The pieces between the occurrences of the separator, read from the left. An empty separator
leaves the text whole. -/
def split (sep cs : Text) : List Text :=
  match firstCut? sep cs with
  | none => [cs]
  | some (a, b) => if b.length < cs.length then a :: split sep b else [cs]
termination_by cs.length

theorem split_ne_nil (sep cs : Text) : split sep cs ≠ [] := by
  fun_cases split sep cs <;> simp

theorem join_split (sep cs : Text) : join sep (split sep cs) = cs := by
  fun_induction split sep cs with
  | case1 => rfl
  | case2 cs a b h hlt ih =>
    obtain ⟨x, xs, hx⟩ := List.exists_cons_of_ne_nil (split_ne_nil sep b)
    rw [hx] at ih ⊢
    rw [join_cons_cons, ih, eq_append_of_firstCut? h]
  | case3 => rfl

abbrev spanFront (q : Char → Bool) (cs : Text) : Text × Text := (cs.takeWhile q, cs.dropWhile q)

def dropBack (q : Char → Bool) (cs : Text) : Text := (cs.reverse.dropWhile q).reverse

def takeBack (q : Char → Bool) (cs : Text) : Text := (cs.reverse.takeWhile q).reverse

theorem dropBack_append_takeBack (q : Char → Bool) (cs : Text) :
    dropBack q cs ++ takeBack q cs = cs := by
  rw [dropBack, takeBack, ← List.reverse_append, List.takeWhile_append_dropWhile, List.reverse_reverse]

def trim (q : Char → Bool) (cs : Text) : Text := dropBack q (cs.dropWhile q)

end NarseseDialects.Text
