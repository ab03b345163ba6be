import Mathlib.Tactic.Lemma
import NarseseDialects.Text.Cut

namespace NarseseDialects.Text

def apart : Text → Text → Bool
  | a :: as, b :: bs => if a = b then apart as bs else true
  | _, _ => false

def apartBack (a b : Text) : Bool := apart a.reverse b.reverse

lemma after?_of_apart {a b : Text} (h : apart a b) (x : Text) : after? b (a ++ x) = none := by
  induction a generalizing b with
  | nil => simp [apart] at h
  | cons c a ih =>
    cases b with
    | nil => simp [apart] at h
    | cons e b =>
      by_cases hc : c = e
      · subst hc
        simp only [apart, if_true] at h
        simpa [after?] using ih h
      · simp [after?, Ne.symm hc]

lemma before?_of_apartBack {a b : Text} (h : apartBack a b) (x : Text) : before? b (x ++ a) = none := by
  simp [before?, after?_of_apart h]

lemma after?_self (p : Text) : after? p p = some [] := after?_eq_some_iff.2 (List.append_nil p).symm

lemma after?_cons_of_ne {c e : Char} (h : e ≠ c) (p cs : Text) : after? (e :: p) (c :: cs) = none := by
  simp [after?, h]

@[simp] lemma before?_append (r p : Text) : before? p (r ++ p) = some r := before?_eq_some_iff.2 rfl

lemma firstCut?_eq_none_of_notMem {p cs : Text} {z : Char} (hz : z ∈ p) (hcs : z ∉ cs) :
    firstCut? p cs = none := by
  cases h : firstCut? p cs with
  | none => rfl
  | some ab =>
    rw [eq_append_of_firstCut? (a := ab.1) (b := ab.2) h] at hcs
    simp [hz] at hcs

lemma firstCut?_append {z : Char} {p a : Text} (ha : z ∉ a) (b : Text) :
    firstCut? (z :: p) (a ++ (z :: p ++ b)) = some (a, b) := by
  induction a with
  | nil => simp [firstCut?, after?]
  | cons c a ih =>
    rw [List.mem_cons, not_or] at ha
    rw [List.cons_append, firstCut?, after?_cons_of_ne ha.1, ih ha.2]
    rfl

lemma lastCut?_eq_none_of_notMem {p cs : Text} {z : Char} (hz : z ∈ p) (hcs : z ∉ cs) :
    lastCut? p cs = none := by
  cases h : lastCut? p cs with
  | none => rfl
  | some ab =>
    rw [eq_append_of_lastCut? (a := ab.1) (b := ab.2) h] at hcs
    simp [hz] at hcs

lemma lastCut?_append {z : Char} {p b : Text} (hp : z ∉ p) (hb : z ∉ b) (a : Text) :
    lastCut? (z :: p) (a ++ (z :: p ++ b)) = some (a, b) := by
  induction a with
  | nil =>
    have hn : lastCut? (z :: p) (p ++ b) = none :=
      lastCut?_eq_none_of_notMem List.mem_cons_self (by simp [hp, hb])
    rw [List.nil_append, List.cons_append, lastCut?, hn]
    simp [after?]
  | cons c a ih => rw [List.cons_append, lastCut?, ih]

lemma split_of_notMem {z : Char} {p a : Text} (ha : z ∉ a) : split (z :: p) a = [a] := by
  rw [split, firstCut?_eq_none_of_notMem List.mem_cons_self ha]

lemma split_append {z : Char} {p a : Text} (ha : z ∉ a) (b : Text) :
    split (z :: p) (a ++ (z :: p ++ b)) = a :: split (z :: p) b := by
  rw [split, firstCut?_append ha]
  exact if_pos (by simp; omega)

lemma split_join {z : Char} {p : Text} {xs : List Text} (hne : xs ≠ []) (h : ∀ x ∈ xs, z ∉ x) :
    split (z :: p) (join (z :: p) xs) = xs := by
  induction xs with
  | nil => exact absurd rfl hne
  | cons x xs ih =>
    cases xs with
    | nil => exact split_of_notMem (h x List.mem_cons_self)
    | cons y ys =>
      rw [join_cons_cons, List.append_assoc, split_append (h x List.mem_cons_self),
        ih (by simp) fun u hu => h u (List.mem_cons_of_mem _ hu)]

lemma join_injective {z : Char} {p : Text} {xs ys : List Text} (hx : ∀ x ∈ xs, x ≠ [] ∧ z ∉ x)
    (hy : ∀ y ∈ ys, y ≠ [] ∧ z ∉ y) (h : join (z :: p) xs = join (z :: p) ys) : xs = ys := by
  have hnil : ∀ {zs : List Text}, (∀ x ∈ zs, x ≠ [] ∧ z ∉ x) → join (z :: p) zs = [] → zs = [] := by
    intro zs hz hj
    cases zs with
    | nil => rfl
    | cons x zs =>
      cases zs with
      | nil => exact absurd hj (hz x List.mem_cons_self).1
      | cons y zs =>
        rw [join_cons_cons] at hj
        simp at hj
  by_cases hxs : xs = []
  · subst hxs
    exact (hnil hy h.symm).symm
  by_cases hys : ys = []
  · subst hys
    exact absurd (hnil hx h) hxs
  rw [← split_join hxs fun x hm => (hx x hm).2, h, split_join hys fun y hm => (hy y hm).2]

lemma run_append_cancel {q : Char → Bool} {x y r s : Text} (hx : x.all q = true) (hy : y.all q = true)
    (hr : r.head?.all (!q ·) = true) (hs : s.head?.all (!q ·) = true) (h : x ++ r = y ++ s) : x = y ∧ r = s := by
  have hspan : ∀ {x r : Text}, x.all q = true → r.head?.all (!q ·) = true → spanFront q (x ++ r) = (x, r) := by
    intro x r hx hr
    rw [spanFront, List.takeWhile_append_of_pos (List.all_eq_true.1 hx),
      List.dropWhile_append_of_pos (List.all_eq_true.1 hx)]
    cases r with
    | nil => simp
    | cons c r =>
      have hc : ¬q c = true := by simpa using hr
      rw [List.takeWhile_cons_of_neg hc, List.dropWhile_cons_of_neg hc, List.append_nil]
  have hboth := hspan hx hr
  rw [h, hspan hy hs] at hboth
  exact Prod.mk.inj hboth.symm

lemma flatMap_injective {f : Char → Text} (hne : ∀ c, f c ≠ [])
    (hf : ∀ c d x y, f c ++ x = f d ++ y → c = d ∧ x = y) {t u : Text} (h : t.flatMap f = u.flatMap f) : t = u := by
  induction t generalizing u with
  | nil =>
    cases u with
    | nil => rfl
    | cons d u => exact absurd h.symm (by simp [hne])
  | cons c t ih =>
    cases u with
    | nil => exact absurd h (by simp [hne])
    | cons d u =>
      obtain ⟨rfl, htail⟩ := hf c d _ _ h
      rw [ih htail]

lemma after?_append_right {p cs : Text} (h : p.length ≤ cs.length) (x : Text) :
    after? p (cs ++ x) = (after? p cs).map (· ++ x) := by
  induction p generalizing cs with
  | nil => simp
  | cons a p ih =>
    cases cs with
    | nil => simp at h
    | cons c cs =>
      rw [List.cons_append, after?, after?]
      split
      · exact ih (by simpa using h)
      · rfl

lemma firstCut?_append_right {p cs a b : Text} (h : firstCut? p cs = some (a, b)) (x : Text) :
    firstCut? p (cs ++ x) = some (a, b ++ x) := by
  induction cs generalizing a with
  | nil =>
    obtain ⟨rfl, rfl, rfl⟩ : a = [] ∧ p = [] ∧ b = [] := by
      have := eq_append_of_firstCut? h
      simp_all
    cases x <;> simp [firstCut?]
  | cons c cs ih =>
    have hl := congrArg List.length (eq_append_of_firstCut? h)
    simp only [List.length_append] at hl
    have hp := @after?_append_right p (c :: cs) (by omega) x
    rw [firstCut?] at h
    rw [List.cons_append, firstCut?]
    rw [List.cons_append] at hp
    split at h
    next r hr =>
      cases h
      rw [hp, hr]
      rfl
    next hr =>
      obtain ⟨⟨a', b'⟩, h', e⟩ := Option.map_eq_some_iff.1 h
      cases e
      rw [hp, hr, ih h']
      rfl

lemma exists_firstCut? (a p b : Text) : ∃ x y, firstCut? p (a ++ (p ++ b)) = some (x, y) := by
  induction a with
  | nil =>
    refine ⟨[], b, ?_⟩
    cases h : p ++ b with
    | nil =>
      obtain ⟨rfl, rfl⟩ := List.append_eq_nil_iff.1 h
      rfl
    | cons c cs =>
      rw [List.nil_append, firstCut?, ← h, after?_append]
  | cons c a ih =>
    obtain ⟨x, y, h⟩ := ih
    rw [List.cons_append, firstCut?]
    split
    next r _ => exact ⟨[], r, rfl⟩
    next => exact ⟨c :: x, y, by rw [h]; rfl⟩

lemma mem_join {sep : Text} {xs : List Text} {c : Char} (h : c ∈ join sep xs) :
    c ∈ sep ∨ ∃ x ∈ xs, c ∈ x := by
  induction xs with
  | nil => simp at h
  | cons x xs ih =>
    cases xs with
    | nil => exact .inr ⟨x, List.mem_cons_self, h⟩
    | cons y ys =>
      rw [join_cons_cons, List.mem_append, List.mem_append] at h
      rcases h with (h | h) | h
      · exact .inr ⟨x, List.mem_cons_self, h⟩
      · exact .inl h
      · rcases ih h with h | ⟨u, hu, h⟩
        · exact .inl h
        · exact .inr ⟨u, List.mem_cons_of_mem _ hu, h⟩

section

variable {z : Char} {p : Text}

lemma before?_append_cons (hz : z ∉ p) (y r : Text) :
    before? p (y ++ z :: r) = (before? p r).map (y ++ z :: ·) := by
  apply Option.ext
  intro a
  rw [Option.map_eq_some_iff]
  simp only [before?_eq_some_iff]
  constructor
  · intro h
    rcases List.append_eq_append_iff.1 h with ⟨x, rfl, hx⟩ | ⟨x, -, hx⟩
    · cases x with
      | nil => exact absurd (hx ▸ List.mem_cons_self : z ∈ [] ++ p) hz
      | cons c x =>
        rw [List.cons_append, List.cons.injEq] at hx
        exact ⟨x, hx.2, by rw [hx.1]⟩
    · rw [hx] at hz
      exact absurd (List.mem_append_right x List.mem_cons_self) hz
  · rintro ⟨a, rfl, rfl⟩
    simp

lemma lastCut?_append_cons {c : Char} (hz : z ∉ p) (hc : c ∈ p) {y : Text} (hy : c ∉ y) (r : Text) :
    lastCut? p (y ++ z :: r) = (lastCut? p r).map fun ab => (y ++ z :: ab.1, ab.2) := by
  induction y with
  | nil =>
    obtain ⟨a, p, rfl⟩ := List.exists_cons_of_ne_nil (List.ne_nil_of_mem hc)
    have hn : after? (a :: p) (z :: r) = none := after?_cons_of_ne (fun h => hz (by simp [h])) p r
    rw [List.nil_append, lastCut?, hn]
    cases lastCut? (a :: p) r <;> rfl
  | cons b y ih =>
    have hn : after? p (b :: (y ++ z :: r)) = none := by
      rw [Option.eq_none_iff_forall_ne_some]
      intro x hx
      rcases List.append_eq_append_iff.1 (after?_eq_some_iff.1 hx : (b :: y) ++ z :: r = p ++ x)
        with ⟨e, rfl, he⟩ | ⟨e, he, -⟩
      · cases e with
        | nil => exact hy (by simpa using hc)
        | cons a e =>
          rw [List.cons_append, List.cons.injEq] at he
          simp [he.1] at hz
      · rw [he] at hy
        exact hy (List.mem_append_left _ hc)
    rw [List.cons_append, lastCut?, ih (List.not_mem_of_not_mem_cons hy), hn]
    cases lastCut? p r <;> rfl

variable {q : Char → Bool}

lemma spanFront_append_cons (hq : q z = false) (x y : Text) :
    spanFront q (x ++ z :: y) = (x.takeWhile q, x.dropWhile q ++ z :: y) := by
  induction x with
  | nil => simp [hq]
  | cons c x ih =>
    rw [Prod.mk.injEq] at ih ⊢
    cases hc : q c with
    | true => simpa [hc] using ih
    | false => simp [hc]

lemma takeBack_append_cons (hq : q z = false) (y r : Text) : takeBack q (y ++ z :: r) = takeBack q r := by
  have h := congrArg Prod.fst (spanFront_append_cons hq r.reverse y.reverse)
  simpa [takeBack] using h

lemma dropBack_append_cons (hq : q z = false) (y r : Text) : dropBack q (y ++ z :: r) = y ++ z :: dropBack q r := by
  have h := congrArg Prod.snd (spanFront_append_cons hq r.reverse y.reverse)
  simpa [dropBack] using h

end

end NarseseDialects.Text
