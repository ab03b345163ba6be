import NarseseDialects.Proofs.Typeset.Words

namespace NarseseDialects.Typeset

open Text

variable {t u : Term} {n m : Text}

def escape (c : Char) : Text := if c = '"' || c = '\\' then ['\\', c] else [c]

lemma escape_cancel {c d : Char} {x y : Text} (h : escape c ++ x = escape d ++ y) : c = d ∧ x = y := by
  simp only [escape, Bool.or_eq_true, decide_eq_true_eq] at h
  split at h
  next hc =>
    split at h
    · simpa using h
    next hd => exact absurd (.inr (by simpa using h.symm : d = '\\' ∧ y = c :: x).1) hd
  next hc =>
    split at h
    next hd => exact absurd (.inr (by simpa using h : c = '\\' ∧ x = d :: y).1) hc
    · simpa using h

lemma escape_ne_nil (c : Char) : escape c ≠ [] := by
  rw [escape]
  split <;> simp

lemma quote_injective (h : quote n = quote m) : n = m :=
  flatMap_injective escape_ne_nil (fun _ _ _ _ => escape_cancel) (List.append_cancel_left (List.append_cancel_right h))

lemma row_singleton (x y : Text) (a : List Text) : row x y [a] = a ++ [y] := by
  rw [row]
  simp

lemma row_cons_cons (x y : Text) (a b : List Text) (ws : List (List Text)) :
    row x y (a :: b :: ws) = a ++ x :: row x y (b :: ws) := by
  rw [row, List.intercalate_cons_cons, row]
  simp

lemma row_cancel {w : Term → List Text} {x y z : Text} {ps qs : List Term} {r s : List Text}
    (hw : ∀ p ∈ ps, ∀ q ∈ qs, ∀ r s, w p ++ r = w q ++ s → p = q ∧ r = s) (hps : ps ≠ []) (hqs : qs ≠ [])
    (hx : x ≠ z) (hy : y ≠ z) (h : row x z (ps.map w) ++ r = row y z (qs.map w) ++ s) :
    ps = qs ∧ (2 ≤ ps.length → x = y) ∧ r = s := by
  induction ps generalizing qs with
  | nil => exact absurd rfl hps
  | cons p ps ih =>
    cases qs with
    | nil => exact absurd rfl hqs
    | cons q qs =>
    have hpq := fun r s => hw p List.mem_cons_self q List.mem_cons_self r s
    cases ps with
    | nil =>
      cases qs with
      | nil =>
        simp only [List.map_cons, List.map_nil, row_singleton, List.append_assoc, List.singleton_append] at h
        obtain ⟨rfl, hrest⟩ := hpq _ _ h
        exact ⟨rfl, fun hl => absurd hl (by simp), (List.cons.inj hrest).2⟩
      | cons q' qs =>
        -- one row ends here, and in the other a separator stands where the closing word would be
        simp only [List.map_cons, List.map_nil, row_singleton, row_cons_cons, List.append_assoc,
          List.cons_append] at h
        exact absurd (List.cons.inj (hpq _ _ h).2).1.symm hy
    | cons p' ps =>
      cases qs with
      | nil =>
        simp only [List.map_cons, List.map_nil, row_singleton, row_cons_cons, List.append_assoc,
          List.cons_append] at h
        exact absurd (List.cons.inj (hpq _ _ h).2).1 hx
      | cons q' qs =>
        simp only [List.map_cons, row_cons_cons, List.append_assoc, List.cons_append] at h
        obtain ⟨rfl, hrest⟩ := hpq _ _ h
        obtain ⟨rfl, hrest⟩ := List.cons.inj hrest
        obtain ⟨htail, -, hr⟩ := ih (fun a ha b hb => hw a (List.mem_cons_of_mem _ ha) b (List.mem_cons_of_mem _ hb))
          (by simp) (by simp) hrest
        exact ⟨by rw [htail], fun _ => rfl, hr⟩

def Form.first? : Form → Option Text
  | atom r => (Text.words (sigil r)).head?
  | set s => some (bare (setLeft s))
  | compound _ => some "lr(("
  | statement _ => some "lr(angle.l"

lemma Form.exists_words_eq_cons (f : Form) (n : Text) (ws : List (List Text)) :
    ∃ ls, f.words n ws = f.first?.getD (quote n) :: ls := by
  cases f with
  | atom r =>
    cases hr : Text.words (sigil r) with
    | nil =>
      have hne : r ≠ .placeholder := by
        rintro rfl
        revert hr
        decide
      exact ⟨[], by simp [words, first?, hr, hne]⟩
    | cons l ls => exact ⟨_, by simp [words, first?, hr]; rfl⟩
  | set s => exact ⟨_, rfl⟩
  | compound c => exact ⟨_, rfl⟩
  | statement c => exact ⟨_, rfl⟩

lemma Form.head?_ne_quote {f : Form} {l : Text} (h : f.first? = some l) : l.head? ≠ some '"' := by
  cases f with
  | atom r =>
    have hall : ∀ r, ∀ l ∈ (Text.words (sigil r)).head?, l.head? ≠ some '"' := by decide
    exact hall r l h
  | set s =>
    have hall : ∀ s, (bare (setLeft s)).head? ≠ some '"' := by decide
    obtain rfl := Option.some.inj h
    exact hall s
  | compound c | statement c =>
    obtain rfl := Option.some.inj h
    decide

lemma Form.first?_eq_of_getD {f g : Form} (h : f.first?.getD (quote n) = g.first?.getD (quote m)) :
    f.first? = g.first? := by
  cases hf : f.first? with
  | none =>
    cases hg : g.first? with
    | none => rfl
    | some k =>
      rw [hf, hg] at h
      obtain rfl : quote n = k := h
      exact absurd rfl (head?_ne_quote hg)
  | some l =>
    cases hg : g.first? with
    | none =>
      rw [hf, hg] at h
      obtain rfl : l = quote m := h
      exact absurd rfl (head?_ne_quote hf)
    | some k =>
      rw [hf, hg] at h
      exact congrArg some h

lemma Form.cases_of_first?_eq {f g : Form} (h : f.first? = g.first?) :
    (∃ r, f = atom r ∧ g = atom r) ∨ (∃ s, f = set s ∧ g = set s) ∨
      (∃ c d, f = compound c ∧ g = compound d) ∨ ∃ c d, f = statement c ∧ g = statement d := by
  have hatom : ∀ r r', (Text.words (sigil r)).head? = (Text.words (sigil r')).head? → r = r' := by decide
  have hset : ∀ s s', bare (setLeft s) = bare (setLeft s') → s = s' := by decide
  have hatomset : ∀ r s, (Text.words (sigil r)).head? ≠ some (bare (setLeft s)) := by decide
  have hatomleft : ∀ r, ∀ l ∈ ["lr((".toList, "lr(angle.l".toList], (Text.words (sigil r)).head? ≠ some l := by decide
  have hsetleft : ∀ s, ∀ l ∈ ["lr((".toList, "lr(angle.l".toList], some (bare (setLeft s)) ≠ some l := by decide
  have hleft : "lr((".toList ≠ "lr(angle.l".toList := by decide
  cases f with
  | atom r =>
    cases g with
    | atom r' => exact .inl ⟨r, rfl, congrArg atom (hatom r r' h).symm⟩
    | set s => exact absurd h (hatomset r s)
    | compound c => exact absurd h (hatomleft r _ (by simp))
    | statement c => exact absurd h (hatomleft r _ (by simp))
  | set s =>
    cases g with
    | atom r => exact absurd h.symm (hatomset r s)
    | set s' => exact .inr (.inl ⟨s, rfl, congrArg set (hset s s' (Option.some.inj h)).symm⟩)
    | compound c => exact absurd h (hsetleft s _ (by simp))
    | statement c => exact absurd h (hsetleft s _ (by simp))
  | compound c =>
    cases g with
    | atom r => exact absurd h.symm (hatomleft r _ (by simp))
    | set s => exact absurd h.symm (hsetleft s _ (by simp))
    | compound d => exact .inr (.inr (.inl ⟨c, d, rfl, rfl⟩))
    | statement d => exact absurd (Option.some.inj h) hleft
  | statement c =>
    cases g with
    | atom r => exact absurd h.symm (hatomleft r _ (by simp))
    | set s => exact absurd h.symm (hsetleft s _ (by simp))
    | compound d => exact absurd (Option.some.inj h).symm hleft
    | statement d => exact .inr (.inr (.inr ⟨c, d, rfl, rfl⟩))

def inner : List Text := "lr(\\$" :: (Role.members : List Connector).map fun c => bare (connector c)

lemma Form.first?_getD_notMem_inner (f : Form) (n : Text) : f.first?.getD (quote n) ∉ inner := by
  have hquote : ∀ e ∈ inner, e.head? ≠ some '"' := by decide
  cases hf : f.first? with
  | none => exact fun h => hquote _ h rfl
  | some l =>
    cases f with
    | atom r =>
      have hatom : ∀ r, ∀ l ∈ (Text.words (sigil r)).head?, l ∉ inner := by decide
      exact hatom r l hf
    | set s =>
      have hset : ∀ s, bare (setLeft s) ∉ inner := by decide
      obtain rfl := Option.some.inj hf
      exact hset s
    | compound c =>
      have hleft : "lr((".toList ∉ inner := by decide
      obtain rfl := Option.some.inj hf
      exact hleft
    | statement c =>
      have hleft : "lr(angle.l".toList ∉ inner := by decide
      obtain rfl := Option.some.inj hf
      exact hleft

def Form.Fits (name : Text) (ps : List Term) : Form → Prop
  | atom r => ps = [] ∧ (r = .placeholder → name = [])
  | set _ | compound _ => ps ≠ [] ∧ name = []
  | statement c => ps.length = 2 ∧ name = [] ∧ c ≠ "angle.r)"

section

variable {w : Term → List Text} {ps qs : List Term} {r s : List Text}
  (hw : ∀ p ∈ ps, ∀ q ∈ qs, ∀ r s, w p ++ r = w q ++ s → p = q ∧ r = s)

lemma atom_cancel {role : AtomRole}
    (h : (Form.atom role).words n (ps.map w) ++ r = (Form.atom role).words m (qs.map w) ++ s) :
    (role ≠ .placeholder → n = m) ∧ r = s := by
  simp only [Form.words, List.append_assoc] at h
  have htail := List.append_cancel_left h
  split at htail
  next hr => exact ⟨fun hne => absurd hr hne, htail⟩
  · obtain ⟨hq, htail⟩ := List.cons.inj htail
    exact ⟨fun _ => quote_injective hq, htail⟩

lemma row_ne_connector (hps : ps ≠ []) (hlead : ∀ p ∈ ps, ∃ l ls, w p = l :: ls ∧ l ∉ inner) (x y : Text)
    (c : Connector) : row x y (ps.map w) ++ r ≠ bare (connector c) :: s := by
  intro h
  obtain ⟨p, ps, rfl⟩ := List.exists_cons_of_ne_nil hps
  obtain ⟨l, ls, hl, hn⟩ := hlead p List.mem_cons_self
  have hc : bare (connector c) ∈ inner :=
    List.mem_cons_of_mem _ (List.mem_map.2 ⟨c, Role.mem_members c, rfl⟩)
  have hhead : l = bare (connector c) := by
    cases ps with
    | nil =>
      rw [List.map_cons, List.map_nil, row_singleton, hl] at h
      exact (List.cons.inj h).1
    | cons p' ps =>
      rw [List.map_cons, List.map_cons, row_cons_cons, hl] at h
      exact (List.cons.inj h).1
  exact hn (hhead ▸ hc)

include hw

lemma statement_cancel {c d : Text} (hf : (Form.statement c).Fits n ps) (hg : (Form.statement d).Fits m qs)
    (h : (Form.statement c).words n (ps.map w) ++ r = (Form.statement d).words m (qs.map w) ++ s) :
    c = d ∧ ps = qs ∧ r = s := by
  obtain ⟨hps, -, hc⟩ := hf
  obtain ⟨hqs, -, hd⟩ := hg
  obtain ⟨hpq, hcd, hr⟩ := row_cancel hw (by rintro rfl; cases hps) (by rintro rfl; cases hqs) hc hd (List.cons.inj h).2
  exact ⟨hcd hps.ge, hpq, hr⟩

lemma compound_cancel {c d : Connector} (hf : (Form.compound c).Fits n ps) (hg : (Form.compound d).Fits m qs)
    (hlead : ∀ p, p ∈ ps ∨ p ∈ qs → ∃ l ls, w p = l :: ls ∧ l ∉ inner)
    (h : (Form.compound c).words n (ps.map w) ++ r = (Form.compound d).words m (qs.map w) ++ s) :
    c = d ∧ ps = qs ∧ r = s := by
  have hclose : ∀ c, bare (connector c) ≠ "))" := by decide
  have hinj : ∀ c d, bare (connector c) = bare (connector d) → c = d := by decide
  have hspace : "space".toList ≠ "))".toList := by decide
  obtain ⟨hps, -⟩ := hf
  obtain ⟨hqs, -⟩ := hg
  have htail := (List.cons.inj h).2
  simp only [List.length_map] at htail
  -- two parts have the connector between them; any other number has it in front, where no part begins with it
  split at htail
  next hpl =>
    split at htail
    next hql =>
      obtain ⟨hpq, hcd, hr⟩ := row_cancel hw hps hqs (hclose c) (hclose d) htail
      exact ⟨hinj c d (hcd hpl.ge), hpq, hr⟩
    next => exact absurd htail (row_ne_connector hps (fun p hp => hlead p (.inl hp)) _ _ d)
  next =>
    split at htail
    next => exact absurd htail.symm (row_ne_connector hqs (fun q hq => hlead q (.inr hq)) _ _ c)
    next =>
      obtain ⟨hcd, htail⟩ := List.cons.inj htail
      obtain ⟨hpq, -, hr⟩ := row_cancel hw hps hqs hspace hspace (List.cons.inj htail).2
      exact ⟨hinj c d hcd, hpq, hr⟩

lemma set_cancel {side : Side} (hf : (Form.set side).Fits n ps) (hg : (Form.set side).Fits m qs)
    (h : (Form.set side).words n (ps.map w) ++ r = (Form.set side).words m (qs.map w) ++ s) : ps = qs ∧ r = s := by
  have hspace : ∀ s, "space".toList ≠ bare (setRight s) := by decide
  obtain ⟨hpq, -, hr⟩ := row_cancel hw hf.1 hg.1 (hspace side) (hspace side) (List.cons.inj h).2
  exact ⟨hpq, hr⟩

end

structure Shown (t : Term) : Prop where
  wellFormed : t.WellFormed
  gap : ∀ s i cs, Term.PartOf (.image s i cs) t → .placeholder ∉ cs

lemma mem_parts (h : u ∈ parts t) : u = .placeholder ∨ u ∈ t.components := by
  cases t with
  | image s i cs =>
    simp only [parts, Term.withPlaceholder, List.mem_append, List.mem_cons] at h
    rcases h with h | h | h
    · exact .inr (List.mem_of_mem_take h)
    · exact .inl h
    · exact .inr (List.mem_of_mem_drop h)
  | _ => exact .inr h

lemma shown_placeholder : Shown .placeholder := by
  refine ⟨trivial, fun s i cs h => ?_⟩
  cases h with
  | inner hc => cases hc

lemma Shown.of_mem_parts (ht : Shown t) (h : u ∈ parts t) : Shown u := by
  rcases mem_parts h with rfl | hu
  · exact shown_placeholder
  · exact ⟨Term.wellFormed_of_mem_components ht.wellFormed hu, fun s i cs hp => ht.gap s i cs (.inner hu hp)⟩

lemma form_injective {k l : Kind} (h : form k = form l) : k = l := by
  have hall : ∀ k ∈ Kind.all, ∀ l ∈ Kind.all, form k = form l → k = l := by decide +kernel
  exact hall k k.mem_all l l.mem_all h

lemma image_injective {i j : Nat} {cs ds : List Term} (hi : i ≤ cs.length) (hj : j ≤ ds.length)
    (hc : .placeholder ∉ cs) (h : Term.withPlaceholder i cs = Term.withPlaceholder j ds) : i = j ∧ cs = ds := by
  have htake : Term.placeholder ∉ cs.take i := fun hm => hc (List.mem_of_mem_take hm)
  have hdrop : Term.placeholder ∉ cs.drop i := fun hm => hc (List.mem_of_mem_drop hm)
  obtain ⟨hfront, -, hback⟩ := (List.append_cons_inj_of_notMem htake hdrop).1 h
  constructor
  · have hl := congrArg List.length hfront
    rwa [List.length_take_of_le hi, List.length_take_of_le hj] at hl
  · rw [← List.take_append_drop i cs, hfront, hback, List.take_append_drop]

lemma eq_of_parts (ht : Shown t) (hu : u.WellFormed) (hk : t.kind = u.kind) (hn : t.name = u.name)
    (hp : parts t = parts u) : t = u := by
  have hparts : t.gap? = u.gap? ∧ t.components = u.components := by
    cases t <;> cases u <;> cases hk
    case image.image.refl s i cs j ds =>
      obtain ⟨rfl, rfl⟩ := image_injective ht.wellFormed.2.1 hu.2.1 (ht.gap s i cs .self) hp
      exact ⟨rfl, rfl⟩
    all_goals exact ⟨rfl, hp⟩
  exact Term.eq_of_components hk hn hparts.1 hparts.2

lemma wellFormed_of_mem_parts (ht : t.WellFormed) (h : u ∈ parts t) : u.WellFormed := by
  rcases mem_parts h with rfl | hu
  · trivial
  · exact Term.wellFormed_of_mem_components ht hu

lemma fits_form (ht : t.WellFormed) : (form t.kind).Fits t.name (parts t) := by
  cases t with
  | named k n => exact ⟨rfl, fun h => by cases h⟩
  | placeholder => exact ⟨rfl, fun _ => rfl⟩
  | interval n => exact ⟨rfl, fun h => by cases h⟩
  | collection k cs =>
    cases k with
    | set s => exact ⟨ht.1, rfl⟩
    | junction j => exact ⟨ht.1, rfl⟩
  | chain k cs => exact ⟨ht.1, rfl⟩
  | difference s a b => exact ⟨List.cons_ne_nil _ _, rfl⟩
  | negation a => exact ⟨List.cons_ne_nil _ _, rfl⟩
  | image s i cs => exact ⟨by simp [parts, Term.withPlaceholder], rfl⟩
  | ordered c a b => exact ⟨rfl, rfl, by cases c <;> decide⟩
  | symmetric c a b => exact ⟨rfl, rfl, by cases c <;> decide⟩

lemma exists_lead (ht : t.WellFormed) : ∃ l ls, Text.words (term t) = l :: ls ∧ l ∉ inner := by
  obtain ⟨ls, h⟩ := (form t.kind).exists_words_eq_cons t.name ((parts t).map fun u => Text.words (term u))
  exact ⟨_, ls, (words_term ht).trans h, (form t.kind).first?_getD_notMem_inner t.name⟩

/-- Whether the words of the term are told from whatever follows them. -/
def Cancels (t : Term) : Prop :=
  ∀ u : Term, u.WellFormed → ∀ r s, Text.words (term t) ++ r = Text.words (term u) ++ s → t = u ∧ r = s

lemma cancels_of_parts (ht : Shown t) (ih : ∀ p ∈ parts t, Cancels p) : Cancels t := by
  intro u hu r s h
  rw [words_term ht.wellFormed, words_term hu] at h
  have hft := fits_form ht.wellFormed
  have hfu := fits_form hu
  have hw : ∀ p ∈ parts t, ∀ q ∈ parts u, ∀ r s, Text.words (term p) ++ r = Text.words (term q) ++ s →
      p = q ∧ r = s := fun p hp q hq => ih p hp q (wellFormed_of_mem_parts hu hq)
  have hlead : ∀ p, p ∈ parts t ∨ p ∈ parts u → ∃ l ls, Text.words (term p) = l :: ls ∧ l ∉ inner := by
    rintro p (hp | hp)
    · exact exists_lead (wellFormed_of_mem_parts ht.wellFormed hp)
    · exact exists_lead (wellFormed_of_mem_parts hu hp)
  -- the form tells the kind, and the kind with the name and the parts is the term
  suffices hs : form t.kind = form u.kind ∧ t.name = u.name ∧ parts t = parts u ∧ r = s by
    obtain ⟨hf, hn, hp, hr⟩ := hs
    exact ⟨eq_of_parts ht hu (form_injective hf) hn hp, hr⟩
  obtain ⟨ls, hls⟩ := (form t.kind).exists_words_eq_cons t.name ((parts t).map fun u => Text.words (term u))
  obtain ⟨ms, hms⟩ := (form u.kind).exists_words_eq_cons u.name ((parts u).map fun u => Text.words (term u))
  have hfirst : (form t.kind).first? = (form u.kind).first? := by
    have h' := h
    rw [hls, hms] at h'
    exact Form.first?_eq_of_getD (List.cons.inj h').1
  rcases Form.cases_of_first?_eq hfirst with ⟨role, hf, hg⟩ | ⟨side, hf, hg⟩ | ⟨c, d, hf, hg⟩ | ⟨c, d, hf, hg⟩
  · rw [hf] at h hft
    rw [hg] at h hfu
    obtain ⟨hn, hr⟩ := atom_cancel h
    refine ⟨hf.trans hg.symm, ?_, hft.1.trans hfu.1.symm, hr⟩
    by_cases hrole : role = .placeholder
    · rw [hft.2 hrole, hfu.2 hrole]
    · exact hn hrole
  · rw [hf] at h hft
    rw [hg] at h hfu
    obtain ⟨hp, hr⟩ := set_cancel hw hft hfu h
    exact ⟨hf.trans hg.symm, hft.2.trans hfu.2.symm, hp, hr⟩
  · rw [hf] at h hft
    rw [hg] at h hfu
    obtain ⟨rfl, hp, hr⟩ := compound_cancel hw hft hfu hlead h
    exact ⟨hf.trans hg.symm, hft.2.trans hfu.2.symm, hp, hr⟩
  · rw [hf] at h hft
    rw [hg] at h hfu
    obtain ⟨rfl, hp, hr⟩ := statement_cancel hw hft hfu h
    exact ⟨hf.trans hg.symm, hft.2.1.trans hfu.2.1.symm, hp, hr⟩

lemma cancels (ht : Shown t) : Cancels t := by
  induction t using Term.byComponents with
  | h t ih =>
    apply cancels_of_parts ht
    intro p hp
    rcases mem_parts hp with rfl | hc
    -- the placeholder that an image shows is none of its components, so that `ih` does not reach it
    · exact cancels_of_parts shown_placeholder fun _ h => by cases h
    · exact ih p hc (ht.of_mem_parts hp)

end NarseseDialects.Typeset
