import NarseseDialects.Proofs.Reading.Standing

/-! What is read from the text that is written for a term is that term, if it is read at all: a word may be
cut short, but what is left of it fits nothing that a term goes on with. It takes that no word begins like
another atom, and that no copula reaches back into the name before it. -/

namespace NarseseDialects.Reading

open Lexical

variable {d : Dialect} {j : Nat} {r : AtomRole} {n e x y rest : Text} {u : Lexical.Term}

/-- Whether no end of the name makes another copula of the copula behind it. -/
def Unmerged (d : Dialect) (n e : Text) : Prop :=
  e ∈ d.copulas.lexicon.entries → ∀ a, a ≠ [] → a <:+ n → a ++ e ∉ d.copulas.lexicon.entries

structure Unmistakable (d : Dialect) (p n e : Text) : Prop where
  plain : Plain d p n
  unmerged : Unmerged d n e

/-- Whether the end of a name is left over in front of the text that stands behind the name. -/
def CutShort (d : Dialect) (e x rest : Text) : Prop :=
  ∃ a b, (a ++ b).all d.isIdentifier = true ∧ Unmerged d (a ++ b) e ∧ b ≠ [] ∧ rest = b ++ x

section

variable (hd : d.ClearTerms)

include hd

lemma exists_of_readsTerm_atom (ho : Opens d (.sigil r) (d.sigils.literal r ++ y))
    (h : ReadsTerm d j (d.sigils.literal r ++ y) u rest) :
    u.shape = .atom (d.sigils.literal r) (nameSpan d y).1 none ∧ rest = (nameSpan d y).2 := by
  have hs := skip_of_head (head_of_opens ho)
  cases h with
  | set hz =>
    rw [hs, left?_eq_none_of_opens ho hd (by simp)] at hz
    cases hz
  | compound _ hc =>
    rw [hs] at hc
    cases (opening?_of_opens ho (b := .compound) (by simp)).symm.trans hc
  | statement _ _ hl =>
    rw [hs] at hl
    cases (opening?_of_opens ho (b := .statement) (by simp)).symm.trans hl
  | atom _ _ _ hf =>
    rw [hs, front?_of_opens ho] at hf
    cases hf
    exact ⟨rfl, rfl⟩

lemma exists_of_readsTerm_compound {k : Connector} (hy : y.head?.all (!d.spacing.isSpace ·) = true)
    (h : ReadsTerm d j (d.compound.left ++ (d.connectors.literal k ++ (d.separator ++ y))) u rest) :
    ∃ us s, u = .compound (d.connectors.literal k) us s ∧ ReadsMembers d j d.compound.right y us rest := by
  have ho := opens_literal hd (a := .compound) (by simp) (d.connectors.literal k ++ (d.separator ++ y))
  have hs : skip d (d.compound.left ++ (d.connectors.literal k ++ (d.separator ++ y))) = _ :=
    skip_of_head (head_of_opens ho)
  have hl := opening?_append ((hd.opener .compound).resolve_left (by simp)).1
    (d.connectors.literal k ++ (d.separator ++ y))
  have hk : d.connectors.literal k ∈ d.joints := by simp [Dialect.joints, Vocabulary.literal_mem]
  have hj : d.separator ∈ d.joints := by simp [Dialect.joints]
  rw [Dialect.Opener.literal] at ho hl
  cases h with
  | set hz =>
    rw [hs, left?_eq_none_of_opens ho hd (by simp)] at hz
    cases hz
  | compound _ hc hf hp _ hm =>
    rw [hs, hl] at hc
    cases hc
    rw [skip_of_head (head_of_joint hd hk _), front?_connector hd k] at hf
    cases hf
    rw [opening?_joint hd hj] at hp
    cases hp
    rw [skip_of_head hy] at hm
    exact ⟨_, _, rfl, hm⟩
  | statement _ hc =>
    rw [hs, hl] at hc
    cases hc
  | atom _ hc =>
    rw [hs, hl] at hc
    cases hc

lemma exists_of_readsTerm_set {s : Side} (hy : y.head?.all (!d.spacing.isSpace ·) = true)
    (h : ReadsTerm d j ((d.sets.pair s).left ++ y) u rest) :
    ∃ us p, u = .set (d.sets.pair s).left us (d.sets.pair s).right p ∧
      ReadsMembers d j (d.sets.pair s).right y us rest := by
  have ho := opens_literal hd (a := .set s) (by simp) y
  rw [Dialect.Opener.literal] at ho
  have hs := skip_of_head (head_of_opens ho)
  have hz := left?_of_opens ho
  cases h with
  | set hz' _ _ hm =>
    rw [hs, hz] at hz'
    cases hz'
    rw [skip_of_head hy] at hm
    exact ⟨_, _, rfl, hm⟩
  | compound hz' | statement hz' | atom hz' =>
    rw [hs, hz] at hz'
    cases hz'

lemma exists_of_readsTerm_statement (h : ReadsTerm d j (d.statement.left ++ y) u rest) :
    ∃ v q c b w p s, u = .statement c v w s ∧ ReadsTerm d j y v q ∧
      d.copulas.lexicon.front? (skip d q) = some (c, b) ∧ ReadsTerm d j b w p ∧
        opening? d.statement.right (skip d p) = some rest := by
  have ho := opens_literal hd (a := .statement) (by simp) y
  rw [Dialect.Opener.literal] at ho
  have hs := skip_of_head (head_of_opens ho)
  have hl' := opening?_append ((hd.opener .statement).resolve_left (by simp)).1 y
  rw [Dialect.Opener.literal] at hl'
  cases h with
  | set hz =>
    rw [hs, left?_eq_none_of_opens ho hd (by simp)] at hz
    cases hz
  | compound _ hc =>
    rw [hs] at hc
    cases (opening?_of_opens ho (b := .compound) (by simp)).symm.trans hc
  | statement _ _ hl h₁ hf h₂ hr =>
    rw [hs, hl'] at hl
    cases hl
    exact ⟨_, _, _, _, _, _, _, rfl, h₁, hf, h₂, hr⟩
  | atom _ _ hl =>
    rw [hs, hl'] at hl
    cases hl

end

lemma exists_nameSpan_append (hx : d.Follows x) (hs : ∀ c, d.spacing.isSpace c = true → d.isIdentifier c = false) :
    ∀ n : Text, ∃ a b, n = a ++ b ∧ nameSpan d (n ++ x) = (a, b ++ x)
  | [] => ⟨[], [], rfl, nameSpan_append_of_follows hs hx (by simp) fun b hb h => absurd (List.suffix_nil.1 h) hb⟩
  | c :: n => by
    obtain ⟨a, b, rfl, h⟩ := exists_nameSpan_append hx hs n
    rw [List.cons_append, nameSpan, h]
    split
    · exact ⟨c :: a, b, rfl, rfl⟩
    · exact ⟨[], c :: (a ++ b), rfl, rfl⟩

lemma skip_of_isIdentifier (hc : d.ClearCuts) {c : Char} (h : d.isIdentifier c = true) (x : Text) :
    skip d (c :: x) = c :: x := by
  apply skip_of_head
  cases hs : d.spacing.isSpace c with
  | false => simp [hs]
  | true =>
    rw [hc.blank c hs] at h
    cases h

section

variable (hd : d.ClearTerms) (hc : d.ClearCuts)

include hd hc

lemma exists_of_readsTerm_copula {c : Text} (hm : c ∈ d.copulas.lexicon.entries)
    (hh : c.head?.any d.isIdentifier = true) (hn : n.all d.isIdentifier = true)
    (h : ReadsTerm d j (n ++ (c ++ y)) u rest) : ∃ z r, d.isIdentifier z = true ∧ rest = z :: r := by
  have hct : c ∈ d.terminating := List.mem_append_left _ hm
  have hhead : ∀ b : Text, b.all d.isIdentifier = true →
      ∃ z r, d.isIdentifier z = true ∧ b ++ (c ++ y) = z :: r := by
    intro b hb
    cases b with
    | nil =>
      cases c with
      | nil => simp at hh
      | cons z c => exact ⟨z, c ++ y, by simpa using hh, rfl⟩
    | cons z b => exact ⟨z, b ++ (c ++ y), List.all_eq_true.1 hb z List.mem_cons_self, rfl⟩
  obtain ⟨z, t, hz, ht⟩ := hhead n hn
  have hs : skip d (n ++ (c ++ y)) = n ++ (c ++ y) := by
    rw [ht]
    exact skip_of_isIdentifier hc hz t
  have hf : d.Follows (c ++ y) :=
    .inr (.inr ⟨c, hct, (hd.joint c (mem_joints_of_mem_terminating hct)).1, y, rfl⟩)
  have hopens := exists_opener h
  rw [hs] at hopens
  rcases hopens with ⟨a, r, ha, hr⟩ | ⟨role, r, hr, rfl, hne⟩
  · -- A bracket begins with a character that no name has.
    rcases hc.bracket a with hb | hb
    · obtain ⟨role, -, rfl⟩ := List.mem_map.1 hb
      exact absurd rfl (ha role)
    · have hnone := opening?_of_isIdentifier hb hz t
      rw [← ht, hr, opening?_append ((hd.opener a).resolve_left (ha _)).1] at hnone
      cases hnone
  · obtain ⟨b, rfl, rfl⟩ : ∃ b, n = d.sigils.literal role ++ b ∧ r = b ++ (c ++ y) := by
      refine (Text.exists_of_after?_append (Text.after?_eq_some_iff.2 hr)).resolve_right ?_
      rintro ⟨b, hbn, hb, hb'⟩
      have hap : Text.apart b c = false := Text.not_apart_of_append_eq hb'.symm
      by_cases hnn : n = []
      · rw [hnn, List.nil_append] at hb
        rcases hc.sigil_copula role with hs | hs
        · exact hbn (hb.symm.trans hs)
        · rw [← hb, hs c hm] at hap
          cases hap
      · have := hc.sigil_cut role (n, b) (hb ▸ Text.mem_cuts hnn hbn) hn c hct
        rw [hap] at this
        cases this
    rw [List.all_append, Bool.and_eq_true] at hn
    obtain ⟨a, b', rfl, hspan⟩ := exists_nameSpan_append hf hc.blank b
    rw [hspan]
    rw [List.all_append, Bool.and_eq_true] at hn
    exact hhead b' hn.2.2

omit hd in
lemma not_cutShort {l : Text} (h : opening? l (skip d y) = some rest) (hl : l ∈ d.separator :: d.closers) :
    ¬ CutShort d e x y := by
  rintro ⟨a, b, hn, -, hb, rfl⟩
  obtain ⟨z, b, rfl⟩ := List.exists_cons_of_ne_nil hb
  have hz : d.isIdentifier z = true := List.all_eq_true.1 hn z (by simp)
  rw [List.cons_append, skip_of_isIdentifier hc hz, opening?_of_isIdentifier (hc.group l hl) hz] at h
  cases h

lemma not_cutShort_of_statement {c c' q p : Text} {w : Lexical.Term} (hm : c ∈ d.copulas.lexicon.entries)
    (hf : d.copulas.lexicon.front? (skip d x) = some (c', q)) (hw : ReadsTerm d j q w p)
    (hr : opening? d.statement.right (skip d p) = some rest) : ¬ CutShort d c (c ++ y) x := by
  rintro ⟨a, b, hn, hu, hb, rfl⟩
  rw [List.all_append, Bool.and_eq_true] at hn
  have hs : skip d (b ++ (c ++ y)) = b ++ (c ++ y) := by
    obtain ⟨z, b, rfl⟩ := List.exists_cons_of_ne_nil hb
    exact skip_of_isIdentifier hc (List.all_eq_true.1 hn.2 z List.mem_cons_self) _
  rw [hs] at hf
  obtain ⟨hm', hq⟩ := Lexicon.mem_of_front? hf
  obtain ⟨b', rfl, rfl⟩ : ∃ b', b = c' ++ b' ∧ q = b' ++ (c ++ y) := by
    refine (Text.exists_of_after?_append (Text.after?_eq_some_iff.2 hq)).resolve_right ?_
    rintro ⟨z, hzn, hz, hz'⟩
    rcases hc.copula_cut c' hm' (b, z) (hz ▸ Text.mem_cuts hb hzn) hn.2 c hm with hzc | hap
    · exact hu hm b hb (List.suffix_append a b) (hzc ▸ hz ▸ hm')
    · rw [Text.not_apart_of_append_eq hz'.symm] at hap
      cases hap
  rw [List.all_append, Bool.and_eq_true] at hn
  obtain ⟨z, r, hz, rfl⟩ := exists_of_readsTerm_copula hd hc hm (hc.copula_name c' hm' hn.2.1 c hm) hn.2.2 hw
  rw [skip_of_isIdentifier hc hz, opening?_of_isIdentifier (hc.group _ (by simp [Dialect.closers])) hz] at hr
  cases hr

variable (hq : d.isIdentifier = Text.isNameChar)

include hq

lemma opens_of_unmistakable {t : Lexical.Term} {e x : Text} (ht : t.Spelled d anyName)
    (he : e = [] ∨ e ∈ d.terminating) (h : t.EachAtom d (Unmistakable d) e) (hx : After e x) :
    ∃ a, Opens d a (t.write (d.withGaps [] []) ++ x) := by
  cases t with
  | atom p n _ =>
    obtain ⟨r, rfl, hn, hne⟩ := ht
    refine ⟨.sigil r, ?_⟩
    rw [Term.write, List.append_assoc]
    exact opens_of_plain hd hc (hq ▸ hn) hne h.plain he hx
  | compound c ts _ =>
    simp only [Term.write, List.append_assoc]
    exact ⟨.compound, opens_literal hd (by simp) _⟩
  | set l ts r _ =>
    obtain ⟨⟨s, rfl, rfl⟩, -⟩ := ht
    simp only [Term.write, List.append_assoc]
    exact ⟨.set s, opens_literal hd (by simp) _⟩
  | statement c t u _ =>
    simp only [Term.write, List.append_assoc]
    exact ⟨.statement, opens_literal hd (by simp) _⟩

lemma opens_of_unmistakableAll {ts : List Lexical.Term} {right : Text} (hne : ts ≠ [])
    (hts : Term.SpelledAll d anyName ts) (hright : right ∈ d.closers)
    (h : Term.EachAtomAll d (Unmistakable d) right ts) (x : Text) :
    ∃ a, Opens d a (Term.writeAll (d.withGaps [] []) ts ++ (right ++ x)) := by
  match ts, hne, hts, h with
  | [t], _, hts, h =>
    have hr := mem_terminating_of_mem_closers hright
    rw [Term.writeAll, Term.writeMore, List.append_nil]
    exact opens_of_unmistakable hd hc hq hts.1 (.inr hr) h (after_of_before hd hr ⟨x, rfl⟩)
  | t :: v :: vs, _, hts, h =>
    have hs : d.separator ∈ d.terminating := by simp [Dialect.Parts.terminating]
    rw [Term.writeAll, Term.writeMore, componentSeparator_withGaps]
    simp only [List.append_assoc]
    exact opens_of_unmistakable hd hc hq hts.1 (.inr hs) h.1 (after_of_before hd hs ⟨_, rfl⟩)

end

mutual

lemma recovered_of_readsTerm (hd : d.ClearTerms) (hc : d.ClearCuts) (hq : d.isIdentifier = Text.isNameChar)
    {t : Lexical.Term} {e x rest : Text} {u : Lexical.Term} (ht : t.Spelled d anyName)
    (he : e = [] ∨ e ∈ d.terminating) (h : t.EachAtom d (Unmistakable d) e) (hx : After e x)
    (hr : ReadsTerm d j (t.write (d.withGaps [] []) ++ x) u rest) :
    (rest = x ∧ u.shape = t.shape ∧ t.EachAtom d (fun _ n e => StopsAt d n e) e) ∨ CutShort d e x rest := by
  -- Only a bare atom may be cut short: what is left of a name within a bracket fits nothing behind it.
  cases t with
  | atom p n s =>
    obtain ⟨r, rfl, hn, hne⟩ := ht
    rw [Term.write, List.append_assoc] at hr
    obtain ⟨hu, rfl⟩ := exists_of_readsTerm_atom hd (opens_of_plain hd hc (hq ▸ hn) hne h.plain he hx) hr
    obtain ⟨a, b, rfl, hspan⟩ := exists_nameSpan_append (follows_of_after hd he hx) hc.blank n
    rw [hspan] at hu ⊢
    by_cases hb : b = []
    · subst hb
      rw [List.append_nil] at hspan ⊢
      exact .inl ⟨rfl, hu, stopsAt_of_nameSpan hc hd he hx hspan⟩
    · exact .inr ⟨a, b, hq ▸ hn, h.unmerged, hb, rfl⟩
  | compound c ts _ =>
    obtain ⟨⟨k, rfl⟩, hne, hts⟩ := ht
    have hright : d.compound.right ∈ d.closers := by simp [Dialect.closers]
    obtain ⟨a, ha⟩ := opens_of_unmistakableAll hd hc hq hne hts hright h x
    simp only [Term.write, componentSeparator_withGaps, List.append_assoc, List.nil_append] at hr
    obtain ⟨us, s, rfl, hm⟩ := exists_of_readsTerm_compound hd (head_of_opens ha) hr
    obtain ⟨rfl, hus, hall⟩ := recovered_of_readsMembers hd hc hq hne hts hright h hm
    exact .inl ⟨rfl, by simp [Term.shape, hus], hall⟩
  | set l ts r _ =>
    obtain ⟨⟨s, rfl, rfl⟩, hne, hts⟩ := ht
    have hright : (d.sets.pair s).right ∈ d.closers := by
      simp [Dialect.closers, SetBrackets.rights, Role.mem_members]
    obtain ⟨a, ha⟩ := opens_of_unmistakableAll hd hc hq hne hts hright h x
    simp only [Term.write, List.append_assoc] at hr
    obtain ⟨us, p, rfl, hm⟩ := exists_of_readsTerm_set hd (head_of_opens ha) hr
    obtain ⟨rfl, hus, hall⟩ := recovered_of_readsMembers hd hc hq hne hts hright h hm
    exact .inl ⟨rfl, by simp [Term.shape, hus], hall⟩
  | statement c t w _ =>
    obtain ⟨⟨k, rfl⟩, h₁, h₂⟩ := ht
    have hk := Vocabulary.literal_mem d.copulas k
    have hkt : d.copulas.literal k ∈ d.terminating := List.mem_append_left _ hk
    have hrt : d.statement.right ∈ d.terminating := by simp [Dialect.Parts.terminating]
    have hrg : d.statement.right ∈ d.separator :: d.closers := by simp [Dialect.closers]
    simp only [Term.write, List.append_assoc] at hr
    obtain ⟨v, q, c, b, v', p, s, rfl, hv, hf, hv', hend⟩ := exists_of_readsTerm_statement hd hr
    obtain ⟨rfl, hvs, hva⟩ := (recovered_of_readsTerm hd hc hq h₁ (.inr hkt) h.1 (after_of_before hd hkt ⟨_, rfl⟩)
      hv).resolve_right (not_cutShort_of_statement hd hc hk hf hv' hend)
    rw [skip_of_head (head_of_joint hd (mem_joints_of_mem_terminating hkt) _), front?_copula hd k] at hf
    cases hf
    obtain ⟨rfl, hws, hwa⟩ := (recovered_of_readsTerm hd hc hq h₂ (.inr hrt) h.2 (after_of_before hd hrt ⟨x, rfl⟩)
      hv').resolve_right (not_cutShort hc hend hrg)
    rw [opening?_joint hd (mem_joints_of_mem_terminating hrt)] at hend
    cases hend
    exact .inl ⟨rfl, by simp [Term.shape, hvs, hws], hva, hwa⟩

lemma recovered_of_readsMembers (hd : d.ClearTerms) (hc : d.ClearCuts) (hq : d.isIdentifier = Text.isNameChar)
    {ts us : List Lexical.Term} {right x rest : Text} (hne : ts ≠ [])
    (hts : Term.SpelledAll d anyName ts) (hright : right ∈ d.closers)
    (h : Term.EachAtomAll d (Unmistakable d) right ts)
    (hr : ReadsMembers d j right (Term.writeAll (d.withGaps [] []) ts ++ (right ++ x)) us rest) :
    rest = x ∧ Term.shapeAll us = Term.shapeAll ts ∧ Term.EachAtomAll d (fun _ n e => StopsAt d n e) right ts := by
  have hrt := mem_terminating_of_mem_closers hright
  have hrj := mem_joints_of_mem_terminating hrt
  have hst : d.separator ∈ d.terminating := by simp [Dialect.Parts.terminating]
  have hsj := mem_joints_of_mem_terminating hst
  match ts, hne, hts, h with
  | [t], _, hts, h =>
    rw [Term.writeAll, Term.writeMore, List.append_nil] at hr
    have hx := after_of_before hd hrt ⟨x, rfl⟩
    cases hr with
    | last hv _ he =>
      obtain ⟨rfl, hvs, hva⟩ := (recovered_of_readsTerm hd hc hq hts.1 (.inr hrt) h hx hv).resolve_right
        (not_cutShort hc he (List.mem_cons_of_mem _ hright))
      rw [opening?_joint hd hrj] at he
      cases he
      exact ⟨rfl, by simp [Term.shapeAll, hvs], hva⟩
    | more hv hs =>
      obtain ⟨rfl, -⟩ := (recovered_of_readsTerm hd hc hq hts.1 (.inr hrt) h hx hv).resolve_right
        (not_cutShort hc hs List.mem_cons_self)
      rw [opening?_separator_closer hd hright] at hs
      cases hs
  | t :: v :: vs, _, hts, h =>
    simp only [Term.writeAll, Term.writeMore, componentSeparator_withGaps, List.append_assoc, List.nil_append] at hr
    have hx := fun r => after_of_before hd hst ⟨r, rfl⟩
    cases hr with
    | last hv hs he =>
      obtain ⟨rfl, -⟩ := (recovered_of_readsTerm hd hc hq hts.1 (.inr hst) h.1 (hx _) hv).resolve_right
        (not_cutShort hc he (List.mem_cons_of_mem _ hright))
      rw [opening?_joint hd hsj] at hs
      cases hs
    | more hv hs hm =>
      obtain ⟨rfl, hvs, hva⟩ := (recovered_of_readsTerm hd hc hq hts.1 (.inr hst) h.1 (hx _) hv).resolve_right
        (not_cutShort hc hs List.mem_cons_self)
      rw [opening?_joint hd hsj] at hs
      cases hs
      rw [← List.append_assoc (Term.write _ v)] at hm
      obtain ⟨rfl, hus, hall⟩ := recovered_of_readsMembers hd hc hq (List.cons_ne_nil v vs) hts.2 hright h.2 hm
      exact ⟨rfl, by simp only [Term.shapeAll, hvs] at hus ⊢; rw [hus], hva, hall⟩

end

end NarseseDialects.Reading
