import NarseseDialects.Proofs.Dialect.Cuts
import NarseseDialects.Proofs.Reading.Placement
import NarseseDialects.Proofs.Reading.WrittenTerms

/-! Where a name ends depends on what follows it. It takes no more than the literal with which that begins
to know it: a name ends there if nothing within it ends it, and no terminator begins in it and reaches into
the literal. -/

namespace NarseseDialects

def Dialect.clings (d : Dialect) (n e : Text) : Bool :=
  d.terminating.any fun t => (Text.cuts t).any fun p => (Text.before? p.1 n).isSome && !Text.apart p.2 e

lemma Dialect.clings_eq_true_iff {d : Dialect} {n e : Text} :
    d.clings n e = true ↔ ∃ a b, (a, b) ∈ Text.cuts (a ++ b) ∧ a ++ b ∈ d.terminating ∧ a <:+ n ∧
      Text.apart b e = false := by
  simp only [clings, List.any_eq_true, Bool.and_eq_true, Option.isSome_iff_exists, Text.before?_eq_some_iff,
    Bool.not_eq_true']
  constructor
  · rintro ⟨t, ht, ⟨a, b⟩, hab, ⟨y, rfl⟩, hb⟩
    obtain rfl := Text.append_of_mem_cuts hab
    exact ⟨a, b, hab, ht, ⟨y, rfl⟩, hb⟩
  · rintro ⟨a, b, hab, ht, ⟨y, rfl⟩, hb⟩
    exact ⟨_, ht, _, hab, ⟨y, rfl⟩, hb⟩

lemma Dialect.clings_eq_false {d : Dialect} {n e : Text} (hn : n.all d.isIdentifier = true)
    (he : d.absorbs e = false) : d.clings n e = false := by
  rw [Bool.eq_false_iff] at he ⊢
  intro hc
  obtain ⟨a, b, hab, ht, ha, hb⟩ := clings_eq_true_iff.1 hc
  apply he
  simp only [absorbs, List.any_eq_true, Bool.and_eq_true, Bool.not_eq_true']
  exact ⟨_, ht, _, hab, List.all_eq_true.2 fun c hm => List.all_eq_true.1 hn c (ha.subset hm), hb⟩

namespace Reading

open Lexical

variable {d : Dialect} {n e x : Text}

/-- What stands behind the name of an atom: the text begins with the literal, or there is no text. -/
def After (e x : Text) : Prop := ∃ r, x = e ++ r ∧ (e = [] → r = [])

def StopsAt (d : Dialect) (n e : Text) : Prop := ∀ x, After e x → nameSpan d (n ++ x) = (n, x)

def Whole (d : Dialect) (n : Text) : Prop := nameSpan d n = (n, [])

lemma after_self : After e e := ⟨[], by simp⟩

lemma after_append (he : e ≠ []) (r : Text) : After e (e ++ r) := ⟨r, rfl, fun h => absurd h he⟩

lemma all_isIdentifier_of_nameSpan (h : nameSpan d (n ++ x) = (n, x)) : n.all d.isIdentifier = true := by
  refine List.all_eq_true.2 fun c hc => ?_
  have hmem : c ∈ (nameSpan d (n ++ x)).1 := by rwa [h]
  exact isIdentifier_of_mem_nameSpan hmem

lemma nameSpan_of_cons {c : Char} (h : nameSpan d (c :: n ++ x) = (c :: n, x)) :
    d.terminators.startsWithAny (c :: n ++ x) = false ∧ nameSpan d (n ++ x) = (n, x) := by
  rw [List.cons_append, nameSpan] at h
  split at h
  next hc =>
    rw [Bool.and_eq_true, Bool.not_eq_true'] at hc
    rw [Prod.mk.injEq, List.cons.injEq] at h
    exact ⟨hc.2, Prod.ext h.1.2 h.2⟩
  · cases h

lemma after?_of_nameSpan {b t : Text} (h : nameSpan d (n ++ x) = (n, x)) (hb : b ≠ []) (hs : b <:+ n)
    (ht : t ∈ d.terminating) : Text.after? t (b ++ x) = none := by
  induction n with
  | nil => exact absurd (List.suffix_nil.1 hs) hb
  | cons c n ih =>
    obtain ⟨hc, hn⟩ := nameSpan_of_cons h
    rcases List.suffix_cons_iff.1 hs with rfl | hs
    · rw [Lexicon.startsWithAny, Option.isSome_eq_false_iff, Option.isNone_iff_eq_none, Lexicon.front?,
        List.findSome?_eq_none_iff] at hc
      exact Option.map_eq_none_iff.1 (hc t (Dialect.mem_terminators.2 ht))
    · exact ih hn hs

section

variable (hc : d.ClearCuts)

include hc

lemma whole_of_nameSpan (h : nameSpan d (n ++ x) = (n, x)) : Whole d n := by
  have hi := List.all_eq_true.1 (all_isIdentifier_of_nameSpan h)
  suffices hw : nameSpan d (n ++ []) = (n, []) by rwa [List.append_nil] at hw
  refine nameSpan_append_of_follows hc.blank (.inl rfl) hi fun b hb hs t ht => ?_
  rw [List.append_nil, Option.eq_none_iff_forall_ne_some]
  intro r hr
  have hn := after?_of_nameSpan h hb hs ht
  rw [Text.after?_eq_some_iff.1 hr, List.append_assoc, Text.after?_append] at hn
  cases hn

omit hc in
lemma follows_of_after (hd : d.ClearTerms) (he : e = [] ∨ e ∈ d.terminating) (h : After e x) : d.Follows x := by
  obtain ⟨r, rfl, hr⟩ := h
  rcases he with rfl | he
  · exact .inl (hr rfl)
  · exact .inr (.inr ⟨e, he, (hd.joint e (mem_joints_of_mem_terminating he)).1, r, rfl⟩)

lemma not_clings_of_nameSpan (he : e ∈ d.terminating) (hx : After e x) (h : nameSpan d (n ++ x) = (n, x)) :
    d.clings n e = false := by
  rw [Bool.eq_false_iff]
  intro hcl
  obtain ⟨a, b, hab, ht, ha, hb⟩ := Dialect.clings_eq_true_iff.1 hcl
  obtain ⟨hane, -⟩ := Text.ne_nil_of_mem_cuts hab
  have hi : a.all d.isIdentifier = true := List.all_eq_true.2 fun c hm =>
    List.all_eq_true.1 (all_isIdentifier_of_nameSpan h) c (ha.subset hm)
  obtain ⟨r, rfl, -⟩ := hx
  -- What the terminator has behind the name is no longer than the literal, so it is a front of it.
  rcases hc.reach _ ht _ hab hi e he with hl | hap
  · obtain ⟨s, rfl⟩ := Text.exists_append_of_not_apart hb hl
    have hn := after?_of_nameSpan h hane ha ht
    rw [List.append_assoc b, ← List.append_assoc a, Text.after?_append] at hn
    cases hn
  · rw [hb] at hap
    cases hap

variable (hd : d.ClearTerms)

include hd

lemma stopsAt_of_whole (hn : Whole d n) (he : e = [] ∨ e ∈ d.terminating ∧ d.clings n e = false) :
    StopsAt d n e := by
  intro x hx
  have hw : nameSpan d (n ++ []) = (n, []) := by rwa [List.append_nil]
  refine nameSpan_append_of_follows hc.blank (follows_of_after hd (he.imp_right And.left) hx)
    (List.all_eq_true.1 (all_isIdentifier_of_nameSpan hw)) fun b hb hs t ht => ?_
  rw [Option.eq_none_iff_forall_ne_some]
  intro r hr
  rcases Text.exists_of_after?_append hr with ⟨y, rfl, -⟩ | ⟨b', hb', rfl, rfl⟩
  · have := after?_of_nameSpan hw hb hs ht
    rw [List.append_nil, Text.after?_append] at this
    cases this
  · obtain ⟨s, hs', hnil⟩ := hx
    rcases he with rfl | ⟨-, he⟩
    · rw [hnil rfl, List.append_nil, List.append_eq_nil_iff] at hs'
      exact hb' hs'.1
    · rw [Bool.eq_false_iff] at he
      exact he (Dialect.clings_eq_true_iff.2
        ⟨b, b', Text.mem_cuts hb hb', ht, hs, Text.not_apart_of_append_eq hs'⟩)

lemma stopsAt_of_nameSpan (he : e = [] ∨ e ∈ d.terminating) (hx : After e x)
    (h : nameSpan d (n ++ x) = (n, x)) : StopsAt d n e :=
  stopsAt_of_whole hc hd (whole_of_nameSpan hc h) (he.imp_right fun he => ⟨he, not_clings_of_nameSpan hc he hx h⟩)

lemma stopsAt_of_digits (hn : ∀ c ∈ n, c ∈ Text.plainDigits) (he : e = [] ∨ e ∈ d.terminating) : StopsAt d n e := by
  intro x hx
  refine nameSpan_append_of_follows hc.blank (follows_of_after hd he hx) (fun c h => (hc.digit c (hn c h)).1)
    fun b hb hs t ht => ?_
  obtain ⟨c, b, rfl⟩ := List.exists_cons_of_ne_nil hb
  have hne := (hd.joint t (mem_joints_of_mem_terminating ht)).1
  have hh := (hc.digit c (hn c (hs.subset List.mem_cons_self))).2 t ht
  cases t with
  | nil => exact absurd rfl hne
  | cons y t =>
    refine Text.after?_cons_of_ne ?_ t _
    rintro rfl
    exact hh rfl

lemma stopsAt_iff (he : e ∈ d.terminating) : StopsAt d n e ↔ Whole d n ∧ d.clings n e = false := by
  constructor
  · intro h
    have hn := h e after_self
    exact ⟨whole_of_nameSpan hc hn, not_clings_of_nameSpan hc he after_self hn⟩
  · rintro ⟨hn, hcl⟩
    exact stopsAt_of_whole hc hd hn (.inr ⟨he, hcl⟩)

end

end Reading

end NarseseDialects
