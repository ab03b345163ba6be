import Mathlib.Data.List.Forall2
import Mathlib.Tactic.Lemma
import NarseseDialects.Term.Basic

namespace NarseseDialects.Term

variable {t u v : Term} {cs ds : List Term}

lemma sizeOf_lt_of_mem_components (h : u ∈ t.components) : sizeOf u < sizeOf t := by
  cases t with
  | named | placeholder | interval => cases h
  | collection k cs | chain k cs | image s i cs =>
    have hlt : sizeOf u < sizeOf cs := List.sizeOf_lt_of_mem h
    simp only [collection.sizeOf_spec, chain.sizeOf_spec, image.sizeOf_spec]
    omega
  | difference s a b | ordered c a b | symmetric c a b =>
    simp only [difference.sizeOf_spec, ordered.sizeOf_spec, symmetric.sizeOf_spec]
    rcases List.mem_pair.1 h with rfl | rfl
    all_goals omega
  | negation a =>
    obtain rfl := List.mem_singleton.1 h
    simp only [negation.sizeOf_spec]
    omega

@[elab_as_elim]
lemma byComponents {P : Term → Prop} (h : ∀ t, (∀ c ∈ t.components, P c) → P t) (t : Term) : P t :=
  h t fun c _ => byComponents h c
termination_by sizeOf t
decreasing_by exact sizeOf_lt_of_mem_components ‹_›

def SameMembers (cs ds : List Term) : Prop :=
  (∀ c ∈ cs, ∃ d ∈ ds, c.same d = true) ∧ ∀ d ∈ ds, ∃ c ∈ cs, c.same d = true

abbrev SameInOrder : List Term → List Term → Prop := List.Forall₂ fun c d => c.same d = true

inductive Matches : Term → Term → Prop
  | named (k : NameKind) (n : Text) : Matches (named k n) (named k n)
  | placeholder : Matches placeholder placeholder
  | interval (n : Nat) : Matches (interval n) (interval n)
  | collection (k : CollectionKind) {cs ds : List Term} : SameMembers cs ds →
      Matches (collection k cs) (collection k ds)
  | chain (k : Chain) {cs ds : List Term} : SameInOrder cs ds → Matches (chain k cs) (chain k ds)
  | difference (s : Side) {a b x y : Term} : a.same x = true → b.same y = true →
      Matches (difference s a b) (difference s x y)
  | negation {a x : Term} : a.same x = true → Matches (negation a) (negation x)
  | image (s : Side) (i : Nat) {cs ds : List Term} : SameInOrder cs ds → Matches (image s i cs) (image s i ds)
  | ordered (c : OrderedCopula) {a b x y : Term} : a.same x = true → b.same y = true →
      Matches (ordered c a b) (ordered c x y)
  | symmetric (c : SymmetricCopula) {a b x y : Term} : SameMembers [a, b] [x, y] →
      Matches (symmetric c a b) (symmetric c x y)

lemma areSet_iff : areSet (cs.map same) ds = true ↔ SameMembers cs ds := by
  simp only [areSet_eq, Bool.and_eq_true, List.all_eq_true, List.any_eq_true, List.all_map, List.any_map, SameMembers,
    Function.comp_apply]

lemma allSame_iff : allSame cs ds = true ↔ SameInOrder cs ds := by
  induction cs generalizing ds with
  | nil => cases ds <;> simp [allSame, SameInOrder]
  | cons c cs ih => cases ds <;> simp [allSame, SameInOrder, ih]

lemma matches_of_same (h : t.same u = true) : Matches t u := by
  cases t with
  | named k n =>
    cases u with
    | named l m =>
      obtain ⟨rfl, rfl⟩ : k = l ∧ n = m := by simpa [same] using h
      exact .named k n
    | _ => simp [same] at h
  | placeholder =>
    cases u with
    | placeholder => exact .placeholder
    | _ => simp [same] at h
  | interval n =>
    cases u with
    | interval m =>
      obtain rfl : n = m := by simpa [same] using h
      exact .interval n
    | _ => simp [same] at h
  | collection k cs =>
    cases u with
    | collection l ds =>
      obtain ⟨rfl, hm⟩ : k = l ∧ areSet (allTests cs) ds = true := by simpa [same] using h
      rw [allTests_eq_map] at hm
      exact .collection k (areSet_iff.1 hm)
    | _ => simp [same] at h
  | chain k cs =>
    cases u with
    | chain l ds =>
      obtain ⟨rfl, hall⟩ : k = l ∧ allSame cs ds = true := by simpa [same] using h
      exact .chain k (allSame_iff.1 hall)
    | _ => simp [same] at h
  | difference s a b =>
    cases u with
    | difference r x y =>
      obtain ⟨⟨rfl, h₁⟩, h₂⟩ : (s = r ∧ a.same x = true) ∧ b.same y = true := by simpa [same] using h
      exact .difference s h₁ h₂
    | _ => simp [same] at h
  | negation a =>
    cases u with
    | negation x => exact .negation (by simpa [same] using h)
    | _ => simp [same] at h
  | image s i cs =>
    cases u with
    | image r j ds =>
      obtain ⟨⟨rfl, rfl⟩, hall⟩ : (s = r ∧ i = j) ∧ allSame cs ds = true := by simpa [same] using h
      exact .image s i (allSame_iff.1 hall)
    | _ => simp [same] at h
  | ordered c a b =>
    cases u with
    | ordered e x y =>
      obtain ⟨⟨rfl, h₁⟩, h₂⟩ : (c = e ∧ a.same x = true) ∧ b.same y = true := by simpa [same] using h
      exact .ordered c h₁ h₂
    | _ => simp [same] at h
  | symmetric c a b =>
    cases u with
    | symmetric e x y =>
      obtain ⟨rfl, hm⟩ : c = e ∧ areSet ([a, b].map same) [x, y] = true := by simpa [same] using h
      exact .symmetric c (areSet_iff.1 hm)
    | _ => simp [same] at h

lemma Matches.same (h : Matches t u) : t.same u = true := by
  cases h with
  | named | placeholder | interval => simp [Term.same]
  | collection k h => simpa [Term.same, allTests_eq_map] using areSet_iff.2 h
  | chain k h => simpa [Term.same] using allSame_iff.2 h
  | difference s h₁ h₂ | ordered c h₁ h₂ => simp [Term.same, h₁, h₂]
  | negation h => simpa [Term.same] using h
  | image s i h => simpa [Term.same] using allSame_iff.2 h
  | symmetric c h => simpa [Term.same] using areSet_iff.2 h

lemma sameMembers_refl (h : ∀ c ∈ cs, c.same c = true) : SameMembers cs cs :=
  ⟨fun c hc => ⟨c, hc, h c hc⟩, fun c hc => ⟨c, hc, h c hc⟩⟩

@[simp] lemma same_refl (t : Term) : t.same t = true := by
  induction t using byComponents with
  | h t ih =>
    have hall : SameInOrder t.components t.components := List.forall₂_same.2 ih
    apply Matches.same
    cases t with
    | named k n => exact .named k n
    | placeholder => exact .placeholder
    | interval n => exact .interval n
    | collection k cs => exact .collection k (sameMembers_refl ih)
    | chain k cs => exact .chain k hall
    | difference s a b => exact .difference s (ih a (by simp [components])) (ih b (by simp [components]))
    | negation a => exact .negation (ih a (by simp [components]))
    | image s i cs => exact .image s i hall
    | ordered c a b => exact .ordered c (ih a (by simp [components])) (ih b (by simp [components]))
    | symmetric c a b => exact .symmetric c (sameMembers_refl ih)

section

variable {es : List Term}

lemma sameMembers_symm (ih : ∀ c ∈ cs, ∀ {d}, c.same d = true → d.same c = true) (h : SameMembers cs ds) :
    SameMembers ds cs := by
  constructor
  · intro d hd
    obtain ⟨c, hc, hcd⟩ := h.2 d hd
    exact ⟨c, hc, ih c hc hcd⟩
  · intro c hc
    obtain ⟨d, hd, hcd⟩ := h.1 c hc
    exact ⟨d, hd, ih c hc hcd⟩

lemma sameMembers_trans (ih : ∀ c ∈ cs, ∀ {d e}, c.same d = true → d.same e = true → c.same e = true)
    (h : SameMembers cs ds) (h' : SameMembers ds es) : SameMembers cs es := by
  constructor
  · intro c hc
    obtain ⟨d, hd, hcd⟩ := h.1 c hc
    obtain ⟨e, he, hde⟩ := h'.1 d hd
    exact ⟨e, he, ih c hc hcd hde⟩
  · intro e he
    obtain ⟨d, hd, hde⟩ := h'.2 e he
    obtain ⟨c, hc, hcd⟩ := h.2 d hd
    exact ⟨c, hc, ih c hc hcd hde⟩

lemma sameInOrder_symm (ih : ∀ c ∈ cs, ∀ {d}, c.same d = true → d.same c = true) (h : SameInOrder cs ds) :
    SameInOrder ds cs := by
  induction h with
  | nil => exact .nil
  | cons hc _ hcs =>
    exact .cons (ih _ List.mem_cons_self hc) (hcs fun c hm => ih c (List.mem_cons_of_mem _ hm))

lemma sameInOrder_trans (ih : ∀ c ∈ cs, ∀ {d e}, c.same d = true → d.same e = true → c.same e = true)
    (h : SameInOrder cs ds) (h' : SameInOrder ds es) : SameInOrder cs es := by
  induction h generalizing es with
  | nil => exact h'
  | cons hc _ hcs =>
    cases h' with
    | cons hd hds =>
      exact .cons (ih _ List.mem_cons_self hc hd) (hcs (fun c hm => ih c (List.mem_cons_of_mem _ hm)) hds)

end

lemma same_symm (h : t.same u = true) : u.same t = true := by
  induction t using byComponents generalizing u with
  | h t ih =>
    apply Matches.same
    cases matches_of_same h with
    | named k n => exact .named k n
    | placeholder => exact .placeholder
    | interval n => exact .interval n
    | collection k hm => exact .collection k (sameMembers_symm ih hm)
    | chain k hs => exact .chain k (sameInOrder_symm ih hs)
    | difference s ha hb =>
      exact .difference s (ih _ (by simp [components]) ha) (ih _ (by simp [components]) hb)
    | negation ha => exact .negation (ih _ (by simp [components]) ha)
    | image s i hs => exact .image s i (sameInOrder_symm ih hs)
    | ordered c ha hb => exact .ordered c (ih _ (by simp [components]) ha) (ih _ (by simp [components]) hb)
    | symmetric c hm => exact .symmetric c (sameMembers_symm ih hm)

lemma same_trans (h : t.same u = true) (h' : u.same v = true) : t.same v = true := by
  induction t using byComponents generalizing u v with
  | h t ih =>
    apply Matches.same
    cases matches_of_same h with
    | named | placeholder | interval => exact matches_of_same h'
    | collection k hm =>
      cases matches_of_same h' with
      | collection k hm' => exact .collection k (sameMembers_trans ih hm hm')
    | chain k hs =>
      cases matches_of_same h' with
      | chain k hs' => exact .chain k (sameInOrder_trans ih hs hs')
    | difference s ha hb =>
      cases matches_of_same h' with
      | difference s hx hy =>
        exact .difference s (ih _ (by simp [components]) ha hx) (ih _ (by simp [components]) hb hy)
    | negation ha =>
      cases matches_of_same h' with
      | negation hx => exact .negation (ih _ (by simp [components]) ha hx)
    | image s i hs =>
      cases matches_of_same h' with
      | image s i hs' => exact .image s i (sameInOrder_trans ih hs hs')
    | ordered c ha hb =>
      cases matches_of_same h' with
      | ordered c hx hy => exact .ordered c (ih _ (by simp [components]) ha hx) (ih _ (by simp [components]) hb hy)
    | symmetric c hm =>
      cases matches_of_same h' with
      | symmetric c hm' => exact .symmetric c (sameMembers_trans ih hm hm')

lemma sameMembers_pair_iff {a b x y : Term} :
    SameMembers [a, b] [x, y] ↔ a.same x = true ∧ b.same y = true ∨ a.same y = true ∧ b.same x = true := by
  have hpairs : SameMembers [a, b] [x, y] ↔
      ((a.same x = true ∨ a.same y = true) ∧ (b.same x = true ∨ b.same y = true)) ∧
        (a.same x = true ∨ b.same x = true) ∧ (a.same y = true ∨ b.same y = true) := by
    simp [SameMembers]
  rw [hpairs]
  constructor
  · rintro ⟨⟨hax | hay, hbx | hby⟩, hx, hy⟩
    · -- Both match the same side, so whichever of them matches the other side, both do.
      rcases hy with hay | hby
      · exact .inl ⟨hax, same_trans hbx (same_trans (same_symm hax) hay)⟩
      · exact .inl ⟨hax, hby⟩
    · exact .inl ⟨hax, hby⟩
    · exact .inr ⟨hay, hbx⟩
    · rcases hx with hax | hbx
      · exact .inl ⟨hax, hby⟩
      · exact .inr ⟨hay, hbx⟩
  · rintro (⟨hax, hby⟩ | ⟨hay, hbx⟩)
    · exact ⟨⟨.inl hax, .inr hby⟩, .inl hax, .inr hby⟩
    · exact ⟨⟨.inr hay, .inl hbx⟩, .inr hbx, .inl hay⟩

end NarseseDialects.Term
