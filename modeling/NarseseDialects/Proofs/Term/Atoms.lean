import NarseseDialects.Proofs.Term.Containment

namespace NarseseDialects.Term

variable {a b t u : Term} {ts us : List Term}

def isAtom (t : Term) : Bool := t.kind.category = .atom

/-- The parts of a term from left to right, each in front of its own parts. -/
def walk (t : Term) : List Term := t :: t.components.attach.flatMap fun c => walk c.1
termination_by sizeOf t
decreasing_by exact sizeOf_lt_of_mem_components c.2

lemma walk_eq (t : Term) : t.walk = t :: t.components.flatMap walk := by
  rw [walk, List.flatMap_subtype (g := walk) fun _ _ => rfl, List.unattach_attach]

lemma mem_walk_iff : a ∈ t.walk ↔ PartOf a t := by
  induction t using byComponents with
  | h t ih =>
    rw [walk_eq, List.mem_cons, List.mem_flatMap]
    constructor
    · rintro (rfl | ⟨c, hc, ha⟩)
      · exact .self
      · exact .inner hc ((ih c hc).1 ha)
    · intro h
      cases h with
      | self => exact .inl rfl
      | inner hc ha => exact .inr ⟨_, hc, (ih _ hc).2 ha⟩

lemma atomsOfAll_eq_flatMap (ts : List Term) : atomsOfAll ts = ts.flatMap atoms := by
  induction ts with
  | nil => rfl
  | cons t ts ih => rw [atomsOfAll, ih, List.flatMap_cons]

lemma atoms_eq (t : Term) : t.atoms = if t.isAtom then [t] else t.components.flatMap atoms := by
  cases t with
  | named | placeholder | interval => rfl
  | collection k cs | chain k cs | image s i cs => exact atomsOfAll_eq_flatMap cs
  | _ => simp [atoms, isAtom, kind, Kind.category, components]

lemma components_of_isAtom (h : t.isAtom = true) : t.components = [] := by
  cases t with
  | named | placeholder | interval => rfl
  | _ => cases h

lemma atoms_eq_filter_walk (t : Term) : t.atoms = t.walk.filter isAtom := by
  induction t using byComponents with
  | h t ih =>
    rw [atoms_eq, walk_eq, List.filter_cons]
    cases h : t.isAtom with
    | true => simp [components_of_isAtom h]
    | false =>
      rw [if_neg Bool.false_ne_true, if_neg Bool.false_ne_true, List.filter_flatMap]
      exact List.flatMap_congr ih

lemma atomsOf_eq_firstOccurrences (ts : List Term) :
    atomsOf ts = firstOccurrences ((ts.flatMap walk).filter isAtom) := by
  rw [atomsOf, firsts_eq_firstOccurrences, atomsOfAll_eq_flatMap, List.filter_flatMap]
  congr 1
  exact List.flatMap_congr fun t _ => atoms_eq_filter_walk t

lemma mem_atomsOfAll_iff : a ∈ atomsOfAll ts ↔ a.isAtom = true ∧ ∃ t ∈ ts, PartOf a t := by
  simp only [atomsOfAll_eq_flatMap, List.mem_flatMap, atoms_eq_filter_walk, List.mem_filter, mem_walk_iff]
  constructor
  · rintro ⟨t, ht, ha, hatom⟩
    exact ⟨hatom, t, ht, ha⟩
  · rintro ⟨hatom, t, ht, ha⟩
    exact ⟨t, ht, ha, hatom⟩

lemma isAtom_of_same (h : a.same b = true) : a.isAtom = b.isAtom := by
  cases matches_of_same h <;> rfl

lemma exists_same_atomsOf_iff (ha : a.isAtom = true) :
    (∃ b ∈ atomsOf ts, a.same b = true) ↔ ∃ t ∈ ts, t.contains a = true := by
  constructor
  · rintro ⟨b, hb, hab⟩
    obtain ⟨-, t, ht, hpart⟩ := mem_atomsOfAll_iff.1 (mem_of_mem_firsts hb)
    exact ⟨t, ht, contains_iff.2 ⟨b, hpart, same_symm hab⟩⟩
  · rintro ⟨t, ht, h⟩
    obtain ⟨b, hpart, hba⟩ := contains_iff.1 h
    have hb : b ∈ atomsOfAll ts := mem_atomsOfAll_iff.2 ⟨(isAtom_of_same hba).trans ha, t, ht, hpart⟩
    obtain ⟨c, hc, hcb⟩ := exists_mem_firsts hb
    exact ⟨c, hc, same_symm (same_trans hcb hba)⟩

lemma exists_contains_of_sameInOrder (h : SameInOrder ts us) (ht : ∃ t ∈ ts, t.contains a = true) :
    ∃ u ∈ us, u.contains a = true := by
  obtain ⟨t, ht, ha⟩ := ht
  obtain ⟨u, hu, htu⟩ := h.exists_same ht
  exact ⟨u, hu, contains_of_same htu (same_refl a) ha⟩

lemma sameMembers_atomsOf (h : SameInOrder ts us) : SameMembers (atomsOf ts) (atomsOf us) := by
  have hsymm : SameInOrder us ts := sameInOrder_symm (fun _ _ => same_symm) h
  have hfound : ∀ {ts us}, SameInOrder ts us → ∀ c ∈ atomsOf ts, ∃ d ∈ atomsOf us, c.same d = true := by
    intro ts us h c hc
    obtain ⟨hatom, -⟩ := mem_atomsOfAll_iff.1 (mem_of_mem_firsts hc)
    have hts := (exists_same_atomsOf_iff hatom).1 ⟨c, hc, same_refl c⟩
    exact (exists_same_atomsOf_iff hatom).2 (exists_contains_of_sameInOrder h hts)
  refine ⟨hfound h, fun d hd => ?_⟩
  obtain ⟨c, hc, hdc⟩ := hfound hsymm d hd
  exact ⟨c, hc, same_symm hdc⟩

/-- No two of the atoms of a list of terms are equal; they are, up to equality, the atoms that the terms contain,
in the order in which a walk through the terms meets them, and a term may stand for an equal one. -/
theorem atomsOf_lists_atoms (ts : List Term) :
    (atomsOf ts).Pairwise (fun a b => a.same b = false) ∧
      (∀ a : Term, a.isAtom = true →
        ((∃ b ∈ atomsOf ts, a.same b = true) ↔ ∃ t ∈ ts, t.contains a = true)) ∧
      atomsOf ts = firstOccurrences ((ts.flatMap walk).filter isAtom) ∧
      ∀ before t u behind, ts = before ++ t :: behind → t.same u = true →
        SameMembers (atomsOf ts) (atomsOf (before ++ u :: behind)) := by
  refine ⟨pairwise_firsts _, fun a => exists_same_atomsOf_iff, atomsOf_eq_firstOccurrences ts, ?_⟩
  rintro before t u behind rfl h
  exact sameMembers_atomsOf (sameInOrder_fill h before behind)

theorem likeness_atomsOf_lists_atoms :
    let word (n : Text) := Term.named .word n
    let set := Term.collection (.set .intension) [.negation (likeness "b" "a"), .placeholder]
    let turned := Term.collection (.set .intension) [.placeholder, .negation (likeness "a" "b")]
    set.same turned = true ∧
      (∃ c ∈ atomsOf [word "a", set], (word "b").same c = true) ∧
      SameMembers (atomsOf [word "a", set]) (atomsOf [word "a", turned]) := by
  intro word set turned
  obtain ⟨-, hmem, -, hsame⟩ := atomsOf_lists_atoms [word "a", set]
  have h : set.same turned = true := by decide
  exact ⟨h, (hmem (word "b") rfl).2 ⟨set, by simp, by decide⟩, hsame [word "a"] set turned [] rfl h⟩

end NarseseDialects.Term
