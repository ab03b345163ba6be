import NarseseDialects.Proofs.Lexical.Shape

namespace NarseseDialects.Lexical

namespace Term

mutual

def subterms : Term → List Term
  | atom p n s => [atom p n s]
  | compound c ts s => compound c ts s :: subtermsAll ts
  | set l ts r s => set l ts r s :: subtermsAll ts
  | statement c t u s => statement c t u s :: (subterms t ++ subterms u)

def subtermsAll : List Term → List Term
  | [] => []
  | t :: ts => subterms t ++ subtermsAll ts

end

lemma mem_subterms_self (t : Term) : t ∈ t.subterms := by
  cases t with
  | atom p n s => exact List.mem_singleton_self _
  | compound c ts s => exact List.mem_cons_self
  | set l ts r s => exact List.mem_cons_self
  | statement c t u s => exact List.mem_cons_self

lemma mem_subtermsAll {t : Term} {ts : List Term} (h : t ∈ ts) : t ∈ subtermsAll ts := by
  induction ts with
  | nil => cases h
  | cons u us ih =>
    rcases List.mem_cons.1 h with rfl | h
    · exact List.mem_append_left _ (mem_subterms_self t)
    · exact List.mem_append_right _ (ih h)

lemma mem_subterms_of_mem_children {t u : Term} (h : u ∈ t.children) : u ∈ t.subterms := by
  cases t with
  | atom p n s => cases h
  | compound c ts s => exact List.mem_cons_of_mem _ (mem_subtermsAll h)
  | set l ts r s => exact List.mem_cons_of_mem _ (mem_subtermsAll h)
  | statement c t v s =>
    rcases List.mem_cons.1 h with rfl | h
    · exact List.mem_cons_of_mem _ (List.mem_append_left _ (mem_subterms_self u))
    · obtain rfl := List.mem_singleton.1 h
      exact List.mem_cons_of_mem _ (List.mem_append_right _ (mem_subterms_self u))

lemma children_relocate (f : Nat → Nat) (t : Term) : (t.relocate f).children = t.children.map (relocate f) := by
  cases t with
  | atom p n s => rfl
  | compound c ts s => exact relocateAll_eq_map f ts
  | set l ts r s => exact relocateAll_eq_map f ts
  | statement c t u s => rfl

mutual

lemma subterms_relocate (f : Nat → Nat) (t : Term) : (t.relocate f).subterms = t.subterms.map (relocate f) := by
  cases t with
  | atom p n s => rfl
  | compound c ts s => rw [relocate, subterms, subterms, subtermsAll_relocate, List.map_cons, relocate]
  | set l ts r s => rw [relocate, subterms, subterms, subtermsAll_relocate, List.map_cons, relocate]
  | statement c t u s =>
    rw [relocate, subterms, subterms, subterms_relocate f t, subterms_relocate f u, List.map_cons,
      List.map_append, relocate]

lemma subtermsAll_relocate (f : Nat → Nat) (ts : List Term) :
    subtermsAll (relocateAll f ts) = (subtermsAll ts).map (relocate f) := by
  cases ts with
  | nil => rfl
  | cons t ts =>
    rw [relocateAll, subtermsAll, subtermsAll, subterms_relocate f t, subtermsAll_relocate f ts,
      List.map_append]

end

end Term

namespace Node

def parts : Node → List Node
  | .term t => t.subterms.map .term
  | .sentence s => .sentence s :: s.term.subterms.map .term
  | .task k => .task k :: .sentence k.sentence :: k.sentence.term.subterms.map .term

lemma parts_relocate (f : Nat → Nat) (n : Node) : parts (relocate f n) = (parts n).map (relocate f) := by
  have ht : ∀ t : Term, (t.relocate f).subterms.map (fun u => (.term u : Node)) =
      (t.subterms.map .term).map (relocate f) := by
    intro t
    rw [Term.subterms_relocate, List.map_map, List.map_map]
    rfl
  cases n with
  | term t => exact ht t
  | sentence s => exact congrArg (List.cons _) (ht s.term)
  | task k => exact congrArg (fun ts => _ :: _ :: ts) (ht k.sentence.term)

lemma spot_relocate (f : Nat → Nat) (n : Node) : spot (relocate f n) = (spot n).map f := by
  cases n with
  | term t => exact Term.spot_relocate f t
  | sentence s => rfl
  | task k => rfl

end Node

end NarseseDialects.Lexical
