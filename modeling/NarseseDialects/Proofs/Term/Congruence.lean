import Mathlib.Data.List.Induction
import NarseseDialects.Proofs.Number.Written
import NarseseDialects.Proofs.Term.Equality
import NarseseDialects.Proofs.Value.Made

namespace NarseseDialects.Term

variable {t u : Term} {cs ds : List Term}

lemma same_collection_iff {k : CollectionKind} :
    (collection k cs).same (collection k ds) = true ↔ SameMembers cs ds := by
  constructor
  · intro h
    cases matches_of_same h with
    | collection k hm => exact hm
  · exact fun hm => (Matches.collection k hm).same

lemma exists_mem_firsts (h : t ∈ cs) : ∃ d ∈ firsts cs, d.same t = true := by
  induction cs with
  | nil => cases h
  | cons c cs ih =>
    rcases List.mem_cons.1 h with rfl | h
    · exact ⟨t, List.mem_cons_self, same_refl t⟩
    obtain ⟨d, hd, hdt⟩ := ih h
    by_cases hcd : c.same d = true
    · exact ⟨c, List.mem_cons_self, same_trans hcd hdt⟩
    · exact ⟨d, List.mem_cons_of_mem c (List.mem_filter.2 ⟨hd, by simpa using hcd⟩), hdt⟩

lemma same_collection_firsts (k : CollectionKind) (cs : List Term) :
    (collection k (firsts cs)).same (collection k cs) = true := by
  apply same_collection_iff.2
  refine ⟨fun c hc => ⟨c, mem_of_mem_firsts hc, same_refl c⟩, fun c hc => ?_⟩
  obtain ⟨d, hd, hdc⟩ := exists_mem_firsts hc
  exact ⟨d, hd, hdc⟩

lemma same_collection_firsts_iff {k : CollectionKind} :
    (collection k (firsts cs)).same (collection k (firsts ds)) = true ↔ SameMembers cs ds := by
  have hc := same_collection_firsts k cs
  have hd := same_collection_firsts k ds
  rw [← same_collection_iff (k := k)]
  exact ⟨fun h => same_trans (same_symm hc) (same_trans h hd), fun h => same_trans hc (same_trans h (same_symm hd))⟩

def firstOccurrences (cs : List Term) : List Term :=
  (cs.zipIdx.filter fun p => (cs.take p.2).all fun c => !c.same p.1).map Prod.fst

lemma firsts_concat (cs : List Term) (c : Term) :
    firsts (cs ++ [c]) = firsts cs ++ if cs.all fun b => !b.same c then [c] else [] := by
  induction cs with
  | nil => rfl
  | cons b cs ih =>
    rw [List.cons_append, firsts, firsts, ih, List.filter_append, List.cons_append, List.all_cons]
    congr 2
    by_cases hc : cs.all fun b => !b.same c
    · cases hb : b.same c <;> simp [hc, hb]
    · simp [hc]

lemma firstOccurrences_concat (cs : List Term) (c : Term) :
    firstOccurrences (cs ++ [c]) = firstOccurrences cs ++ if cs.all fun b => !b.same c then [c] else [] := by
  have hfront : ∀ p ∈ cs.zipIdx, (cs ++ [c]).take p.2 = cs.take p.2 := by
    intro p hp
    exact List.take_append_of_le_length (Nat.le_of_lt (by simpa using List.snd_lt_of_mem_zipIdx hp))
  rw [firstOccurrences, List.zipIdx_append, List.filter_append, List.map_append]
  congr 1
  · rw [firstOccurrences, List.filter_congr fun p hp => by rw [hfront p hp]]
  · simp only [List.zipIdx_singleton, Nat.zero_add, List.filter_singleton, List.take_left]
    cases cs.all fun b => !b.same c <;> rfl

lemma firsts_eq_firstOccurrences (cs : List Term) : firsts cs = firstOccurrences cs := by
  induction cs using List.reverseRecOn with
  | nil => rfl
  | append_singleton cs c ih => rw [firsts_concat, firstOccurrences_concat, ih]

def gap? : Term → Option Nat
  | image _ i _ => some i
  | _ => none

lemma eq_of_components (hk : t.kind = u.kind) (hn : t.name = u.name) (hg : t.gap? = u.gap?)
    (hc : t.components = u.components) : t = u := by
  cases t <;> cases u <;> cases hk
  case named.named.refl =>
    cases hn
    rfl
  case interval.interval.refl => rw [Text.ofNat_injective hn]
  case image.image.refl =>
    cases hg
    cases hc
    rfl
  all_goals
    cases hc
    rfl

lemma parts_of_same (h : t.kind.capacity.isUnordered = false) (hs : t.same u = true) :
    t.kind = u.kind ∧ t.name = u.name ∧ t.gap? = u.gap? ∧ SameInOrder t.components u.components := by
  cases matches_of_same hs with
  | named | placeholder | interval => exact ⟨rfl, rfl, rfl, .nil⟩
  | collection | symmetric => cases h
  | chain k hc => exact ⟨rfl, rfl, rfl, hc⟩
  | difference s ha hb => exact ⟨rfl, rfl, rfl, .cons ha (.cons hb .nil)⟩
  | negation ha => exact ⟨rfl, rfl, rfl, .cons ha .nil⟩
  | image s i hc => exact ⟨rfl, rfl, rfl, hc⟩
  | ordered c ha hb => exact ⟨rfl, rfl, rfl, .cons ha (.cons hb .nil)⟩

lemma same_of_parts (h : t.kind.capacity.isUnordered = false) (hk : t.kind = u.kind) (hn : t.name = u.name)
    (hg : t.gap? = u.gap?) (hc : SameInOrder t.components u.components) : t.same u = true := by
  apply Matches.same
  cases t with
  | collection | symmetric => cases h
  | named k n =>
    cases u with
    | named l m =>
      cases hk
      cases hn
      exact .named k n
    | _ => cases hk
  | placeholder =>
    cases u with
    | placeholder => exact .placeholder
    | _ => cases hk
  | interval n =>
    cases u with
    | interval m =>
      obtain rfl := Text.ofNat_injective hn
      exact .interval n
    | _ => cases hk
  | chain k cs =>
    cases u with
    | chain l ds =>
      cases hk
      exact .chain k hc
    | _ => cases hk
  | difference s a b =>
    cases u with
    | difference r x y =>
      cases hk
      obtain ⟨ha, hb⟩ : a.same x = true ∧ b.same y = true := by simpa [components] using hc
      exact .difference s ha hb
    | _ => cases hk
  | negation a =>
    cases u with
    | negation x => exact .negation (by simpa [components] using hc)
    | _ => cases hk
  | image s i cs =>
    cases u with
    | image r j ds =>
      cases hk
      cases hg
      exact .image s i hc
    | _ => cases hk
  | ordered c a b =>
    cases u with
    | ordered e x y =>
      cases hk
      obtain ⟨ha, hb⟩ : a.same x = true ∧ b.same y = true := by simpa [components] using hc
      exact .ordered c ha hb
    | _ => cases hk

lemma same_iff_of_inOrder (h : t.kind.capacity.isUnordered = false) :
    t.same u = true ↔ t.kind = u.kind ∧ t.name = u.name ∧ t.gap? = u.gap? ∧ SameInOrder t.components u.components :=
  ⟨parts_of_same h, fun ⟨hk, hn, hg, hc⟩ => same_of_parts h hk hn hg hc⟩

lemma same_symmetric_iff {c e : SymmetricCopula} {a b x y : Term} :
    (symmetric c a b).same (symmetric e x y) = true ↔
      c = e ∧ (a.same x = true ∧ b.same y = true ∨ a.same y = true ∧ b.same x = true) := by
  rw [← sameMembers_pair_iff]
  constructor
  · intro h
    cases matches_of_same h with
    | symmetric c hm => exact ⟨rfl, hm⟩
  · rintro ⟨rfl, hm⟩
    exact (Matches.symmetric c hm).same

inductive Hole where
  | collection (kind : CollectionKind) (before behind : List Term)
  | chain (kind : Chain) (before behind : List Term)
  | minuend (side : Side) (right : Term)
  | subtrahend (side : Side) (left : Term)
  | negation
  | image (side : Side) (index : Nat) (before behind : List Term)
  | subject (copula : OrderedCopula) (predicate : Term)
  | predicate (copula : OrderedCopula) (subject : Term)
  | left (copula : SymmetricCopula) (right : Term)
  | right (copula : SymmetricCopula) (left : Term)

/-- The term whose component is put into the hole; a collection is made anew. -/
def Hole.fill : Hole → Term → Term
  | collection k xs ys, t => .collection k (firsts (xs ++ t :: ys))
  | chain k xs ys, t => .chain k (xs ++ t :: ys)
  | minuend s b, t => .difference s t b
  | subtrahend s a, t => .difference s a t
  | negation, t => .negation t
  | image s i xs ys, t => .image s i (xs ++ t :: ys)
  | subject c b, t => .ordered c t b
  | predicate c a, t => .ordered c a t
  | left c b, t => .symmetric c t b
  | right c a, t => .symmetric c a t

def fill (holes : List Hole) (t : Term) : Term := holes.foldr Hole.fill t

inductive PartOf (a : Term) : Term → Prop
  | self : PartOf a a
  | inner {c t : Term} : c ∈ t.components → PartOf a c → PartOf a t

lemma wellFormed_of_mem_components {c : Term} (ht : t.WellFormed) (hc : c ∈ t.components) : c.WellFormed := by
  cases t with
  | named | placeholder | interval => cases hc
  | collection k cs => exact wellFormedAll_iff.1 ht.2.2 c hc
  | chain k cs => exact wellFormedAll_iff.1 ht.2 c hc
  | image s i cs => exact wellFormedAll_iff.1 ht.2.2 c hc
  | difference | ordered | symmetric =>
    rcases List.mem_pair.1 hc with rfl | rfl
    · exact ht.1
    · exact ht.2
  | negation a =>
    obtain rfl := List.mem_singleton.1 hc
    exact ht

lemma wellFormed_of_partOf {a : Term} (ht : t.WellFormed) (h : PartOf a t) : a.WellFormed := by
  induction h with
  | self => exact ht
  | inner hc _ ih => exact ih (wellFormed_of_mem_components ht hc)

lemma exists_hole {c : Term} (ht : t.WellFormed) (hc : c ∈ t.components) : ∃ o : Hole, o.fill c = t := by
  cases t with
  | named | placeholder | interval => cases hc
  | collection k cs =>
    obtain ⟨xs, ys, rfl⟩ := List.append_of_mem hc
    exact ⟨.collection k xs ys, congrArg (Term.collection k) (firsts_eq_self ht.2.1)⟩
  | chain k cs =>
    obtain ⟨xs, ys, rfl⟩ := List.append_of_mem hc
    exact ⟨.chain k xs ys, rfl⟩
  | difference s a b =>
    rcases List.mem_pair.1 hc with rfl | rfl
    · exact ⟨.minuend s b, rfl⟩
    · exact ⟨.subtrahend s a, rfl⟩
  | negation a =>
    obtain rfl := List.mem_singleton.1 hc
    exact ⟨.negation, rfl⟩
  | image s i cs =>
    obtain ⟨xs, ys, rfl⟩ := List.append_of_mem hc
    exact ⟨.image s i xs ys, rfl⟩
  | ordered k a b =>
    rcases List.mem_pair.1 hc with rfl | rfl
    · exact ⟨.subject k b, rfl⟩
    · exact ⟨.predicate k a, rfl⟩
  | symmetric k a b =>
    rcases List.mem_pair.1 hc with rfl | rfl
    · exact ⟨.left k b, rfl⟩
    · exact ⟨.right k a, rfl⟩

lemma exists_fill_of_partOf {a : Term} (h : PartOf a t) (ht : t.WellFormed) : ∃ holes, fill holes a = t := by
  induction h with
  | self => exact ⟨[], rfl⟩
  | inner hc _ ih =>
    obtain ⟨holes, rfl⟩ := ih (wellFormed_of_mem_components ht hc)
    obtain ⟨o, rfl⟩ := exists_hole ht hc
    exact ⟨o :: holes, rfl⟩

lemma sameInOrder_fill {a b : Term} (h : a.same b = true) (xs ys : List Term) :
    SameInOrder (xs ++ a :: ys) (xs ++ b :: ys) := by
  have hrefl : ∀ zs, SameInOrder zs zs := fun zs => List.forall₂_same.2 fun z _ => same_refl z
  exact List.rel_append (hrefl xs) (.cons h (hrefl ys))

lemma sameMembers_fill {a b : Term} (h : a.same b = true) (xs ys : List Term) :
    SameMembers (xs ++ a :: ys) (xs ++ b :: ys) := by
  have hother : ∀ {c z}, c ∈ xs ++ z :: ys → c = z ∨ ∀ w, c ∈ xs ++ w :: ys := by
    intro c z hc
    simp only [List.mem_append, List.mem_cons] at hc ⊢
    tauto
  constructor
  · intro c hc
    rcases hother hc with rfl | hc
    · exact ⟨b, by simp, h⟩
    · exact ⟨c, hc b, same_refl c⟩
  · intro c hc
    rcases hother hc with rfl | hc
    · exact ⟨a, by simp, h⟩
    · exact ⟨c, hc a, same_refl c⟩

lemma Hole.same_fill (o : Hole) {a b : Term} (h : a.same b = true) : (o.fill a).same (o.fill b) = true := by
  cases o with
  | collection k xs ys => exact same_collection_firsts_iff.2 (sameMembers_fill h xs ys)
  | chain k xs ys => exact (Matches.chain k (sameInOrder_fill h xs ys)).same
  | minuend s r => exact (Matches.difference s h (same_refl r)).same
  | subtrahend s l => exact (Matches.difference s (same_refl l) h).same
  | negation => exact (Matches.negation h).same
  | image s i xs ys => exact (Matches.image s i (sameInOrder_fill h xs ys)).same
  | subject c p => exact (Matches.ordered c h (same_refl p)).same
  | predicate c s => exact (Matches.ordered c (same_refl s) h).same
  | left c r => exact (Matches.symmetric c (sameMembers_fill h [] [r])).same
  | right c l => exact (Matches.symmetric c (sameMembers_fill h [l] [])).same

lemma same_fill (holes : List Hole) {a b : Term} (h : a.same b = true) :
    (fill holes a).same (fill holes b) = true := by
  induction holes with
  | nil => exact h
  | cons o holes ih => exact o.same_fill ih

end NarseseDialects.Term
