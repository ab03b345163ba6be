import NarseseDialects.Proofs.Dialect.Literals
import NarseseDialects.Proofs.Lexical.Parts
import NarseseDialects.Proofs.Reading.Nonblank

namespace NarseseDialects.Reading

open Lexical

variable {d : Dialect} {i j : Nat}

mutual

lemma exists_readsTerm_at {cs rest : Text} {t : Lexical.Term} (h : ReadsTerm d i cs t rest) :
    ∃ u, u.shape = t.shape ∧ ReadsTerm d j cs u rest := by
  cases h with
  | set hs ho hl hm =>
    obtain ⟨us, hus, hm'⟩ := exists_readsMembers_at hm
    exact ⟨_, by simp only [Term.shape, hus], .set hs ho hl hm'⟩
  | compound hs hc hf hp ho hm =>
    obtain ⟨us, hus, hm'⟩ := exists_readsMembers_at hm
    exact ⟨_, by simp only [Term.shape, hus], .compound hs hc hf hp ho hm'⟩
  | statement hs hc hl h₁ hf h₂ hr =>
    obtain ⟨u₁, hu₁, h₁'⟩ := exists_readsTerm_at h₁
    obtain ⟨u₂, hu₂, h₂'⟩ := exists_readsTerm_at h₂
    exact ⟨_, by simp only [Term.shape, hu₁, hu₂], .statement hs hc hl h₁' hf h₂' hr⟩
  | atom hs hc hl hf hn =>
    have h' : ReadsTerm d j cs _ _ := .atom hs hc hl hf hn
    refine ⟨_, ?_, h'⟩
    rfl

lemma exists_readsMembers_at {right cs rest : Text} {ts : List Lexical.Term}
    (h : ReadsMembers d i right cs ts rest) :
    ∃ us, Term.shapeAll us = Term.shapeAll ts ∧ ReadsMembers d j right cs us rest := by
  cases h with
  | last ht hs hr =>
    obtain ⟨u, hu, ht'⟩ := exists_readsTerm_at ht
    exact ⟨[u], by simp only [Term.shapeAll, hu], .last ht' hs hr⟩
  | more ht hs hm =>
    obtain ⟨u, hu, ht'⟩ := exists_readsTerm_at ht
    obtain ⟨us, hus, hm'⟩ := exists_readsMembers_at hm
    exact ⟨u :: us, by simp only [Term.shapeAll, hu, hus], .more ht' hs hm'⟩

end

lemma exists_readsWhole_at {cs : Text} {t : Lexical.Term} (h : ReadsWhole d i cs t) :
    ∃ u, u.shape = t.shape ∧ ReadsWhole d j cs u := by
  obtain ⟨rest, ht, hr⟩ := h
  obtain ⟨u, hu, ht'⟩ := exists_readsTerm_at (j := j) ht
  exact ⟨u, hu, rest, ht', hr⟩

lemma skip_suffix (cs : Text) : skip d cs <:+ cs := List.dropWhile_suffix _

lemma suffix_of_opening? {p cs r : Text} (h : opening? p (skip d cs) = some r) : r <:+ cs :=
  (eq_append_of_opening? h ▸ List.suffix_append p r : r <:+ skip d cs).trans (skip_suffix cs)

lemma suffix_of_front? {l : Lexicon} {cs e r : Text} (h : l.front? (skip d cs) = some (e, r)) : r <:+ cs :=
  ((Lexicon.mem_of_front? h).2 ▸ List.suffix_append e r : r <:+ skip d cs).trans (skip_suffix cs)

lemma suffix_of_left? {cs left right r : Text} (h : d.sets.family.left? (skip d cs) = some (left, right, r)) :
    r <:+ cs :=
  (BracketFamily.eq_append_of_left? h ▸ List.suffix_append _ r : r <:+ skip d cs).trans (skip_suffix cs)

mutual

lemma suffix_of_readsTerm {cs rest : Text} {t : Lexical.Term} (h : ReadsTerm d i cs t rest) : rest <:+ cs := by
  cases h with
  | set hs _ _ hm => exact (suffix_of_readsMembers hm).trans ((skip_suffix _).trans (suffix_of_left? hs))
  | compound _ hc hf hp _ hm =>
    exact (suffix_of_readsMembers hm).trans ((skip_suffix _).trans
      ((suffix_of_opening? hp).trans ((suffix_of_front? hf).trans (suffix_of_opening? hc))))
  | statement _ _ hl h₁ hf h₂ hr =>
    exact (suffix_of_opening? hr).trans ((suffix_of_readsTerm h₂).trans
      ((suffix_of_front? hf).trans ((suffix_of_readsTerm h₁).trans (suffix_of_opening? hl))))
  | @atom _ _ r _ _ _ hf _ =>
    have hr : (nameSpan d r).2 <:+ r := ⟨_, nameSpan_append d r⟩
    exact hr.trans (suffix_of_front? hf)

lemma suffix_of_readsMembers {right cs rest : Text} {ts : List Lexical.Term}
    (h : ReadsMembers d i right cs ts rest) : rest <:+ cs := by
  cases h with
  | last ht _ hr => exact (suffix_of_opening? hr).trans (suffix_of_readsTerm ht)
  | more ht hs hm =>
    exact (suffix_of_readsMembers hm).trans ((suffix_of_opening? hs).trans (suffix_of_readsTerm ht))

end

lemma spot_of_readsTerm {cs rest : Text} {t : Lexical.Term} (h : ReadsTerm d i cs t rest) :
    t.spot = some (place i (skip d cs)) := by
  cases h <;> rfl

mutual

lemma exists_readsTerm_of_mem_subterms {cs rest : Text} {t u : Lexical.Term} (h : ReadsTerm d i cs t rest)
    (hu : u ∈ t.subterms) : ∃ cs' rest', cs' <:+ cs ∧ ReadsTerm d i cs' u rest' := by
  cases h with
  | set hs ho hl hm =>
    rcases List.mem_cons.1 hu with rfl | hu
    · exact ⟨cs, rest, List.suffix_rfl, .set hs ho hl hm⟩
    · obtain ⟨cs', rest', hcs', h'⟩ := exists_readsTerm_of_mem_subtermsAll hm hu
      exact ⟨cs', rest', hcs'.trans ((skip_suffix _).trans (suffix_of_left? hs)), h'⟩
  | compound hs hc hf hp ho hm =>
    rcases List.mem_cons.1 hu with rfl | hu
    · exact ⟨cs, rest, List.suffix_rfl, .compound hs hc hf hp ho hm⟩
    · obtain ⟨cs', rest', hcs', h'⟩ := exists_readsTerm_of_mem_subtermsAll hm hu
      exact ⟨cs', rest', hcs'.trans ((skip_suffix _).trans ((suffix_of_opening? hp).trans
        ((suffix_of_front? hf).trans (suffix_of_opening? hc)))), h'⟩
  | statement hs hc hl h₁ hf h₂ hr =>
    have hsubject := suffix_of_opening? hl
    rcases List.mem_cons.1 hu with rfl | hu
    · exact ⟨cs, rest, List.suffix_rfl, .statement hs hc hl h₁ hf h₂ hr⟩
    rcases List.mem_append.1 hu with hu | hu
    · obtain ⟨cs', rest', hcs', h'⟩ := exists_readsTerm_of_mem_subterms h₁ hu
      exact ⟨cs', rest', hcs'.trans hsubject, h'⟩
    · obtain ⟨cs', rest', hcs', h'⟩ := exists_readsTerm_of_mem_subterms h₂ hu
      exact ⟨cs', rest', hcs'.trans ((suffix_of_front? hf).trans ((suffix_of_readsTerm h₁).trans hsubject)), h'⟩
  | atom hs hc hl hf hn =>
    obtain rfl := List.mem_singleton.1 hu
    exact ⟨cs, _, List.suffix_rfl, .atom hs hc hl hf hn⟩

lemma exists_readsTerm_of_mem_subtermsAll {right cs rest : Text} {ts : List Lexical.Term} {u : Lexical.Term}
    (h : ReadsMembers d i right cs ts rest) (hu : u ∈ Term.subtermsAll ts) :
    ∃ cs' rest', cs' <:+ cs ∧ ReadsTerm d i cs' u rest' := by
  cases h with
  | last ht =>
    rw [Term.subtermsAll, Term.subtermsAll, List.append_nil] at hu
    exact exists_readsTerm_of_mem_subterms ht hu
  | more ht hs hm =>
    rcases List.mem_append.1 hu with hu | hu
    · exact exists_readsTerm_of_mem_subterms ht hu
    · obtain ⟨cs', rest', hcs', h'⟩ := exists_readsTerm_of_mem_subtermsAll hm hu
      exact ⟨cs', rest', hcs'.trans ((suffix_of_opening? hs).trans (suffix_of_readsTerm ht)), h'⟩

end

lemma isIdentifier_of_mem_nameSpan {cs : Text} {c : Char} (h : c ∈ (nameSpan d cs).1) :
    d.isIdentifier c = true := by
  induction cs with
  | nil => cases h
  | cons a cs ih =>
    rw [nameSpan] at h
    split at h
    next ha =>
      rcases List.mem_cons.1 h with rfl | h
      · exact (Bool.and_eq_true_iff.1 ha).1
      · exact ih h
    · cases h

lemma exists_pair_of_left? {cs left right r : Text} (h : d.sets.family.left? cs = some (left, right, r)) :
    ∃ s, left = (d.sets.pair s).left ∧ right = (d.sets.pair s).right ∧ cs = (d.sets.pair s).left ++ r := by
  have hcs := BracketFamily.eq_append_of_left? h
  simp only [BracketFamily.left?, Option.bind_eq_bind, Option.bind_eq_some_iff, Option.pure_def,
    Option.some.injEq] at h
  obtain ⟨⟨a, b⟩, hf, c, hr, he⟩ := h
  cases he
  have hm := (Lexicon.mem_of_front? hf).1
  rw [d.sets.family.mem_lefts, d.sets.family_pairs, List.map_map, List.mem_map] at hm
  obtain ⟨s, -, rfl⟩ := hm
  dsimp only [Function.comp_apply] at hr hcs ⊢
  rw [d.sets.rightOf?_pair s] at hr
  exact ⟨s, rfl, (Option.some.inj hr).symm, hcs⟩

lemma exists_opener {cs rest : Text} {t : Lexical.Term} (h : ReadsTerm d i cs t rest) :
    (∃ a r, (∀ role, a ≠ .sigil role) ∧ skip d cs = Dialect.Opener.literal d a ++ r) ∨
      ∃ role r, skip d cs = d.sigils.literal role ++ r ∧ (nameSpan d r).2 = rest ∧
        ((nameSpan d r).1 = [] → role = .placeholder) := by
  cases h with
  | set hs =>
    obtain ⟨s, -, -, hcs⟩ := exists_pair_of_left? hs
    exact .inl ⟨.set s, _, by simp, hcs⟩
  | compound _ hc => exact .inl ⟨.compound, _, by simp, eq_append_of_opening? hc⟩
  | statement _ _ hl => exact .inl ⟨.statement, _, by simp, eq_append_of_opening? hl⟩
  | @atom _ _ r _ _ _ hf hn =>
    obtain ⟨hm, hcs⟩ := Lexicon.mem_of_front? hf
    obtain ⟨role, rfl⟩ := Vocabulary.mem_lexicon.1 hm
    exact .inr ⟨role, r, hcs, rfl, fun h => d.sigils.literal_injective (hn h)⟩

end NarseseDialects.Reading
