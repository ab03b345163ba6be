import NarseseDialects.Proofs.Composition
import NarseseDialects.Proofs.Reading.Spelled
import NarseseDialects.Proofs.Value.Native
import NarseseDialects.Proofs.ValueRoundTrip

namespace NarseseDialects

lemma DialectName.tellsTenses (n : DialectName) : Meaning.TellsTenses n.dialect := by
  cases n with
  | ascii => exact Reading.tellsTenses .ascii
  | latex => exact Reading.tellsTenses .latex
  | han => exact Reading.tellsTenses .han

namespace Meaning

section

variable {d : Dialect} {v : Value} {n : Lexical.Node} (h : unfolded? d v = some n)

include h

lemma subject_of_unfolded : Lexical.Node.subject n = unfoldTerm d v.subject := by
  cases v with
  | term t =>
    cases h
    rfl
  | sentence x =>
    obtain ⟨y, hy, rfl⟩ := Option.map_eq_some_iff.1 h
    obtain ⟨stamp, -, rfl⟩ := Option.map_eq_some_iff.1 hy
    rfl
  | task k =>
    obtain ⟨y, hy, rfl⟩ := unfolded?_task.1 h
    obtain ⟨stamp, -, rfl⟩ := Option.map_eq_some_iff.1 hy
    rfl

lemma kind_of_unfolded : n.kind = v.kind := by
  cases v with
  | term t =>
    cases h
    rfl
  | sentence x =>
    obtain ⟨y, -, rfl⟩ := Option.map_eq_some_iff.1 h
    rfl
  | task k =>
    obtain ⟨y, -, rfl⟩ := Option.map_eq_some_iff.1 h
    rfl

end

end Meaning

namespace Reading

open Lexical Meaning Outcome

variable {d : Dialect} {stop : Nat}

lemma exists_readsTerm_subject {region whole : Text} {start : Nat} {p : Parse}
    (h : ReadsRegion d region whole start p) :
    ∃ k cs rest, cs ⊆ region ∧ ReadsTerm d k cs (Node.subject (node p)) rest := by
  have hclause : ∀ {inner c}, inner <:+ region → ReadsClause d inner (start + region.length) c →
      ∃ k cs rest, cs ⊆ region ∧ ReadsTerm d k cs c.term rest := by
    intro inner c hi hc
    cases hc with
    | @intro tail before t hr _ hw =>
      obtain ⟨rest, ht, -⟩ := hw
      have hb : before ⊆ region := List.Subset.trans (prefix_of_readTail hr).subset hi.subset
      exact ⟨_, _, rest, List.Subset.trans (skip_suffix before).subset hb, ht⟩
  cases h with
  | term _ _ hw =>
    obtain ⟨rest, ht, -⟩ := hw
    exact ⟨_, region, rest, List.Subset.refl _, ht⟩
  | sentence _ hc => exact hclause List.suffix_rfl hc
  | task hh hc => exact hclause ⟨_, (eq_append_of_readHead hh).symm⟩ hc

lemma readValue_of_same {text : Text} {x : Node} {v : Value}
    (h : (readLexical d text).toOption.map (Node.same · x) = some true) (hf : fold d x = .ok v) :
    readValue d text = .ok v := by
  obtain ⟨m, hm, hsame⟩ := exists_of_toOption_map h
  exact (readValue_eq_ok_iff hm v).2 ((fold_congr hsame).2 hf)

lemma suits_anyName : Spelling.latex.Suits anyName :=
  ⟨fun hn _ => hn, fun m => (Bool.and_eq_true_iff.1 (Spelling.latex.fits_ofNat m)).1, rfl⟩

variable {n : DialectName} {text : Text} {v : Value}

lemma exists_readsRegion_of_readValue (h : readValue n.dialect text = .ok v) :
    ∃ p, ReadsRegion n.dialect (nonblank n.dialect text) (nonblank n.dialect text) 0 p ∧
      fold n.dialect (node p) = .ok v := by
  obtain ⟨m, hm⟩ := readLexical_isOk_of_readValue h
  obtain ⟨-, p, hp, rfl⟩ := exists_readsRegion_of_readLexical hm
  have hf := (readValue_eq_ok_iff hm v).1 h
  rw [← fold_shape, Node.shape_relocate, fold_shape] at hf
  exact ⟨p, hp, hf⟩

lemma wellFormed_of_readValue (h : readValue n.dialect text = .ok v) : v.WellFormed ∧ v.Spellable .latex := by
  obtain ⟨p, hp, hf⟩ := exists_readsRegion_of_readValue h
  exact wellFormed_of_fold (spelled_node hp).numerals hf

lemma native_of_readValue (h : readValue n.dialect text = .ok v) : v.subject.Native n.dialect := by
  obtain ⟨p, hp, hf⟩ := exists_readsRegion_of_readValue h
  obtain ⟨k, cs, rest, hcs, ht⟩ := exists_readsTerm_subject hp
  exact native_of_readsTerm n.clearTerms n.clearCuts (fun c hc => not_isSpace_of_mem_nonblank (hcs hc)) ht
    (foldTerm_subject hf)

section

variable (h : readValue n.dialect text = .ok v)

include h

lemma exists_unfolded_of_readValue (d : Dialect) : ∃ x, unfolded? d v = some x :=
  exists_unfolded (wellFormed_of_readValue h).2.stamp d

lemma spelled_unfoldTerm_anyName (d : Dialect) : (unfoldTerm d v.subject).Spelled d anyName := by
  obtain ⟨hw, hs⟩ := wellFormed_of_readValue h
  exact spelled_unfoldTerm suits_anyName hw hs.subject

lemma eachAtom_unfold (m : DialectName) :
    (unfoldTerm m.dialect v.subject).EachAtom m.dialect
      (fun _ x e => x.all Text.isNameChar = true ∧ Ends m.dialect e) [] :=
  eachAtom_of_spelled (spelled_unfoldTerm_anyName h m.dialect) (.inl rfl)

section

variable {m : DialectName} {x : Node} (hx : unfolded? m.dialect v = some x)

include hx

lemma spelled_unfold_anyName : Node.Spelled m.dialect anyName x := by
  obtain ⟨hw, hs⟩ := wellFormed_of_readValue h
  exact spelled_unfold_of_suits suits_anyName hw hs hx

lemma readValue_of_readLexical {y : Node} (hy : readLexical m.dialect (x.write m.dialect) = .ok y)
    (hs : Node.same y x = true) :
    readValue m.dialect (x.write m.dialect) = .ok v := by
  obtain ⟨hw, hsp⟩ := wellFormed_of_readValue h
  rw [readValue_eq_ok_iff hy, fold_congr hs]
  exact fold_of_unfolded m.tellsTenses.tellsStamps hw hsp.subject hx

end

end

end Reading

end NarseseDialects
