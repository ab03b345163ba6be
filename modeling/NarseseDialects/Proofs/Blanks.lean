import Mathlib.Data.List.Forall2
import NarseseDialects.Dialect.Ascii
import NarseseDialects.Proofs.Agreement
import NarseseDialects.Proofs.Reading.Placement
import NarseseDialects.Proofs.Reading.Places

namespace NarseseDialects.Reading

open Lexical

variable {d : Dialect} {a b : Text} {stop : Nat}

/-- Two indices that point at the same character, or behind the last one that is not blank, or at the
front of texts of blanks. -/
inductive SamePlace (d : Dialect) (a b : Text) : Nat → Nat → Prop
  | character {k i j} : NthAt d a k i → NthAt d b k j → SamePlace d a b i j
  | behind {i j} : EndsAt d a i → EndsAt d b j → SamePlace d a b i j
  | nothing : nonblank d a = [] → nonblank d b = [] → SamePlace d a b 0 0

structure SameNode (d : Dialect) (a b : Text) (m n : Node) : Prop where
  same : Node.same m n = true
  spots : ∃ i j, Node.spot m = some i ∧ Node.spot n = some j ∧ SamePlace d a b i j

inductive SameTree (d : Dialect) (a b : Text) :
    Except (Located Fault) Node → Except (Located Fault) Node → Prop
  | tree {m n} : Node.same m n = true → List.Forall₂ (SameNode d a b) (Node.parts m) (Node.parts n) →
      SameTree d a b (.ok m) (.ok n)
  | fault {l m : Located Fault} : l.cause = m.cause → SamePlace d a b l.offset m.offset →
      SameTree d a b (.error l) (.error m)

inductive SameValue (d : Dialect) (a b : Text) : Except ReadTrouble Value → Except ReadTrouble Value → Prop
  | value (v : Value) : SameValue d a b (.ok v) (.ok v)
  | cause {l m : Located Cause} : l.cause = m.cause → SamePlace d a b l.offset m.offset →
      SameValue d a b (.error (.located l)) (.error (.located m))
  | digits (k : Nat) : SameValue d a b (.error (.tooManyDigits k)) (.error (.tooManyDigits k))

lemma exists_spot_of_readsTerm {cs rest : Text} {t : Lexical.Term} (h : ReadsTerm d stop cs t rest) :
    ∀ u ∈ t.subterms, ∃ i, u.spot = some i := by
  intro u hu
  obtain ⟨cs', rest', -, h'⟩ := exists_readsTerm_of_mem_subterms h hu
  exact ⟨_, spot_of_readsTerm h'⟩

lemma exists_spot_of_readsText {cs : Text} {p : Parse} (h : ReadsText d cs p) :
    ∀ x ∈ Node.parts (node p), ∃ i, Node.spot x = some i := by
  intro x hx
  cases h.2 with
  | term _ _ hw =>
    obtain ⟨rest, ht, -⟩ := hw
    obtain ⟨u, hu, rfl⟩ := List.mem_map.1 hx
    exact exists_spot_of_readsTerm ht u hu
  | sentence _ hc =>
    obtain ⟨-, -, rest, ht, -⟩ := hc
    rcases List.mem_cons.1 hx with rfl | hx
    · exact ⟨_, rfl⟩
    obtain ⟨u, hu, rfl⟩ := List.mem_map.1 hx
    exact exists_spot_of_readsTerm ht u hu
  | task _ hc =>
    obtain ⟨-, -, rest, ht, -⟩ := hc
    rcases List.mem_cons.1 hx with rfl | hx
    · exact ⟨_, rfl⟩
    rcases List.mem_cons.1 hx with rfl | hx
    · exact ⟨_, rfl⟩
    obtain ⟨u, hu, rfl⟩ := List.mem_map.1 hx
    exact exists_spot_of_readsTerm ht u hu

section

variable (hs : d.spacing.strip = true) (h : nonblank d a = nonblank d b)

include hs h

lemma samePlace_locate (k : Nat) :
    SamePlace d a b ((Source.ofText d a).locate k) ((Source.ofText d b).locate k) := by
  by_cases hn : nonblank d a = []
  · rw [locate_of_blank hs hn, locate_of_blank hs (h ▸ hn)]
    exact .nothing hn (h ▸ hn)
  by_cases hk : k < (nonblank d a).length
  · exact .character (nthAt_locate hs hk) (nthAt_locate hs (h ▸ hk))
  · have hle : (nonblank d a).length ≤ k := by omega
    exact .behind (endsAt_locate hs hle hn) (endsAt_locate hs (h ▸ hle) (h ▸ hn))

lemma sameNode_relocate {x : Node} (hx : ∃ i, Node.spot x = some i) :
    SameNode d a b (Node.relocate (Source.ofText d a).locate x) (Node.relocate (Source.ofText d b).locate x) := by
  obtain ⟨i, hi⟩ := hx
  constructor
  · rw [Node.same_iff_shape, Node.shape_relocate, Node.shape_relocate]
  · refine ⟨_, _, ?_, ?_, samePlace_locate hs h i⟩
    · rw [Node.spot_relocate, hi]
      rfl
    · rw [Node.spot_relocate, hi]
      rfl

lemma sameTree_readLexical : SameTree d a b (readLexical d a) (readLexical d b) := by
  have hchars : (Source.ofText d a).chars = (Source.ofText d b).chars := by
    rw [nonblank_ofText hs, nonblank_ofText hs, h]
  cases hr : read d lexicalMaker (Source.ofText d a).chars with
  | error e =>
    rw [readLexical, readLexical, ← hchars]
    simp only [hr]
    exact .fault rfl (samePlace_locate hs h e.2)
  | ok n =>
    obtain ⟨p, hp, hm⟩ := exists_readsText hr
    rw [readLexical_of_readsText hp, readLexical_of_readsText (hchars ▸ hp)]
    apply SameTree.tree
    · rw [Node.same_iff_shape, Node.shape_relocate, Node.shape_relocate]
    · rw [Node.parts_relocate, Node.parts_relocate, List.forall₂_map_left_iff, List.forall₂_map_right_iff,
        List.forall₂_same]
      intro x hx
      exact sameNode_relocate hs h (exists_spot_of_readsText hp x hx)

lemma sameValue_readValue : SameValue d a b (readValue d a) (readValue d b) := by
  have hchars : (Source.ofText d a).chars = (Source.ofText d b).chars := by
    rw [nonblank_ofText hs, nonblank_ofText hs, h]
  rw [readValue_eq, readValue_eq, ← hchars]
  cases read d (typedMaker d) (Source.ofText d a).chars with
  | ok v => exact .value v
  | error e =>
    cases e with
    | cause c p => exact .cause rfl (samePlace_locate hs h p)
    | tooManyDigits k => exact .digits k

/-- Texts that differ in blanks alone have one value and one tree, or fail for one reason, and what is
said of places in the one is said of the same places in the other. -/
theorem readings_of_nonblank_eq :
    SameValue d a b (readValue d a) (readValue d b) ∧ SameTree d a b (readLexical d a) (readLexical d b) :=
  ⟨sameValue_readValue hs h, sameTree_readLexical hs h⟩

end

theorem spacedStatement_readings :
    let a : Text := " <A --> B > . "
    let b : Text := "<A\t-->B>."
    Dialect.ascii.spacing.strip = true ∧ nonblank .ascii a = nonblank .ascii b ∧
      (∃ v, readValue .ascii a = .ok v ∧ readValue .ascii b = .ok v) ∧
      ∃ m n, readLexical .ascii a = .ok m ∧ readLexical .ascii b = .ok n ∧ Node.same m n = true ∧
        List.Forall₂ (SameNode .ascii a b) (Node.parts m) (Node.parts n) := by
  intro a b
  have hs : Dialect.ascii.spacing.strip = true := rfl
  have h : nonblank .ascii a = nonblank .ascii b := by decide
  have hvalue : (readValue .ascii a).toOption.isSome = true := by decide +kernel
  have htree : (readLexical .ascii a).toOption.isSome = true := by decide +kernel
  obtain ⟨v, hv⟩ := Outcome.exists_of_toOption_isSome hvalue
  obtain ⟨m, hm⟩ := Outcome.exists_of_toOption_isSome htree
  obtain ⟨hvalues, htrees⟩ := readings_of_nonblank_eq (a := a) (b := b) hs h
  rw [hv] at hvalues
  rw [hm] at htrees
  refine ⟨hs, h, ⟨v, hv, ?_⟩, m, ?_⟩
  · generalize readValue .ascii b = x at hvalues ⊢
    cases hvalues
    rfl
  · generalize readLexical .ascii b = x at htrees ⊢
    cases htrees with
    | @tree _ n hsame hparts => exact ⟨n, hm, rfl, hsame, hparts⟩

end NarseseDialects.Reading
