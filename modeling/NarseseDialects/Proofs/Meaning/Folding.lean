import Mathlib.Data.List.Forall2
import NarseseDialects.Meaning.Fold
import NarseseDialects.Proofs.Lexical.Shape
import NarseseDialects.Proofs.Value.Spellable

namespace NarseseDialects.Meaning

open Outcome

variable {d : Dialect}

section

variable {c l r p n : Text} {ts : List Lexical.Term} {u v : Lexical.Term} {spot : Option Nat} {t : Term}

lemma atNode_eq_ok {α : Type} {node : Lexical.Node} {x : Result α} {a : α} : atNode node x = .ok a ↔ x = .ok a :=
  mapError_eq_ok

lemma foldTerm_atom : foldTerm d (.atom p n spot) = .ok t ↔ atom d p n = .ok t := by
  rw [foldTerm, atNode_eq_ok]

lemma foldTerm_compound :
    foldTerm d (.compound c ts spot) = .ok t ↔ ∃ cs, foldTerms d ts = .ok cs ∧ compound d c cs = .ok t := by
  simp only [foldTerm, bind_eq_ok, atNode_eq_ok]

lemma foldTerm_set :
    foldTerm d (.set l ts r spot) = .ok t ↔
      wrongBracket d l r = false ∧ ∃ cs, foldTerms d ts = .ok cs ∧ set d l cs = .ok t := by
  cases hb : wrongBracket d l r with
  | true => simp [foldTerm, hb]
  | false => simp only [foldTerm, hb, Bool.false_eq_true, if_false, bind_eq_ok, atNode_eq_ok, true_and]

lemma foldTerm_statement :
    foldTerm d (.statement c u v spot) = .ok t ↔
      ∃ a, foldTerm d u = .ok a ∧ ∃ b, foldTerm d v = .ok b ∧ statement d c a b = .ok t := by
  simp only [foldTerm, bind_eq_ok, atNode_eq_ok]

lemma foldTerms_eq_ok_iff {cs : List Term} :
    foldTerms d ts = .ok cs ↔ List.Forall₂ (fun u c => foldTerm d u = .ok c) ts cs := by
  induction ts generalizing cs with
  | nil =>
    rw [foldTerms, List.forall₂_nil_left_iff, Except.ok.injEq]
    exact eq_comm
  | cons u us ih =>
    rw [foldTerms, List.forall₂_cons_left_iff]
    simp only [bind_eq_ok, ih]
    constructor
    · rintro ⟨a, ha, as, has, h⟩
      cases h
      exact ⟨a, as, ha, has, rfl⟩
    · rintro ⟨a, as, ha, has, rfl⟩
      exact ⟨a, ha, as, has, rfl⟩

end

mutual

lemma foldTerm_shape (u : Lexical.Term) {t : Term} : foldTerm d u.shape = .ok t ↔ foldTerm d u = .ok t := by
  cases u with
  | atom p n _ => rw [Lexical.Term.shape, foldTerm_atom, foldTerm_atom]
  | compound c ts _ => simp only [Lexical.Term.shape, foldTerm_compound, foldTerms_shape ts]
  | set l ts r _ => simp only [Lexical.Term.shape, foldTerm_set, foldTerms_shape ts]
  | statement c v w _ => simp only [Lexical.Term.shape, foldTerm_statement, foldTerm_shape v, foldTerm_shape w]

lemma foldTerms_shape (us : List Lexical.Term) {ts : List Term} :
    foldTerms d (Lexical.Term.shapeAll us) = .ok ts ↔ foldTerms d us = .ok ts := by
  cases us with
  | nil => rfl
  | cons u us => simp only [Lexical.Term.shapeAll, foldTerms, bind_eq_ok, foldTerm_shape u, foldTerms_shape us]

end

lemma foldSentence_shape (x : Lexical.Sentence) {s : Sentence} :
    foldSentence d x.shape = .ok s ↔ foldSentence d x = .ok s := by
  simp only [foldSentence, Lexical.Sentence.shape, bind_eq_ok, atNode_eq_ok, foldTerm_shape]

lemma foldTask_shape (x : Lexical.Task) {k : Task} : foldTask d x.shape = .ok k ↔ foldTask d x = .ok k := by
  simp only [foldTask, Lexical.Task.shape, bind_eq_ok, atNode_eq_ok, foldSentence_shape]

lemma fold_shape (n : Lexical.Node) {v : Value} : fold d (Lexical.Node.shape n) = .ok v ↔ fold d n = .ok v := by
  cases n with
  | term t =>
    refine map_eq_ok.trans (Iff.trans ?_ map_eq_ok.symm)
    simp only [foldTerm_shape]
  | sentence s =>
    refine map_eq_ok.trans (Iff.trans ?_ map_eq_ok.symm)
    simp only [foldSentence_shape]
  | task k =>
    refine map_eq_ok.trans (Iff.trans ?_ map_eq_ok.symm)
    simp only [foldTask_shape]

lemma fold_congr {m n : Lexical.Node} (h : Lexical.Node.same m n = true) {v : Value} :
    fold d m = .ok v ↔ fold d n = .ok v := by
  rw [← fold_shape m, (Lexical.Node.same_iff_shape m n).1 h, fold_shape]

end NarseseDialects.Meaning
