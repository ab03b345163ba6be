import Mathlib.Tactic.Lemma
import NarseseDialects.Lexical.Writer

namespace NarseseDialects.Lexical

namespace Term

mutual

def shape : Term → Term
  | atom p n _ => atom p n none
  | compound c ts _ => compound c (shapeAll ts) none
  | set l ts r _ => set l (shapeAll ts) r none
  | statement c s p _ => statement c (shape s) (shape p) none

def shapeAll : List Term → List Term
  | [] => []
  | t :: ts => shape t :: shapeAll ts

end

mutual

lemma same_iff_shape (t u : Term) : t.same u = true ↔ t.shape = u.shape := by
  cases t <;> cases u <;>
    simp [same, shape, same_iff_shape, sameAll_iff_shape, and_assoc]

lemma sameAll_iff_shape (ts us : List Term) : sameAll ts us = true ↔ shapeAll ts = shapeAll us := by
  cases ts <;> cases us <;> simp [sameAll, shapeAll, same_iff_shape, sameAll_iff_shape]

end

mutual

@[simp] lemma shape_relocate (f : Nat → Nat) (t : Term) : (t.relocate f).shape = t.shape := by
  cases t <;> simp [relocate, shape, shape_relocate, shapeAll_relocate]

@[simp] lemma shapeAll_relocate (f : Nat → Nat) (ts : List Term) :
    shapeAll (relocateAll f ts) = shapeAll ts := by
  cases ts <;> simp [relocateAll, shapeAll, shape_relocate, shapeAll_relocate]

end

mutual

@[simp] lemma write_shape (d : Dialect) (t : Term) : t.shape.write d = t.write d := by
  cases t <;> simp [shape, write, write_shape, writeAll_shape]

@[simp] lemma writeAll_shape (d : Dialect) (ts : List Term) :
    writeAll d (shapeAll ts) = writeAll d ts := by
  cases ts <;> simp [shapeAll, writeAll, write_shape, writeMore_shape]

@[simp] lemma writeMore_shape (d : Dialect) (ts : List Term) :
    writeMore d (shapeAll ts) = writeMore d ts := by
  cases ts <;> simp [shapeAll, writeMore, write_shape, writeMore_shape]

end

end Term

namespace Sentence

def shape (s : Sentence) : Sentence := { s with term := s.term.shape, spot := none }

lemma same_iff_shape (a b : Sentence) : a.same b = true ↔ a.shape = b.shape := by
  cases a
  cases b
  simp [same, shape, Term.same_iff_shape, and_assoc]

@[simp] lemma shape_relocate (f : Nat → Nat) (s : Sentence) : (s.relocate f).shape = s.shape := by
  simp [shape, relocate]

@[simp] lemma write_shape (d : Dialect) (s : Sentence) : s.shape.write d = s.write d := by
  simp [shape, write]

end Sentence

namespace Task

def shape (k : Task) : Task := { k with sentence := k.sentence.shape, spot := none }

lemma same_iff_shape (a b : Task) : a.same b = true ↔ a.shape = b.shape := by
  cases a
  cases b
  simp [same, shape, Sentence.same_iff_shape]

@[simp] lemma shape_relocate (f : Nat → Nat) (k : Task) : (k.relocate f).shape = k.shape := by
  simp [shape, relocate]

@[simp] lemma write_shape (d : Dialect) (k : Task) : k.shape.write d = k.write d := by
  simp [shape, write]

end Task

namespace Node

def subject : Node → Term := Item.elim id Sentence.term fun k => k.sentence.term

def shape : Node → Node := Item.map Term.shape Sentence.shape Task.shape

lemma same_iff_shape (a b : Node) : same a b = true ↔ shape a = shape b := by
  cases a <;> cases b <;>
    simp [same, shape, Item.map, Term.same_iff_shape, Sentence.same_iff_shape, Task.same_iff_shape]

@[simp] lemma shape_relocate (f : Nat → Nat) (n : Node) : shape (relocate f n) = shape n := by
  cases n <;> simp [shape, relocate, Item.map]

@[simp] lemma write_shape (d : Dialect) (n : Node) : write d (shape n) = write d n := by
  cases n <;> simp [shape, write, Item.map, Item.elim]

lemma kind_of_shape {m n : Node} (h : shape m = shape n) : m.kind = n.kind := by
  have hk := congrArg Item.kind h
  simpa [shape] using hk

lemma write_congr (d : Dialect) {m n : Node} (h : shape m = shape n) : write d m = write d n := by
  rw [← write_shape d m, h, write_shape]

end Node

end NarseseDialects.Lexical
