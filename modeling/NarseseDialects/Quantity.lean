import NarseseDialects.Number.Double
import NarseseDialects.Text.Basic

namespace NarseseDialects

inductive Quantity where
  | truth
  | budget
  deriving DecidableEq

namespace Quantity

def components : Quantity → List Text
  | truth => ["frequency", "confidence"]
  | budget => ["priority", "durability", "quality"]

def limit (q : Quantity) : Nat := q.components.length

def label : Quantity → Text
  | truth => "truth-value"
  | budget => "budget"

def kindName : Quantity → Text
  | truth => "Truth"
  | budget => "Budget"

@[simp] theorem limit_truth : truth.limit = 2 := rfl

@[simp] theorem limit_budget : budget.limit = 3 := rfl

end Quantity

structure Measure (q : Quantity) where
  values : List Double
  length_le : values.length ≤ q.limit
  inUnit : ∀ v ∈ values, v.inUnit
  deriving DecidableEq

abbrev Truth := Measure .truth

abbrev Budget := Measure .budget

namespace Measure

variable {q : Quantity}

def empty : Measure q := ⟨[], by simp, by simp⟩

def isEmpty (m : Measure q) : Bool := m.values.isEmpty

inductive Fault where
  | tooMany (q : Quantity) (count : Nat)
  | outside (value : Double)

def outside? (vs : List Double) : Option Double := vs.find? fun v => !v.inUnit

theorem outside?_eq_none {vs : List Double} (h : outside? vs = none) : ∀ v ∈ vs, v.inUnit := by
  simpa [outside?] using h

def ofValues (q : Quantity) (vs : List Double) : Except Fault (Measure q) :=
  if hl : vs.length ≤ q.limit then
    match h : outside? vs with
    | some v => .error (.outside v)
    | none => .ok ⟨vs, hl, outside?_eq_none h⟩
  else .error (.tooMany q vs.length)

theorem ofValues_values (m : Measure q) : ofValues q m.values = .ok m := by
  have h : outside? m.values = none := by simpa [outside?] using m.inUnit
  unfold ofValues
  rw [dif_pos m.length_le]
  split
  · next h' => rw [h] at h'; cases h'
  · rfl

def same (a b : Measure q) : Bool :=
  a.values.length == b.values.length && (a.values.zip b.values).all fun p => p.1.same p.2

def component? (m : Measure q) (i : Nat) : Option Double := m.values[i]?

end Measure

end NarseseDialects
