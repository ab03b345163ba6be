namespace NarseseDialects

inductive Item (τ σ κ : Type) where
  | term (t : τ)
  | sentence (s : σ)
  | task (k : κ)

inductive ItemKind where
  | term
  | sentence
  | task
  deriving DecidableEq

namespace Item

variable {τ σ κ τ' σ' κ' : Type}

def map (f : τ → τ') (g : σ → σ') (h : κ → κ') : Item τ σ κ → Item τ' σ' κ'
  | term t => .term (f t)
  | sentence s => .sentence (g s)
  | task k => .task (h k)

def kind : Item τ σ κ → ItemKind
  | term _ => .term
  | sentence _ => .sentence
  | task _ => .task

def elim {α : Type} (f : τ → α) (g : σ → α) (h : κ → α) : Item τ σ κ → α
  | term t => f t
  | sentence s => g s
  | task k => h k

@[simp] theorem kind_map (f : τ → τ') (g : σ → σ') (h : κ → κ') (i : Item τ σ κ) :
    (i.map f g h).kind = i.kind := by cases i <;> rfl

end Item

end NarseseDialects
