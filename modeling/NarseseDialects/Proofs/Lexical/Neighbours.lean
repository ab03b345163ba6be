import NarseseDialects.Proofs.Lexical.Shape

namespace NarseseDialects.Lexical.Term

mutual

/-- Whether every atom has the property, with its sigil, its name and the literal behind it; behind the whole
term stands the one that is given. -/
def EachAtom (d : Dialect) (P : Text → Text → Text → Prop) (e : Text) : Term → Prop
  | atom p n _ => P p n e
  | compound _ ts _ => EachAtomAll d P d.compound.right ts
  | set _ ts r _ => EachAtomAll d P r ts
  | statement c t u _ => EachAtom d P c t ∧ EachAtom d P d.statement.right u

def EachAtomAll (d : Dialect) (P : Text → Text → Text → Prop) (right : Text) : List Term → Prop
  | [] => True
  | [t] => EachAtom d P right t
  | t :: u :: us => EachAtom d P d.separator t ∧ EachAtomAll d P right (u :: us)

end

variable {d : Dialect} {P Q R : Text → Text → Text → Prop}

mutual

lemma EachAtom.imp (h : ∀ p n e, P p n e → Q p n e → R p n e) {t : Term} {e : Text}
    (hp : t.EachAtom d P e) (hq : t.EachAtom d Q e) : t.EachAtom d R e := by
  cases t with
  | atom p n _ => exact h p n e hp hq
  | compound c ts _ => exact EachAtomAll.imp h hp hq
  | set l ts r _ => exact EachAtomAll.imp h hp hq
  | statement c t u _ => exact ⟨hp.1.imp h hq.1, hp.2.imp h hq.2⟩

lemma EachAtomAll.imp (h : ∀ p n e, P p n e → Q p n e → R p n e) {ts : List Term} {right : Text}
    (hp : EachAtomAll d P right ts) (hq : EachAtomAll d Q right ts) : EachAtomAll d R right ts := by
  match ts, hp, hq with
  | [], _, _ => trivial
  | [t], hp, hq => exact EachAtom.imp h hp hq
  | t :: u :: us, hp, hq => exact ⟨hp.1.imp h hq.1, hp.2.imp h hq.2⟩

end

lemma eachAtomAll_of_forall {ts : List Term} {right : Text}
    (h : ∀ t ∈ ts, t.EachAtom d P d.separator ∧ t.EachAtom d P right) : EachAtomAll d P right ts := by
  match ts, h with
  | [], _ => trivial
  | [t], h => exact (h t List.mem_cons_self).2
  | t :: u :: us, h =>
    exact ⟨(h t List.mem_cons_self).1, eachAtomAll_of_forall fun v hv => h v (List.mem_cons_of_mem t hv)⟩

end NarseseDialects.Lexical.Term
