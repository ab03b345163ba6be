import NarseseDialects.Proofs.Lexical.Parts

namespace NarseseDialects.Lexical

namespace Term

mutual

def inner : Term → List Term
  | atom .. => []
  | compound _ ts _ | set _ ts _ _ => postorderAll ts
  | statement _ t u _ => (inner t ++ [t]) ++ (inner u ++ [u])

def postorderAll : List Term → List Term
  | [] => []
  | t :: ts => (inner t ++ [t]) ++ postorderAll ts

end

def postorder (t : Term) : List Term := t.inner ++ [t]

lemma postorder_perm_of_inner_perm {t : Term} {ts : List Term} (h : t.inner.Perm ts) :
    t.postorder.Perm (t :: ts) :=
  (List.perm_append_singleton t t.inner).trans (h.cons t)

mutual

lemma postorder_perm (t : Term) : t.postorder.Perm t.subterms := by
  cases t with
  | atom p n s => exact .refl _
  | compound c ts s => exact postorder_perm_of_inner_perm (postorderAll_perm ts)
  | set l ts r s => exact postorder_perm_of_inner_perm (postorderAll_perm ts)
  | statement c t u s => exact postorder_perm_of_inner_perm ((postorder_perm t).append (postorder_perm u))

lemma postorderAll_perm (ts : List Term) : (postorderAll ts).Perm (subtermsAll ts) := by
  cases ts with
  | nil => exact .nil
  | cons t ts => exact (postorder_perm t).append (postorderAll_perm ts)

end

end Term

namespace Node

def inner : Node → List Node
  | .term t => t.inner.map .term
  | .sentence s => s.term.postorder.map .term
  | .task k => k.sentence.term.postorder.map .term ++ [.sentence k.sentence]

def postorder (n : Node) : List Node := inner n ++ [n]

lemma postorder_term (t : Term) : postorder (.term t) = t.postorder.map .term := by
  rw [postorder, Term.postorder, List.map_append]
  rfl

lemma postorder_perm (n : Node) : (postorder n).Perm (parts n) := by
  have ht (t : Term) : (t.postorder.map (.term : Term → Node)).Perm (t.subterms.map .term) := t.postorder_perm.map _
  cases n with
  | term t =>
    rw [postorder_term]
    exact ht t
  | sentence s => exact (List.perm_append_singleton _ _).trans ((ht s.term).cons _)
  | task k =>
    refine (List.perm_append_singleton _ _).trans (.cons _ ?_)
    exact (List.perm_append_singleton _ _).trans ((ht k.sentence.term).cons _)

end Node

end NarseseDialects.Lexical
