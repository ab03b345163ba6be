import NarseseDialects.Kind

/-! Terms by their meaning. Components stand in the order in which they are shown; equality has set
semantics where a kind has it, and is a function apart from identity. -/

namespace NarseseDialects

inductive Term where
  | named (kind : NameKind) (name : Text)
  | placeholder
  | interval (steps : Nat)
  | collection (kind : CollectionKind) (components : List Term)
  | chain (kind : Chain) (components : List Term)
  | difference (side : Side) (left right : Term)
  | negation (term : Term)
  /-- The placeholder is not among the components; it would stand at the index. -/
  | image (side : Side) (index : Nat) (components : List Term)
  | ordered (copula : OrderedCopula) (subject predicate : Term)
  | symmetric (copula : SymmetricCopula) (subject predicate : Term)

namespace Term

def kind : Term → Kind
  | named k _ => .name k
  | placeholder => .placeholder
  | interval _ => .interval
  | collection k _ => .collection k
  | chain k _ => .chain k
  | difference s _ _ => .difference s
  | negation _ => .negation
  | image s _ _ => .image s
  | ordered c _ _ => .ordered c
  | symmetric c _ _ => .symmetric c

def name : Term → Text
  | named _ n => n
  | interval n => Text.ofNat n
  | _ => []

def components : Term → List Term
  | named .. | placeholder | interval _ => []
  | collection _ cs | chain _ cs | image _ _ cs => cs
  | difference _ l r => [l, r]
  | negation t => [t]
  | ordered _ s p | symmetric _ s p => [s, p]

def withPlaceholder (index : Nat) (cs : List Term) : List Term :=
  cs.take index ++ placeholder :: cs.drop index

def found? : List (Term → Bool) → List Term → Option (List Bool)
  | [], ds => some (ds.map fun _ => false)
  | p :: ps, ds =>
    let row := ds.map p
    if row.any id then (found? ps ds).map (List.zipWith or row) else none

/-- Whether the terms that are tested for and the terms given are one set. No two terms are compared twice, so
that equality is quick at any depth. -/
def areSet (tests : List (Term → Bool)) (ds : List Term) : Bool := (found? tests ds).any (·.all id)

mutual

/-- Equality, in which collections and the two sides of a symmetric statement are sets. -/
def same : Term → Term → Bool
  | named k n, named l m => k == l && n == m
  | placeholder, placeholder => true
  | interval n, interval m => n == m
  | collection k cs, collection l ds => k == l && areSet (allTests cs) ds
  | chain k cs, chain l ds => k == l && allSame cs ds
  | difference s a b, difference t c d => s == t && same a c && same b d
  | negation a, negation b => same a b
  | image s i cs, image t j ds => s == t && i == j && allSame cs ds
  | ordered c a b, ordered e x y => c == e && same a x && same b y
  | symmetric c a b, symmetric e x y => c == e && areSet [same a, same b] [x, y]
  | _, _ => false

def allTests : List Term → List (Term → Bool)
  | [] => []
  | c :: cs => same c :: allTests cs

def allSame : List Term → List Term → Bool
  | [], [] => true
  | c :: cs, d :: ds => same c d && allSame cs ds
  | _, _ => false

end

theorem found?_eq (ps : List (Term → Bool)) (ds : List Term) :
    found? ps ds = if ps.all fun p => ds.any p then some (ds.map fun d => ps.any (· d)) else none := by
  induction ps with
  | nil => simp [found?]
  | cons p ps ih =>
    by_cases h : ds.any p <;> by_cases h' : ps.all fun p => ds.any p <;> simp_all [found?, List.any_map]

theorem areSet_eq (ps : List (Term → Bool)) (ds : List Term) :
    areSet ps ds = (ps.all (fun p => ds.any p) && ds.all fun d => ps.any (· d)) := by
  rw [areSet, found?_eq]
  cases h : ps.all fun p => ds.any p <;> simp

theorem allTests_eq_map (cs : List Term) : allTests cs = cs.map same := by
  induction cs with
  | nil => rfl
  | cons c cs ih => rw [allTests, ih, List.map_cons]

def firsts : List Term → List Term
  | [] => []
  | t :: ts => t :: (firsts ts).filter fun u => !t.same u

mutual

def atoms : Term → List Term
  | named k n => [named k n]
  | placeholder => [placeholder]
  | interval n => [interval n]
  | collection _ cs | chain _ cs | image _ _ cs => atomsOfAll cs
  | difference _ a b | ordered _ a b | symmetric _ a b => atoms a ++ atoms b
  | negation a => atoms a

def atomsOfAll : List Term → List Term
  | [] => []
  | t :: ts => atoms t ++ atomsOfAll ts

end

def atomsOf (ts : List Term) : List Term := firsts (atomsOfAll ts)

mutual

def contains : Term → Term → Bool
  | named k n, u => same (named k n) u
  | placeholder, u => same placeholder u
  | interval n, u => same (interval n) u
  | collection k cs, u => same (collection k cs) u || anyContains cs u
  | chain k cs, u => same (chain k cs) u || anyContains cs u
  | difference s a b, u => same (difference s a b) u || contains a u || contains b u
  | negation a, u => same (negation a) u || contains a u
  | image s i cs, u => same (image s i cs) u || anyContains cs u
  | ordered c a b, u => same (ordered c a b) u || contains a u || contains b u
  | symmetric c a b, u => same (symmetric c a b) u || contains a u || contains b u

def anyContains : List Term → Term → Bool
  | [], _ => false
  | t :: ts, u => contains t u || anyContains ts u

end

theorem anyContains_eq_any (ts : List Term) (u : Term) :
    anyContains ts u = ts.any (·.contains u) := by
  induction ts with
  | nil => rfl
  | cons t ts ih => simp [anyContains, ih]

theorem contains_eq (t u : Term) : t.contains u = (t.same u || t.components.any (·.contains u)) := by
  cases t <;> simp [contains, components, anyContains_eq_any, Bool.or_assoc]

end Term

end NarseseDialects
