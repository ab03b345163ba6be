import NarseseDialects.Proofs.Dialect.Literals
import NarseseDialects.Proofs.Term.Congruence
import NarseseDialects.Proofs.Text.Words
import NarseseDialects.Typeset

namespace NarseseDialects

lemma Kind.mem_all (k : Kind) : k ∈ all := by
  cases k with
  | name k => cases k <;> decide
  | placeholder | interval | negation => decide
  | collection k =>
    rcases k with s | (s | _ | _ | _)
    · cases s <;> decide
    · cases s <;> decide
    all_goals decide
  | chain c => cases c <;> decide
  | difference s | image s => cases s <;> decide
  | ordered c | symmetric c => cases c <;> decide

namespace Typeset

open Text

abbrev bare (t : Text) : Text := trim isBlank t

inductive Form where
  | atom (role : AtomRole)
  | set (side : Side)
  | compound (connector : Connector)
  | statement (copula : Text)
  deriving DecidableEq

def form : Kind → Form
  | .name k => .atom (.name k)
  | .placeholder => .atom .placeholder
  | .interval => .atom .interval
  | .collection (.set s) => .set s
  | .collection (.junction j) => .compound (.junction j)
  | .chain c => .compound (.chain c)
  | .difference s => .compound (.difference s)
  | .negation => .compound .negation
  | .image s => .compound (.image s)
  | .ordered c => .statement (bare (ordered c))
  | .symmetric c => .statement (bare (symmetric c))

def parts : Term → List Term
  | .image _ i cs => Term.withPlaceholder i cs
  | t => t.components

def row (separator closing : Text) (ws : List (List Text)) : List Text := List.intercalate [separator] ws ++ [closing]

def Form.words (name : Text) (ws : List (List Text)) : Form → List Text
  | atom r => Text.words (sigil r) ++ if r = .placeholder then [] else [quote name]
  | set s => bare (setLeft s) :: row "space" (bare (setRight s)) ws
  | compound c =>
    "lr((" :: if ws.length = 2 then row (bare (connector c)) "))" ws
      else bare (connector c) :: "space" :: row "space" "))" ws
  | statement c => "lr(angle.l" :: row c "angle.r)" ws

lemma terms_eq_map (ts : List Term) : terms ts = ts.map term := by
  induction ts with
  | nil => rfl
  | cons t ts ih => rw [terms, ih, List.map_cons]

lemma isBlank_of_mem_quote {t : Text} (h : ∀ c ∈ t, isBlank c = false) : ∀ c ∈ quote t, isBlank c = false := by
  intro c hc
  simp only [quote, List.mem_append, List.mem_flatMap] at hc
  rcases hc with (hc | ⟨x, hx, hc⟩) | hc
  · revert c
    decide
  · split at hc
    · rcases List.mem_pair.1 hc with rfl | rfl
      · decide
      · exact h _ hx
    · obtain rfl := List.mem_singleton.1 hc
      exact h _ hx
  · revert c
    decide

lemma words_atom (r : AtomRole) {n : Text} (h : ∀ c ∈ n, isBlank c = false) :
    Text.words (sigil r ++ quote n) = Text.words (sigil r) ++ [quote n] := by
  have hlast : ∀ r, (sigil r).getLast?.all isBlank = true := by decide
  rw [words_append_of_getLast? (hlast r), words_of_forall (by simp [quote]) (isBlank_of_mem_quote h)]

lemma words_row {l s r x y : Text} (hl : padded l = true) (hs : padded s = true ∧ Text.words s = [x])
    (hr : padded r = true ∧ Text.words r = [y]) (ts : List Text) :
    Text.words (l ++ join s ts ++ r) = Text.words l ++ row x y (ts.map Text.words) := by
  rw [words_append_padded hr.1, words_padded_append hl, words_join hs.1, hs.2, hr.2, row, List.append_assoc]

lemma words_pair {l s r x y : Text} (hl : padded l = true) (hs : padded s = true ∧ Text.words s = [x])
    (hr : padded r = true ∧ Text.words r = [y]) (a b : Text) :
    Text.words (l ++ a ++ s ++ b ++ r) = Text.words l ++ row x y [Text.words a, Text.words b] := by
  have hjoin : l ++ a ++ s ++ b ++ r = l ++ join s [a, b] ++ r := by simp [join_cons_cons]
  rw [hjoin, words_row hl hs hr]
  rfl

lemma words_gap : padded gap = true ∧ Text.words gap = ["space".toList] := by decide

lemma joined_eq {c : Text} {ts : List Text} (h : ts.length ≠ 2) :
    joined c ts = " lr(( " ++ c ++ gap ++ join gap ts ++ " )) " := by
  unfold joined
  split
  · exact absurd rfl h
  · rfl

lemma words_joined (c : Connector) (ts : List Text) :
    Text.words (joined (connector c) ts) = (Form.compound c).words [] (ts.map Text.words) := by
  have hright : padded " )) " = true ∧ Text.words " )) " = ["))".toList] := by decide
  unfold Form.words
  dsimp only
  rw [List.length_map]
  split
  next hts =>
    have hc : ∀ c, padded (connector c) = true ∧ Text.words (connector c) = [bare (connector c)] := by decide
    have hleft : padded " lr(( " = true ∧ Text.words " lr(( " = ["lr((".toList] := by decide
    obtain ⟨a, b, rfl⟩ := List.length_eq_two.1 hts
    have h := words_pair hleft.1 (hc c) hright a b
    rw [hleft.2] at h
    exact h
  next hts =>
    have hleft : ∀ c, padded (" lr(( " ++ connector c ++ gap) = true ∧
        Text.words (" lr(( " ++ connector c ++ gap) = ["lr((".toList, bare (connector c), "space".toList] := by decide
    rw [joined_eq hts, words_row (hleft c).1 words_gap hright, (hleft c).2]
    rfl

lemma words_related {c : Text} (hc : padded c = true ∧ Text.words c = [bare c]) (a b : Text) :
    Text.words (related c a b) = (Form.statement (bare c)).words [] [Text.words a, Text.words b] := by
  have hleft : padded " lr(angle.l " = true ∧ Text.words " lr(angle.l " = ["lr(angle.l".toList] := by decide
  have hright : padded " angle.r) " = true ∧ Text.words " angle.r) " = ["angle.r)".toList] := by decide
  have h := words_pair hleft.1 hc hright a b
  rw [hleft.2] at h
  exact h

lemma words_set (s : Side) (ts : List Text) :
    Text.words (setLeft s ++ join gap ts ++ setRight s) = (Form.set s).words [] (ts.map Text.words) := by
  have hleft : ∀ s, padded (setLeft s) = true ∧ Text.words (setLeft s) = [bare (setLeft s)] := by decide
  have hright : ∀ s, padded (setRight s) = true ∧ Text.words (setRight s) = [bare (setRight s)] := by decide
  rw [words_row (hleft s).1 words_gap (hright s), (hleft s).2]
  rfl

lemma map_words_terms (ts : List Term) : (terms ts).map Text.words = ts.map fun t => Text.words (term t) := by
  rw [terms_eq_map, List.map_map]
  rfl

lemma isBlank_of_mem_name {n : Text} (h : n.all isNameChar = true) : ∀ c ∈ n, isBlank c = false := by
  intro c hc
  cases hb : isBlank c with
  | false => rfl
  | true =>
    have hn := List.all_eq_true.1 h c hc
    rw [not_isNameChar_of_isBlank hb] at hn
    cases hn

lemma isBlank_of_mem_ofNat {n : Nat} : ∀ c ∈ ofNat n, isBlank c = false := by
  intro c hc
  have hd : ∀ c ∈ plainDigits, isBlank c = false := by decide
  exact hd c (isPlainDigit_iff_mem.1 (isPlainDigit_of_mem_ofNat hc))

lemma words_image (s : Side) (i : Nat) (cs : List Term) :
    Text.words (term (.image s i cs)) = (Form.compound (.image s)).words []
      ((Term.withPlaceholder i cs).map fun t => Text.words (term t)) := by
  have hparts : (terms cs).take i ++ sigil .placeholder :: (terms cs).drop i =
      terms (Term.withPlaceholder i cs) := by
    rw [terms_eq_map, terms_eq_map, Term.withPlaceholder, List.map_append, List.map_cons, List.map_take, List.map_drop]
    rfl
  have h := words_joined (.image s) (terms (Term.withPlaceholder i cs))
  rw [map_words_terms, ← hparts] at h
  exact h

lemma words_term {t : Term} (ht : t.WellFormed) :
    Text.words (term t) = (form t.kind).words t.name ((parts t).map fun u => Text.words (term u)) := by
  cases t with
  | named k n => exact words_atom (.name k) (isBlank_of_mem_name ht.2)
  | placeholder => decide
  | interval n => exact words_atom .interval isBlank_of_mem_ofNat
  | collection k cs =>
    cases k with
    | set s =>
      have h := words_set s (terms cs)
      rw [map_words_terms] at h
      exact h
    | junction j =>
      have h := words_joined (.junction j) (terms cs)
      rw [map_words_terms] at h
      exact h
  | chain k cs =>
    have h := words_joined (.chain k) (terms cs)
    rw [map_words_terms] at h
    exact h
  | difference s a b => exact words_joined (.difference s) [term a, term b]
  | negation a => exact words_joined .negation [term a]
  | image s i cs => exact words_image s i cs
  | ordered c a b =>
    apply words_related
    cases c <;> decide
  | symmetric c a b =>
    apply words_related
    cases c <;> decide

end Typeset

end NarseseDialects
