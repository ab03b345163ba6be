import NarseseDialects.Proofs.Lexical.Shape
import NarseseDialects.Proofs.Lexical.Spelled
import NarseseDialects.Proofs.LongestMatch
import NarseseDialects.Proofs.Reading.Grammar
import NarseseDialects.Proofs.Text.Trim

namespace NarseseDialects

def Dialect.withGaps (d : Dialect) (g h : Text) : Dialect :=
  { d with spacing := { d.spacing with betweenTerms := g, betweenItems := h } }

lemma Dialect.withGaps_self (d : Dialect) :
    d.withGaps d.spacing.betweenTerms d.spacing.betweenItems = d := rfl

lemma componentSeparator_withGaps (d : Dialect) (g h : Text) :
    Lexical.componentSeparator (d.withGaps g h) = d.separator ++ g := rfl

namespace Reading

variable {d : Dialect} {j : Nat} {q : Char → Bool} {fits : AtomRole → Text → Bool}

lemma skip_append {b w : Text} (hb : b.all d.spacing.isSpace = true)
    (hw : w.head?.all (!d.spacing.isSpace ·) = true) : skip d (b ++ w) = w := Text.dropWhile_append hb hw

lemma skip_of_head {w : Text} (hw : w.head?.all (!d.spacing.isSpace ·) = true) : skip d w = w :=
  Text.dropWhile_eq_self hw

/-- The text opens a term in this one way, and no group ends where it begins. -/
structure Opens (d : Dialect) (a : Dialect.Opener) (w : Text) : Prop where
  head : ∃ c r, w = c :: r ∧ d.spacing.isSpace c = false
  other : ∀ b : Dialect.Opener, b ≠ a → b.literal d = [] ∨ Text.after? (b.literal d) w = none
  closer : ∀ e ∈ d.closers, opening? e w = none

lemma Opens.ne_nil {a : Dialect.Opener} {w : Text} (h : Opens d a w) : w ≠ [] := by
  obtain ⟨c, r, rfl, -⟩ := h.head
  exact List.cons_ne_nil c r

lemma opens_literal (hd : d.ClearTerms) {a : Dialect.Opener} (ha : a ≠ .sigil (.name .word)) (r : Text) :
    Opens d a (a.literal d ++ r) := by
  obtain ⟨hne, hs⟩ := (hd.opener a).resolve_left ha
  constructor
  · obtain ⟨c, e, he⟩ := List.exists_cons_of_ne_nil hne
    refine ⟨c, e ++ r, by rw [he, List.cons_append], ?_⟩
    simpa using List.all_eq_true.1 hs c (by simp [he])
  · intro b hb
    rcases hd.opener_opener a b with h | h | h | h
    · exact absurd h.symm hb
    · exact absurd h hne
    · exact .inl h
    · exact .inr (Text.after?_of_apart h r)
  · intro e he
    exact opening?_eq_none (Text.after?_of_apart ((hd.opener_closer a).resolve_left hne e he) r)

lemma opening?_of_head {e : Text} {c : Char} (h : e.head? ≠ some c) (r : Text) :
    opening? e (c :: r) = none := by
  cases e with
  | nil => rfl
  | cons x e =>
    refine Text.after?_cons_of_ne ?_ e r
    rintro rfl
    exact h rfl

lemma opens_word (hn : d.ClearNames q fits) {c : Char} {n : Text}
    (h : fits (.name .word) (c :: n) = true) (r : Text) : Opens d (.sigil (.name .word)) (c :: r) := by
  obtain ⟨ho, hc, -⟩ := hn.word h
  constructor
  · exact ⟨c, r, rfl, hn.not_isSpace (List.all_eq_true.1 (hn.all h) c List.mem_cons_self)⟩
  · intro b _
    have hb := opening?_of_head (ho b) r
    cases hl : b.literal d with
    | nil => exact .inl rfl
    | cons x e =>
      rw [hl] at hb
      exact .inr hb
  · exact fun e he => opening?_of_head (hc e he) r

lemma opens_atom (hd : d.ClearTerms) (hn : d.ClearNames q fits) {r : AtomRole} {n : Text}
    (h : fits r n = true) (hne : n = [] → r = .placeholder) (rest : Text) :
    Opens d (.sigil r) (d.sigils.literal r ++ n ++ rest) := by
  by_cases hr : r = .name .word
  · subst hr
    cases n with
    | nil => cases hne rfl
    | cons c n =>
      rw [d.word_sigil, List.nil_append, List.cons_append]
      exact opens_word hn h _
  · rw [List.append_assoc]
    exact opens_literal hd (a := .sigil r) (by simpa using hr) _

lemma left?_of_opens {s : Side} {r : Text} (h : Opens d (.set s) ((d.sets.pair s).left ++ r)) :
    d.sets.family.left? ((d.sets.pair s).left ++ r) =
      some ((d.sets.pair s).left, (d.sets.pair s).right, r) := by
  have hp := d.sets.family_pairs
  have hm : (d.sets.pair s).left ∈ d.sets.family.lefts.entries := by
    rw [d.sets.family.mem_lefts, hp]
    exact List.mem_map.2 ⟨_, List.mem_map.2 ⟨s, Role.mem_members s, rfl⟩, rfl⟩
  have hs : ∀ s', s' ≠ s → (d.sets.pair s').left ≠ [] →
      Text.after? (d.sets.pair s').left ((d.sets.pair s).left ++ r) = none := fun s' hne hnil =>
    (h.other (.set s') (by simpa using hne)).resolve_left hnil
  have hf : d.sets.family.lefts.front? ((d.sets.pair s).left ++ r) = some ((d.sets.pair s).left, r) := by
    apply Lexicon.front?_eq_some hm
    intro a ha hlt
    rw [d.sets.family.mem_lefts, hp, List.map_map, List.mem_map] at ha
    obtain ⟨s', -, rfl⟩ := ha
    refine hs s' ?_ (List.ne_nil_of_length_pos (Nat.lt_of_le_of_lt (Nat.zero_le _) hlt))
    rintro rfl
    exact Nat.lt_irrefl _ hlt
  simp [BracketFamily.left?, hf, d.sets.rightOf?_pair s]

lemma left?_eq_none_of_opens {a : Dialect.Opener} {w : Text} (h : Opens d a w) (hd : d.ClearTerms)
    (ha : ∀ s, a ≠ .set s) : d.sets.family.left? w = none := by
  have hf : d.sets.family.lefts.front? w = none := by
    apply Lexicon.front?_eq_none
    intro e he
    rw [d.sets.family.mem_lefts, d.sets.family_pairs, List.map_map, List.mem_map] at he
    obtain ⟨s, -, rfl⟩ := he
    apply (h.other (.set s) (Ne.symm (ha s))).resolve_left
    exact ((hd.opener (.set s)).resolve_left (by simp)).1
  simp [BracketFamily.left?, hf]

lemma opening?_of_opens {a b : Dialect.Opener} {w : Text} (h : Opens d a w) (hb : b ≠ a) :
    opening? (b.literal d) w = none := by
  rcases h.other b hb with hl | hl
  · rw [hl]
    rfl
  · exact opening?_eq_none hl

lemma front?_of_opens {r : AtomRole} {w : Text} (h : Opens d (.sigil r) (d.sigils.literal r ++ w)) :
    d.sigils.lexicon.front? (d.sigils.literal r ++ w) = some (d.sigils.literal r, w) := by
  apply Lexicon.front?_eq_some (Vocabulary.literal_mem _ r)
  intro e he hlt
  obtain ⟨r', rfl⟩ := Vocabulary.mem_lexicon.1 he
  refine (h.other (.sigil r') ?_).resolve_left (List.ne_nil_of_length_pos (Nat.lt_of_le_of_lt (Nat.zero_le _) hlt))
  intro hr
  cases hr
  exact Nat.lt_irrefl _ hlt

lemma mem_joints_of_mem_terminating {e : Text} (h : e ∈ d.terminating) : e ∈ d.joints := by
  simp only [Dialect.Parts.terminating, List.mem_append, List.mem_cons] at h
  simp only [Dialect.joints, Dialect.closers, List.mem_append, List.mem_cons]
  tauto

lemma mem_terminating_of_mem_closers {e : Text} (h : e ∈ d.closers) : e ∈ d.terminating := by
  simp only [Dialect.closers, List.mem_cons] at h
  simp only [Dialect.Parts.terminating, List.mem_append, List.mem_cons]
  tauto

lemma head_of_joint (hd : d.ClearTerms) {e : Text} (he : e ∈ d.joints) (r : Text) :
    (e ++ r).head?.all (!d.spacing.isSpace ·) = true := by
  obtain ⟨hne, hs⟩ := hd.joint e he
  obtain ⟨c, e, rfl⟩ := List.exists_cons_of_ne_nil hne
  rw [List.all_cons, Bool.and_eq_true] at hs
  simpa using hs.1

lemma opening?_joint (hd : d.ClearTerms) {e : Text} (he : e ∈ d.joints) (r : Text) :
    opening? e (skip d (e ++ r)) = some r := by
  rw [skip_of_head (head_of_joint hd he r)]
  exact opening?_append (hd.joint e he).1 r

lemma opening?_separator_closer (hd : d.ClearTerms) {e : Text} (he : e ∈ d.closers) (r : Text) :
    opening? d.separator (skip d (e ++ r)) = none := by
  have hj : e ∈ d.joints := by simp [Dialect.joints, he]
  rw [skip_of_head (head_of_joint hd hj r)]
  exact opening?_eq_none (Text.after?_of_apart (hd.separator_closer e he) r)

lemma follows_of_terminating (hd : d.ClearTerms) {g e : Text} (hg : g.all d.spacing.isSpace = true)
    (he : e ∈ d.terminating) (r : Text) : d.Follows (g ++ (e ++ r)) := by
  cases g with
  | nil => exact .inr (.inr ⟨e, he, (hd.joint e (mem_joints_of_mem_terminating he)).1, r, rfl⟩)
  | cons c g =>
    rw [List.all_cons, Bool.and_eq_true] at hg
    exact .inr (.inl ⟨c, g ++ (e ++ r), rfl, hg.1⟩)

lemma head_of_opens {a : Dialect.Opener} {w : Text} (h : Opens d a w) :
    w.head?.all (!d.spacing.isSpace ·) = true := by
  obtain ⟨c, r, rfl, hc⟩ := h.head
  simp [hc]

section

variable (hd : d.ClearTerms) {cs rest : Text}

include hd

lemma readsTerm_atom {r : AtomRole} {n : Text} (hs : skip d cs = d.sigils.literal r ++ (n ++ rest))
    (ho : Opens d (.sigil r) (d.sigils.literal r ++ (n ++ rest))) (hne : n = [] → r = .placeholder)
    (hn : nameSpan d (n ++ rest) = (n, rest)) :
    ReadsTerm d j cs (.atom (d.sigils.literal r) n (some (place j (skip d cs)))) rest := by
  have hc : opening? d.compound.left (skip d cs) = none := by
    rw [hs]
    exact opening?_of_opens ho (b := .compound) (by simp)
  have hl : opening? d.statement.left (skip d cs) = none := by
    rw [hs]
    exact opening?_of_opens ho (b := .statement) (by simp)
  have hp : (nameSpan d (n ++ rest)).1 = [] → d.sigils.literal r = d.sigils.literal .placeholder := by
    rw [hn]
    intro h
    rw [hne h]
  have hf : d.sigils.lexicon.front? (skip d cs) = some (d.sigils.literal r, n ++ rest) := by
    rw [hs]
    exact front?_of_opens ho
  have hz : d.sets.family.left? (skip d cs) = none := by
    rw [hs]
    exact left?_eq_none_of_opens ho hd (by simp)
  have ht : ReadsTerm d j cs _ _ := .atom hz hc hl hf hp
  rwa [hn] at ht

lemma front?_connector (k : Connector) (y : Text) :
    d.connectors.lexicon.front? (d.connectors.literal k ++ (d.separator ++ y)) =
      some (d.connectors.literal k, d.separator ++ y) := by
  apply Lexicon.front?_eq_some (Vocabulary.literal_mem _ k)
  intro e he hlt
  obtain ⟨k', rfl⟩ := Vocabulary.mem_lexicon.1 he
  rcases hd.connector_connector k k' with rfl | h | h
  · exact absurd hlt (Nat.lt_irrefl _)
  · exact absurd hlt (Nat.not_lt.2 h)
  · rw [← List.append_assoc]
    exact Text.after?_of_apart h _

lemma front?_copula (k : Copula) (y : Text) :
    d.copulas.lexicon.front? (d.copulas.literal k ++ y) = some (d.copulas.literal k, y) := by
  refine Lexicon.front?_of_apart (Vocabulary.literal_mem _ k) (fun e he hne => ?_) y
  obtain ⟨k', rfl⟩ := Vocabulary.mem_lexicon.1 he
  apply (hd.copula_copula k k').resolve_left
  rintro rfl
  exact hne rfl

lemma readsTerm_compound {k : Connector} {r : Text} {ts : List Lexical.Term} {b : Text}
    (hb : b.all d.spacing.isSpace = true)
    (hs : skip d cs = d.compound.left ++ (d.connectors.literal k ++ (d.separator ++ (b ++ r))))
    {a : Dialect.Opener} (ho : Opens d a r) (hm : ReadsMembers d j d.compound.right r ts rest) :
    ReadsTerm d j cs (.compound (d.connectors.literal k) ts (some (place j (skip d cs)))) rest := by
  have hz : Opens d .compound (skip d cs) := by
    rw [hs]
    exact opens_literal hd (by simp) _
  have hk : d.connectors.literal k ∈ d.joints := by
    simp [Dialect.joints, Vocabulary.literal_mem]
  have hj : d.separator ∈ d.joints := by simp [Dialect.joints]
  have hr : skip d (b ++ r) = r := skip_append hb (head_of_opens ho)
  have hf : d.connectors.lexicon.front? (skip d (d.connectors.literal k ++ (d.separator ++ (b ++ r)))) =
      some (d.connectors.literal k, d.separator ++ (b ++ r)) := by
    rw [skip_of_head (head_of_joint hd hk _)]
    exact front?_connector hd k _
  refine .compound (left?_eq_none_of_opens hz hd (by simp)) ?_ hf (opening?_joint hd hj _) ?_ ?_
  · rw [hs]
    exact opening?_append ((hd.opener .compound).resolve_left (by simp)).1 _
  · rw [hr]
    exact ho.closer _ (by simp [Dialect.closers])
  · rwa [hr]

lemma readsTerm_set {s : Side} {r : Text} {ts : List Lexical.Term} (hs : skip d cs = (d.sets.pair s).left ++ r)
    {a : Dialect.Opener} (ho : Opens d a r) (hm : ReadsMembers d j (d.sets.pair s).right r ts rest) :
    ReadsTerm d j cs
      (.set (d.sets.pair s).left ts (d.sets.pair s).right (some (place j (skip d cs)))) rest := by
  have hz : Opens d (.set s) ((d.sets.pair s).left ++ r) := opens_literal hd (by simp) _
  have hr : skip d r = r := skip_of_head (head_of_opens ho)
  have hc : (d.sets.pair s).right ∈ d.closers := by
    simp [Dialect.closers, SetBrackets.rights, Role.mem_members]
  refine .set (r := r) ?_ ?_ ?_ ?_
  · rw [hs]
    exact left?_of_opens hz
  · rw [hr]
    exact ho.closer _ hc
  · have := List.length_pos_iff.2 ((hd.opener (.set s)).resolve_left (by simp)).1
    rw [hr, hs, List.length_append]
    exact Nat.lt_add_of_pos_left this
  · rwa [hr]

lemma readsTerm_statement {k : Copula} {r p b b' : Text} {t u : Lexical.Term}
    (hb : b.all d.spacing.isSpace = true) (hb' : b'.all d.spacing.isSpace = true)
    (hs : skip d cs = d.statement.left ++ r)
    (ht : ReadsTerm d j r t (b ++ (d.copulas.literal k ++ p)))
    (hu : ReadsTerm d j p u (b' ++ (d.statement.right ++ rest))) :
    ReadsTerm d j cs (.statement (d.copulas.literal k) t u (some (place j (skip d cs)))) rest := by
  have hz : Opens d .statement (skip d cs) := by
    rw [hs]
    exact opens_literal hd (by simp) _
  have hk : d.copulas.literal k ∈ d.joints := by
    simp [Dialect.joints, Vocabulary.literal_mem]
  have hj : d.statement.right ∈ d.joints := by simp [Dialect.joints, Dialect.closers]
  refine .statement (left?_eq_none_of_opens hz hd (by simp)) (opening?_of_opens hz (b := .compound) (by simp))
    (r := r) ?_ ht ?_ hu ?_
  · rw [hs]
    exact opening?_append ((hd.opener .statement).resolve_left (by simp)).1 _
  · rw [skip_append hb (head_of_joint hd hk p)]
    exact front?_copula hd k p
  · rw [skip_append hb' (head_of_joint hd hj rest)]
    exact opening?_append (hd.joint _ hj).1 rest

end

def Before (e x : Text) : Prop := ∃ r, x = e ++ r

structure AtomStands (d : Dialect) (r : AtomRole) (n x : Text) : Prop where
  opens : Opens d (.sigil r) (d.sigils.literal r ++ (n ++ x))
  nameSpan : nameSpan d (n ++ x) = (n, x)

mutual

/-- Made of the literals of the dialect, with every atom standing in front of what is written behind it.
Behind the term stands a text with the property; the blanks are those around a copula. -/
def Settled (d : Dialect) (g : Text) (behind : Text → Prop) : Lexical.Term → Prop
  | .atom p n _ =>
    ∃ r, p = d.sigils.literal r ∧ (n = [] → r = .placeholder) ∧ ∀ x, behind x → AtomStands d r n x
  | .compound c ts _ =>
    (∃ k, c = d.connectors.literal k) ∧ ts ≠ [] ∧ SettledAll d g d.compound.right ts
  | .set l ts r _ =>
    (∃ s, l = (d.sets.pair s).left ∧ r = (d.sets.pair s).right) ∧ ts ≠ [] ∧ SettledAll d g r ts
  | .statement c t u _ =>
    (∃ k, c = d.copulas.literal k) ∧ Settled d g (Before (g ++ c)) t ∧ Settled d g (Before d.statement.right) u

def SettledAll (d : Dialect) (g right : Text) : List Lexical.Term → Prop
  | [] => True
  | [t] => Settled d g (Before right) t
  | t :: u :: us => Settled d g (Before d.separator) t ∧ SettledAll d g right (u :: us)

end

section

variable (hd : d.ClearTerms) {g h : Text}

include hd

lemma opens_of_settled {t : Lexical.Term} {behind : Text → Prop} (ht : Settled d g behind t) {x : Text}
    (hx : behind x) : ∃ a, Opens d a (t.write (d.withGaps g h) ++ x) := by
  cases t with
  | atom p n _ =>
    obtain ⟨r, rfl, -, hs⟩ := ht
    refine ⟨.sigil r, ?_⟩
    rw [Lexical.Term.write, List.append_assoc]
    exact (hs x hx).opens
  | compound c ts _ =>
    simp only [Lexical.Term.write, List.append_assoc]
    exact ⟨.compound, opens_literal hd (by simp) _⟩
  | set l ts r _ =>
    obtain ⟨⟨s, rfl, rfl⟩, -⟩ := ht
    simp only [Lexical.Term.write, List.append_assoc]
    exact ⟨.set s, opens_literal hd (by simp) _⟩
  | statement c t u _ =>
    simp only [Lexical.Term.write, List.append_assoc]
    exact ⟨.statement, opens_literal hd (by simp) _⟩

lemma opens_of_settledAll {ts : List Lexical.Term} {right : Text} (hne : ts ≠ []) (hts : SettledAll d g right ts)
    (x : Text) : ∃ a, Opens d a (Lexical.Term.writeAll (d.withGaps g h) ts ++ (right ++ x)) := by
  match ts, hne, hts with
  | [t], _, hts =>
    rw [Lexical.Term.writeAll, Lexical.Term.writeMore, List.append_nil]
    exact opens_of_settled hd hts ⟨x, rfl⟩
  | t :: u :: us, _, hts =>
    rw [Lexical.Term.writeAll, Lexical.Term.writeMore, componentSeparator_withGaps]
    simp only [List.append_assoc]
    exact opens_of_settled hd hts.1 ⟨_, rfl⟩

end

mutual

lemma exists_readsTerm_settled (hd : d.ClearTerms) {g h : Text} (hg : g.all d.spacing.isSpace = true)
    {t : Lexical.Term} {behind : Text → Prop} (ht : Settled d g behind t) {b x : Text}
    (hb : b.all d.spacing.isSpace = true) (hx : behind x) :
    ∃ u, u.shape = t.shape ∧ ReadsTerm d j (b ++ (t.write (d.withGaps g h) ++ x)) u x := by
  obtain ⟨a, ho⟩ := opens_of_settled (h := h) hd ht hx
  have hs := skip_append hb (head_of_opens ho)
  cases t with
  | atom p n _ =>
    obtain ⟨r, rfl, hne, hst⟩ := ht
    obtain ⟨ha, hn⟩ := hst x hx
    rw [Lexical.Term.write, List.append_assoc] at hs ⊢
    refine ⟨_, ?_, readsTerm_atom hd hs ha hne hn⟩
    rfl
  | compound c ts _ =>
    obtain ⟨⟨k, rfl⟩, hne, hts⟩ := ht
    have hc : d.compound.right ∈ d.closers := by simp [Dialect.closers]
    obtain ⟨us, hus, hm⟩ := exists_readsMembers_settled hd hg hne hts (b := []) (x := x) hc rfl
    obtain ⟨a', ho'⟩ := opens_of_settledAll (h := h) hd hne hts x
    simp only [Lexical.Term.write, componentSeparator_withGaps, List.append_assoc] at hs ⊢
    refine ⟨_, ?_, readsTerm_compound hd hg hs ho' hm⟩
    simp [Lexical.Term.shape, hus]
  | set l ts r _ =>
    obtain ⟨⟨s, rfl, rfl⟩, hne, hts⟩ := ht
    have hc : (d.sets.pair s).right ∈ d.closers := by
      simp [Dialect.closers, SetBrackets.rights, Role.mem_members]
    obtain ⟨us, hus, hm⟩ := exists_readsMembers_settled hd hg hne hts (b := []) (x := x) hc rfl
    obtain ⟨a', ho'⟩ := opens_of_settledAll (h := h) hd hne hts x
    simp only [Lexical.Term.write, List.append_assoc] at hs ⊢
    refine ⟨_, ?_, readsTerm_set hd hs ho' hm⟩
    simp [Lexical.Term.shape, hus]
  | statement c t u _ =>
    obtain ⟨⟨k, rfl⟩, h₁, h₂⟩ := ht
    obtain ⟨v, hv, hrv⟩ := exists_readsTerm_settled hd hg h₁ (b := []) rfl
      ⟨g ++ (u.write (d.withGaps g h) ++ (d.statement.right ++ x)), rfl⟩
    obtain ⟨w, hw, hrw⟩ := exists_readsTerm_settled hd hg h₂ hg ⟨x, rfl⟩
    simp only [Lexical.Term.write, List.append_assoc] at hs hrv ⊢
    refine ⟨_, ?_, readsTerm_statement hd hg (List.all_nil : ([] : Text).all d.spacing.isSpace = true) hs hrv hrw⟩
    simp [Lexical.Term.shape, hv, hw]

lemma exists_readsMembers_settled (hd : d.ClearTerms) {g h : Text} (hg : g.all d.spacing.isSpace = true)
    {ts : List Lexical.Term} {right : Text} (hne : ts ≠ [])
    (hts : SettledAll d g right ts) {b x : Text} (hright : right ∈ d.closers)
    (hb : b.all d.spacing.isSpace = true) :
    ∃ us, Lexical.Term.shapeAll us = Lexical.Term.shapeAll ts ∧
      ReadsMembers d j right (b ++ (Lexical.Term.writeAll (d.withGaps g h) ts ++ (right ++ x))) us x := by
  have hc : right ∈ d.joints := by simp [Dialect.joints, hright]
  have hp : d.separator ∈ d.joints := by simp [Dialect.joints]
  match ts, hne, hts with
  | [t], _, hts =>
    obtain ⟨u, hu, hr⟩ := exists_readsTerm_settled hd hg hts hb ⟨x, rfl⟩
    rw [Lexical.Term.writeAll, Lexical.Term.writeMore, List.append_nil]
    exact ⟨[u], by simp [Lexical.Term.shapeAll, hu],
      .last hr (opening?_separator_closer hd hright x) (opening?_joint hd hc x)⟩
  | t :: u :: us, _, hts =>
    obtain ⟨v, hv, hr⟩ := exists_readsTerm_settled hd hg hts.1 hb
      ⟨g ++ (Lexical.Term.writeAll (d.withGaps g h) (u :: us) ++ (right ++ x)), rfl⟩
    obtain ⟨vs, hvs, hm⟩ := exists_readsMembers_settled hd hg (by simp) hts.2 hright hg
    refine ⟨v :: vs, by simp only [Lexical.Term.shapeAll, hv, hvs], ?_⟩
    simp only [Lexical.Term.writeAll, Lexical.Term.writeMore, componentSeparator_withGaps,
      List.append_assoc] at hr hm ⊢
    exact .more hr (opening?_joint hd hp _) hm

end

mutual

lemma settled_of_spelled (hd : d.ClearTerms) (hn : d.ClearNames q fits) {g : Text}
    (hg : g.all d.spacing.isSpace = true) {t : Lexical.Term} (ht : t.Spelled d fits) {behind : Text → Prop}
    (hb : ∀ x, behind x → d.Follows x) : Settled d g behind t := by
  cases t with
  | atom p n _ =>
    obtain ⟨r, rfl, hf, hne⟩ := ht
    refine ⟨r, rfl, hne, fun x hx => ⟨?_, hn.nameSpan hf (hb x hx)⟩⟩
    rw [← List.append_assoc]
    exact opens_atom hd hn hf hne x
  | compound c ts _ =>
    obtain ⟨hk, hne, hts⟩ := ht
    exact ⟨hk, hne, settledAll_of_spelled hd hn hg hts (by simp [Dialect.closers])⟩
  | set l ts r _ =>
    obtain ⟨⟨s, hl, rfl⟩, hne, hts⟩ := ht
    refine ⟨⟨s, hl, rfl⟩, hne, settledAll_of_spelled hd hn hg hts ?_⟩
    simp [Dialect.closers, SetBrackets.rights, Role.mem_members]
  | statement c t u _ =>
    obtain ⟨⟨k, rfl⟩, h₁, h₂⟩ := ht
    refine ⟨⟨k, rfl⟩, settled_of_spelled hd hn hg h₁ ?_, settled_of_spelled hd hn hg h₂ ?_⟩
    · rintro x ⟨r, rfl⟩
      rw [List.append_assoc]
      exact follows_of_terminating hd hg (by simp [Dialect.Parts.terminating, Vocabulary.literal_mem]) r
    · rintro x ⟨r, rfl⟩
      exact follows_of_terminating hd (g := []) rfl (by simp [Dialect.Parts.terminating]) r

lemma settledAll_of_spelled (hd : d.ClearTerms) (hn : d.ClearNames q fits) {g : Text}
    (hg : g.all d.spacing.isSpace = true) {ts : List Lexical.Term} (hts : Lexical.Term.SpelledAll d fits ts)
    {right : Text} (hright : right ∈ d.closers) : SettledAll d g right ts := by
  match ts, hts with
  | [], _ => trivial
  | [t], hts =>
    refine settled_of_spelled hd hn hg hts.1 ?_
    rintro x ⟨r, rfl⟩
    exact follows_of_terminating hd (g := []) rfl (mem_terminating_of_mem_closers hright) r
  | t :: u :: us, hts =>
    refine ⟨settled_of_spelled hd hn hg hts.1 ?_, settledAll_of_spelled hd hn hg hts.2 hright⟩
    rintro x ⟨r, rfl⟩
    exact follows_of_terminating hd (g := []) rfl (by simp [Dialect.Parts.terminating]) r

end

section

variable (hd : d.ClearTerms) (hn : d.ClearNames q fits) {g h : Text} (hg : g.all d.spacing.isSpace = true)

include hd hn hg

lemma exists_readsTerm_write {t : Lexical.Term} (ht : t.Spelled d fits) {b rest : Text}
    (hb : b.all d.spacing.isSpace = true) (hr : d.Follows rest) :
    ∃ u, u.shape = t.shape ∧ ReadsTerm d j (b ++ (t.write (d.withGaps g h) ++ rest)) u rest :=
  exists_readsTerm_settled hd hg (settled_of_spelled hd hn hg ht fun _ hx => hx) hb hr

lemma opens_write {t : Lexical.Term} (ht : t.Spelled d fits) {rest : Text} (hr : d.Follows rest) :
    ∃ a, Opens d a (t.write (d.withGaps g h) ++ rest) :=
  opens_of_settled hd (settled_of_spelled hd hn hg ht fun _ hx => hx) hr

end

end Reading

end NarseseDialects
