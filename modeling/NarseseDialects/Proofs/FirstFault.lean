import NarseseDialects.Dialect.Ascii
import NarseseDialects.Proofs.Dialect.Literals
import NarseseDialects.Proofs.Lexical.Postorder
import NarseseDialects.Proofs.Meaning.Folding

namespace NarseseDialects.Meaning

open Outcome Lexical

variable {d : Dialect} {n : Node} {f : FoldFault} {ms ns : List Node}

abbrev Folds (d : Dialect) (n : Node) : Prop := ∃ v, fold d n = .ok v

/-- A set whose left bracket is known and whose right one is not its partner. -/
def Mismatched (d : Dialect) (n : Node) : Prop :=
  ∃ s ts right spot, n = .term (.set (d.sets.pair s).left ts right spot) ∧ right ≠ (d.sets.pair s).right

/-- The node fails by itself, and those before it have a meaning. Within a set with the wrong right bracket
nothing is looked at. -/
def FirstBad (d : Dialect) (ns : List Node) (f : FoldFault) (n : Node) : Prop :=
  fold d n = .error (.fault f n) ∧
    ∃ before after, ns = before ++ (Node.inner n ++ n :: after) ∧ (∀ m ∈ before, Folds d m) ∧
      (¬ Mismatched d n → ∀ m ∈ Node.inner n, Folds d m)

namespace FirstBad

lemma of_inner (h : fold d n = .error (.fault f n)) (hi : ¬ Mismatched d n → ∀ m ∈ Node.inner n, Folds d m) :
    FirstBad d (Node.postorder n) f n :=
  ⟨h, [], [], rfl, by simp, hi⟩

lemma append_right (h : FirstBad d ns f n) (ms : List Node) : FirstBad d (ns ++ ms) f n := by
  obtain ⟨hn, before, after, rfl, hb, hi⟩ := h
  exact ⟨hn, before, after ++ ms, by simp, hb, hi⟩

lemma append_left (hm : ∀ m ∈ ms, Folds d m) (h : FirstBad d ns f n) : FirstBad d (ms ++ ns) f n := by
  obtain ⟨hn, before, after, rfl, hb, hi⟩ := h
  refine ⟨hn, ms ++ before, after, by simp, ?_, hi⟩
  intro m hmem
  rcases List.mem_append.1 hmem with hmem | hmem
  · exact hm m hmem
  · exact hb m hmem

end FirstBad

lemma node_of_atNode {α : Type} {node : Node} {x : Result α} (h : atNode node x = .error (.fault f n)) :
    n = node := by
  cases x with
  | ok a => cases h
  | error e =>
    cases e with
    | failure g =>
      cases h
      rfl
    | tooManyDigits k => cases h

lemma firstBad_of_bind {α β : Type} {node : Node} {x : Except FoldTrouble α} {g : α → Result β}
    (hn : fold d node = .error (.fault f n))
    (hx : x = .error (.fault f n) → FirstBad d (Node.inner node) f n)
    (hok : ∀ a, x = .ok a → ∀ m ∈ Node.inner node, Folds d m)
    (h : x >>= (fun a => atNode node (g a)) = .error (.fault f n)) : FirstBad d (Node.postorder node) f n := by
  rcases bind_eq_error.1 h with hx' | ⟨a, ha, hat⟩
  · exact (hx hx').append_right _
  · obtain rfl := node_of_atNode hat
    exact .of_inner hn fun _ => hok a ha

lemma folds_term {t : Lexical.Term} : Folds d (.term t) ↔ ∃ v, foldTerm d t = .ok v :=
  exists_map_eq_ok

lemma forall_folds_map {ts : List Lexical.Term} :
    (∀ m ∈ ts.map .term, Folds d m) ↔ ∀ u ∈ ts, ∃ v, foldTerm d u = .ok v := by
  rw [List.forall_mem_map]
  exact forall₂_congr fun u _ => folds_term

mutual

lemma folds_postorder (t : Lexical.Term) {v : Term} (h : foldTerm d t = .ok v) :
    ∀ u ∈ t.postorder, ∃ w, foldTerm d u = .ok w := by
  refine List.forall_mem_append.2 ⟨?_, List.forall_mem_singleton.2 ⟨v, h⟩⟩
  cases t with
  | atom p n s => simp [Term.inner]
  | compound c ts s =>
    obtain ⟨cs, hcs, -⟩ := foldTerm_compound.1 h
    exact folds_postorderAll ts hcs
  | set l ts r s =>
    obtain ⟨-, cs, hcs, -⟩ := foldTerm_set.1 h
    exact folds_postorderAll ts hcs
  | statement c t u s =>
    obtain ⟨a, ha, b, hb, -⟩ := foldTerm_statement.1 h
    exact List.forall_mem_append.2 ⟨folds_postorder t ha, folds_postorder u hb⟩

lemma folds_postorderAll (ts : List Lexical.Term) {vs : List Term} (h : foldTerms d ts = .ok vs) :
    ∀ u ∈ Term.postorderAll ts, ∃ w, foldTerm d u = .ok w := by
  cases ts with
  | nil => simp [Term.postorderAll]
  | cons t ts =>
    obtain ⟨a, ha, h'⟩ := bind_eq_ok.1 h
    obtain ⟨as, has, -⟩ := bind_eq_ok.1 h'
    exact List.forall_mem_append.2 ⟨folds_postorder t ha, folds_postorderAll ts has⟩

end

lemma folds_of_foldSentence {x : Lexical.Sentence} {v : Sentence} (h : foldSentence d x = .ok v) :
    ∀ m ∈ Node.inner (.sentence x), Folds d m := by
  obtain ⟨a, ha, -⟩ := bind_eq_ok.1 h
  exact forall_folds_map.2 (folds_postorder x.term ha)

lemma Folds.forall_postorder (h : Folds d n) : ∀ m ∈ Node.postorder n, Folds d m := by
  refine List.forall_mem_append.2 ⟨?_, List.forall_mem_singleton.2 h⟩
  cases n with
  | term t =>
    obtain ⟨v, hv⟩ := exists_map_eq_ok.1 h
    exact forall_folds_map.2 (List.forall_mem_append.1 (folds_postorder t hv)).1
  | sentence x =>
    obtain ⟨v, hv⟩ := exists_map_eq_ok.1 h
    exact folds_of_foldSentence hv
  | task k =>
    obtain ⟨v, hv⟩ := exists_map_eq_ok.1 h
    obtain ⟨x, hx, -⟩ := bind_eq_ok.1 hv
    exact List.forall_mem_append.2 ⟨folds_of_foldSentence hx,
      List.forall_mem_singleton.2 (exists_map_eq_ok.2 ⟨x, hx⟩)⟩

lemma wrongBracket_eq_true {l r : Text} (h : wrongBracket d l r = true) :
    ∃ s, l = (d.sets.pair s).left ∧ r ≠ (d.sets.pair s).right := by
  rw [wrongBracket] at h
  split at h
  next partner hp =>
    obtain ⟨⟨a, b⟩, hf, rfl⟩ := Option.map_eq_some_iff.1 hp
    have hm := List.mem_of_find?_eq_some hf
    obtain rfl : a = l := by simpa using List.find?_some hf
    rw [d.sets.family_pairs] at hm
    obtain ⟨s, -, hs⟩ := List.mem_map.1 hm
    cases hs
    exact ⟨s, rfl, fun he => bne_iff_ne.1 h he.symm⟩
  · cases h

mutual

lemma firstBad_of_foldTerm (t : Lexical.Term) (h : foldTerm d t = .error (.fault f n)) :
    FirstBad d (t.postorder.map .term) f n := by
  have hn : fold d (.term t) = .error (.fault f n) := map_eq_error.2 h
  rw [← Node.postorder_term]
  cases t with
  | atom p m s =>
    obtain rfl := node_of_atNode h
    exact .of_inner hn (by simp [Node.inner, Term.inner])
  | compound c ts s =>
    exact firstBad_of_bind hn (firstBad_of_foldTerms ts)
      (fun cs hcs => forall_folds_map.2 (folds_postorderAll ts hcs)) h
  | set l ts r s =>
    rw [foldTerm] at h
    split at h
    next hb =>
      -- The brackets are looked at before the members, of which nothing is known then.
      obtain ⟨side, rfl, hr⟩ := wrongBracket_eq_true hb
      cases h
      exact .of_inner hn fun hm => absurd ⟨side, ts, r, s, rfl, hr⟩ hm
    next hb =>
      exact firstBad_of_bind hn (firstBad_of_foldTerms ts)
        (fun cs hcs => forall_folds_map.2 (folds_postorderAll ts hcs)) h
  | statement c t u s =>
    have hinner : Node.inner (.term (.statement c t u s)) = t.postorder.map .term ++ u.postorder.map .term :=
      List.map_append
    rcases bind_eq_error.1 h with ht | ⟨a, ha, h'⟩
    · have hbad := (firstBad_of_foldTerm t ht).append_right (u.postorder.map .term)
      rw [← hinner] at hbad
      exact hbad.append_right _
    have hta := forall_folds_map.2 (folds_postorder t ha)
    refine firstBad_of_bind hn (fun hu => ?_) (fun b hb => ?_) h'
    · rw [hinner]
      exact (firstBad_of_foldTerm u hu).append_left hta
    · rw [hinner]
      exact List.forall_mem_append.2 ⟨hta, forall_folds_map.2 (folds_postorder u hb)⟩

lemma firstBad_of_foldTerms (ts : List Lexical.Term) (h : foldTerms d ts = .error (.fault f n)) :
    FirstBad d ((Term.postorderAll ts).map .term) f n := by
  cases ts with
  | nil => cases h
  | cons t ts =>
    have happend : (Term.postorderAll (t :: ts)).map (.term : Lexical.Term → Node) =
        t.postorder.map .term ++ (Term.postorderAll ts).map .term := List.map_append
    rw [happend]
    rcases bind_eq_error.1 h with ht | ⟨a, ha, h'⟩
    · exact (firstBad_of_foldTerm t ht).append_right _
    · rcases bind_eq_error.1 h' with hts | ⟨as, -, hpure⟩
      · exact (firstBad_of_foldTerms ts hts).append_left (forall_folds_map.2 (folds_postorder t ha))
      · cases hpure

end

lemma firstBad_of_foldSentence (x : Lexical.Sentence) (h : foldSentence d x = .error (.fault f n)) :
    FirstBad d (Node.postorder (.sentence x)) f n :=
  firstBad_of_bind (map_eq_error.2 h) (firstBad_of_foldTerm x.term)
    (fun _ ha => forall_folds_map.2 (folds_postorder x.term ha)) h

lemma firstBad_of_fold {t : Node} (h : fold d t = .error (.fault f n)) : FirstBad d (Node.postorder t) f n := by
  cases t with
  | term t =>
    rw [Node.postorder_term]
    exact firstBad_of_foldTerm t (map_eq_error.1 h)
  | sentence x => exact firstBad_of_foldSentence x (map_eq_error.1 h)
  | task k =>
    have hk := map_eq_error.1 h
    exact firstBad_of_bind h (firstBad_of_foldSentence k.sentence)
      (fun x hx => Folds.forall_postorder (n := .sentence k.sentence) ⟨.sentence x, map_eq_ok.2 ⟨x, hx, rfl⟩⟩) hk

/-- An error of a fold names the first node without a meaning, with what is wrong there; and a node without a
meaning is enough for an error. -/
theorem fold_names_first_bad (d : Dialect) (t : Node) :
    (∀ f n, fold d t = .error (.fault f n) → n ∈ Node.parts t ∧ FirstBad d (Node.postorder t) f n) ∧
      ∀ n ∈ Node.parts t, ∀ e, fold d n = .error e → ∃ e', fold d t = .error e' := by
  refine ⟨?_, ?_⟩
  · intro f n h
    have hbad := firstBad_of_fold h
    refine ⟨?_, hbad⟩
    obtain ⟨-, before, after, hpost, -⟩ := hbad
    rw [← (Node.postorder_perm t).mem_iff, hpost]
    simp
  · intro n hn e he
    cases hf : fold d t with
    | error e' => exact ⟨e', rfl⟩
    | ok v =>
      obtain ⟨w, hw⟩ := Folds.forall_postorder ⟨v, hf⟩ n ((Node.postorder_perm t).mem_iff.2 hn)
      rw [he] at hw
      cases hw

theorem wrongBracket_fold_names_first_bad :
    FirstBad .ascii
        (Node.postorder (.term (.statement "-->" (.set "\x7b" [.atom "" "?" none] "]" none) (.atom "@" "y" none) none)))
        (.wrongBracket "\x7b" "]") (.term (.set "\x7b" [.atom "" "?" none] "]" none)) ∧
      ∃ e, fold .ascii
        (.term (.statement "-->" (.set "\x7b" [.atom "" "?" none] "]" none) (.atom "@" "y" none) none)) = .error e :=
  ⟨((fold_names_first_bad .ascii _).1 _ _ rfl).2,
    (fold_names_first_bad .ascii _).2 (.term (.atom "@" "y" none)) (by simp [Node.parts, Term.subterms]) _ rfl⟩

end NarseseDialects.Meaning
