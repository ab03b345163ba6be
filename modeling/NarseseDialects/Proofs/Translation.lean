import NarseseDialects.Proofs.Reading.WrittenNodes
import NarseseDialects.Proofs.Value.Origin

namespace NarseseDialects

/-- Whether no word begins like another atom of the dialect, and no end of a name makes another copula of the
copula that is written behind it. -/
def Value.Unmistakable (d : Dialect) (v : Value) : Prop :=
  (Meaning.unfoldTerm d v.subject).EachAtom d (Reading.Unmistakable d) []

namespace Reading

open Lexical Meaning Outcome

lemma unmistakable_latex {p m e : Text} (hm : m.all Text.isNameChar = true) : Unmistakable .latex p m e := by
  constructor
  · intro _ r hr
    have hs : ∀ r, Dialect.latex.sigils.literal r = [] ∨
        (Dialect.latex.sigils.literal r).head?.any (!Text.isNameChar ·) = true := by
      decide
    cases m with
    | nil =>
      obtain ⟨x, l, hl⟩ := List.exists_cons_of_ne_nil hr
      rw [hl]
      rfl
    | cons c m =>
      have h := after?_suffix_of_head hm (List.cons_ne_nil c m) List.suffix_rfl ((hs r).resolve_left hr) []
      rwa [List.append_nil] at h
  · intro he a ha hs hmem
    have hc : ∀ c ∈ Dialect.latex.copulas.lexicon.entries, c.head?.any (!Text.isNameChar ·) = true := by
      decide
    have h := after?_suffix_of_head hm ha hs (hc _ hmem) e
    rw [Text.after?_self] at h
    cases h

lemma sentence_withTerm {d : Dialect} {t u : NarseseDialects.Term} {p st : Text} {ns : List Text}
    {x : NarseseDialects.Sentence} (h : sentence d t p st ns = .ok x) :
    sentence d u p st ns = .ok { x with term := u } := by
  unfold sentence at h ⊢
  split at h
  · cases h
  obtain ⟨m, hm, h⟩ := bind_eq_ok.1 h
  obtain ⟨s, hs, h⟩ := bind_eq_ok.1 h
  obtain ⟨y, hy, h⟩ := bind_eq_ok.1 h
  cases h
  simp only [hm, hs, hy, ok_bind]
  rfl

/-- What a word begins with is taken for a budget, and the sentence about it for the task that has this budget
and is about what the rest of the word is read as. -/
def TakenForTask (d : Dialect) (s : NarseseDialects.Sentence) (k : NarseseDialects.Task) : Prop :=
  ∃ budget rest stop, s.term = .named .word (writeNumerals (d.numerals .budget) budget ++ rest) ∧
    Meaning.measure .budget budget = .ok k.budget ∧
    readWhole d (typedMaker d) stop rest = .ok k.sentence.term ∧
    k.sentence = { s with term := k.sentence.term }

section

variable {d : Dialect} {s : NarseseDialects.Sentence}

lemma eq_named_of_unfoldTerm {t : NarseseDialects.Term} {w : Text} {p : Option Nat}
    (h : unfoldTerm d t = .atom (d.sigils.literal (.name .word)) w p) : t = .named .word w := by
  cases t with
  | named k m =>
    obtain ⟨hk, rfl, -⟩ := Lexical.Term.atom.inj h
    cases d.sigils.literal_injective hk
    rfl
  | placeholder => cases d.sigils.literal_injective (Lexical.Term.atom.inj h).1
  | interval m => cases d.sigils.literal_injective (Lexical.Term.atom.inj h).1
  | collection k cs => cases k <;> cases h
  | chain | difference | negation | image | ordered | symmetric => cases h

lemma readWhole_of_foldTerm {stop : Nat} {cs : Text} {u : Lexical.Term} {t : NarseseDialects.Term}
    (h : ReadsWhole d stop cs u) (ht : foldTerm d u = .ok t) : readWhole d (typedMaker d) stop cs = .ok t := by
  obtain ⟨rest, hr, -⟩ := id h
  have ha : Agrees id ((typedMaker d).make u) (foldTerm d (u.relocate id)) := fold_agrees hr
  rw [← foldTerm_shape, ← Lexical.Term.shape_relocate id, foldTerm_shape] at ht
  rw [ht] at ha
  rw [readWhole_of_readsWhole h]
  generalize (typedMaker d).make u = x at ha ⊢
  cases ha
  rfl

lemma exists_of_fold_task {a : Lexical.Sentence} {ns : List Text} {u : Lexical.Term} {w : Value}
    (hs : foldSentence d a = .ok s) (h : fold d (.task ⟨ns, { a with term := u }, none⟩) = .ok w) :
    ∃ k : NarseseDialects.Task, w = .task k ∧ Meaning.measure .budget ns = .ok k.budget ∧
      foldTerm d u = .ok k.sentence.term ∧ k.sentence = { s with term := k.sentence.term } := by
  obtain ⟨k, hk, rfl⟩ := map_eq_ok.1 h
  obtain ⟨hsentence, hbudget⟩ := exists_of_foldTask hk
  obtain ⟨t, ht, hx⟩ := bind_eq_ok.1 hsentence
  obtain ⟨t', -, hs⟩ := bind_eq_ok.1 hs
  have hk := (atNode_eq_ok.1 hx).symm.trans (sentence_withTerm (atNode_eq_ok.1 hs))
  rw [Except.ok.injEq] at hk
  refine ⟨k, rfl, hbudget, ?_, ?_⟩
  · rw [hk]
    exact ht
  · rw [hk]

end

variable {P Q : DialectName} {text : Text} {v : Value}

/-- A value that is translated and read again is the same, but for a sentence about a word that begins with what is
a budget elsewhere: it may be taken for a task about what the rest of the word is read as. -/
theorem readValue_translated (h : readValue P.dialect text = .ok v) (hu : Q ≠ .latex → v.Unmistakable Q.dialect) :
    ∃ t, v.write? Q.dialect = some t ∧ ∀ w, readValue Q.dialect t = .ok w →
      w = v ∨ Q = .han ∧ ∃ s k, v = .sentence s ∧ w = .task k ∧ TakenForTask Q.dialect s k := by
  obtain ⟨x, hx⟩ := exists_unfolded_of_readValue h Q.dialect
  refine ⟨x.write Q.dialect, congrArg (Option.map _) hx, fun w hw => ?_⟩
  have hunmistakable : x.subject.EachAtom Q.dialect (Unmistakable Q.dialect) [] := by
    rw [subject_of_unfolded hx]
    by_cases hq : Q = .latex
    · subst hq
      have hn := eachAtom_unfold h .latex
      exact hn.imp (fun p m e hn _ => unmistakable_latex hn.1) hn
    · exact hu hq
  obtain ⟨m, hm⟩ := readLexical_isOk_of_readValue hw
  rcases recovered_of_readLexical Q (spelled_unfold_anyName h hx) hunmistakable hm with
    ⟨hsame, -⟩ | ⟨hq, a, ns, rest, p, stop, u, rfl, hatom, hread, hsame⟩
  · cases hw.symm.trans (readValue_of_readLexical h hx hm hsame)
    exact .inl rfl
  · refine .inr ⟨hq, ?_⟩
    cases v with
    | sentence s =>
      obtain ⟨y, hy, he⟩ := Option.map_eq_some_iff.1 hx
      cases he
      obtain ⟨hwf, hsp⟩ := wellFormed_of_readValue h
      have hs := foldSentence_unfoldSentence Q.tellsTenses.tellsStamps hwf hsp.subject hy
      rw [readValue_eq_ok_iff hm, fold_congr hsame] at hw
      obtain ⟨k, rfl, hbudget, hterm, hk⟩ := exists_of_fold_task hs hw
      rw [show a.term = unfoldTerm Q.dialect s.term from subject_of_unfolded hx] at hatom
      exact ⟨s, k, rfl, rfl, ns, rest, stop, eq_named_of_unfoldTerm hatom, hbudget,
        readWhole_of_foldTerm hread hterm, hk⟩
    | _ => cases kind_of_unfolded hx

def wordStatement : NarseseDialects.Term := .ordered .inheritance (.named .word "a") (.named .word "b")

lemma readValue_wordStatement : readValue .ascii "<a --> b>" = .ok (.term wordStatement) := by
  refine readValue_of_same (x := .term (.statement "-->" (.atom "" "a" none) (.atom "" "b" none) none)) ?_ rfl
  decide +kernel

lemma unmistakable_wordStatement : Value.Unmistakable .han (.term wordStatement) := by
  have ha : ∀ {c : Char} {a : Text}, a ≠ [] → a <:+ [c] → a = [c] := by
    intro c a hne h
    rcases List.suffix_cons_iff.1 h with rfl | h
    · rfl
    · exact absurd (List.suffix_nil.1 h) hne
  refine ⟨⟨fun _ => by decide, fun _ a hne h => ?_⟩, ⟨fun _ => by decide, fun _ a hne h => ?_⟩⟩
  · rw [ha hne h]
    decide
  · rw [ha hne h]
    decide

theorem wordStatement_readValue_translated :
    readValue .ascii "<a --> b>" = .ok (.term wordStatement) ∧
      Value.Unmistakable .han (.term wordStatement) ∧
        ∃ t w, Value.write? .han (.term wordStatement) = some t ∧ readValue .han t = .ok w ∧
          w = .term wordStatement := by
  have hr : (readValue .han (wordStatement.textIn .han)).toOption.isSome = true := by decide +kernel
  obtain ⟨w, hw⟩ := exists_of_toOption_isSome hr
  obtain ⟨t, ht, htranslated⟩ := readValue_translated (P := .ascii) (Q := .han) readValue_wordStatement
    fun _ => unmistakable_wordStatement
  obtain rfl : wordStatement.textIn .han = t := Option.some.inj ht
  refine ⟨readValue_wordStatement, unmistakable_wordStatement, _, w, ht, hw, ?_⟩
  rcases htranslated w hw with h | ⟨-, s, k, hs, -⟩
  · exact h
  · cases hs

/-- The word `_` of one dialect is the placeholder of another. -/
theorem underscore_mistaken :
    ¬ ∀ (P Q : DialectName) (text t : Text) (v w : Value), P ≠ Q → readValue P.dialect text = .ok v →
      v.write? Q.dialect = some t → readValue Q.dialect t = .ok w → w = v := by
  intro h
  have hv : readValue .latex "_" = .ok (.term (.named .word "_")) :=
    readValue_of_same (x := .term (.atom "" "_" none)) (by decide +kernel) rfl
  have hw : readValue .ascii ((NarseseDialects.Term.named .word "_").textIn .ascii) = .ok (.term .placeholder) :=
    readValue_of_same (x := .term (.atom "_" "" none)) (by decide +kernel) rfl
  cases h .latex .ascii "_" _ _ _ (by decide) hv rfl hw

end Reading

end NarseseDialects
