import Mathlib.Algebra.Group.Int.Defs
import NarseseDialects.Proofs.Term.Atoms
import NarseseDialects.Proofs.Text.Tidy
import NarseseDialects.Proofs.Unambiguous

namespace NarseseDialects

namespace Typeset

open Text

variable {t u : Term}

lemma infix_row {ws : List (List Text)} {w : List Text} (h : w ∈ ws) (x y : Text) : w <:+: row x y ws := by
  induction ws with
  | nil => cases h
  | cons a ws ih =>
    cases ws with
    | nil =>
      obtain rfl := List.mem_singleton.1 h
      rw [row_singleton]
      exact (List.prefix_append w [y]).isInfix
    | cons b ws =>
      rw [row_cons_cons]
      rcases List.mem_cons.1 h with rfl | h
      · exact (List.prefix_append w _).isInfix
      · exact (ih h).trans ((List.suffix_cons x _).trans (List.suffix_append a _)).isInfix

lemma Form.infix_words {f : Form} {n : Text} {ps : List Term} {p : Term} (hf : f.Fits n ps) (hp : p ∈ ps)
    (w : Term → List Text) : w p <:+: f.words n (ps.map w) := by
  have hw : w p ∈ ps.map w := List.mem_map_of_mem hp
  cases f with
  | atom r =>
    rw [hf.1] at hp
    cases hp
  | set s => exact List.infix_cons (infix_row hw _ _)
  | compound c =>
    rw [words]
    split
    · exact List.infix_cons (infix_row hw _ _)
    · exact List.infix_cons (List.infix_cons (List.infix_cons (infix_row hw _ _)))
  | statement c => exact List.infix_cons (infix_row hw _ _)

lemma mem_parts_of_mem_components (h : u ∈ t.components) : u ∈ parts t := by
  cases t with
  | image s i cs =>
    have hcs : u ∈ cs.take i ++ cs.drop i := (List.take_append_drop i cs).symm ▸ h
    rcases List.mem_append.1 hcs with hu | hu
    · exact List.mem_append_left _ hu
    · exact List.mem_append_right _ (List.mem_cons_of_mem _ hu)
  | _ => exact h

lemma infix_words_of_partOf (ht : t.WellFormed) (h : Term.PartOf u t) :
    Text.words (term u) <:+: Text.words (term t) := by
  induction h with
  | self => exact List.infix_rfl
  | inner hc _ ih =>
    apply (ih (Term.wellFormed_of_mem_components ht hc)).trans
    rw [words_term ht]
    exact Form.infix_words (fits_form ht) (mem_parts_of_mem_components hc) fun u => Text.words (term u)

lemma infix_words_pieces {v : Value} {t : Text} (h : pieces? v = some t) :
    Text.words (term v.subject) <:+: Text.words t := by
  cases v with
  | term u =>
    cases h
    exact List.infix_rfl
  | sentence s => exact words_sentence h ▸ (List.prefix_append _ _).isInfix
  | task k =>
    exact words_task h ▸ (List.prefix_append _ _).isInfix.trans
      ((List.suffix_cons "space".toList _).trans (List.suffix_append _ _)).isInfix

lemma exists_pieces {v : Value} (h : ∀ x ∈ v.stamp?, x.Spellable) : ∃ t, pieces? v = some t := by
  have hstamp : ∀ {x : Stamp}, x.Spellable → ∃ t, stamp? x = some t := by
    intro x hx
    cases x with
    | eternal => exact ⟨_, rfl⟩
    | tense t => exact ⟨_, rfl⟩
    | fixed time =>
      have htime : Written.ofInt? time = some (Text.ofInt time) := Written.ofInt?_eq_some_iff.2 ⟨hx, rfl⟩
      exact ⟨_, congrArg (Option.map _) htime⟩
  cases v with
  | term t => exact ⟨_, rfl⟩
  | sentence s =>
    obtain ⟨t, ht⟩ := hstamp (h s.stamp rfl)
    exact ⟨_, congrArg (Option.map _) ht⟩
  | task k =>
    obtain ⟨t, ht⟩ := hstamp (h k.sentence.stamp rfl)
    exact ⟨_, congrArg (Option.map _) ht⟩

lemma quote_mem_words (ht : t.WellFormed) (ha : t.isAtom = true) (hp : t ≠ .placeholder) :
    quote t.name ∈ Text.words (term t) := by
  have hrole : ∀ r, r ≠ AtomRole.placeholder → ∀ n, quote n ∈ (Form.atom r).words n [] := by
    intro r hr n
    simp [Form.words, hr]
  rw [words_term ht]
  cases t with
  | named k n => exact hrole (.name k) (by simp) n
  | interval n => exact hrole .interval (by simp) (ofNat n)
  | placeholder => exact absurd rfl hp
  | _ => cases ha

end Typeset

namespace Value

open Text Typeset

lemma quote_infix_collapse {v : Value} {a : Term} {p : Text} (hv : v.WellFormed) (ha : a ∈ v.subject.atoms)
    (hne : a ≠ .placeholder) (hp : pieces? v = some p) : quote a.name <:+: collapse p := by
  rw [Term.atoms_eq_filter_walk, List.mem_filter, Term.mem_walk_iff] at ha
  obtain ⟨hpart, hatom⟩ := ha
  have hword := quote_mem_words (Term.wellFormed_of_partOf hv hpart) hatom hne
  have hterm := (infix_words_of_partOf hv hpart).subset hword
  apply infix_of_mem_words
  rw [words_collapse]
  exact (infix_words_pieces hp).subset hterm

/-- Values whose time can be written have a formula. It is tidy and has the characters of the pieces, blanks
apart; where the value was made, the quoted name of each atom stands in it, but for the placeholder, which has no
name. No text is changed by tidying it twice. -/
theorem typeset_tidy :
    (∀ v : Value, (∀ x ∈ v.stamp?, x.Spellable) → ∃ p t, pieces? v = some p ∧ v.typeset? = some t ∧ Tidy t ∧
      t.filter (!isBlank ·) = p.filter (!isBlank ·) ∧
      (v.Made → ∀ a ∈ v.subject.atoms, a ≠ .placeholder → quote a.name <:+: t)) ∧
      ∀ t : Text, collapse (collapse t) = collapse t := by
  refine ⟨fun v hv => ?_, collapse_collapse⟩
  obtain ⟨p, hp⟩ := exists_pieces hv
  refine ⟨p, collapse p, hp, congrArg (Option.map _) hp, tidy_collapse p, filter_collapse p, ?_⟩
  intro hm a ha hne
  exact quote_infix_collapse hm.wellFormed ha hne hp

theorem imageGoal_typeset_tidy :
    let a := Term.named .word "a"
    (∀ x ∈ imageGoal.stamp?, x.Spellable) ∧ imageGoal.Made ∧ a ∈ imageGoal.subject.atoms ∧ a ≠ .placeholder ∧
      ∃ t, imageGoal.typeset? = some t ∧ Tidy t ∧ quote a.name <:+: t := by
  intro a
  have hs : ∀ x ∈ imageGoal.stamp?, x.Spellable := by
    rintro x ⟨⟩
    trivial
  obtain ⟨-, t, -, ht, htidy, -, hquote⟩ := typeset_tidy.1 imageGoal hs
  have ha : a ∈ imageGoal.subject.atoms := List.mem_cons_self
  have hne : a ≠ .placeholder := nofun
  exact ⟨hs, made_imageGoal, ha, hne, t, ht, htidy, hquote made_imageGoal a ha hne⟩

def remoteJudgement : Value := .sentence ⟨.named .word "A", .judgement .empty, .fixed (10 ^ Written.digitLimit)⟩

lemma made_remoteJudgement : remoteJudgement.Made := by
  refine @Value.Made.sentence .judgement (.value (.term (.named .word "A"))) (.truth .empty)
    (.stamp (.fixed (10 ^ Written.digitLimit))) _ ?_ rfl
  rintro v ⟨⟩
  exact .named rfl

lemma lt_length_ofNat_pow (n : Nat) : n < (ofNat ((10 : Int) ^ n).natAbs).length := by
  rw [Int.natAbs_pow, ← Nat.not_le]
  intro h
  rcases Nat.eq_zero_or_pos n with rfl | hn
  · exact absurd h (by decide)
  · exact Nat.lt_irrefl _ ((Nat.length_toDigits_le_iff (by decide) hn).1 h)

lemma ofInt?_pow (n : Nat) (h : Written.digitLimit ≤ n) : Written.ofInt? (10 ^ n) = none := by
  rw [Option.eq_none_iff_forall_ne_some]
  intro t ht
  have hlt := lt_length_ofNat_pow n
  have hle := (Written.ofInt?_eq_some_iff.1 ht).1
  omega

lemma typeset_remoteJudgement : remoteJudgement.typeset? = none := by
  have htime := ofInt?_pow Written.digitLimit (Nat.le_refl _)
  have hstamp : Typeset.stamp? (.fixed (10 ^ Written.digitLimit)) = none := by
    rw [Typeset.stamp?, htime, Option.map_none]
  rw [remoteJudgement, typeset?, pieces?, sentence?, hstamp, Option.map_none, Option.map_none]

/-- The placeholder is an atom with the empty name, which no quotes are written for, and a time may be too long
for a formula. -/
theorem placeholder_not_quoted :
    (Made (.term .placeholder) ∧ Term.placeholder ∈ (subject (.term .placeholder)).atoms ∧
      ∀ t, typeset? (.term .placeholder) = some t → ¬quote Term.placeholder.name <:+: t) ∧
      remoteJudgement.Made ∧ remoteJudgement.typeset? = none := by
  refine ⟨⟨.placeholder, List.mem_singleton_self _, ?_⟩, made_remoteJudgement, typeset_remoteJudgement⟩
  rintro t ⟨⟩
  decide

end Value

end NarseseDialects
