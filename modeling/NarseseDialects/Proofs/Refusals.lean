import NarseseDialects.Proofs.Agreement
import NarseseDialects.Proofs.LexicalRoundTrip
import NarseseDialects.Proofs.Meaning.Troubles
import NarseseDialects.Proofs.Reading.Failures
import NarseseDialects.Proofs.Reading.Places
import NarseseDialects.Proofs.Value.Spellable

namespace NarseseDialects

lemma DialectName.setsOpen (n : DialectName) : n.dialect.SetsOpen := by
  cases n with
  | ascii => exact Dialect.clearTerms_ascii.setsOpen
  | latex => exact Dialect.clearTerms_latex.setsOpen
  | han => exact Dialect.clearTerms_han.setsOpen

namespace Reading

open Meaning Outcome Lexical

variable {d : Dialect} {text : Text}

def Cause.isEndless : Cause → Bool
  | .fault f => f.isEndless
  | .failure _ => false

def Obstacle.Within (d : Dialect) (text : Text) : Obstacle → Prop
  | .cause c p => c.message?.isSome = true ∧ c.isEndless = false ∧ p ≤ text.length
  | .tooManyDigits k => ∃ name, Overlong name k ∧ d.sigils.literal .interval ++ name <:+: text

lemma failsWith_assembled {α : Type} {p : Nat} {x : Result α} (hp : p ≤ text.length)
    (hx : FailsWith Trouble.Told x) : FailsWith (Obstacle.Within d text) (assembled p x) := by
  cases x with
  | ok a => exact .ok a
  | error e =>
    have he := hx e rfl
    cases e with
    | failure f => exact .error ⟨he, rfl, hp⟩
    | tooManyDigits k => exact he.elim

lemma failsWith_assembledAtom {sigil name : Text} {p : Nat} (hp : p ≤ text.length)
    (hi : sigil ++ name <:+: text) : FailsWith (Obstacle.Within d text) (assembled p (atom d sigil name)) := by
  cases h : atom d sigil name with
  | ok t => exact .ok t
  | error e =>
    cases e with
    | failure f => exact .error ⟨told_of_atom h, rfl, hp⟩
    | tooManyDigits k =>
      obtain ⟨rfl, hname⟩ := overlong_of_atom h
      exact .error ⟨name, hname, hi⟩

lemma refuses_typedMaker (d : Dialect) (text : Text) : (typedMaker d).Refuses text (Obstacle.Within d text) where
  fault _ _ hf hp := ⟨rfl, hf, hp⟩
  atom _ _ _ hi hp := failsWith_assembledAtom hp hi
  compound _ _ _ hp := failsWith_assembled hp (failsWith_compound _ _)
  set _ _ _ _ hp := failsWith_assembled hp (failsWith_set _ _)
  statement _ _ _ _ hp := failsWith_assembled hp (failsWith_statement _ _ _)
  sentence t tail _ hp ht := by
    have hplace : (if tail.truth.isEmpty then tail.punctuationPlace else tail.truthPlace) ≤ text.length := by
      split
      · exact hp
      · exact ht
    exact failsWith_assembled hplace (failsWith_sentence _ _ _ _)
  task _ _ hp := failsWith_assembled hp (failsWith_task _ _)

def ReadTrouble.Within (d : Dialect) (text : Text) : ReadTrouble → Prop
  | .located l => l.cause.message?.isSome = true ∧ l.cause.isEndless = false ∧ l.offset ≤ text.length
  | .tooManyDigits k =>
    ∃ name, Overlong name k ∧ d.sigils.literal .interval ++ name <:+: (Source.ofText d text).chars

lemma failsWith_readValue (hd : d.SetsOpen) (text : Text) :
    FailsWith (ReadTrouble.Within d text) (readValue d text) := by
  have hread := failsWith_read hd (refuses_typedMaker d (Source.ofText d text).chars)
  rw [readValue_eq]
  refine hread.mapError fun e he => ?_
  cases e with
  | cause c p => exact ⟨he.1, he.2.1, locate_le he.2.2⟩
  | tooManyDigits k => exact he

/-- A text has a value, or a cause with a message at one of its places, unless it has an interval of too many
digits; and a tree has a value, or a fault with a message at one of its nodes, unless one of them is such an
interval. -/
theorem readValue_refusals (n : DialectName) (text : Text) :
    ((∃ v, readValue n.dialect text = .ok v) ∨
        (∃ l, readValue n.dialect text = .error (.located l) ∧ l.cause.message?.isSome = true ∧
          l.cause.isEndless = false ∧ l.offset ≤ text.length) ∨
        ∃ k name, readValue n.dialect text = .error (.tooManyDigits k) ∧ Overlong name k ∧
          n.dialect.sigils.literal .interval ++ name <:+: nonblank n.dialect text) ∧
      ∀ t, readLexical n.dialect text = .ok t →
        (∃ v, fold n.dialect t = .ok v) ∨
          (∃ f part, fold n.dialect t = .error (.fault f part) ∧ f.message?.isSome = true ∧
            part ∈ Node.parts t) ∨
          ∃ k name spot, fold n.dialect t = .error (.tooManyDigits k) ∧ Overlong name k ∧
            Item.term (.atom (n.dialect.sigils.literal .interval) name spot) ∈ Node.parts t := by
  constructor
  · rcases (failsWith_readValue n.setsOpen text).ok_or_error with hv | ⟨e, he, hw⟩
    · exact .inl hv
    cases e with
    | located l => exact .inr (.inl ⟨l, he, hw⟩)
    | tooManyDigits k =>
      obtain ⟨name, hname, hi⟩ := hw
      rw [nonblank_ofText n.strip] at hi
      exact .inr (.inr ⟨k, name, he, hname, hi⟩)
  · intro t _
    rcases (failsWith_fold (d := n.dialect) t).ok_or_error with hv | ⟨e, he, hw⟩
    · exact .inl hv
    cases e with
    | fault f part => exact .inr (.inl ⟨f, part, he, hw⟩)
    | tooManyDigits k =>
      obtain ⟨name, spot, hname, hm⟩ := hw
      exact .inr (.inr ⟨k, name, spot, he, hname, hm⟩)

section LongIntervals

variable {digits : Text} {k : Nat}

lemma fold_overlong (h : Overlong digits k) (spot : Option Nat) :
    fold d (.term (.atom (d.sigils.literal .interval) digits spot)) = .error (.tooManyDigits k) := by
  have hf : Term.Builder.nameFault? .interval digits = none := by
    rw [Term.Builder.nameFault?, h.digits, List.isEmpty_eq_false_iff.2 h.ne_nil]
    rfl
  have hi : Term.Builder.interval digits = .error (.tooManyDigits k) := by
    rw [Term.Builder.interval, Written.limited, if_pos (h.length ▸ h.limit_lt), h.length]
  have ha : atom d (d.sigils.literal .interval) digits = .error (.tooManyDigits k) := by
    simp only [atom, Vocabulary.role?_literal, Term.Builder.setName, Term.Builder.start, Kind.ofAtomRole, hf]
    simp only [ofTermFault, mapError_ok, ok_bind, Term.Builder.build, hi]
    rfl
  rw [fold, foldTerm, ha]
  rfl

lemma exists_readLexical_overlong (s : Spelling) (h : Overlong digits k) :
    ∃ m, readLexical s.dialect (s.dialect.sigils.literal .interval ++ digits) = .ok m ∧
      fold s.dialect m = .error (.tooManyDigits k) ∧
      readValue s.dialect (s.dialect.sigils.literal .interval ++ digits) = .error (.tooManyDigits k) := by
  have hspelled : Node.Spelled s.dialect s.fits (.term (.atom (s.dialect.sigils.literal .interval) digits none)) :=
    ⟨.interval, rfl, s.fits_of_digits h.digits, fun he => absurd he h.ne_nil⟩
  obtain ⟨m, hm, hsame⟩ := exists_readLexical_write s.clearTerms s.clearNames (blank_between s).1 s.clearItems
    (blank_between s).2 hspelled
  have hspot : ∃ spot, m = .term (.atom (s.dialect.sigils.literal .interval) digits spot) := by
    have hshape := (Node.same_iff_shape _ _).1 hsame
    cases m with
    | term t =>
      cases t with
      | atom sigil name spot =>
        cases hshape
        exact ⟨spot, rfl⟩
      | compound c ts spot => cases hshape
      | set l ts r spot => cases hshape
      | statement c t u spot => cases hshape
    | sentence x => cases hshape
    | task x => cases hshape
  obtain ⟨spot, rfl⟩ := hspot
  refine ⟨_, hm, fold_overlong h spot, ?_⟩
  obtain ⟨x, hx, ha⟩ := exists_agrees hm
  rw [fold_overlong h] at ha
  cases ha with
  | digits => exact hx

end LongIntervals

lemma overlong_ones : Overlong (List.replicate 4301 '1') 4301 where
  digits := by
    rw [List.all_replicate]
    rfl
  length := List.length_replicate
  limit_lt := by decide

/-- The interval of 4301 ones is refused without a place, by either way to a value. -/
theorem ones_refused_without_place :
    ¬ ∀ (n : DialectName) (text : Text),
      ((∃ v, readValue n.dialect text = .ok v) ∨ ∃ l, readValue n.dialect text = .error (.located l)) ∧
        ∀ t, readLexical n.dialect text = .ok t →
          (∃ v, fold n.dialect t = .ok v) ∨ ∃ f part, fold n.dialect t = .error (.fault f part) := by
  intro h
  obtain ⟨m, -, -, hv⟩ := exists_readLexical_overlong .ascii overlong_ones
  have hread : readValue DialectName.ascii.dialect ('+' :: List.replicate 4301 '1') =
      .error (.tooManyDigits 4301) := hv
  rcases (h .ascii ('+' :: List.replicate 4301 '1')).1 with ⟨v, he⟩ | ⟨l, he⟩
  · rw [hread] at he
    cases he
  · rw [hread] at he
    cases he

end Reading

end NarseseDialects
