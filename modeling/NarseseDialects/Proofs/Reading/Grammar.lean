import NarseseDialects.Lexical.Tree
import NarseseDialects.Proofs.Outcome
import NarseseDialects.Proofs.Reading.Equations

/-! The grammar of terms: a term stands at the front of a text and leaves the rest. Every maker reads
what the grammar derives, and makes of it what it makes of the lexical tree. -/

namespace NarseseDialects.Reading

open Outcome

mutual

inductive ReadsTerm (d : Dialect) (stop : Nat) : Text → Lexical.Term → Text → Prop
  | set {cs left right r ts rest} :
      d.sets.family.left? (skip d cs) = some (left, right, r) →
      opening? right (skip d r) = none →
      (skip d r).length < (skip d cs).length →
      ReadsMembers d stop right (skip d r) ts rest →
      ReadsTerm d stop cs (.set left ts right (some (place stop (skip d cs)))) rest
  | compound {cs r connector q behind ts rest} :
      d.sets.family.left? (skip d cs) = none →
      opening? d.compound.left (skip d cs) = some r →
      d.connectors.lexicon.front? (skip d r) = some (connector, q) →
      opening? d.separator (skip d q) = some behind →
      opening? d.compound.right (skip d behind) = none →
      ReadsMembers d stop d.compound.right (skip d behind) ts rest →
      ReadsTerm d stop cs (.compound connector ts (some (place stop (skip d cs)))) rest
  | statement {cs r subject q copula behind predicate p rest} :
      d.sets.family.left? (skip d cs) = none →
      opening? d.compound.left (skip d cs) = none →
      opening? d.statement.left (skip d cs) = some r →
      ReadsTerm d stop r subject q →
      d.copulas.lexicon.front? (skip d q) = some (copula, behind) →
      ReadsTerm d stop behind predicate p →
      opening? d.statement.right (skip d p) = some rest →
      ReadsTerm d stop cs (.statement copula subject predicate (some (place stop (skip d cs)))) rest
  | atom {cs sigil r} :
      d.sets.family.left? (skip d cs) = none →
      opening? d.compound.left (skip d cs) = none →
      opening? d.statement.left (skip d cs) = none →
      d.sigils.lexicon.front? (skip d cs) = some (sigil, r) →
      ((nameSpan d r).1 = [] → sigil = d.sigils.literal .placeholder) →
      ReadsTerm d stop cs (.atom sigil (nameSpan d r).1 (some (place stop (skip d cs)))) (nameSpan d r).2

inductive ReadsMembers (d : Dialect) (stop : Nat) : Text → Text → List Lexical.Term → Text → Prop
  | last {right cs t r rest} :
      ReadsTerm d stop cs t r →
      opening? d.separator (skip d r) = none →
      opening? right (skip d r) = some rest →
      ReadsMembers d stop right cs [t] rest
  | more {right cs t r behind ts rest} :
      ReadsTerm d stop cs t r →
      opening? d.separator (skip d r) = some behind →
      ReadsMembers d stop right behind ts rest →
      ReadsMembers d stop right cs (t :: ts) rest

end

namespace Maker

variable {ε τ σ κ : Type} (m : Maker ε τ σ κ)

mutual

def make : Lexical.Term → Except ε τ
  | .atom sigil name p => m.atom sigil name (p.getD 0)
  | .compound connector ts p => do
    let vs ← makeAll ts
    m.compound connector vs (p.getD 0)
  | .set left ts right p => do
    let vs ← makeAll ts
    m.set left vs right (p.getD 0)
  | .statement copula t u p => do
    let v ← make t
    let w ← make u
    m.statement copula v w (p.getD 0)

def makeAll : List Lexical.Term → Except ε (List τ)
  | [] => .ok []
  | t :: ts => do
    let v ← make t
    let vs ← makeAll ts
    return v :: vs

end

end Maker

variable {d : Dialect} {ε τ σ κ : Type} {m : Maker ε τ σ κ} {stop : Nat}

lemma opening?_append {p : Text} (hp : p ≠ []) (r : Text) : opening? p (p ++ r) = some r := by
  cases p with
  | nil => exact absurd rfl hp
  | cons c p => exact Text.after?_append _ _

lemma opening?_eq_none {p cs : Text} (h : Text.after? p cs = none) : opening? p cs = none := by
  cases p with
  | nil => rfl
  | cons c p => exact h

lemma skip_isEmpty_of_opening? {p cs r : Text} (h : opening? p (skip d cs) = some r) :
    (skip d cs).isEmpty = false := by
  have hl := length_lt_of_opening? h
  cases hs : skip d cs with
  | nil => simp [hs] at hl
  | cons c cs' => rfl

lemma skip_isEmpty_of_sigil {cs sigil r : Text}
    (h : d.sigils.lexicon.front? (skip d cs) = some (sigil, r))
    (hn : (nameSpan d r).1 = [] → sigil = d.sigils.literal .placeholder) :
    (skip d cs).isEmpty = false := by
  have hl := length_atom_rest h (by simpa using hn)
  cases hs : skip d cs with
  | nil => simp [hs] at hl
  | cons c cs' => rfl

mutual

lemma taken_of_readsTerm {cs rest : Text} {t : Lexical.Term} (h : ReadsTerm d stop cs t rest) :
    taken (readTerm d m stop cs) = (m.make t).map (·, rest) := by
  rw [taken_readTerm]
  cases h with
  | set hs ho hl hm =>
    rw [if_neg (by rintro he; rw [List.isEmpty_iff.1 he] at hl; simp at hl)]
    simp only [hs, ho, hl, if_true, Option.isSome_none, Bool.false_eq_true, if_false,
      taken_of_readsMembers hm, Maker.make]
    cases m.makeAll _ with
    | error e => rfl
    | ok vs => rfl
  | compound hs hc hf hp ho hm =>
    simp only [skip_isEmpty_of_opening? hc, Bool.false_eq_true, if_false, hs, hc]
    rw [taken_readCompound]
    simp only [hf, hp, ho, Option.isSome_none, Bool.false_eq_true, if_false,
      taken_of_readsMembers hm, Maker.make]
    cases m.makeAll _ with
    | error e => rfl
    | ok vs => rfl
  | statement hs hc hl h₁ hf h₂ hr =>
    simp only [skip_isEmpty_of_opening? hl, Bool.false_eq_true, if_false, hs, hc, hl]
    rw [taken_readStatement, taken_of_readsTerm h₁, Maker.make]
    cases m.make _ with
    | error e => rfl
    | ok v =>
      simp only [Except.map, ok_bind, hf, taken_of_readsTerm h₂]
      cases m.make _ with
      | error e => rfl
      | ok w =>
        simp only [ok_bind, hr]
        rfl
  | atom hs hc hl hf hn =>
    simp only [skip_isEmpty_of_sigil hf hn, Bool.false_eq_true, if_false, hs, hc, hl]
    rw [taken_readAtom]
    simp only [hf]
    rw [if_neg (by simpa using hn)]
    rfl

lemma taken_of_readsMembers {right cs rest : Text} {ts : List Lexical.Term}
    (h : ReadsMembers d stop right cs ts rest) :
    taken (readMembers d m stop right cs) = (m.makeAll ts).map (·, rest) := by
  rw [taken_readMembers]
  cases h with
  | last ht hs hr =>
    rw [taken_of_readsTerm ht, Maker.makeAll]
    cases m.make _ with
    | error e => rfl
    | ok v =>
      simp only [Except.map, ok_bind, hs, hr]
      rfl
  | more ht hs hm =>
    rw [taken_of_readsTerm ht, Maker.makeAll]
    cases m.make _ with
    | error e => rfl
    | ok v =>
      simp only [Except.map, ok_bind, hs, taken_of_readsMembers hm]
      cases m.makeAll _ with
      | error e => rfl
      | ok vs => rfl

end

lemma readTerm_cases {cs rest : Text} {v : τ} (h : taken (readTerm d m stop cs) = .ok (v, rest)) :
    (∃ left right r vs, d.sets.family.left? (skip d cs) = some (left, right, r) ∧
      opening? right (skip d r) = none ∧ (skip d r).length < (skip d cs).length ∧
      taken (readMembers d m stop right (skip d r)) = .ok (vs, rest) ∧
      m.set left vs right (place stop (skip d cs)) = .ok v) ∨
    d.sets.family.left? (skip d cs) = none ∧
      ((∃ r, opening? d.compound.left (skip d cs) = some r ∧
        taken (readCompound d m stop (place stop (skip d cs)) r) = .ok (v, rest)) ∨
      opening? d.compound.left (skip d cs) = none ∧
        ((∃ r, opening? d.statement.left (skip d cs) = some r ∧
          taken (readStatement d m stop (place stop (skip d cs)) r) = .ok (v, rest)) ∨
        opening? d.statement.left (skip d cs) = none ∧
          taken (readAtom d m stop (skip d cs)) = .ok (v, rest))) := by
  rw [taken_readTerm] at h
  split at h
  · cases h
  split at h
  next left right r hs =>
    split at h
    · cases h
    next ho =>
    split at h
    next hl =>
      obtain ⟨⟨vs, q⟩, hm, h⟩ := bind_eq_ok.1 h
      obtain ⟨w, hw, h⟩ := bind_eq_ok.1 h
      cases h
      exact .inl ⟨left, right, r, vs, hs, by simpa using ho, hl, hm, hw⟩
    · cases h
  next hs =>
  refine .inr ⟨hs, ?_⟩
  split at h
  next r hc => exact .inl ⟨r, hc, h⟩
  next hc =>
  refine .inr ⟨hc, ?_⟩
  split at h
  next r hl => exact .inl ⟨r, hl, h⟩
  next hl => exact .inr ⟨hl, h⟩

lemma exists_of_readCompound {start : Nat} {cs rest : Text} {v : τ}
    (h : taken (readCompound d m stop start cs) = .ok (v, rest)) :
    ∃ connector r behind vs, d.connectors.lexicon.front? (skip d cs) = some (connector, r) ∧
      opening? d.separator (skip d r) = some behind ∧ opening? d.compound.right (skip d behind) = none ∧
      (skip d behind).length < cs.length ∧
      taken (readMembers d m stop d.compound.right (skip d behind)) = .ok (vs, rest) ∧
      m.compound connector vs start = .ok v := by
  rw [taken_readCompound] at h
  split at h
  · cases h
  next connector r hf =>
  split at h
  · cases h
  next behind hp =>
  split at h
  · cases h
  next ho =>
  obtain ⟨⟨vs, u⟩, hm, h⟩ := bind_eq_ok.1 h
  obtain ⟨w, hw, h⟩ := bind_eq_ok.1 h
  cases h
  refine ⟨connector, r, behind, vs, hf, hp, by simpa using ho, ?_, hm, hw⟩
  calc (skip d behind).length ≤ behind.length := length_skip_le d behind
    _ < (skip d r).length := length_lt_of_opening? hp
    _ ≤ r.length := length_skip_le d r
    _ ≤ (skip d cs).length := Lexicon.length_le_of_front? hf
    _ ≤ cs.length := length_skip_le d cs

lemma exists_of_readStatement {start : Nat} {cs rest : Text} {v : τ}
    (h : taken (readStatement d m stop start cs) = .ok (v, rest)) :
    ∃ subject r copula behind predicate p, taken (readTerm d m stop cs) = .ok (subject, r) ∧
      d.copulas.lexicon.front? (skip d r) = some (copula, behind) ∧ behind.length < cs.length ∧
      taken (readTerm d m stop behind) = .ok (predicate, p) ∧
      opening? d.statement.right (skip d p) = some rest ∧
      m.statement copula subject predicate start = .ok v := by
  rw [taken_readStatement] at h
  obtain ⟨⟨subject, r⟩, ht, h⟩ := bind_eq_ok.1 h
  dsimp only at h
  split at h
  · cases h
  next copula behind hf =>
  obtain ⟨⟨predicate, p⟩, hp, h⟩ := bind_eq_ok.1 h
  dsimp only at h
  split at h
  · cases h
  next hr =>
  obtain ⟨w, hw, h⟩ := bind_eq_ok.1 h
  cases h
  refine ⟨subject, r, copula, behind, predicate, p, ht, hf, ?_, hp, hr, hw⟩
  calc behind.length ≤ (skip d r).length := Lexicon.length_le_of_front? hf
    _ ≤ r.length := length_skip_le d r
    _ < cs.length := length_of_taken ht

lemma exists_of_readAtom {cs rest : Text} {v : τ} (h : taken (readAtom d m stop cs) = .ok (v, rest)) :
    ∃ sigil r, d.sigils.lexicon.front? cs = some (sigil, r) ∧
      ((nameSpan d r).1 = [] → sigil = d.sigils.literal .placeholder) ∧
      m.atom sigil (nameSpan d r).1 (place stop cs) = .ok v ∧ rest = (nameSpan d r).2 := by
  rw [taken_readAtom] at h
  split at h
  · cases h
  next sigil r hf =>
  split at h
  · split at h <;> cases h
  next hn =>
  obtain ⟨w, hw, h⟩ := bind_eq_ok.1 h
  cases h
  exact ⟨sigil, r, hf, by simpa using hn, hw, rfl⟩

lemma exists_of_readMembers {right cs rest : Text} {vs : List τ}
    (h : taken (readMembers d m stop right cs) = .ok (vs, rest)) :
    ∃ v r, taken (readTerm d m stop cs) = .ok (v, r) ∧
      ((∃ behind ws, opening? d.separator (skip d r) = some behind ∧ behind.length < cs.length ∧
        taken (readMembers d m stop right behind) = .ok (ws, rest) ∧ vs = v :: ws) ∨
      opening? d.separator (skip d r) = none ∧ opening? right (skip d r) = some rest ∧ vs = [v]) := by
  rw [taken_readMembers] at h
  obtain ⟨⟨v, r⟩, ht, h⟩ := bind_eq_ok.1 h
  refine ⟨v, r, ht, ?_⟩
  dsimp only at h
  split at h
  next behind hs =>
    obtain ⟨⟨ws, u⟩, hm, h⟩ := bind_eq_ok.1 h
    cases h
    refine .inl ⟨behind, ws, hs, ?_, hm, rfl⟩
    calc behind.length < (skip d r).length := length_lt_of_opening? hs
      _ ≤ r.length := length_skip_le d r
      _ ≤ cs.length := Nat.le_of_lt (length_of_taken ht)
  next hs =>
  split at h
  next he =>
    cases h
    exact .inr ⟨hs, he, rfl⟩
  · cases h

mutual

lemma exists_readsTerm {cs rest : Text} {v : τ} (h : taken (readTerm d m stop cs) = .ok (v, rest)) :
    ∃ t, ReadsTerm d stop cs t rest ∧ m.make t = .ok v := by
  -- The lengths along the way are there for the termination: every part begins in what is left of the text.
  have hcs := length_skip_le d cs
  rcases readTerm_cases h with ⟨left, right, r, vs, hs, ho, hl, hm, hw⟩ | ⟨hs, h⟩
  · obtain ⟨ts, hts, hvs⟩ := exists_readsMembers hm
    exact ⟨_, .set hs ho hl hts, by simpa [Maker.make, hvs] using hw⟩
  rcases h with ⟨r, hc, h⟩ | ⟨hc, h⟩
  · have hr := length_lt_of_opening? hc
    obtain ⟨connector, q, behind, vs, hf, hp, ho, hb, hm, hw⟩ := exists_of_readCompound h
    obtain ⟨ts, hts, hvs⟩ := exists_readsMembers hm
    exact ⟨_, .compound hs hc hf hp ho hts, by simpa [Maker.make, hvs] using hw⟩
  rcases h with ⟨r, hl, h⟩ | ⟨hl, h⟩
  · have hr := length_lt_of_opening? hl
    obtain ⟨subject, q, copula, behind, predicate, p, h₁, hf, hb, h₂, he, hw⟩ := exists_of_readStatement h
    obtain ⟨t, ht, hv⟩ := exists_readsTerm h₁
    obtain ⟨u, hu, hv'⟩ := exists_readsTerm h₂
    exact ⟨_, .statement hs hc hl ht hf hu he, by simpa [Maker.make, hv, hv'] using hw⟩
  · obtain ⟨sigil, r, hf, hn, hw, rfl⟩ := exists_of_readAtom h
    exact ⟨_, .atom hs hc hl hf hn, hw⟩
termination_by 2 * cs.length

lemma exists_readsMembers {right cs rest : Text} {vs : List τ}
    (h : taken (readMembers d m stop right cs) = .ok (vs, rest)) :
    ∃ ts, ReadsMembers d stop right cs ts rest ∧ m.makeAll ts = .ok vs := by
  obtain ⟨v, r, ht, h⟩ := exists_of_readMembers h
  obtain ⟨t, ht, hv⟩ := exists_readsTerm ht
  rcases h with ⟨behind, ws, hs, hb, hm, rfl⟩ | ⟨hs, he, rfl⟩
  · obtain ⟨ts, hts, hws⟩ := exists_readsMembers hm
    refine ⟨_, .more ht hs hts, ?_⟩
    rw [Maker.makeAll, hv, hws]
    rfl
  · refine ⟨_, .last ht hs he, ?_⟩
    rw [Maker.makeAll, hv]
    rfl
termination_by 2 * cs.length + 1

end

end NarseseDialects.Reading
