import Mathlib.Data.List.DropRight
import NarseseDialects.Dialect.Ascii
import NarseseDialects.Proofs.Reading.Failures
import NarseseDialects.Proofs.Reading.Places

namespace NarseseDialects.Reading

open Outcome

variable {d : Dialect}

lemma refuses_lexicalMaker (text : Text) :
    lexicalMaker.Refuses text fun e => e.1.isEndless = false ∧ e.2 ≤ text.length where
  fault _ _ hf hp := ⟨hf, hp⟩
  atom _ _ _ _ _ := .ok _
  compound _ _ _ _ := .ok _
  set _ _ _ _ _ := .ok _
  statement _ _ _ _ _ := .ok _
  sentence _ _ _ _ _ := .ok _
  task _ _ _ := .ok _

lemma failsWith_readLexical (hd : d.SetsOpen) (text : Text) :
    FailsWith (fun l => l.cause.isEndless = false ∧ l.offset ≤ text.length) (readLexical d text) := by
  have hread := failsWith_read hd (refuses_lexicalMaker (Source.ofText d text).chars)
  rw [readLexical]
  split
  · exact .ok _
  next f p he =>
    obtain ⟨hf, hp⟩ := hread _ he
    exact .error ⟨hf, locate_le hp⟩

section

variable {ε τ σ κ : Type} {m : Maker ε τ σ κ} {stop : Nat}

lemma taken_readTerm_skip (cs : Text) :
    taken (readTerm d m stop (skip d cs)) = taken (readTerm d m stop cs) := by
  have hskip : skip d (skip d cs) = skip d cs := List.dropWhile_idempotent _ _
  rw [taken_readTerm, taken_readTerm, hskip]

lemma progress_of_readTerm {cs : Text} {v : τ} {rest : Rest cs} (h : readTerm d m stop cs = .ok (v, rest)) :
    rest.1 <:+ skip d cs ∧ rest.1.length < (skip d cs).length := by
  have ht : taken (readTerm d m stop (skip d cs)) = .ok (v, rest.1) := by
    rw [taken_readTerm_skip, h]
    rfl
  obtain ⟨t, hr, -⟩ := exists_readsTerm ht
  exact ⟨suffix_of_readsTerm hr, length_of_taken ht⟩

end

/-- If no set bracket is empty, then a text has a tree or a fault at one of its indices, and every term
ends behind the first character that is not blank and within its region. -/
theorem readLexical_stays_within (hd : d.SetsOpen) :
    (∀ text, (∃ n, readLexical d text = .ok n) ∨
        ∃ l, readLexical d text = .error l ∧ l.cause.isEndless = false ∧ l.offset ≤ text.length) ∧
      ∀ {ε τ σ κ : Type} (m : Maker ε τ σ κ) (stop : Nat) (cs : Text) (v : τ) (rest : Rest cs),
        cs.length ≤ stop → readTerm d m stop cs = .ok (v, rest) →
          rest.1 <:+ skip d cs ∧ place stop (skip d cs) < place stop rest.1 := by
  refine ⟨fun text => (failsWith_readLexical hd text).ok_or_error, ?_⟩
  intro ε τ σ κ m stop cs v rest hcs h
  obtain ⟨hsuffix, hlt⟩ := progress_of_readTerm h
  have hskip := length_skip_le d cs
  refine ⟨hsuffix, ?_⟩
  rw [place, place]
  omega

theorem openSet_readLexical_stays_within :
    Dialect.ascii.SetsOpen ∧
      (∃ l, readLexical .ascii "[A" = .error l ∧ l.cause.isEndless = false ∧ l.offset ≤ 2) ∧
      ∃ v rest, readTerm .ascii lexicalMaker 3 " A]" = .ok (v, rest) ∧
        rest.1 <:+ skip .ascii " A]" ∧ place 3 (skip .ascii " A]") < place 3 rest.1 := by
  have hbounds := readLexical_stays_within Dialect.clearTerms_ascii.setsOpen
  refine ⟨Dialect.clearTerms_ascii.setsOpen, ?_, ?_⟩
  · rcases hbounds.1 "[A" with ⟨n, hn⟩ | hl
    · have hnone : (readLexical .ascii "[A").toOption.isSome = false := by decide +kernel
      rw [hn] at hnone
      cases hnone
    · exact hl
  · have hsome : (readTerm .ascii lexicalMaker 3 " A]").toOption.isSome = true := by decide +kernel
    obtain ⟨⟨v, rest⟩, hr⟩ := Outcome.exists_of_toOption_isSome hsome
    exact ⟨v, rest, hr, hbounds.2 lexicalMaker 3 _ v rest (by decide) hr⟩

end NarseseDialects.Reading
