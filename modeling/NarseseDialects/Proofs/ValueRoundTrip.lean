import NarseseDialects.Proofs.Agreement
import NarseseDialects.Proofs.LexicalRoundTrip
import NarseseDialects.Proofs.Meaning.Unfolding

namespace NarseseDialects.Reading

open Meaning

lemma tellsTenses (s : Spelling) : TellsTenses s.dialect := by
  intro t
  revert t
  cases s <;> decide

/-- A value that the constructors make has a text, and reading the text gives the value again. -/
theorem readValue_write (s : Spelling) {v : Value} (hm : v.Made) (hs : v.Spellable s) :
    ∃ t, v.write? s.dialect = some t ∧ readValue s.dialect t = .ok v := by
  have hw := hm.wellFormed
  obtain ⟨x, hx⟩ := exists_unfolded hs.stamp s.dialect
  obtain ⟨n, hn, hsame⟩ := exists_readLexical_write s.clearTerms s.clearNames (blank_between s).1 s.clearItems
    (blank_between s).2 (spelled_unfold hw hs hx)
  refine ⟨x.write s.dialect, congrArg (Option.map _) hx, ?_⟩
  rw [readValue_eq_ok_iff hn, fold_congr hsame]
  exact fold_of_unfolded (tellsTenses s).tellsStamps hw hs.subject hx

def half (q : Quantity) : Measure q :=
  ⟨[.ofDecimal false 5 (-1)], by cases q <;> decide, by decide +kernel⟩

def imageStatement : Term :=
  .ordered .inheritance (.image .extension 1 [.named .word "a"])
    (.collection (.set .extension) [.named .word "b", .named .operator "go"])

def imageTask : Value := .task ⟨⟨imageStatement, .judgement (half .truth), .fixed (-5)⟩, half .budget⟩

lemma made_imageStatement : Value.Made (.term imageStatement) := by
  have ha : Value.Made (.term (.named .word "a")) := .named rfl
  have hb : Value.Made (.term (.named .word "b")) := .named rfl
  have hg : Value.Made (.term (.named .operator "go")) := .named rfl
  have hi : Value.Made (.term (.image .extension 1 [.named .word "a"])) := by
    refine @Value.Made.compound (.image .extension) (.whole 1) [.value (.term (.named .word "a"))] _ ?_ rfl
    simpa using ha
  have hs : Value.Made (.term (.collection (.set .extension) [.named .word "b", .named .operator "go"])) := by
    refine @Value.Made.compound (.collection (.set .extension)) .nothing
      [.value (.term (.named .word "b")), .value (.term (.named .operator "go"))] _ ?_ rfl
    simpa using ⟨hb, hg⟩
  refine @Value.Made.statement (.ordered .inheritance) (.value (.term _)) (.value (.term _)) _ ?_ rfl
  simpa using ⟨hi, hs⟩

lemma made_imageTask : imageTask.Made := by
  refine @Value.Made.task (.value (.sentence _)) (.budget (half .budget)) _ ?_ rfl
  rintro v ⟨⟩
  refine @Value.Made.sentence .judgement (.value (.term imageStatement)) (.truth (half .truth))
    (.stamp (.fixed (-5))) _ ?_ rfl
  rintro v ⟨⟩
  exact made_imageStatement

lemma spellable_imageTask : imageTask.Spellable .ascii := by
  have ht : imageStatement.Spellable .ascii :=
    ⟨⟨by simp, rfl, trivial⟩, rfl, rfl, trivial⟩
  have hn : Double.finite true .zero ∉ [Double.ofDecimal false 5 (-1)] := by decide +kernel
  have hd : (Text.ofNat 5).length ≤ Written.digitLimit := by decide
  exact ⟨⟨ht, fun t h => Option.some.inj h ▸ hn, hd⟩, hn⟩

theorem imageTask_readValue_write :
    imageTask.Made ∧ imageTask.Spellable .ascii ∧
      ∃ t, imageTask.write? .ascii = some t ∧ readValue .ascii t = .ok imageTask :=
  ⟨made_imageTask, spellable_imageTask, readValue_write .ascii made_imageTask spellable_imageTask⟩

end NarseseDialects.Reading
