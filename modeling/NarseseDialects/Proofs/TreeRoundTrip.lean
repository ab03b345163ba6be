import NarseseDialects.Proofs.ValueRoundTrip

namespace NarseseDialects

/-- What a tree can hold: no image has a placeholder among its components, and the digits of intervals and
of a fixed time keep to the limit. Every name will do, since LaTeX admits them all. -/
structure Value.Recoverable (v : Value) : Prop where
  subject : v.subject.Spellable .latex
  stamp : ∀ x ∈ v.stamp?, x.Spellable

namespace Meaning

variable {d : Dialect}

/-- Folding undoes unfolding, down to the order in which parts are shown and the sign of zero. -/
theorem fold_unfold_of_made (hd : TellsStamps d) {v : Value} (hm : v.Made) (hr : v.Recoverable) :
    ∃ n, unfolded? d v = some n ∧ fold d n = .ok v := by
  obtain ⟨n, hn⟩ := exists_unfolded hr.stamp d
  exact ⟨n, hn, fold_of_unfolded hd hm.wellFormed hr.subject hn⟩

def ordinalMark : Tense → Text
  | .past => "1st"
  | .present => "2nd"
  | .future => "3rd"

def ordinals : Dialect :=
  .ofParts
    { Dialect.ascii.toParts with
      stamps :=
        { brackets := ⟨":", ":"⟩, mark := ordinalMark, fixedMark := [], isTime := Text.isTimeChar
          tenses := .ofDistinct (fun t => ":" ++ ordinalMark t ++ ":") (by decide)
          tenses_literal := rfl } }
    (by decide)

lemma tellsStamps_ordinals : TellsStamps ordinals := by
  intro t
  refine ⟨by cases t <;> decide, fun time he => ?_⟩
  -- A letter of the ordinal would have to be among the digits of the time.
  have hletter : ∃ c ∈ ordinalMark t, c ∉ '-' :: Text.numeralChars := by
    cases t with
    | past => exact ⟨'s', by decide, by decide⟩
    | present => exact ⟨'n', by decide, by decide⟩
    | future => exact ⟨'r', by decide, by decide⟩
  obtain ⟨c, hc, hn⟩ := hletter
  have hmark : ":" ++ ordinalMark t ++ ":" = (":" ++ Text.ofInt time ++ ":" : Text) := he
  rw [List.append_cancel_right_eq, List.append_cancel_left_eq] at hmark
  exact hn (Written.mem_ofInt (hmark ▸ hc))

def zeroGoal : Value :=
  .sentence ⟨Reading.imageStatement, .goal ⟨[.finite true .zero], by decide, by decide⟩, .fixed (-5)⟩

lemma made_zeroGoal : zeroGoal.Made := by
  refine @Value.Made.sentence .goal (.value (.term Reading.imageStatement)) (.truth ⟨[.finite true .zero], _, _⟩)
    (.stamp (.fixed (-5))) _ ?_ rfl
  rintro v ⟨⟩
  exact Reading.made_imageStatement

lemma recoverable_zeroGoal : zeroGoal.Recoverable where
  subject := ⟨⟨by simp, rfl, trivial⟩, rfl, rfl, trivial⟩
  stamp := by
    rintro x ⟨⟩
    show (Text.ofNat 5).length ≤ Written.digitLimit
    decide

theorem zeroGoal_fold_unfold :
    TellsStamps ordinals ∧ zeroGoal.Made ∧ zeroGoal.Recoverable ∧
      ∃ n, unfolded? ordinals zeroGoal = some n ∧ fold ordinals n = .ok zeroGoal :=
  ⟨tellsStamps_ordinals, made_zeroGoal, recoverable_zeroGoal,
    fold_unfold_of_made tellsStamps_ordinals made_zeroGoal recoverable_zeroGoal⟩

end Meaning

end NarseseDialects
