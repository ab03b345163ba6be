import NarseseDialects.Proofs.Meaning.Unfolding
import NarseseDialects.Proofs.Reading.Numerals

namespace NarseseDialects.Reading

open Lexical

variable {v : Double}

lemma numeral_negative_zero : Double.numeral (.finite true .zero) = "-0.0" := by decide

lemma mem_numeral (hu : v.inUnit = true) : v.numeral ≠ [] ∧ ∀ c ∈ v.numeral, c ∈ '-' :: Text.numeralChars := by
  by_cases hz : v = .finite true .zero
  · rw [hz, numeral_negative_zero]
    decide
  · obtain ⟨hne, hc⟩ := mem_numeralChars_of_spelled (Meaning.spelledNumeral_numeral hu hz)
    exact ⟨hne, fun c hm => List.mem_cons_of_mem _ (hc c hm)⟩

lemma real?_numeral_of_inUnit (hu : v.inUnit = true) : Written.real? v.numeral = some v := by
  by_cases hz : v = .finite true .zero
  · rw [hz, numeral_negative_zero]
    decide
  · obtain ⟨x, rfl⟩ := Meaning.exists_magnitude hu hz
    exact Double.real?_numeral x

open Outcome in
lemma inUnit_of_unitNumber {x : Double} (h : Construct.unitNumber (.real v) = .ok x) : v.inUnit = true := by
  obtain ⟨y, hy, h⟩ := bind_eq_ok.1 h
  cases hy
  dsimp only at h
  split at h
  next hu => exact hu
  · cases h

open Outcome in
lemma inUnit_of_mem_given {given : List Datum} {vs : List Double} (h : given.mapM Construct.unitNumber = .ok vs)
    (hv : .real v ∈ given) : v.inUnit = true := by
  induction given generalizing vs with
  | nil => cases hv
  | cons g given ih =>
    rw [List.mapM_cons] at h
    obtain ⟨x, hx, h⟩ := bind_eq_ok.1 h
    obtain ⟨xs, hxs, -⟩ := bind_eq_ok.1 h
    rcases List.mem_cons.1 hv with rfl | hv
    · exact inUnit_of_unitNumber hx
    · exact ih hxs hv

open Outcome in
lemma inUnit_of_measure {q : Quantity} {given : List Datum} {m : Measure q}
    (hm : Construct.measure q given = .ok m) (hv : .real v ∈ given) : v.inUnit = true := by
  rw [Construct.measure] at hm
  split at hm
  · cases hm
  · obtain ⟨vs, hvs, -⟩ := bind_eq_ok.1 hm
    exact inUnit_of_mem_given hvs hv

lemma exists_separator (n : DialectName) (q : Quantity) :
    ∃ z s, (n.dialect.numerals q).separator = z :: s ∧ z ∉ '-' :: Text.numeralChars := by
  cases n <;> cases q
  all_goals exact ⟨_, _, rfl, by decide⟩

lemma numeralFault?_numeral (hu : v.inUnit = true) (q : Quantity) :
    numeralFault? q v.numeral = if v = .finite true .zero then some (.notNumeral q "-0.0") else none := by
  split
  next hz =>
    rw [hz, numeral_negative_zero]
    rfl
  next hz => exact numeralFault?_of_spelled (Meaning.spelledNumeral_numeral hu hz)

section

variable {q : Quantity} {xs ys : List Text} (h : ∀ x ∈ xs ++ ys, SpelledNumeral x)

include h

lemma findSome?_numeralFault?_around (t : Text) :
    (xs ++ t :: ys).findSome? (numeralFault? q) = numeralFault? q t := by
  have hx : xs.findSome? (numeralFault? q) = none :=
    findSome?_numeralFault?_of_spelled fun x hx => h x (List.mem_append_left _ hx)
  have hy : ys.findSome? (numeralFault? q) = none :=
    findSome?_numeralFault?_of_spelled fun y hy => h y (List.mem_append_right _ hy)
  rw [List.findSome?_append, hx, List.findSome?_cons, hy]
  cases numeralFault? q t with
  | none => rfl
  | some f => rfl

lemma mem_numerals_around (hu : v.inUnit = true) {x : Text} (hx : x ∈ xs ++ v.numeral :: ys) :
    x ≠ [] ∧ ∀ c ∈ x, c ∈ '-' :: Text.numeralChars := by
  by_cases he : x = v.numeral
  · rw [he]
    exact mem_numeral hu
  · have hs : SpelledNumeral x := h x (by simpa [he] using hx)
    obtain ⟨hne, hc⟩ := mem_numeralChars_of_spelled hs
    exact ⟨hne, fun c hm => List.mem_cons_of_mem _ (hc c hm)⟩

end

lemma judgeNumerals_around (hu : v.inUnit = true) (n : DialectName) {q : Quantity} {xs ys : List Text} (place : Nat)
    (h : ∀ x ∈ xs ++ ys, SpelledNumeral x) (hl : xs.length + ys.length < q.limit) :
    judgeNumerals n.dialect Prod.mk q (Text.join (n.dialect.numerals q).separator (xs ++ v.numeral :: ys)) place =
      if v = .finite true .zero then .error (.notNumeral q "-0.0", place) else .ok (xs ++ v.numeral :: ys) := by
  obtain ⟨z, s, hsep, hz⟩ := exists_separator n q
  have hpieces : ∀ x ∈ xs ++ v.numeral :: ys, x ≠ [] ∧ z ∉ x := fun x hx =>
    (mem_numerals_around h hu hx).imp id fun hc hzx => hz (hc z hzx)
  have hlength : (xs ++ v.numeral :: ys).length ≤ q.limit := by
    rw [List.length_append, List.length_cons]
    omega
  rw [judgeNumerals_eq_elim hsep hpieces hlength, findSome?_numeralFault?_around h, numeralFault?_numeral hu]
  split
  · rfl
  · rfl

/-- A number that a truth or a budget takes is written without a power of ten and reads back as itself.
Among the numerals of a truth or a budget it is accepted, unless it is the zero with a sign. -/
theorem numeral_round_trip {q : Quantity} {given : List Datum} {m : Measure q}
    (hm : Construct.measure q given = .ok m) (hv : .real v ∈ given) :
    (v.numeral ≠ [] ∧ ∀ c ∈ v.numeral, c ∈ '-' :: Text.numeralChars) ∧
    Written.real? v.numeral = some v ∧
    ∀ (n : DialectName) (q' : Quantity) (xs ys : List Text) (place : Nat),
      (∀ x ∈ xs ++ ys, SpelledNumeral x) → xs.length + ys.length < q'.limit →
      judgeNumerals n.dialect Prod.mk q' (Text.join (n.dialect.numerals q').separator (xs ++ v.numeral :: ys)) place =
        if v = .finite true .zero then .error (.notNumeral q' "-0.0", place) else .ok (xs ++ v.numeral :: ys) := by
  have hu : v.inUnit = true := inUnit_of_measure hm hv
  exact ⟨mem_numeral hu, real?_numeral_of_inUnit hu, fun n q' xs ys place => judgeNumerals_around hu n place⟩

lemma mapM_unitNumber {vs : List Double} (h : ∀ v ∈ vs, v.inUnit = true) :
    (vs.map Datum.real).mapM Construct.unitNumber = .ok vs := by
  induction vs with
  | nil => rfl
  | cons v vs ih =>
    have hv : Construct.unitNumber (.real v) = .ok v := if_pos (h v List.mem_cons_self)
    rw [List.map_cons, List.mapM_cons, hv, ih fun w hw => h w (List.mem_cons_of_mem v hw)]
    rfl

open Outcome in
lemma measure_values {q : Quantity} (m : Measure q) : Construct.measure q (m.values.map .real) = .ok m := by
  rw [Construct.measure, if_neg (by simpa using m.length_le), mapM_unitNumber m.inUnit]
  exact mapError_eq_ok.2 (Measure.ofValues_values m)

def leastDouble : Double := .ofDecimal false 5 (-324)

def leastBudget : Budget := ⟨[.zero, leastDouble], by simp, by simp only [List.forall_mem_cons]; decide +kernel⟩

theorem least_numeral_round_trip :
    Construct.measure .budget [.real .zero, .real leastDouble] = .ok leastBudget ∧
    Written.real? leastDouble.numeral = some leastDouble ∧
    judgeNumerals DialectName.han.dialect Prod.mk .truth
        (Text.join (DialectName.han.dialect.numerals .truth).separator ([] ++ leastDouble.numeral :: ["0"])) 3 =
      .ok ([] ++ leastDouble.numeral :: ["0"]) := by
  have hm := measure_values leastBudget
  obtain ⟨-, hr, hj⟩ := numeral_round_trip (v := leastDouble) hm (by simp [leastBudget])
  have hzero : SpelledNumeral "0" := ⟨⟨0, 0⟩, by decide, by decide⟩
  have hjudged := hj .han .truth [] ["0"] 3 (by simpa using hzero) (by decide)
  rw [if_neg (by decide +kernel)] at hjudged
  exact ⟨hm, hr, hjudged⟩

/-- The zero with a sign is taken by the constructors, and its numeral is refused by the reader. -/
theorem negative_zero_refused :
    (∀ q, ∃ m, Construct.measure q [.real (.finite true .zero)] = .ok m) ∧
    ∀ n q, judgeNumerals (DialectName.dialect n) Prod.mk q (Double.numeral (.finite true .zero)) 0 =
      .error (.notNumeral q "-0.0", 0) := by
  have hu : Double.inUnit (.finite true .zero) = true := by decide
  refine ⟨fun q => ⟨_, measure_values ⟨[.finite true .zero], ?_, by simpa using hu⟩⟩, fun n q => ?_⟩
  · cases q <;> decide
  · have hl : 0 + 0 < q.limit := by cases q <;> decide
    exact @judgeNumerals_around _ hu n q [] [] 0 (by simp) hl

end NarseseDialects.Reading
