import NarseseDialects.Proofs.Number.Written
import NarseseDialects.Proofs.Value.Made

namespace NarseseDialects

def Datum.term? : Datum → Option Term
  | .value (.term t) => some t
  | _ => none

namespace Term.Builder

open Outcome

inductive Request where
  | name (n : Text)
  | push (given : List Datum)

namespace Request

def name? : Request → Option Text
  | name n => some n
  | push _ => none

def components : Request → List Term
  | name _ => []
  | push given => (given.mapM Datum.term?).getD []

end Request

variable {b : Builder} {k : Kind} {index : Datum} {r : Request} {n : Text}

def attempt (b : Builder) : Request → Except Fault Unit × Builder
  | .name n => b.setName n
  | .push given => b.push given

def afterAll (b : Builder) (rs : List Request) : Builder := rs.foldl (fun b r => (b.attempt r).2) b

def lastName? (b : Builder) (rs : List Request) : Option Text :=
  ((rs.filterMap Request.name?).filter fun n => (b.setName n).1.isOk).getLast?

lemma attempt_of_error {f : Fault} (h : (b.attempt r).1 = .error f) : (b.attempt r).2 = b := by
  cases r with
  | name n =>
    simp only [attempt, setName] at h ⊢
    split at h
    · simp [*]
    · cases h
  | push given =>
    simp only [attempt, push] at h ⊢
    split at h
    · split at h
      · cases h
      · simp [*]
    · simp [*]

lemma toOption_termsOf (given : List Datum) : (termsOf given).toOption = given.mapM Datum.term? := by
  induction given with
  | nil => rfl
  | cons d ds ih =>
    have hcons : termsOf (d :: ds) = match d.term? with
        | some t => (termsOf ds).map (t :: ·)
        | none => .error (.notTerm d) := by
      cases d with
      | value v => cases v <;> rfl
      | _ => rfl
    rw [hcons, List.mapM_cons, ← ih]
    cases d.term? with
    | none => rfl
    | some t => cases termsOf ds <;> rfl

lemma termsOf_map (ts : List Term) : termsOf (ts.map fun t => .value (.term t)) = .ok ts := by
  induction ts with
  | nil => rfl
  | cons t ts ih => rw [List.map_cons, termsOf, ih]; rfl

lemma isOk_setName (b : Builder) (n : Text) : (b.setName n).1.isOk = (nameFault? b.kind n).isNone := by
  rw [setName]
  cases nameFault? b.kind n <;> rfl

lemma lastName?_eq (b : Builder) (rs : List Request) :
    b.lastName? rs = ((rs.filterMap Request.name?).filter fun n => (nameFault? b.kind n).isNone).getLast? := by
  simp only [lastName?, isOk_setName]

lemma lastName?_cons (r : Request) (rs : List Request) :
    b.lastName? (r :: rs) = (b.lastName? rs).or (b.lastName? [r]) := by
  rw [lastName?, ← List.singleton_append, List.filterMap_append, List.filter_append, List.getLast?_append]
  rfl

lemma attempt_eq (b : Builder) (r : Request) :
    (b.attempt r).2 =
      { b with
        name := (b.lastName? [r]).or b.name
        components := b.components ++ if b.kind.capacity.isMulti then r.components else [] } := by
  rw [lastName?_eq]
  cases r with
  | name n =>
    rw [attempt, setName]
    cases hf : nameFault? b.kind n <;> simp [Request.name?, Request.components, hf]
  | push given =>
    have hname : [Request.push given].filterMap Request.name? = [] := rfl
    rw [attempt, push, hname, Request.components, ← toOption_termsOf]
    split
    · cases termsOf given <;> simp [Except.toOption]
    · simp

lemma afterAll_eq (b : Builder) (rs : List Request) :
    b.afterAll rs =
      { b with
        name := (b.lastName? rs).or b.name
        components := b.components ++ if b.kind.capacity.isMulti then rs.flatMap Request.components else [] } := by
  induction rs generalizing b with
  | nil => simp [afterAll, lastName?]
  | cons r rs ih =>
    have hstep : b.afterAll (r :: rs) = (b.attempt r).2.afterAll rs := rfl
    have hname : (b.attempt r).2.lastName? rs = b.lastName? rs := by
      rw [lastName?_eq, lastName?_eq, attempt_eq]
    rw [hstep, ih, hname, lastName?_cons, Option.or_assoc]
    simp only [attempt_eq, List.append_assoc]
    cases b.kind.capacity.isMulti <;> simp

lemma build_of_isMulti (h : b.kind.capacity.isMulti = true) :
    ∃ x : Except Fault Term, b.build = x.mapError .fault ∧
      Construct.compound b.kind b.index (b.components.map fun t => .value (.term t)) = x.mapError .term := by
  obtain ⟨k, index, name, cs⟩ := b
  cases k with
  | collection k => exact ⟨collection? k cs, rfl, by simp [Construct.compound, termsOf_map]⟩
  | chain k => exact ⟨chain? k cs, rfl, by simp [Construct.compound, termsOf_map]⟩
  | image s => exact ⟨image? s index cs, rfl, by simp [Construct.compound, termsOf_map]⟩
  | _ => cases h

lemma setName_eq_ok_iff : (b.setName n).1 = .ok () ↔ nameFault? b.kind n = none := by
  rw [setName]
  cases nameFault? b.kind n <;> simp

lemma nameFault?_of_lastName? {rs : List Request} (h : b.lastName? rs = some n) : nameFault? b.kind n = none := by
  rw [lastName?_eq] at h
  simpa using (List.mem_filter.1 (List.mem_of_getLast? h)).2

lemma nameFault?_name_eq_none_iff {j : NameKind} :
    nameFault? (.name j) n = none ↔ n ≠ [] ∧ n.all Text.isNameChar = true := by
  rw [nameFault?]
  cases n <;> simp

lemma nameFault?_interval_eq_none_iff :
    nameFault? .interval n = none ↔ n ≠ [] ∧ ∀ c ∈ n, Text.isPlainDigit c = true := by
  rw [nameFault?]
  cases n <;> simp

lemma exists_name_eq_ok_iff {j : NameKind} :
    (∃ t, Construct.name j (.text n) = .ok t) ↔ nameFault? (.name j) n = none := by
  simp only [Construct.name, mapError_eq_ok, named?_eq_ok_iff, nameFault?_name_eq_none_iff, exists_and_left,
    exists_eq, and_true]

lemma interval_digitsValue (hd : n.all Text.isPlainDigit = true) (hne : n ≠ [])
    (hl : n.length ≤ Written.digitLimit) :
    Construct.interval (.whole (Text.digitsValue n)) = .ok (.interval (Text.digitsValue n)) := by
  have hwritten : (Written.ofInt? (Text.digitsValue n)).isSome = true :=
    Written.isSome_ofInt?_iff.2 ((Text.length_ofNat_digitsValue_le hd hne).trans hl)
  exact if_pos hwritten

lemma refused_of_counted (h : b.kind.capacity = .unary ∨ b.kind.capacity.isBinary = true) :
    (∀ r, ∃ f, (b.attempt r).1 = .error f ∧ f.isCapacity = true) ∧
      ∃ f, b.build = .error (.fault f) ∧ f.isCapacity = true := by
  obtain ⟨k, index, name, cs⟩ := b
  cases k with
  | difference | negation | ordered | symmetric =>
    refine ⟨fun r => ?_, _, rfl, rfl⟩
    cases r <;> exact ⟨_, rfl, rfl⟩
  | _ => simp [Kind.capacity, Capacity.isBinary] at h

/-- What is built behind any requests is what the constructor makes of the components that were taken, all those
of a request or none, or of the last name that was not refused, and a name is refused where the constructor
refuses it. A request that is refused leaves the builder as it was. -/
theorem build_afterAll (k : Kind) (index : Datum) (rs : List Request) :
    let b := (start k index).afterAll rs
    (k.capacity.isMulti = true → ∃ x : Except Fault Term, b.build = x.mapError .fault ∧
      Construct.compound k index ((rs.flatMap Request.components).map fun t => .value (.term t)) =
        x.mapError .term) ∧
    (∀ j, k = .name j →
      (∀ n, (∃ f, (b.setName n).1 = .error f) ↔ ∃ f, Construct.name j (.text n) = .error f) ∧
      ∀ n, (start k index).lastName? rs = some n → ∃ t, b.build = .ok t ∧ Construct.name j (.text n) = .ok t) ∧
    (k = .interval →
      (∀ n, (b.setName n).1 = .ok () ↔ n ≠ [] ∧ ∀ c ∈ n, Text.isPlainDigit c = true) ∧
      ∀ n, (start k index).lastName? rs = some n → n.length ≤ Written.digitLimit →
        ∃ t, b.build = .ok t ∧ Construct.interval (.whole (Text.digitsValue n)) = .ok t) ∧
    (k.capacity = .unary ∨ k.capacity.isBinary = true →
      (∀ r, ∃ f, (b.attempt r).1 = .error f ∧ f.isCapacity = true) ∧
        ∃ f, b.build = .error (.fault f) ∧ f.isCapacity = true) ∧
    ∀ r f, (b.attempt r).1 = .error f → (b.attempt r).2 = b := by
  intro b
  have hb : b = ⟨k, index, (start k index).lastName? rs,
      if k.capacity.isMulti then rs.flatMap Request.components else []⟩ := by
    simp only [b, afterAll_eq, start, Option.or_none, List.nil_append]
    rfl
  have hkind : b.kind = k := by rw [hb]
  refine ⟨fun h => ?_, ?_, ?_, fun h => refused_of_counted (hkind ▸ h), fun r f => attempt_of_error⟩
  · have hcs : b.components = rs.flatMap Request.components := by rw [hb]; exact if_pos h
    have hbuild := build_of_isMulti (hkind ▸ h)
    rw [hcs, hkind] at hbuild
    rwa [hb] at hbuild ⊢
  · rintro j rfl
    refine ⟨fun n => ?_, fun n hn => ?_⟩
    · rw [exists_eq_error_iff, exists_eq_error_iff, exists_name_eq_ok_iff, ← hkind, ← setName_eq_ok_iff]
      exact not_congr ⟨fun ⟨_, hu⟩ => hu, fun hu => ⟨(), hu⟩⟩
    · obtain ⟨t, ht⟩ := exists_name_eq_ok_iff.2 (nameFault?_of_lastName? hn)
      refine ⟨t, ?_, ht⟩
      rw [hb, hn, build]
      exact mapError_eq_ok.2 (mapError_eq_ok.1 ht)
  · rintro rfl
    refine ⟨fun n => ?_, fun n hn hl => ⟨.interval (Text.digitsValue n), ?_, ?_⟩⟩
    · rw [setName_eq_ok_iff, hkind, nameFault?_interval_eq_none_iff]
    · rw [hb, hn, build]
      simp only [interval, Written.limited_of_length_le hl]
    · obtain ⟨hne, hd⟩ := nameFault?_interval_eq_none_iff.1 (nameFault?_of_lastName? hn)
      exact interval_digitsValue (List.all_eq_true.2 hd) hne hl

def mixedRequests : List Request :=
  [.push [.value (.term (.named .word "a"))], .name "7", .push [.value (.term (.named .word "b")), .text "c"], .name [],
    .push [.value (.term (.named .word "d"))]]

theorem mixedRequests_build_afterAll :
    ((start (.image .extension) (.whole 2)).afterAll mixedRequests).build =
        .ok (.image .extension 2 [.named .word "a", .named .word "d"]) ∧
      ((start (.name .word) .nothing).afterAll mixedRequests).build = .ok (.named .word "7") ∧
      ((start .interval .nothing).afterAll mixedRequests).build = .ok (.interval 7) ∧
      (((start .interval .nothing).afterAll mixedRequests).attempt (.name "b")).2 =
        (start .interval .nothing).afterAll mixedRequests ∧
      ∃ f, ((start .negation .nothing).afterAll mixedRequests).build = .error (.fault f) ∧ f.isCapacity = true := by
  obtain ⟨himage, -⟩ := build_afterAll (.image .extension) (.whole 2) mixedRequests
  obtain ⟨-, hword, -⟩ := build_afterAll (.name .word) .nothing mixedRequests
  obtain ⟨-, -, hinterval, -, hrefused⟩ := build_afterAll .interval .nothing mixedRequests
  obtain ⟨-, -, -, hnegation, -⟩ := build_afterAll .negation .nothing mixedRequests
  refine ⟨?_, ?_, ?_, hrefused (.name "b") _ rfl, (hnegation (.inl rfl)).2⟩
  · obtain ⟨x, hbuild, hmade⟩ := himage rfl
    have hx : x = .ok (.image .extension 2 [.named .word "a", .named .word "d"]) := mapError_eq_ok.1 hmade.symm
    rw [hbuild, hx]
    rfl
  · obtain ⟨t, hbuild, hmade⟩ := (hword .word rfl).2 "7" (by decide)
    rw [hbuild]
    cases hmade
    rfl
  · obtain ⟨t, hbuild, hmade⟩ := (hinterval rfl).2 "7" (by decide) (by decide)
    rw [hbuild]
    cases hmade
    rfl

end Term.Builder

end NarseseDialects
