import NarseseDialects.Proofs.Term.Congruence

namespace NarseseDialects

lemma Double.same_iff_units {x y : Double} (h : x.inUnit = true) : x.same y = true ↔ x.units? = y.units? := by
  cases x with
  | finite s m =>
    cases y with
    | finite r n => exact beq_iff_eq
    | infinite | nan => cases s <;> simp [same, units?]
  | infinite => cases h
  | nan => cases h

namespace Measure

variable {q : Quantity} {a b : Measure q}

lemma same_iff_forall₂ : a.same b = true ↔ List.Forall₂ (fun v w => v.same w = true) a.values b.values := by
  rw [same, Bool.and_eq_true, beq_iff_eq, List.all_eq_true, List.forall₂_iff_zip]
  exact and_congr_right fun _ => ⟨fun h v w hm => h (v, w) hm, fun h p hp => h hp⟩

lemma same_iff_units : a.same b = true ↔ a.values.map Double.units? = b.values.map Double.units? := by
  have hunits : ∀ {v w}, (v, w) ∈ a.values.zip b.values → (v.same w = true ↔ v.units? = w.units?) := fun h =>
    Double.same_iff_units (a.inUnit _ (List.of_mem_zip h).1)
  rw [same_iff_forall₂, ← List.forall₂_eq_eq_eq, List.forall₂_map_left_iff, List.forall₂_map_right_iff,
    List.forall₂_iff_zip, List.forall₂_iff_zip]
  exact and_congr_right fun _ => ⟨fun h _ _ hm => (hunits hm).1 (h hm), fun h _ _ hm => (hunits hm).2 (h hm)⟩

lemma same_equivalence : Equivalence fun a b : Measure q => a.same b = true where
  refl _ := same_iff_units.2 rfl
  symm h := same_iff_units.2 (same_iff_units.1 h).symm
  trans h h' := same_iff_units.2 ((same_iff_units.1 h).trans (same_iff_units.1 h'))

end Measure

namespace Mood

variable {m n o : Mood}

lemma same_iff_units : m.same n = true ↔
    m.punctuation = n.punctuation ∧
      m.truth?.map (fun t => t.values.map Double.units?) = n.truth?.map fun t => t.values.map Double.units? := by
  cases m with
  | judgement t | goal t => cases n <;> simp [same, punctuation, truth?, Measure.same_iff_units]
  | question | quest => cases n <;> simp [same, punctuation, truth?]

lemma same_equivalence : Equivalence fun m n : Mood => m.same n = true where
  refl _ := same_iff_units.2 ⟨rfl, rfl⟩
  symm h := same_iff_units.2 ((same_iff_units.1 h).imp Eq.symm Eq.symm)
  trans h h' := by
    obtain ⟨hp, ht⟩ := same_iff_units.1 h
    obtain ⟨hp', ht'⟩ := same_iff_units.1 h'
    exact same_iff_units.2 ⟨hp.trans hp', ht.trans ht'⟩

end Mood

lemma Sentence.same_iff {a b : Sentence} :
    a.same b = true ↔ a.term.same b.term = true ∧ a.mood.same b.mood = true ∧ a.stamp = b.stamp := by
  simp [same, and_assoc]

lemma Sentence.same_equivalence : Equivalence fun a b : Sentence => a.same b = true where
  refl a := same_iff.2 ⟨Term.same_refl a.term, Mood.same_equivalence.refl a.mood, rfl⟩
  symm h := by
    obtain ⟨ht, hm, hs⟩ := same_iff.1 h
    exact same_iff.2 ⟨Term.same_symm ht, Mood.same_equivalence.symm hm, hs.symm⟩
  trans h h' := by
    obtain ⟨ht, hm, hs⟩ := same_iff.1 h
    obtain ⟨ht', hm', hs'⟩ := same_iff.1 h'
    exact same_iff.2 ⟨Term.same_trans ht ht', Mood.same_equivalence.trans hm hm', hs.trans hs'⟩

lemma Task.same_iff {k l : Task} :
    k.same l = true ↔ k.sentence.same l.sentence = true ∧ k.budget.same l.budget = true := by
  simp [same]

lemma Task.same_equivalence : Equivalence fun k l : Task => k.same l = true where
  refl k := same_iff.2 ⟨Sentence.same_equivalence.refl k.sentence, Measure.same_equivalence.refl k.budget⟩
  symm h := by
    obtain ⟨hs, hb⟩ := same_iff.1 h
    exact same_iff.2 ⟨Sentence.same_equivalence.symm hs, Measure.same_equivalence.symm hb⟩
  trans h h' := by
    obtain ⟨hs, hb⟩ := same_iff.1 h
    obtain ⟨hs', hb'⟩ := same_iff.1 h'
    exact same_iff.2 ⟨Sentence.same_equivalence.trans hs hs', Measure.same_equivalence.trans hb hb'⟩

namespace Value

lemma same_equivalence : Equivalence fun v w : Value => v.same w = true where
  refl v := by
    cases v with
    | term t => exact Term.same_refl t
    | sentence s => exact Sentence.same_equivalence.refl s
    | task k => exact Task.same_equivalence.refl k
  symm {v w} h := by
    cases v with
    | term t =>
      cases w with
      | term u => exact Term.same_symm h
      | _ => cases h
    | sentence s =>
      cases w with
      | sentence r => exact Sentence.same_equivalence.symm h
      | _ => cases h
    | task k =>
      cases w with
      | task l => exact Task.same_equivalence.symm h
      | _ => cases h
  trans {v w x} h h' := by
    cases v with
    | term t =>
      cases w with
      | term u =>
        cases x with
        | term y => exact Term.same_trans h h'
        | _ => cases h'
      | _ => cases h
    | sentence s =>
      cases w with
      | sentence r =>
        cases x with
        | sentence y => exact Sentence.same_equivalence.trans h h'
        | _ => cases h'
      | _ => cases h
    | task k =>
      cases w with
      | task l =>
        cases x with
        | task y => exact Task.same_equivalence.trans h h'
        | _ => cases h'
      | _ => cases h

def withSubject (v : Value) (t : Term) : Value :=
  v.map (fun _ => t) (fun s => { s with term := t }) fun k => { k with sentence := { k.sentence with term := t } }

lemma same_withSubject {v : Value} {t : Term} (h : v.subject.same t = true) : v.same (v.withSubject t) = true := by
  cases v with
  | term u => exact h
  | sentence s => exact Sentence.same_iff.2 ⟨h, Mood.same_equivalence.refl s.mood, rfl⟩
  | task k =>
    have hs : k.sentence.same { k.sentence with term := t } = true :=
      Sentence.same_iff.2 ⟨h, Mood.same_equivalence.refl k.sentence.mood, rfl⟩
    exact Task.same_iff.2 ⟨hs, Measure.same_equivalence.refl k.budget⟩

open Term in
/-- Equality is an equivalence, compares collections as sets, symmetric statements either way round and all
else part by part, and allows any part, at any depth, to be replaced by an equal one. -/
theorem same_congruence :
    (Equivalence fun v w : Value => v.same w = true) ∧
    (∀ q, Equivalence fun a b : Measure q => a.same b = true) ∧
    (∀ k cs ds, cs ≠ [] → ds ≠ [] → ∃ t u, collection? k cs = .ok t ∧ collection? k ds = .ok u ∧
      (t.same u = true ↔ SameMembers cs ds)) ∧
    (∀ k cs t, collection? k cs = .ok t →
      t.components = firstOccurrences cs ∧ t.components.Pairwise fun c d => c.same d = false) ∧
    (∀ c a b x y, (symmetric c a b).same (symmetric c x y) = true ↔
      a.same x = true ∧ b.same y = true ∨ a.same y = true ∧ b.same x = true) ∧
    (∀ t u : Term, t.kind.capacity.isUnordered = false → (t.same u = true ↔
      t.kind = u.kind ∧ t.name = u.name ∧ t.gap? = u.gap? ∧ SameInOrder t.components u.components)) ∧
    (∀ v : Value, v.Made → ∀ a, PartOf a v.subject → ∃ holes, fill holes a = v.subject) ∧
    (∀ (v : Value) holes a b, fill holes a = v.subject → a.same b = true →
      v.same (v.withSubject (fill holes b)) = true) ∧
    (∀ q (a b : Measure q), a.same b = true ↔ List.Forall₂ (fun v w => v.same w = true) a.values b.values) ∧
    (∀ t m m' stamp, m.same m' = true → Sentence.same ⟨t, m, stamp⟩ ⟨t, m', stamp⟩ = true) ∧
    ∀ s s' b b', s.same s' = true → b.same b' = true → Task.same ⟨s, b⟩ ⟨s', b'⟩ = true := by
  refine ⟨same_equivalence, fun _ => Measure.same_equivalence, ?_, ?_, ?_, fun t u => same_iff_of_inOrder,
    fun v hv a ha => exists_fill_of_partOf ha hv.wellFormed, ?_, fun q a b => Measure.same_iff_forall₂, ?_, ?_⟩
  · intro k cs ds hcs hds
    refine ⟨collection k (firsts cs), collection k (firsts ds), ?_, ?_, same_collection_firsts_iff⟩
    · simp [collection?, hcs]
    · simp [collection?, hds]
  · intro k cs t ht
    rw [collection?] at ht
    split at ht
    · cases ht
    · cases ht
      exact ⟨firsts_eq_firstOccurrences cs, pairwise_firsts cs⟩
  · intro c a b x y
    simp [same_symmetric_iff]
  · intro v holes a b ha hab
    apply same_withSubject
    rw [← ha]
    exact same_fill holes hab
  · intro t m m' stamp h
    exact Sentence.same_iff.2 ⟨same_refl t, h, rfl⟩
  · intro s s' b b' hs hb
    exact Task.same_iff.2 ⟨hs, hb⟩

def pair (first second : Text) : Term := .collection (.set .extension) [.named .word first, .named .word second]

def pairJudgement : Value :=
  .sentence ⟨.ordered .inheritance (pair "a" "b") (.named .word "c"), .judgement .empty, .eternal⟩

lemma made_pairJudgement : pairJudgement.Made := by
  have hpair : Value.Made (.term (pair "a" "b")) := by
    refine @Value.Made.compound (.collection (.set .extension)) .nothing
      [.value (.term (.named .word "a")), .value (.term (.named .word "b"))] _ ?_ rfl
    simpa using ⟨Made.named rfl, Made.named rfl⟩
  refine @Value.Made.sentence .judgement (.value (.term _)) (.truth .empty) (.stamp .eternal) _ ?_ rfl
  rintro v ⟨⟩
  refine @Value.Made.statement (.ordered .inheritance) (.value (.term _)) (.value (.term _)) _ ?_ rfl
  simpa using ⟨hpair, Made.named rfl⟩

lemma partOf_pairJudgement : Term.PartOf (pair "a" "b") pairJudgement.subject :=
  .inner List.mem_cons_self .self

def zeroGoal (negative : Bool) : Sentence :=
  ⟨.placeholder, .goal ⟨[.finite negative .zero], by simp, by cases negative <;> decide⟩, .eternal⟩

open Term in
theorem pairs_same_congruence :
    (∃ t u, collection? (.set .extension) [.named .word "a", .named .word "b", .named .word "a"] = .ok t ∧
      collection? (.set .extension) [.named .word "b", .named .word "a"] = .ok u ∧ t.same u = true) ∧
    (pair "a" "b").components = firstOccurrences [.named .word "a", .named .word "b", .named .word "a"] ∧
    (negation (pair "a" "b")).same (negation (pair "b" "a")) = true ∧
    pairJudgement.Made ∧ PartOf (pair "a" "b") pairJudgement.subject ∧
    (∃ holes, fill holes (pair "a" "b") = pairJudgement.subject ∧
      pairJudgement.same (pairJudgement.withSubject (fill holes (pair "b" "a"))) = true) ∧
    Task.same ⟨zeroGoal false, .empty⟩ ⟨zeroGoal true, .empty⟩ = true := by
  have hpair : (pair "a" "b").same (pair "b" "a") = true := by decide
  obtain ⟨-, hmeasure, hset, hfirsts, -, horder, hpart, hfill, -, hmood, htask⟩ := Value.same_congruence
  refine ⟨?_, ?_, ?_, made_pairJudgement, partOf_pairJudgement, ?_, ?_⟩
  · obtain ⟨t, u, ht, hu, hsame⟩ := hset (.set .extension)
      [.named .word "a", .named .word "b", .named .word "a"] [.named .word "b", .named .word "a"] (by simp) (by simp)
    exact ⟨t, u, ht, hu, hsame.2 ⟨by decide, by decide⟩⟩
  · exact (hfirsts (.set .extension) [.named .word "a", .named .word "b", .named .word "a"] _ (by rfl)).1
  · exact (horder _ _ rfl).2 ⟨rfl, rfl, rfl, .cons hpair .nil⟩
  · obtain ⟨holes, ha⟩ := hpart pairJudgement made_pairJudgement _ partOf_pairJudgement
    exact ⟨holes, ha, hfill pairJudgement holes _ _ ha hpair⟩
  · exact htask _ _ _ _ (hmood .placeholder _ _ .eternal (by decide)) ((hmeasure .budget).refl _)

end Value

end NarseseDialects
