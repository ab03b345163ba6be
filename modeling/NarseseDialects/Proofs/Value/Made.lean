import NarseseDialects.Construct
import NarseseDialects.Proofs.Outcome

namespace NarseseDialects

/-- A value that is made by a constructor, from data whose values are made as well. -/
inductive Value.Made : Value → Prop
  | placeholder : Made (.term .placeholder)
  | name {k given t} : Construct.name k given = .ok t → Made (.term t)
  | interval {given t} : Construct.interval given = .ok t → Made (.term t)
  | compound {k index given t} : (∀ v, Datum.value v ∈ given → Made v) →
      Construct.compound k index given = .ok t → Made (.term t)
  | statement {c subject predicate t} : (∀ v, Datum.value v ∈ [subject, predicate] → Made v) →
      Construct.statement c subject predicate = .ok t → Made (.term t)
  | built {b t} : (∀ c ∈ b.components, Made (.term c)) → Term.Builder.build b = .ok t → Made (.term t)
  | sentence {p about truth stamp s} : (∀ v, about = .value v → Made v) →
      Construct.sentence p about truth stamp = .ok s → Made (.sentence s)
  | fromPunctuation {label about truth stamp s} : (∀ v, about = .value v → Made v) →
      Construct.fromPunctuation label about truth stamp = .ok s → Made (.sentence s)
  | task {sentence budget k} : (∀ v, sentence = .value v → Made v) →
      Construct.task sentence budget = .ok k → Made (.task k)

lemma Value.Made.named {k : NameKind} {n : Text} (h : Construct.name k (.text n) = .ok (.named k n)) :
    Made (.term (.named k n)) := .name h

namespace Term

mutual

def WellFormed : Term → Prop
  | named _ n => n ≠ [] ∧ n.all Text.isNameChar = true
  | placeholder | interval _ => True
  | collection _ cs => cs ≠ [] ∧ cs.Pairwise (fun t u => t.same u = false) ∧ WellFormedAll cs
  | chain _ cs => cs ≠ [] ∧ WellFormedAll cs
  | difference _ l r => WellFormed l ∧ WellFormed r
  | negation t => WellFormed t
  | image _ i cs => cs ≠ [] ∧ i ≤ cs.length ∧ WellFormedAll cs
  | ordered _ s p | symmetric _ s p => WellFormed s ∧ WellFormed p

def WellFormedAll : List Term → Prop
  | [] => True
  | t :: ts => WellFormed t ∧ WellFormedAll ts

end

lemma wellFormedAll_iff {ts : List Term} : WellFormedAll ts ↔ ∀ t ∈ ts, t.WellFormed := by
  induction ts with
  | nil => simp [WellFormedAll]
  | cons t ts ih => simp [WellFormedAll, ih]

lemma mem_of_mem_firsts {t : Term} {ts : List Term} (h : t ∈ firsts ts) : t ∈ ts := by
  induction ts with
  | nil => exact h
  | cons u us ih =>
    rcases List.mem_cons.1 h with rfl | h
    · exact List.mem_cons_self
    · exact List.mem_cons_of_mem u (ih (List.mem_filter.1 h).1)

lemma pairwise_firsts (ts : List Term) : (firsts ts).Pairwise fun t u => t.same u = false := by
  induction ts with
  | nil => exact .nil
  | cons t ts ih =>
    refine List.pairwise_cons.2 ⟨fun u hu => ?_, ih.filter _⟩
    simpa using (List.mem_filter.1 hu).2

lemma firsts_eq_self {ts : List Term} (h : ts.Pairwise fun t u => t.same u = false) : firsts ts = ts := by
  induction ts with
  | nil => rfl
  | cons t ts ih =>
    obtain ⟨ht, hts⟩ := List.pairwise_cons.1 h
    rw [firsts, ih hts, List.filter_eq_self.2 fun u hu => by simp [ht u hu]]

lemma named?_eq_ok_iff {k : NameKind} {n : Text} {t : Term} :
    named? k n = .ok t ↔ (n ≠ [] ∧ n.all Text.isNameChar = true) ∧ t = named k n := by
  rw [named?]
  by_cases he : n = []
  · simp [he]
  · rw [eq_comm (a := t)]
    cases n.all Text.isNameChar <;> simp [he]

lemma le_of_index? {given : Datum} {n i : Nat} (h : index? given n = some i) : i ≤ n := by
  simp only [index?] at h
  split at h
  · split at h
    next hi =>
      cases h
      exact hi
    · cases h
  · cases h

section

variable {cs : List Term} {t : Term} (h : ∀ c ∈ cs, c.WellFormed)

lemma wellFormed_of_named? {k : NameKind} {n : Text} (ht : named? k n = .ok t) : t.WellFormed := by
  obtain ⟨h, rfl⟩ := named?_eq_ok_iff.1 ht
  exact h

include h

lemma wellFormed_of_collection? {k : CollectionKind} (ht : collection? k cs = .ok t) : t.WellFormed := by
  rw [collection?] at ht
  split at ht
  · cases ht
  next he =>
  cases ht
  refine ⟨?_, pairwise_firsts cs, wellFormedAll_iff.2 fun c hc => h c (mem_of_mem_firsts hc)⟩
  cases cs with
  | nil => exact absurd rfl he
  | cons c cs => simp [firsts]

lemma wellFormed_of_chain? {k : Chain} (ht : chain? k cs = .ok t) : t.WellFormed := by
  rw [chain?] at ht
  split at ht
  · cases ht
  next he =>
  cases ht
  exact ⟨by simpa using he, wellFormedAll_iff.2 h⟩

lemma wellFormed_of_image? {s : Side} {index : Datum} (ht : image? s index cs = .ok t) : t.WellFormed := by
  rw [image?] at ht
  split at ht
  · cases ht
  next he =>
  split at ht
  next i hi =>
    cases ht
    exact ⟨by simpa using he, le_of_index? hi, wellFormedAll_iff.2 h⟩
  · cases ht

lemma wellFormed_of_build {b : Builder} (hb : b.components = cs) (ht : b.build = .ok t) : t.WellFormed := by
  subst hb
  rw [Builder.build] at ht
  split at ht
  · cases ht
    trivial
  next n _ _ =>
    rw [Builder.interval] at ht
    split at ht
    · cases ht
      trivial
    · cases ht
    · cases ht
  · exact wellFormed_of_named? (Outcome.mapError_eq_ok.1 ht)
  · cases ht
  · cases ht
  · exact wellFormed_of_collection? h (Outcome.mapError_eq_ok.1 ht)
  · exact wellFormed_of_chain? h (Outcome.mapError_eq_ok.1 ht)
  · exact wellFormed_of_image? h (Outcome.mapError_eq_ok.1 ht)
  · cases ht

end

lemma wellFormed_apply {c : Copula} {s p : Term} (hs : s.WellFormed) (hp : p.WellFormed) :
    (c.apply s p).WellFormed := by
  have one : ∀ {side t}, t.WellFormed → (Term.collection (.set side) [t]).WellFormed := fun ht =>
    ⟨by simp, List.pairwise_singleton .., ht, trivial⟩
  cases c with
  | ordered k => exact ⟨hs, hp⟩
  | symmetric k => exact ⟨hs, hp⟩
  | shorthand h =>
    cases h with
    | instanceOf => exact ⟨one hs, hp⟩
    | property => exact ⟨hs, one hp⟩
    | instanceProperty => exact ⟨one hs, one hp⟩
    | equivalenceRetrospective => exact ⟨hp, hs⟩

end Term

namespace Construct

open Outcome

lemma eq_of_term? {given : Datum} {t : Term} (h : term? given = .ok t) : given = .value (.term t) := by
  simp only [term?] at h
  split at h
  · cases h
    rfl
  · cases h

lemma mem_of_termsOf {given : List Datum} {ts : List Term} (h : Term.Builder.termsOf given = .ok ts) {t : Term}
    (ht : t ∈ ts) : Datum.value (.term t) ∈ given := by
  induction given generalizing ts with
  | nil =>
    cases h
    exact absurd ht List.not_mem_nil
  | cons d ds ih =>
    unfold Term.Builder.termsOf at h
    split at h
    · contradiction
    next u us he =>
      cases he
      obtain ⟨vs, hvs, rfl⟩ := map_eq_ok.1 h
      rcases List.mem_cons.1 ht with rfl | ht
      · exact List.mem_cons_self
      · exact List.mem_cons_of_mem _ (ih hvs ht)
    · cases h

lemma wellFormed_of_compound {k : Kind} {index : Datum} {given : List Datum} {t : Term}
    (h : ∀ t, Datum.value (.term t) ∈ given → t.WellFormed) (ht : compound k index given = .ok t) :
    t.WellFormed := by
  simp only [compound] at ht
  split at ht
  next s l r =>
    obtain ⟨x, hx, ht⟩ := bind_eq_ok.1 ht
    obtain ⟨y, hy, ht⟩ := bind_eq_ok.1 ht
    cases ht
    exact ⟨h x (by simp [eq_of_term? hx]), h y (by simp [eq_of_term? hy])⟩
  next u =>
    obtain ⟨x, hx, ht⟩ := bind_eq_ok.1 ht
    cases ht
    exact h x (by simp [eq_of_term? hx])
  · cases ht
  · cases ht
  next k _ _ _ _ =>
    obtain ⟨cs, hcs, ht⟩ := bind_eq_ok.1 ht
    have hc : ∀ c ∈ cs, c.WellFormed := fun c hc => h c (mem_of_termsOf (mapError_eq_ok.1 hcs) hc)
    split at ht
    · exact Term.wellFormed_of_collection? hc (mapError_eq_ok.1 ht)
    · exact Term.wellFormed_of_chain? hc (mapError_eq_ok.1 ht)
    · exact Term.wellFormed_of_image? hc (mapError_eq_ok.1 ht)
    · cases ht

lemma exists_of_statement {c : Copula} {subject predicate : Datum} {t : Term}
    (h : statement c subject predicate = .ok t) :
    ∃ s p, subject = .value (.term s) ∧ predicate = .value (.term p) ∧ t = c.apply s p := by
  simp only [statement] at h
  split at h
  · obtain ⟨p, hp, h⟩ := bind_eq_ok.1 h
    obtain ⟨s, hs, h⟩ := bind_eq_ok.1 h
    cases h
    exact ⟨s, p, eq_of_term? hs, eq_of_term? hp, rfl⟩
  · obtain ⟨p, hp, h⟩ := bind_eq_ok.1 h
    obtain ⟨s, hs, h⟩ := bind_eq_ok.1 h
    cases h
    exact ⟨s, p, eq_of_term? hs, eq_of_term? hp, rfl⟩
  · obtain ⟨s, hs, h⟩ := bind_eq_ok.1 h
    obtain ⟨p, hp, h⟩ := bind_eq_ok.1 h
    cases h
    exact ⟨s, p, eq_of_term? hs, eq_of_term? hp, rfl⟩

lemma eq_of_sentence {p : Punctuation} {about truth stamp : Datum} {s : Sentence}
    (h : sentence p about truth stamp = .ok s) : about = .value (.term s.term) := by
  cases p with
  | judgement | goal =>
    obtain ⟨t, -, h⟩ := bind_eq_ok.1 h
    obtain ⟨m, -, h⟩ := bind_eq_ok.1 h
    split at h
    · obtain ⟨st, -, h⟩ := bind_eq_ok.1 h
      cases h
      rfl
    · cases h
  | question | quest =>
    obtain ⟨m, -, h⟩ := bind_eq_ok.1 h
    split at h
    · obtain ⟨st, -, h⟩ := bind_eq_ok.1 h
      cases h
      rfl
    · cases h

lemma eq_of_fromPunctuation {label about truth stamp : Datum} {s : Sentence}
    (h : fromPunctuation label about truth stamp = .ok s) : about = .value (.term s.term) := by
  unfold fromPunctuation at h
  dsimp only at h
  split at h
  · obtain ⟨p, -, h⟩ := bind_eq_ok.1 h
    cases p with
    | judgement | goal => exact eq_of_sentence h
    | question | quest =>
      dsimp only at h
      split at h
      · exact eq_of_sentence h
      · split at h
        · cases h
        · exact eq_of_sentence h
      · split at h
        · cases h
        · exact eq_of_sentence h
      · cases h
  · cases h

lemma eq_of_task {sentence budget : Datum} {k : Task} (h : task sentence budget = .ok k) :
    sentence = .value (.sentence k.sentence) := by
  simp only [task] at h
  split at h
  · cases h
    rfl
  · cases h
  · cases h

end Construct

def Value.WellFormed (v : Value) : Prop := v.subject.WellFormed

open Construct in
lemma Value.Made.wellFormed {v : Value} (h : v.Made) : v.WellFormed := by
  induction h with
  | placeholder => trivial
  | @name k given t h =>
    simp only [Construct.name] at h
    split at h
    · exact Term.wellFormed_of_named? (Outcome.mapError_eq_ok.1 h)
    · cases h
  | @interval given t h =>
    simp only [Construct.interval] at h
    split at h
    · split at h
      · cases h
        trivial
      · cases h
    · cases h
  | compound _ h ih => exact wellFormed_of_compound (fun t ht => ih _ ht) h
  | statement _ h ih =>
    obtain ⟨s, p, rfl, rfl, rfl⟩ := exists_of_statement h
    exact Term.wellFormed_apply (ih (.term s) (by simp)) (ih (.term p) (by simp))
  | built _ h ih => exact Term.wellFormed_of_build ih rfl h
  | @sentence _ _ _ _ s _ h ih => exact ih (.term s.term) (eq_of_sentence h)
  | @fromPunctuation _ _ _ _ s _ h ih => exact ih (.term s.term) (eq_of_fromPunctuation h)
  | @task _ _ k _ h ih => exact ih (.sentence k.sentence) (eq_of_task h)

end NarseseDialects
