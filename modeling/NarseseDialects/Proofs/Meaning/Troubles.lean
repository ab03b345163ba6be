import NarseseDialects.Proofs.Lexical.Parts
import NarseseDialects.Proofs.Meaning.Unfolding

namespace NarseseDialects.Meaning

open Outcome Lexical

variable {d : Dialect} {α : Type}

def Trouble.Told : Trouble → Prop
  | .failure f => f.message?.isSome = true
  | .tooManyDigits _ => False

structure Overlong (name : Text) (count : Nat) : Prop where
  digits : name.all Text.isPlainDigit = true
  length : name.length = count
  limit_lt : Written.digitLimit < count

lemma Overlong.ne_nil {name : Text} {k : Nat} (h : Overlong name k) : name ≠ [] := by
  rintro rfl
  have hlt := h.limit_lt
  rw [← h.length] at hlt
  cases hlt

lemma failsWith_fail {f : Failure} (h : f.message?.isSome = true) : FailsWith Trouble.Told (fail f : Result α) :=
  .error h

lemma failsWith_collection (k : CollectionKind) (cs : List NarseseDialects.Term) :
    FailsWith Trouble.Told (ofTermFault (Term.collection? k cs)) := by
  rw [Term.collection?]
  split
  · exact .error rfl
  · exact .ok _

lemma failsWith_chain (k : Chain) (cs : List NarseseDialects.Term) :
    FailsWith Trouble.Told (ofTermFault (Term.chain? k cs)) := by
  rw [Term.chain?]
  split
  · exact .error rfl
  · exact .ok _

lemma overlong_of_interval {name : Text} {k : Nat} (hn : name.all Text.isPlainDigit = true)
    (h : Term.Builder.interval name = .error (.tooManyDigits k)) : Overlong name k := by
  rw [Term.Builder.interval, Written.limited] at h
  by_cases hl : Written.digitLimit < name.length
  · rw [if_pos hl] at h
    cases h
    exact ⟨hn, rfl, hl⟩
  · rw [if_neg hl] at h
    cases h

lemma overlong_of_atom {sigil name : Text} {k : Nat} (h : atom d sigil name = .error (.tooManyDigits k)) :
    sigil = d.sigils.literal .interval ∧ Overlong name k := by
  rw [atom] at h
  split at h
  · cases h
  next r hr =>
  obtain rfl := Vocabulary.role?_eq_some_iff.1 hr
  dsimp only [Term.Builder.setName] at h
  split at h
  · cases h
  next hf =>
  cases r with
  | name c =>
    replace h : ((Term.named? c name).mapError .fault).mapError ofRefusal = .error (.tooManyDigits k) := h
    cases hn : Term.named? c name with
    | error e =>
      rw [hn] at h
      cases h
    | ok t =>
      rw [hn] at h
      cases h
  | placeholder => cases h
  | interval =>
    rw [Term.Builder.start, Kind.ofAtomRole, Term.Builder.nameFault?] at hf
    split at hf
    next hn =>
      rw [Bool.and_eq_true] at hn
      replace h : (Term.Builder.interval name).mapError ofRefusal = .error (.tooManyDigits k) := h
      refine ⟨rfl, overlong_of_interval hn.2 ?_⟩
      cases hi : Term.Builder.interval name with
      | error e =>
        rw [hi] at h
        cases e with
        | fault f => cases h
        | tooManyDigits m =>
          cases h
          rfl
      | ok t =>
        rw [hi] at h
        cases h
    · cases hf

lemma told_of_nameFault {k : Kind} {name : Text} {f : Term.Fault} (h : Term.Builder.nameFault? k name = some f) :
    f.message?.isSome = true := by
  unfold Term.Builder.nameFault? at h
  split at h
  · split at h <;> cases h
    rfl
  · split at h <;> cases h
    rfl
  · split at h
    · cases h
      rfl
    · split at h <;> cases h
      rfl
  · cases h
    rfl

lemma told_of_interval {name : Text} {f : Term.Fault} (h : Term.Builder.interval name = .error (.fault f)) :
    f.message?.isSome = true := by
  rw [Term.Builder.interval] at h
  split at h <;> cases h
  rfl

lemma told_of_atom {sigil name : Text} {f : Failure} (h : atom d sigil name = .error (.failure f)) :
    f.message?.isSome = true := by
  rw [atom] at h
  split at h
  · cases h
    rfl
  next r _ =>
  dsimp only [Term.Builder.setName] at h
  split at h
  next hf =>
    cases h
    exact told_of_nameFault hf
  next hf =>
    cases r with
    | name c =>
      replace h : ((Term.named? c name).mapError .fault).mapError ofRefusal = .error (.failure f) := h
      rw [Term.named?] at h
      split at h
      · cases h
        rfl
      · split at h <;> cases h
        rfl
    | placeholder => cases h
    | interval =>
      replace h : (Term.Builder.interval name).mapError ofRefusal = .error (.failure f) := h
      cases hi : Term.Builder.interval name with
      | error e =>
        rw [hi] at h
        cases e with
        | fault g =>
          cases h
          exact told_of_interval hi
        | tooManyDigits m => cases h
      | ok t =>
        rw [hi] at h
        cases h

lemma failsWith_image (s : Side) (cs : List NarseseDialects.Term) : FailsWith Trouble.Told (image s cs) := by
  intro e h
  have hnone : ¬ ∃ t, image s cs = .ok t := exists_eq_error_iff.1 ⟨e, h⟩
  simp only [image] at h
  split at h
  next hone =>
    -- The index lies within the image, so that all that can be missing are other components.
    by_cases hne : cs.eraseIdx (cs.findIdx (·.same .placeholder)) = []
    · rw [Term.image?, hne] at h
      cases h
      rfl
    · exact absurd ⟨_, image_eq_ok.2 ⟨hone, hne, rfl⟩⟩ hnone
  · cases h
    rfl

lemma failsWith_compound (c : Text) (cs : List NarseseDialects.Term) :
    FailsWith Trouble.Told (compound d c cs) := by
  unfold compound
  split
  · exact failsWith_fail rfl
  · exact failsWith_image _ _
  · exact failsWith_collection _ _
  · exact failsWith_chain _ _
  · split
    · exact .ok _
    · exact failsWith_fail rfl
  · split
    · exact .ok _
    · exact failsWith_fail rfl

lemma failsWith_set (l : Text) (cs : List NarseseDialects.Term) : FailsWith Trouble.Told (set d l cs) := by
  rw [set]
  split
  · exact failsWith_fail rfl
  · exact failsWith_collection _ _

lemma failsWith_statement (c : Text) (t u : NarseseDialects.Term) :
    FailsWith Trouble.Told (statement d c t u) := by
  rw [statement]
  split
  · exact failsWith_fail rfl
  · exact .ok _

lemma failsWith_number (n : Text) : FailsWith Trouble.Told (number n) := by
  rw [number]
  cases Written.real? n with
  | none => exact failsWith_fail rfl
  | some v => exact .ok v

lemma failsWith_mapM_number (ns : List Text) : FailsWith Trouble.Told (ns.mapM number) := by
  induction ns with
  | nil => exact .ok []
  | cons n ns ih =>
    rw [List.mapM_cons]
    apply (failsWith_number n).bind
    intro v _
    apply ih.bind
    intro vs _
    exact .ok _

lemma failsWith_measure (q : Quantity) (ns : List Text) : FailsWith Trouble.Told (measure q ns) := by
  apply (failsWith_mapM_number ns).bind
  intro vs _
  cases Measure.ofValues q vs with
  | error e => exact .error rfl
  | ok m => exact .ok m

lemma failsWith_stamp (s : Text) : FailsWith Trouble.Told (stamp d s) := by
  unfold stamp
  split
  · exact .ok _
  split
  · exact .ok _
  split
  · exact .ok _
  · exact failsWith_fail rfl

lemma failsWith_mood (p : Punctuation) (t : Truth) : FailsWith Trouble.Told (mood p t) := by
  unfold mood
  split
  · exact .ok _
  · exact .ok _
  · split
    · exact .ok _
    · exact failsWith_fail rfl
  · split
    · exact .ok _
    · exact failsWith_fail rfl

lemma failsWith_sentence (t : NarseseDialects.Term) (p s : Text) (truth : List Text) :
    FailsWith Trouble.Told (sentence d t p s truth) := by
  unfold sentence
  split
  · exact failsWith_fail rfl
  · apply (failsWith_measure _ _).bind
    intro m _
    apply (failsWith_stamp s).bind
    intro x _
    apply (failsWith_mood _ m).bind
    intro y _
    exact .ok _

lemma failsWith_task (budget : List Text) (s : NarseseDialects.Sentence) :
    FailsWith Trouble.Told (task budget s) := by
  apply (failsWith_measure _ budget).bind
  intro m _
  exact .ok _

def FoldTrouble.Within (d : Dialect) (parts : List Node) : FoldTrouble → Prop
  | .fault f node => f.message?.isSome = true ∧ node ∈ parts
  | .tooManyDigits k =>
    ∃ name spot, Overlong name k ∧ Item.term (.atom (d.sigils.literal .interval) name spot) ∈ parts

variable {ps : List Node}

lemma failsWith_atNode {node : Node} {x : Result α} (hx : FailsWith Trouble.Told x) (hn : node ∈ ps) :
    FailsWith (FoldTrouble.Within d ps) (atNode node x) := by
  cases x with
  | ok a => exact .ok a
  | error e =>
    have he := hx e rfl
    cases e with
    | failure f => exact .error ⟨he, hn⟩
    | tooManyDigits k => exact he.elim

lemma failsWith_atAtom {sigil name : Text} {spot : Option Nat} (hn : Item.term (.atom sigil name spot) ∈ ps) :
    FailsWith (FoldTrouble.Within d ps) (atNode (.term (.atom sigil name spot)) (atom d sigil name)) := by
  cases h : atom d sigil name with
  | ok t => exact .ok t
  | error e =>
    cases e with
    | failure f => exact .error ⟨told_of_atom h, hn⟩
    | tooManyDigits k =>
      obtain ⟨rfl, hname⟩ := overlong_of_atom h
      exact .error ⟨name, spot, hname, hn⟩

mutual

lemma failsWith_foldTerm (t : Lexical.Term) (h : ∀ u ∈ t.subterms, Item.term u ∈ ps) :
    FailsWith (FoldTrouble.Within d ps) (foldTerm d t) := by
  have hself := h t t.mem_subterms_self
  cases t with
  | atom p n s =>
    rw [foldTerm]
    exact failsWith_atAtom hself
  | compound c ts s =>
    rw [foldTerm]
    apply (failsWith_foldTerms ts fun u hu => h u (List.mem_cons_of_mem _ hu)).bind
    intro cs _
    exact failsWith_atNode (failsWith_compound c cs) hself
  | set l ts r s =>
    rw [foldTerm]
    split
    · exact .error ⟨rfl, hself⟩
    apply (failsWith_foldTerms ts fun u hu => h u (List.mem_cons_of_mem _ hu)).bind
    intro cs _
    exact failsWith_atNode (failsWith_set l cs) hself
  | statement c t u s =>
    rw [foldTerm]
    apply (failsWith_foldTerm t fun v hv => h v (List.mem_cons_of_mem _ (List.mem_append_left _ hv))).bind
    intro a _
    apply (failsWith_foldTerm u fun v hv => h v (List.mem_cons_of_mem _ (List.mem_append_right _ hv))).bind
    intro b _
    exact failsWith_atNode (failsWith_statement c a b) hself

lemma failsWith_foldTerms (ts : List Lexical.Term) (h : ∀ u ∈ Term.subtermsAll ts, Item.term u ∈ ps) :
    FailsWith (FoldTrouble.Within d ps) (foldTerms d ts) := by
  cases ts with
  | nil => exact .ok []
  | cons t ts =>
    rw [foldTerms]
    apply (failsWith_foldTerm t fun v hv => h v (List.mem_append_left _ hv)).bind
    intro a _
    apply (failsWith_foldTerms ts fun v hv => h v (List.mem_append_right _ hv)).bind
    intro as _
    exact .ok _

end

lemma failsWith_foldSentence (s : Lexical.Sentence) (hs : Item.sentence s ∈ ps)
    (h : ∀ u ∈ s.term.subterms, Item.term u ∈ ps) :
    FailsWith (FoldTrouble.Within d ps) (foldSentence d s) := by
  rw [foldSentence]
  apply (failsWith_foldTerm s.term h).bind
  intro t _
  exact failsWith_atNode (failsWith_sentence t _ _ _) hs

theorem failsWith_fold (n : Node) : FailsWith (FoldTrouble.Within d (Node.parts n)) (fold d n) := by
  cases n with
  | term t =>
    apply FailsWith.map
    exact failsWith_foldTerm t fun u hu => List.mem_map_of_mem hu
  | sentence s =>
    apply FailsWith.map
    exact failsWith_foldSentence s List.mem_cons_self fun u hu => List.mem_cons_of_mem _ (List.mem_map_of_mem hu)
  | task k =>
    apply FailsWith.map
    rw [foldTask]
    have hterm : ∀ u ∈ k.sentence.term.subterms, Item.term u ∈ Node.parts (.task k) :=
      fun u hu => List.mem_cons_of_mem _ (List.mem_cons_of_mem _ (List.mem_map_of_mem hu))
    apply (failsWith_foldSentence k.sentence (List.mem_cons_of_mem _ List.mem_cons_self) hterm).bind
    intro s _
    exact failsWith_atNode (failsWith_task _ s) List.mem_cons_self

end NarseseDialects.Meaning
