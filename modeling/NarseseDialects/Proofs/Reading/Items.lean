import NarseseDialects.Reading.Scan
import NarseseDialects.Proofs.Reading.Grammar

namespace NarseseDialects.Reading

open Outcome

variable {d : Dialect} {ε τ σ κ : Type} {m : Maker ε τ σ κ} {stop : Nat}

lemma judgeNumerals_mapError (fault : Fault → Nat → ε) (q : Quantity) (content : Text) (p : Nat) :
    judgeNumerals d fault q content p =
      (judgeNumerals d Prod.mk q content p).mapError fun f => fault f.1 f.2 := by
  unfold judgeNumerals
  split
  · rfl
  dsimp only
  split
  · rfl
  split <;> rfl

lemma readHead_mapError (fault : Fault → Nat → ε) (region whole : Text) (p : Nat) :
    readHead d fault region whole p =
      (readHead d Prod.mk region whole p).mapError fun f => fault f.1 f.2 := by
  unfold readHead
  dsimp only
  split
  · rfl
  split
  · rfl
  rw [judgeNumerals_mapError]
  cases judgeNumerals d Prod.mk .budget _ p <;> rfl

lemma readTail_mapError (fault : Fault → Nat → ε) (region : Text) :
    readTail d fault region stop =
      (readTail d Prod.mk region stop).mapError fun f => fault f.1 f.2 := by
  unfold readTail
  dsimp only
  split
  · rfl
  split
  · rfl
  rw [judgeNumerals_mapError]
  cases judgeNumerals d Prod.mk .truth _ _ <;> rfl

inductive TruthCut (d : Dialect) (inner : Text) (stop : Nat) : Text → Text → Nat → Prop
  | absent : bracketedBack? d .truth inner = none → TruthCut d inner stop inner [] stop
  | present {a content} : bracketedBack? d .truth inner = some (a, content) →
      TruthCut d inner stop (skipBack d a) content (stop - inner.length + a.length)

lemma exists_readTail_eq (d : Dialect) (fault : Fault → Nat → ε) (inner : Text) (stop : Nat) :
    ∃ region content p, TruthCut d inner stop region content p ∧
      readTail d fault inner stop =
        match d.punctuations.lexicon.back? (skipBack d (stampBack d region).before) with
        | none => .ok none
        | some (before, punctuation) =>
          match (stampBack d region).oddTime with
          | some time => .error (fault .fractionalTime (stop - inner.length + region.length - time.length))
          | none =>
            (judgeNumerals d fault .truth content p).map fun truth =>
              some (⟨punctuation, stop - inner.length + before.length, (stampBack d region).stamp, truth, p⟩,
                skipBack d before) := by
  rw [readTail]
  cases hb : bracketedBack? d .truth inner with
  | none => exact ⟨_, _, _, .absent hb, rfl⟩
  | some ac => exact ⟨_, _, _, .present hb, rfl⟩

def ReadsWhole (d : Dialect) (stop : Nat) (cs : Text) (t : Lexical.Term) : Prop :=
  ∃ rest, ReadsTerm d stop cs t rest ∧ skip d rest = []

lemma readWhole_eq (cs : Text) :
    readWhole d m stop cs = (do
      let (v, r) ← taken (readTerm d m stop cs)
      if (skip d r).isEmpty then return v
      else if d.punctuations.lexicon.startsWithAny (skip d r) then
        .error (m.fault .misplacedPunctuation (place stop (skip d r)))
      else .error (m.fault .textAfterTerm (place stop (skip d r)))) := by
  rw [readWhole]
  cases readTerm d m stop cs <;> rfl

lemma readWhole_of_readsWhole {cs : Text} {t : Lexical.Term} (h : ReadsWhole d stop cs t) :
    readWhole d m stop cs = m.make t := by
  obtain ⟨rest, ht, hr⟩ := h
  rw [readWhole_eq, taken_of_readsTerm ht]
  cases m.make t with
  | error e => rfl
  | ok v =>
    simp only [Except.map, ok_bind, hr]
    rfl

lemma exists_readsWhole {cs : Text} {v : τ} (h : readWhole d m stop cs = .ok v) :
    ∃ t, ReadsWhole d stop cs t ∧ m.make t = .ok v := by
  rw [readWhole_eq] at h
  obtain ⟨⟨w, r⟩, hr, h⟩ := bind_eq_ok.1 h
  dsimp only at h
  split at h
  next he =>
    cases h
    obtain ⟨t, ht, hw⟩ := exists_readsTerm hr
    exact ⟨t, ⟨r, ht, List.isEmpty_iff.1 he⟩, hw⟩
  · split at h <;> cases h

structure Clause where
  term : Lexical.Term
  tail : Tail
  place : Nat

abbrev Parse := Item Lexical.Term Clause (Head × Clause)

inductive ReadsClause (d : Dialect) (inner : Text) (stop : Nat) : Clause → Prop
  | intro {tail before t} :
      readTail d Prod.mk inner stop = .ok (some (tail, before)) →
      skip d before ≠ [] →
      ReadsWhole d (stop - inner.length + before.length) (skip d before) t →
      ReadsClause d inner stop
        ⟨t, tail, place (stop - inner.length + before.length) (skip d before)⟩

inductive ReadsRegion (d : Dialect) (region whole : Text) (start : Nat) : Parse → Prop
  | term {head t} :
      readHead d Prod.mk region whole start = .ok head →
      readTail d Prod.mk ((head.map Prod.snd).getD region) (start + region.length) = .ok none →
      ReadsWhole d (start + region.length) region t →
      ReadsRegion d region whole start (.term t)
  | sentence {c} :
      readHead d Prod.mk region whole start = .ok none →
      ReadsClause d region (start + region.length) c →
      ReadsRegion d region whole start (.sentence c)
  | task {h inner c} :
      readHead d Prod.mk region whole start = .ok (some (h, inner)) →
      ReadsClause d inner (start + region.length) c →
      ReadsRegion d region whole start (.task (h, c))

def ReadsText (d : Dialect) (cs : Text) (p : Parse) : Prop :=
  skipBack d (skip d cs) ≠ [] ∧
    ReadsRegion d (skipBack d (skip d cs)) (skip d cs) (cs.length - (skip d cs).length) p

namespace Maker

variable (m : Maker ε τ σ κ)

def makeClause (c : Clause) : Except ε σ := do
  let v ← m.make c.term
  m.sentence v c.tail c.place

def makeItem : Parse → Except ε (Item τ σ κ)
  | .term t => (m.make t).map .term
  | .sentence c => (m.makeClause c).map .sentence
  | .task (h, c) => do
    let s ← m.makeClause c
    return .task (← m.task h s)

end Maker

lemma readSentence_of_readsClause {inner : Text} {c : Clause} (h : ReadsClause d inner stop c) :
    ∃ before, readTail d Prod.mk inner stop = .ok (some (c.tail, before)) ∧
      readSentence d m c.tail before (stop - inner.length + before.length) = m.makeClause c := by
  cases h with
  | @intro tail before t ht hn hw =>
    refine ⟨before, ht, ?_⟩
    rw [readSentence]
    dsimp only
    rw [if_neg (by simpa using hn), readWhole_of_readsWhole hw]
    rfl

lemma readRegion_of_readsRegion {region whole : Text} {start : Nat} {p : Parse}
    (h : ReadsRegion d region whole start p) : readRegion d m region whole start = m.makeItem p := by
  rw [readRegion]
  dsimp only
  rw [readHead_mapError]
  cases h with
  | term hh ht hw =>
    rw [hh]
    simp only [mapError_ok, ok_bind]
    rw [readTail_mapError, ht]
    simp only [mapError_ok, ok_bind]
    rw [readWhole_of_readsWhole hw, Maker.makeItem]
    cases m.make _ <;> rfl
  | sentence hh hc =>
    obtain ⟨before, ht, hs⟩ := readSentence_of_readsClause (m := m) hc
    rw [hh]
    simp only [mapError_ok, ok_bind, Option.map_none, Option.getD_none]
    rw [readTail_mapError, ht]
    simp only [mapError_ok, ok_bind]
    rw [hs, Maker.makeItem]
    cases m.makeClause _ <;> rfl
  | task hh hc =>
    obtain ⟨before, ht, hs⟩ := readSentence_of_readsClause (m := m) hc
    rw [hh]
    simp only [mapError_ok, ok_bind, Option.map_some, Option.getD_some]
    rw [readTail_mapError, ht]
    simp only [mapError_ok, ok_bind]
    rw [hs, Maker.makeItem]

lemma read_of_readsText {cs : Text} {p : Parse} (h : ReadsText d cs p) :
    read d m cs = m.makeItem p := by
  unfold read
  dsimp only
  rw [if_neg (by simpa using h.1), readRegion_of_readsRegion h.2]

lemma exists_readsClause {inner before : Text} {tail : Tail} {s : σ}
    (ht : readTail d Prod.mk inner stop = .ok (some (tail, before)))
    (h : readSentence d m tail before (stop - inner.length + before.length) = .ok s) :
    ∃ c, ReadsClause d inner stop c ∧ m.makeClause c = .ok s := by
  unfold readSentence at h
  dsimp only at h
  split at h
  · cases h
  next hn =>
  obtain ⟨v, hv, hs⟩ := bind_eq_ok.1 h
  obtain ⟨t, hw, hm⟩ := exists_readsWhole hv
  refine ⟨_, .intro ht (by simpa using hn) hw, ?_⟩
  simpa [Maker.makeClause, hm] using hs

lemma exists_readsRegion {region whole : Text} {start : Nat} {v : Item τ σ κ}
    (h : readRegion d m region whole start = .ok v) :
    ∃ p, ReadsRegion d region whole start p ∧ m.makeItem p = .ok v := by
  rw [readRegion] at h
  obtain ⟨head, hh, h⟩ := bind_eq_ok.1 h
  rw [readHead_mapError] at hh
  replace hh := mapError_eq_ok.1 hh
  obtain ⟨back, ht, h⟩ := bind_eq_ok.1 h
  rw [readTail_mapError] at ht
  replace ht := mapError_eq_ok.1 ht
  split at h
  · obtain ⟨w, hw, h⟩ := bind_eq_ok.1 h
    cases h
    obtain ⟨t, ht', hm⟩ := exists_readsWhole hw
    exact ⟨.term t, .term hh ht ht', by simp [Maker.makeItem, hm, Except.map]⟩
  next tail before =>
  obtain ⟨s, hs, h⟩ := bind_eq_ok.1 h
  obtain ⟨c, hc, hm⟩ := exists_readsClause ht hs
  rcases head with _ | ⟨head, inner⟩
  · cases h
    exact ⟨.sentence c, .sentence hh hc, by simp [Maker.makeItem, hm, Except.map]⟩
  · refine ⟨.task (head, c), .task hh hc, ?_⟩
    simpa [Maker.makeItem, hm] using h

lemma exists_readsText {cs : Text} {v : Item τ σ κ} (h : read d m cs = .ok v) :
    ∃ p, ReadsText d cs p ∧ m.makeItem p = .ok v := by
  unfold read at h
  dsimp only at h
  split at h
  · cases h
  next hn =>
  obtain ⟨p, hp, hm⟩ := exists_readsRegion h
  exact ⟨p, ⟨by simpa using hn, hp⟩, hm⟩

end NarseseDialects.Reading
