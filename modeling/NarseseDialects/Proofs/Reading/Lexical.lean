import NarseseDialects.Proofs.Reading.Items

namespace NarseseDialects.Reading

open Outcome

variable {d : Dialect} {stop : Nat}

mutual

lemma make_lexicalMaker {cs rest : Text} {t : Lexical.Term} (h : ReadsTerm d stop cs t rest) :
    lexicalMaker.make t = .ok t := by
  cases h with
  | set _ _ _ hm => rw [Maker.make, makeAll_lexicalMaker hm]; rfl
  | compound _ _ _ _ _ hm => rw [Maker.make, makeAll_lexicalMaker hm]; rfl
  | statement _ _ _ h₁ _ h₂ => rw [Maker.make, make_lexicalMaker h₁, make_lexicalMaker h₂]; rfl
  | atom => rfl

lemma makeAll_lexicalMaker {right cs rest : Text} {ts : List Lexical.Term}
    (h : ReadsMembers d stop right cs ts rest) : lexicalMaker.makeAll ts = .ok ts := by
  cases h with
  | last ht => rw [Maker.makeAll, make_lexicalMaker ht]; rfl
  | more ht _ hm => rw [Maker.makeAll, make_lexicalMaker ht, makeAll_lexicalMaker hm]; rfl

end

def Clause.sentence (c : Clause) : Lexical.Sentence :=
  ⟨c.term, c.tail.punctuation, c.tail.stamp, c.tail.truth, some c.place⟩

def node : Parse → Lexical.Node :=
  Item.map id Clause.sentence fun p => ⟨p.1.budget, p.2.sentence, some p.1.place⟩

lemma makeClause_lexicalMaker {inner : Text} {c : Clause} (h : ReadsClause d inner stop c) :
    lexicalMaker.makeClause c = .ok c.sentence := by
  cases h with
  | intro _ _ hw =>
    obtain ⟨rest, ht, _⟩ := hw
    rw [Maker.makeClause, make_lexicalMaker ht]
    rfl

lemma makeItem_lexicalMaker {cs : Text} {p : Parse} (h : ReadsText d cs p) :
    lexicalMaker.makeItem p = .ok (node p) := by
  cases h.2 with
  | term _ _ hw =>
    obtain ⟨rest, ht, _⟩ := hw
    rw [Maker.makeItem, make_lexicalMaker ht]
    rfl
  | sentence _ hc => rw [Maker.makeItem, makeClause_lexicalMaker hc]; rfl
  | task _ hc => rw [Maker.makeItem, makeClause_lexicalMaker hc]; rfl

lemma readLexical_of_readsText {text : Text} {p : Parse} (h : ReadsText d (Source.ofText d text).chars p) :
    readLexical d text = .ok (Lexical.Node.relocate (Source.ofText d text).locate (node p)) := by
  unfold readLexical
  dsimp only
  rw [read_of_readsText h, makeItem_lexicalMaker h]

lemma exists_readsText_of_readLexical {text : Text} {n : Lexical.Node} (h : readLexical d text = .ok n) :
    ∃ p, ReadsText d (Source.ofText d text).chars p ∧
      n = Lexical.Node.relocate (Source.ofText d text).locate (node p) := by
  unfold readLexical at h
  dsimp only at h
  split at h
  next r hr =>
    obtain ⟨p, hp, hm⟩ := exists_readsText hr
    rw [makeItem_lexicalMaker hp] at hm
    cases hm
    cases h
    exact ⟨p, hp, rfl⟩
  · cases h

end NarseseDialects.Reading
