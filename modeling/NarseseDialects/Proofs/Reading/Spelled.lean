import NarseseDialects.Proofs.Reading.EmptyTruth
import NarseseDialects.Proofs.Reading.Numerals
import NarseseDialects.Proofs.Reading.Placement

namespace NarseseDialects.Reading

open Lexical Outcome

variable {d : Dialect} {stop : Nat}

def identifiers (d : Dialect) (_ : AtomRole) (m : Text) : Bool := m.all d.isIdentifier

lemma identifiers_nameSpan (role : AtomRole) (cs : Text) : identifiers d role (nameSpan d cs).1 = true :=
  List.all_eq_true.2 fun _ => isIdentifier_of_mem_nameSpan

mutual

lemma spelled_of_readsTerm {cs rest : Text} {t : Lexical.Term} (h : ReadsTerm d stop cs t rest) :
    t.Spelled d (identifiers d) := by
  cases h with
  | set hs _ _ hm =>
    obtain ⟨s, hl, hr, -⟩ := exists_pair_of_left? hs
    exact ⟨⟨s, hl, hr⟩, spelledAll_of_readsMembers hm⟩
  | compound _ _ hf _ _ hm =>
    obtain ⟨k, rfl⟩ := Vocabulary.mem_lexicon.1 (Lexicon.mem_of_front? hf).1
    exact ⟨⟨k, rfl⟩, spelledAll_of_readsMembers hm⟩
  | statement _ _ _ h₁ hf h₂ _ =>
    obtain ⟨k, rfl⟩ := Vocabulary.mem_lexicon.1 (Lexicon.mem_of_front? hf).1
    exact ⟨⟨k, rfl⟩, spelled_of_readsTerm h₁, spelled_of_readsTerm h₂⟩
  | @atom _ _ r _ _ _ hf hn =>
    obtain ⟨role, rfl⟩ := Vocabulary.mem_lexicon.1 (Lexicon.mem_of_front? hf).1
    exact ⟨role, rfl, identifiers_nameSpan role r, fun he => d.sigils.literal_injective (hn he)⟩

lemma spelledAll_of_readsMembers {right cs rest : Text} {ts : List Lexical.Term}
    (h : ReadsMembers d stop right cs ts rest) : ts ≠ [] ∧ Term.SpelledAll d (identifiers d) ts := by
  cases h with
  | last ht => exact ⟨List.cons_ne_nil _ _, spelled_of_readsTerm ht, trivial⟩
  | more ht _ hm => exact ⟨List.cons_ne_nil _ _, spelled_of_readsTerm ht, (spelledAll_of_readsMembers hm).2⟩

end

lemma spelled_of_readsClause {inner : Text} {c : Clause} (h : ReadsClause d inner stop c) :
    c.sentence.Spelled d (identifiers d) := by
  cases h with
  | intro hr _ hw =>
    obtain ⟨rest, ht, -⟩ := hw
    obtain ⟨region, content, b, -, hp, ho, hs, hj, -⟩ := exists_of_readTail hr
    obtain ⟨p, hpunct⟩ := Vocabulary.mem_lexicon.1 (Lexicon.mem_of_back? hp).1
    obtain ⟨htruth, hlen⟩ := spelled_of_judgeNumerals hj
    refine ⟨spelled_of_readsTerm ht, ⟨p, hpunct.symm⟩, ?_, htruth, hlen⟩
    rw [Clause.sentence, hs]
    exact spelledStamp_of_stampBack ho

lemma spelled_node {region whole : Text} {start : Nat} {p : Parse} (h : ReadsRegion d region whole start p) :
    Node.Spelled d (identifiers d) (node p) := by
  cases h with
  | term _ _ hw =>
    obtain ⟨rest, ht, -⟩ := hw
    exact spelled_of_readsTerm ht
  | sentence _ hc => exact spelled_of_readsClause hc
  | task hh hc =>
    obtain ⟨content, -, hj⟩ := exists_of_readHead hh
    obtain ⟨hbudget, hlen⟩ := spelled_of_judgeNumerals hj
    exact ⟨spelled_of_readsClause hc, hbudget, hlen⟩

lemma spelled_of_readLexical {text : Text} {n : Node} (h : readLexical d text = .ok n) :
    Node.Spelled d (identifiers d) n := by
  obtain ⟨p, hp, rfl⟩ := exists_readsText_of_readLexical h
  exact (spelled_node hp.2).relocate _

end NarseseDialects.Reading
