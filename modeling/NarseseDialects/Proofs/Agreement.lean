import NarseseDialects.Reading.Typed
import NarseseDialects.Proofs.Meaning.Troubles
import NarseseDialects.Proofs.Reading.Lexical

namespace NarseseDialects.Reading

open Meaning Outcome

variable {d : Dialect} {stop : Nat} {α β : Type} {f : Nat → Nat}

/-- The two outcomes are one value, or one failure whose node began at the place of the obstacle. The
obstacle of a sentence lies at its tail, so nothing is said of where a sentence began. -/
inductive Agrees (f : Nat → Nat) : Except Obstacle α → Except FoldTrouble α → Prop
  | value (v : α) : Agrees f (.ok v) (.ok v)
  | failure {e : Failure} {p : Nat} {n : Lexical.Node} :
      (n.kind ≠ .sentence → Lexical.Node.spot n = some (f p)) →
      Agrees f (.error (.cause (.failure e) p)) (.error (.fault (.failure e) n))
  | digits (k : Nat) : Agrees f (.error (.tooManyDigits k)) (.error (.tooManyDigits k))

lemma Agrees.bind {x : Except Obstacle α} {y : Except FoldTrouble α} {g : α → Except Obstacle β}
    {h : α → Except FoldTrouble β} (hxy : Agrees f x y) (hgh : ∀ v, Agrees f (g v) (h v)) :
    Agrees f (x >>= g) (y >>= h) := by
  cases hxy with
  | value v => exact hgh v
  | failure hn => exact .failure hn
  | digits k => exact .digits k

lemma Agrees.map {x : Except Obstacle α} {y : Except FoldTrouble α} (h : Agrees f x y) (g : α → β) :
    Agrees f (x.map g) (y.map g) := by
  cases h with
  | value v => exact .value (g v)
  | failure hn => exact .failure hn
  | digits k => exact .digits k

lemma Agrees.bind_map {γ : Type} {x : Except Obstacle α} {y : Except FoldTrouble α}
    {g : α → Except Obstacle β} {h : α → Except FoldTrouble β} {k : β → γ} (hxy : Agrees f x y)
    (hgh : ∀ v, Agrees f (g v) (h v)) :
    Agrees f (x >>= fun v => g v >>= fun w => pure (k w)) ((y >>= h).map k) := by
  rw [show (y >>= h).map k = y >>= fun v => (h v).map k by cases y <;> rfl]
  exact hxy.bind fun v => (hgh v).map k

lemma agrees_assembled {p : Nat} {n : Lexical.Node} (r : Result α)
    (h : n.kind ≠ .sentence → Lexical.Node.spot n = some (f p)) :
    Agrees f (assembled p r) (atNode n r) := by
  rcases r with (e | k) | v
  · exact .failure h
  · exact .digits k
  · exact .value v

lemma wrongBracket_of_left? {cs left right r : Text} (h : d.sets.family.left? cs = some (left, right, r)) :
    wrongBracket d left right = false := by
  simp only [BracketFamily.left?, Option.bind_eq_bind, Option.bind_eq_some_iff, Option.pure_def,
    Option.some.injEq] at h
  obtain ⟨⟨a, b⟩, _, c, hc, he⟩ := h
  cases he
  simp [wrongBracket, hc]

mutual

lemma fold_agrees {cs rest : Text} {t : Lexical.Term} (h : ReadsTerm d stop cs t rest) :
    Agrees f ((typedMaker d).make t) (foldTerm d (t.relocate f)) := by
  cases h with
  | set hs _ _ hm =>
    rw [Maker.make, Lexical.Term.relocate, foldTerm, if_neg (by simp [wrongBracket_of_left? hs])]
    exact (foldAll_agrees hm).bind fun vs => agrees_assembled _ fun _ => rfl
  | compound _ _ _ _ _ hm =>
    rw [Maker.make, Lexical.Term.relocate, foldTerm]
    exact (foldAll_agrees hm).bind fun vs => agrees_assembled _ fun _ => rfl
  | statement _ _ _ h₁ _ h₂ =>
    rw [Maker.make, Lexical.Term.relocate, foldTerm]
    exact (fold_agrees h₁).bind fun v => (fold_agrees h₂).bind fun w => agrees_assembled _ fun _ => rfl
  | atom =>
    rw [Maker.make, Lexical.Term.relocate, foldTerm]
    exact agrees_assembled _ fun _ => rfl

lemma foldAll_agrees {right cs rest : Text} {ts : List Lexical.Term}
    (h : ReadsMembers d stop right cs ts rest) :
    Agrees f ((typedMaker d).makeAll ts) (foldTerms d (Lexical.Term.relocateAll f ts)) := by
  cases h with
  | last ht =>
    rw [Maker.makeAll, Lexical.Term.relocateAll, foldTerms]
    exact (fold_agrees ht).bind fun v => .value [v]
  | more ht _ hm =>
    rw [Maker.makeAll, Lexical.Term.relocateAll, foldTerms]
    exact (fold_agrees ht).bind fun v => (foldAll_agrees hm).bind fun vs => .value (v :: vs)

end

lemma foldClause_agrees {inner : Text} {c : Clause} (h : ReadsClause d inner stop c) :
    Agrees f ((typedMaker d).makeClause c) (foldSentence d (c.sentence.relocate f)) := by
  cases h with
  | intro _ _ hw =>
    obtain ⟨rest, ht, _⟩ := hw
    exact (fold_agrees ht).bind fun v => agrees_assembled _ fun h => absurd rfl h

lemma foldItem_agrees {cs : Text} {p : Parse} (h : ReadsText d cs p) :
    Agrees f ((typedMaker d).makeItem p) (fold d (Lexical.Node.relocate f (node p))) := by
  cases h.2 with
  | term _ _ hw =>
    obtain ⟨rest, ht, _⟩ := hw
    exact (fold_agrees ht).map Item.term
  | sentence _ hc => exact (foldClause_agrees hc).map Item.sentence
  | @task head inner c _ hc =>
    have hk : ∀ s, Agrees f ((typedMaker d).task head s)
        (atNode (.task ((⟨head.budget, c.sentence, some head.place⟩ : Lexical.Task).relocate f))
          (Meaning.task head.budget s)) := fun s => agrees_assembled _ fun _ => rfl
    exact (foldClause_agrees hc).bind_map hk

lemma kind_of_fold {n : Lexical.Node} {v : Value} (h : fold d n = .ok v) : v.kind = n.kind := by
  cases n with
  | term t =>
    obtain ⟨w, _, rfl⟩ := map_eq_ok.1 h
    rfl
  | sentence s =>
    obtain ⟨w, _, rfl⟩ := map_eq_ok.1 h
    rfl
  | task k =>
    obtain ⟨w, _, rfl⟩ := map_eq_ok.1 h
    rfl

def troubleOf (source : Source) : Obstacle → ReadTrouble
  | .cause c p => .located (source.blame c p)
  | .tooManyDigits k => .tooManyDigits k

lemma readValue_eq (text : Text) :
    readValue d text =
      (read d (typedMaker d) (Source.ofText d text).chars).mapError (troubleOf (.ofText d text)) := by
  rfl

lemma exists_agrees {text : Text} {n : Lexical.Node} (h : readLexical d text = .ok n) :
    ∃ x, readValue d text = x.mapError (troubleOf (.ofText d text)) ∧
      Agrees (Source.ofText d text).locate x (fold d n) := by
  obtain ⟨p, hp, rfl⟩ := exists_readsText_of_readLexical h
  refine ⟨(typedMaker d).makeItem p, ?_, foldItem_agrees hp⟩
  rw [readValue_eq, read_of_readsText hp]

lemma readLexical_isOk_of_readValue {text : Text} {v : Value} (h : readValue d text = .ok v) :
    ∃ n, readLexical d text = .ok n := by
  rw [readValue_eq] at h
  obtain ⟨p, hp, _⟩ := exists_readsText (mapError_eq_ok.1 h)
  exact ⟨_, readLexical_of_readsText hp⟩

lemma readValue_eq_ok_iff {text : Text} {n : Lexical.Node} (h : readLexical d text = .ok n) (v : Value) :
    readValue d text = .ok v ↔ fold d n = .ok v := by
  obtain ⟨x, hx, ha⟩ := exists_agrees h
  rw [hx, mapError_eq_ok]
  revert ha
  generalize fold d n = y
  intro ha
  cases ha <;> simp

/-- Both readings refuse a text, or they agree on it: on the value and its kind, on the message of the first
failure and its place, and on a run of digits beyond the limit. -/
theorem readValue_agrees_with_fold (d : Dialect) (text : Text) :
    (∀ e, readLexical d text = .error e → ∃ e', readValue d text = .error e') ∧
    ∀ n, readLexical d text = .ok n →
      (∀ v, readValue d text = .ok v ↔ fold d n = .ok v) ∧
      (∀ v, fold d n = .ok v → v.kind = n.kind) ∧
      (∀ e culprit, fold d n = .error (.fault e culprit) →
        ∃ l m, readValue d text = .error (.located l) ∧ e.message? = some m ∧ l.cause.message? = some m ∧
          (culprit.kind ≠ .sentence → Lexical.Node.spot culprit = some l.offset)) ∧
      (∀ k, fold d n = .error (.tooManyDigits k) → readValue d text = .error (.tooManyDigits k)) := by
  refine ⟨fun e he => ?_, fun n hn => ⟨readValue_eq_ok_iff hn, fun v => kind_of_fold, ?_, ?_⟩⟩
  · cases hv : readValue d text with
    | error e' => exact ⟨e', rfl⟩
    | ok v =>
      obtain ⟨n, hn⟩ := readLexical_isOk_of_readValue hv
      rw [hn] at he
      cases he
  · intro e culprit he
    obtain ⟨x, hx, ha⟩ := exists_agrees hn
    rw [he] at ha
    cases ha with
    | failure hs =>
      obtain ⟨hm, -⟩ := failsWith_fold n _ he
      obtain ⟨m, hm⟩ := Option.isSome_iff_exists.1 hm
      exact ⟨_, m, hx, hm, hm, hs⟩
  · intro k hk
    obtain ⟨x, hx, ha⟩ := exists_agrees hn
    rw [hk] at ha
    cases ha with
    | digits => exact hx

end NarseseDialects.Reading
