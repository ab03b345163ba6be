import Mathlib.Tactic.Lemma
import NarseseDialects.Reading.Scan

namespace NarseseDialects.Reading

variable {ε α β : Type}

def taken {cs : Text} (x : Except ε (α × Rest cs)) : Except ε (α × Text) := x.map fun p => (p.1, p.2.1)

@[simp] lemma taken_error {cs : Text} (e : ε) : taken (.error e : Except ε (α × Rest cs)) = .error e := rfl

@[simp] lemma taken_ok {cs : Text} (a : α) (r : Rest cs) : taken (.ok (a, r) : Except ε _) = .ok (a, r.1) := rfl

lemma taken_bind {cs cs' : Text} {x : Except ε (α × Rest cs')} {f : α × Rest cs' → Except ε (β × Rest cs)}
    {g : α × Text → Except ε (β × Text)} (h : ∀ a r, taken (f (a, r)) = g (a, r.1)) :
    taken (x >>= f) = taken x >>= g := by
  cases x with
  | error e => rfl
  | ok p => exact h p.1 p.2

lemma taken_make {cs : Text} {x : Except ε α} {r : Rest cs} :
    taken (x >>= fun a => pure (a, r)) = x >>= fun a => pure (a, r.1) := by
  cases x <;> rfl

lemma length_of_taken {cs r : Text} {x : Except ε (α × Rest cs)} {a : α} (h : taken x = .ok (a, r)) :
    r.length < cs.length := by
  cases x with
  | error e => cases h
  | ok p =>
    cases h
    exact p.2.2

variable (d : Dialect) {τ σ κ : Type} (m : Maker ε τ σ κ) (stop : Nat)

lemma taken_readTerm (cs : Text) :
    taken (readTerm d m stop cs) =
      if (skip d cs).isEmpty then .error (m.fault .termExpected (place stop (skip d cs)))
      else
        match d.sets.family.left? (skip d cs) with
        | some (left, right, r) =>
          if (opening? right (skip d r)).isSome then
            .error (m.fault (.emptyGroup .set) (place stop (skip d r)))
          else if (skip d r).length < (skip d cs).length then do
            let (ts, rest) ← taken (readMembers d m stop right (skip d r))
            let t ← m.set left ts right (place stop (skip d cs))
            return (t, rest)
          else .error (m.fault (.endlessSet left) (place stop (skip d cs)))
        | none =>
          match opening? d.compound.left (skip d cs) with
          | some r => taken (readCompound d m stop (place stop (skip d cs)) r)
          | none =>
            match opening? d.statement.left (skip d cs) with
            | some r => taken (readStatement d m stop (place stop (skip d cs)) r)
            | none => taken (readAtom d m stop (skip d cs)) := by
  rw [readTerm]
  split
  · rfl
  split
  next left right r hs =>
    simp only [hs]
    split
    · rfl
    split
    · exact taken_bind fun ts rest => taken_make
    · rfl
  next hs =>
    simp only [hs]
    split
    next r hc =>
      simp only [hc]
      rw [taken_bind (g := pure) fun t rest => rfl, bind_pure]
    next hc =>
      simp only [hc]
      split
      next r ho =>
        simp only [ho]
        rw [taken_bind (g := pure) fun t rest => rfl, bind_pure]
      next ho =>
        simp only [ho]
        rw [taken_bind (g := pure) fun t rest => rfl, bind_pure]

lemma taken_readMembers (right cs : Text) :
    taken (readMembers d m stop right cs) = (do
      let (t, r) ← taken (readTerm d m stop cs)
      match opening? d.separator (skip d r) with
      | some behind => do
        let (ts, rest) ← taken (readMembers d m stop right behind)
        return (t :: ts, rest)
      | none =>
        match opening? right (skip d r) with
        | some rest => return ([t], rest)
        | none => .error (m.fault (unclosedFault d right (skip d r)) (place stop (skip d r)))) := by
  rw [readMembers]
  apply taken_bind
  intro t r
  dsimp only
  split
  next behind hs =>
    simp only [hs]
    exact taken_bind fun ts rest => rfl
  next hs =>
    simp only [hs]
    split
    next rest he =>
      simp only [he]
      rfl
    next he =>
      simp only [he]
      rfl

lemma taken_readCompound (start : Nat) (cs : Text) :
    taken (readCompound d m stop start cs) =
      match d.connectors.lexicon.front? (skip d cs) with
      | none => .error (m.fault .connectorExpected (place stop (skip d cs)))
      | some (connector, r) =>
        match opening? d.separator (skip d r) with
        | none =>
          .error (m.fault (.separatorAfterConnector d.separator connector) (place stop (skip d r)))
        | some behind =>
          if (opening? d.compound.right (skip d behind)).isSome then
            .error (m.fault (.emptyGroup .compound) (place stop (skip d behind)))
          else do
            let (ts, rest) ← taken (readMembers d m stop d.compound.right (skip d behind))
            let t ← m.compound connector ts start
            return (t, rest) := by
  rw [readCompound]
  split
  next hc =>
    simp only [hc]
    rfl
  next connector r hc =>
    simp only [hc]
    split
    next hs =>
      simp only [hs]
      rfl
    next behind hs =>
      simp only [hs]
      split
      · rfl
      · exact taken_bind fun ts rest => taken_make

lemma taken_readStatement (start : Nat) (cs : Text) :
    taken (readStatement d m stop start cs) = do
      let (subject, r) ← taken (readTerm d m stop cs)
      match d.copulas.lexicon.front? (skip d r) with
      | none => .error (m.fault .copulaExpected (place stop (skip d r)))
      | some (copula, behind) => do
        let (predicate, q) ← taken (readTerm d m stop behind)
        match opening? d.statement.right (skip d q) with
        | none =>
          .error (m.fault (unclosedFault d d.statement.right (skip d q)) (place stop (skip d q)))
        | some rest => do
          let t ← m.statement copula subject predicate start
          return (t, rest) := by
  rw [readStatement]
  apply taken_bind
  intro subject r
  dsimp only
  split
  next hc =>
    simp only [hc]
    rfl
  next copula behind hc =>
    simp only [hc]
    apply taken_bind
    intro predicate q
    dsimp only
    split
    next he =>
      simp only [he]
      rfl
    next rest he =>
      simp only [he]
      exact taken_make

lemma taken_readAtom (cs : Text) :
    taken (readAtom d m stop cs) =
      match d.sigils.lexicon.front? cs with
      | none => .error (m.fault .unknownSigil (place stop cs))
      | some (sigil, r) =>
        if (nameSpan d r).1.isEmpty = true ∧ sigil ≠ d.sigils.literal .placeholder then
          if sigil.isEmpty then .error (m.fault .termExpected (place stop cs))
          else .error (m.fault (.nameExpected sigil) (place stop r))
        else do
          let t ← m.atom sigil (nameSpan d r).1 (place stop cs)
          return (t, (nameSpan d r).2) := by
  rw [readAtom]
  split
  next hs =>
    simp only [hs]
    rfl
  next sigil r hs =>
    simp only [hs]
    split
    · split <;> rfl
    · exact taken_make

end NarseseDialects.Reading
