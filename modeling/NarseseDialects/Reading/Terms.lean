import NarseseDialects.Dialect.Basic
import NarseseDialects.Item
import NarseseDialects.Reading.Fault

namespace NarseseDialects.Reading

structure Head where
  budget : List Text
  place : Nat

structure Tail where
  punctuation : Text
  punctuationPlace : Nat
  stamp : Text
  truth : List Text
  truthPlace : Nat

/-- What a reading makes of each construct. One reading of the grammar serves every maker; a place is the number
of characters before the construct. -/
structure Maker (ε τ σ κ : Type) where
  fault : Fault → Nat → ε
  atom : (sigil name : Text) → Nat → Except ε τ
  compound : (connector : Text) → List τ → Nat → Except ε τ
  set : (left : Text) → List τ → (right : Text) → Nat → Except ε τ
  statement : (copula : Text) → τ → τ → Nat → Except ε τ
  sentence : τ → Tail → Nat → Except ε σ
  task : Head → σ → Except ε κ

abbrev Rest (cs : Text) := { r : Text // r.length < cs.length }

/-- The text after a literal that is not empty. -/
def opening? : Text → Text → Option Text
  | [], _ => none
  | p :: ps, cs => Text.after? (p :: ps) cs

theorem length_lt_of_opening? {p cs r : Text} (h : opening? p cs = some r) :
    r.length < cs.length := by
  cases p with
  | nil => cases h
  | cons c p =>
    have := Text.length_of_after? (p := c :: p) h
    simp only [List.length_cons] at this
    omega

variable (d : Dialect)

def skip (cs : Text) : Text := cs.dropWhile d.spacing.isSpace

def skipBack (cs : Text) : Text := Text.dropBack d.spacing.isSpace cs

theorem length_skip_le (cs : Text) : (skip d cs).length ≤ cs.length :=
  (List.dropWhile_sublist _).length_le

/-- The name at the front of a text: it ends before the first character that no name may have, and
before the first place where a terminator begins. -/
def nameSpan : Text → Text × Text
  | [] => ([], [])
  | c :: cs =>
    if d.isIdentifier c && !d.terminators.startsWithAny (c :: cs) then
      ((c :: (nameSpan cs).1), (nameSpan cs).2)
    else ([], c :: cs)

theorem nameSpan_append (cs : Text) : (nameSpan d cs).1 ++ (nameSpan d cs).2 = cs := by
  induction cs with
  | nil => rfl
  | cons c cs ih =>
    unfold nameSpan
    split
    · simp [ih]
    · rfl

def unclosedFault (right cs : Text) : Fault :=
  if cs.isEmpty then .unclosed right
  else if (d.sets.family.right? cs).isSome || (opening? d.compound.right cs).isSome ||
      (opening? d.statement.right cs).isSome then .mismatched right
  else .separatorExpected d.separator right

variable {ε τ σ κ : Type} (m : Maker ε τ σ κ) (stop : Nat)

def place (cs : Text) : Nat := stop - cs.length

theorem length_atom_rest {d : Dialect} {cs sigil r : Text}
    (h : d.sigils.lexicon.front? cs = some (sigil, r))
    (hn : ¬((nameSpan d r).1.isEmpty = true ∧ sigil ≠ d.sigils.literal .placeholder)) :
    (nameSpan d r).2.length < cs.length := by
  have hc := (Lexicon.mem_of_front? h).2
  have hr := congrArg List.length (nameSpan_append d r)
  have hl := congrArg List.length hc
  rw [List.length_append] at hr hl
  by_cases he : (nameSpan d r).1.isEmpty = true
  · have hs : sigil = d.sigils.literal .placeholder := by
      by_cases hs : sigil = d.sigils.literal .placeholder
      · exact hs
      · exact absurd ⟨he, hs⟩ hn
    have := List.length_pos_iff.2 (hs ▸ d.placeholder_sigil_ne_nil)
    omega
  · have : 0 < (nameSpan d r).1.length := List.length_pos_iff.2 (by simpa using he)
    omega

def readAtom (cs : Text) : Except ε (τ × Rest cs) :=
  match hs : d.sigils.lexicon.front? cs with
  | none => .error (m.fault .unknownSigil (place stop cs))
  | some (sigil, r) =>
    if hn : (nameSpan d r).1.isEmpty = true ∧ sigil ≠ d.sigils.literal .placeholder then
      if sigil.isEmpty then .error (m.fault .termExpected (place stop cs))
      else .error (m.fault (.nameExpected sigil) (place stop r))
    else do
      let t ← m.atom sigil (nameSpan d r).1 (place stop cs)
      return (t, ⟨(nameSpan d r).2, length_atom_rest hs hn⟩)

mutual

def readTerm (cs : Text) : Except ε (τ × Rest cs) :=
  have hcs := length_skip_le d cs
  if (skip d cs).isEmpty then .error (m.fault .termExpected (place stop (skip d cs)))
  else
    match hs : d.sets.family.left? (skip d cs) with
    | some (left, right, r) =>
      if (opening? right (skip d r)).isSome then
        .error (m.fault (.emptyGroup .set) (place stop (skip d r)))
      -- A bracket without a character would open the next set at its own place.
      else if hlt : (skip d r).length < (skip d cs).length then do
        let (ts, ⟨rest, hrest⟩) ← readMembers right (skip d r)
        let t ← m.set left ts right (place stop (skip d cs))
        return (t, ⟨rest, by omega⟩)
      else .error (m.fault (.endlessSet left) (place stop (skip d cs)))
    | none =>
      match hc : opening? d.compound.left (skip d cs) with
      | some r => do
        have hr := length_lt_of_opening? hc
        let (t, ⟨rest, hrest⟩) ← readCompound (place stop (skip d cs)) r
        return (t, ⟨rest, by omega⟩)
      | none =>
        match ho : opening? d.statement.left (skip d cs) with
        | some r => do
          have hr := length_lt_of_opening? ho
          let (t, ⟨rest, hrest⟩) ← readStatement (place stop (skip d cs)) r
          return (t, ⟨rest, by omega⟩)
        | none => do
          let (t, ⟨rest, hrest⟩) ← readAtom d m stop (skip d cs)
          return (t, ⟨rest, by omega⟩)
termination_by 2 * cs.length

def readMembers (right cs : Text) : Except ε (List τ × Rest cs) := do
  let (t, ⟨r, hr⟩) ← readTerm cs
  have hr' := length_skip_le d r
  match hs : opening? d.separator (skip d r) with
  | some next =>
    have hn := length_lt_of_opening? hs
    let (ts, ⟨rest, hrest⟩) ← readMembers right next
    return (t :: ts, ⟨rest, by omega⟩)
  | none =>
    match he : opening? right (skip d r) with
    | some rest =>
      have hrest := length_lt_of_opening? he
      return ([t], ⟨rest, by omega⟩)
    | none => .error (m.fault (unclosedFault d right (skip d r)) (place stop (skip d r)))
termination_by 2 * cs.length + 1

def readCompound (start : Nat) (cs : Text) : Except ε (τ × Rest cs) :=
  have hcs := length_skip_le d cs
  match hc : d.connectors.lexicon.front? (skip d cs) with
  | none => .error (m.fault .connectorExpected (place stop (skip d cs)))
  | some (connector, r) =>
    have hr := Lexicon.length_le_of_front? hc
    have hr' := length_skip_le d r
    match hs : opening? d.separator (skip d r) with
    | none =>
      .error (m.fault (.separatorAfterConnector d.separator connector) (place stop (skip d r)))
    | some next =>
      have hn := length_lt_of_opening? hs
      have hn' := length_skip_le d next
      if (opening? d.compound.right (skip d next)).isSome then
        .error (m.fault (.emptyGroup .compound) (place stop (skip d next)))
      else do
        let (ts, ⟨rest, hrest⟩) ← readMembers d.compound.right (skip d next)
        let t ← m.compound connector ts start
        return (t, ⟨rest, by omega⟩)
termination_by 2 * cs.length + 1

def readStatement (start : Nat) (cs : Text) : Except ε (τ × Rest cs) := do
  let (subject, ⟨r, hr⟩) ← readTerm cs
  have hr' := length_skip_le d r
  match hc : d.copulas.lexicon.front? (skip d r) with
  | none => .error (m.fault .copulaExpected (place stop (skip d r)))
  | some (copula, next) =>
    have hn := Lexicon.length_le_of_front? hc
    let (predicate, ⟨q, hq⟩) ← readTerm next
    have hq' := length_skip_le d q
    match he : opening? d.statement.right (skip d q) with
    | none => .error (m.fault (unclosedFault d d.statement.right (skip d q)) (place stop (skip d q)))
    | some rest =>
      have hrest := length_lt_of_opening? he
      let t ← m.statement copula subject predicate start
      return (t, ⟨rest, by omega⟩)
termination_by 2 * cs.length + 1

end

def readWhole (cs : Text) : Except ε τ := do
  let (t, ⟨r, _⟩) ← readTerm d m stop cs
  let r' := skip d r
  if r'.isEmpty then return t
  else if d.punctuations.lexicon.startsWithAny r' then
    .error (m.fault .misplacedPunctuation (place stop r'))
  else .error (m.fault .textAfterTerm (place stop r'))

end NarseseDialects.Reading
