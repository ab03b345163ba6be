import NarseseDialects.Lexical.Tree
import NarseseDialects.Reading.Marks
import NarseseDialects.Reading.Source

namespace NarseseDialects.Reading

variable (d : Dialect) {ε τ σ κ : Type} (m : Maker ε τ σ κ)

def readSentence (tail : Tail) (cs : Text) (stop : Nat) : Except ε σ :=
  let cs' := skip d cs
  if cs'.isEmpty then .error (m.fault .sentenceWithoutTerm stop)
  else do
    let t ← readWhole d m stop cs'
    m.sentence t tail (place stop cs')

def readRegion (region whole : Text) (start : Nat) : Except ε (Item τ σ κ) := do
  let stop := start + region.length
  let head ← readHead d m.fault region whole start
  let inner := (head.map Prod.snd).getD region
  match ← readTail d m.fault inner stop with
  | none => return .term (← readWhole d m stop region)
  | some (tail, before) =>
    let s ← readSentence d m tail before (stop - inner.length + before.length)
    match head with
    | none => return .sentence s
    | some (h, _) => return .task (← m.task h s)

def read (cs : Text) : Except ε (Item τ σ κ) :=
  let whole := skip d cs
  let start := cs.length - whole.length
  let region := skipBack d whole
  if region.isEmpty then .error (m.fault .nothing start) else readRegion d m region whole start

/-- Where the first construct that calls for a making stands, or the fault before it. -/
inductive BareEnd where
  | fault (fault : Located Fault)
  | unmade

def bareMaker : Maker (Option (Fault × Nat)) Unit Unit Unit where
  fault f place := some (f, place)
  atom _ _ _ := .error none
  compound _ _ _ := .error none
  set _ _ _ _ := .error none
  statement _ _ _ _ := .error none
  sentence _ _ _ := .error none
  task _ _ := .error none

def readBare (d : Dialect) (text : Text) : BareEnd :=
  let source := Source.ofText d text
  match read d bareMaker source.chars with
  | .error (some (f, place)) => .fault (source.blame f place)
  | _ => .unmade

def lexicalMaker : Maker (Fault × Nat) Lexical.Term Lexical.Sentence Lexical.Task where
  fault f place := (f, place)
  atom sigil name place := .ok (.atom sigil name (some place))
  compound connector ts place := .ok (.compound connector ts (some place))
  set left ts right place := .ok (.set left ts right (some place))
  statement copula s p place := .ok (.statement copula s p (some place))
  sentence t tail place := .ok ⟨t, tail.punctuation, tail.stamp, tail.truth, some place⟩
  task h s := .ok ⟨h.budget, s, some h.place⟩

end NarseseDialects.Reading

namespace NarseseDialects

def readLexical (d : Dialect) (text : Text) : Except (Reading.Located Reading.Fault) Lexical.Node :=
  let source := Reading.Source.ofText d text
  match Reading.read d Reading.lexicalMaker source.chars with
  | .ok node => .ok (Lexical.Node.relocate source.locate node)
  | .error (fault, place) => .error (source.blame fault place)

end NarseseDialects
