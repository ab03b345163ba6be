import NarseseDialects.Dialect.Basic

namespace NarseseDialects.Reading

structure Source where
  given : Text
  chars : Text
  /-- Where each character that is read stands in the text as given; none if nothing is left out. -/
  origins : Option (Array Nat)

namespace Source

def kept (isSpace : Char → Bool) (text : Text) : List (Char × Nat) :=
  text.zipIdx.filter fun p => !isSpace p.1

def ofText (d : Dialect) (text : Text) : Source :=
  if d.spacing.strip then
    let k := kept d.spacing.isSpace text
    ⟨text, k.map Prod.fst, some (k.map Prod.snd).toArray⟩
  else ⟨text, text, none⟩

/-- The index in the text as given. What lies behind all characters read lies one past the last. -/
def locate (s : Source) (place : Nat) : Nat :=
  match s.origins with
  | none => place
  | some o => (o[place]?).getD ((o.back?.map (· + 1)).getD 0)

def context (s : Source) (offset : Nat) : Text :=
  (s.given.take (offset + 5)).drop (offset - 4)

end Source

structure Located (α : Type) where
  cause : α
  offset : Nat
  context : Text

def Located.describe {α : Type} (l : Located α) (message : Text) : Text :=
  message ++ " @ " ++ Text.ofNat l.offset ++ " in " ++ Text.quoted l.context

def Source.blame {α : Type} (s : Source) (cause : α) (place : Nat) : Located α :=
  ⟨cause, s.locate place, s.context (s.locate place)⟩

end NarseseDialects.Reading
