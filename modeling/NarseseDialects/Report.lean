import NarseseDialects.Literal
import NarseseDialects.Meaning.Fold

namespace NarseseDialects

/-- Whoever finds the lines of a text and draws them. Reports are made for any illustrator. -/
structure Illustrator where
  /-- The row of an offset, from one on, and the column within the row. -/
  find : Text → Nat → Nat × Nat
  line : Text → Nat → Text
  /-- A line behind a margin, and so many of its characters from a column on, pointed at with a caption. -/
  draw (line : Text) (column width : Nat) (margin caption : Text) : Text

structure Annotation where
  text : Text
  offset : Nat
  width : Nat
  caption : Text

namespace Annotation

def margin (row : Nat) : Text := Text.padLeft 6 (' ' :: Text.ofNat row) ++ " |"

def picture (p : Illustrator) (a : Annotation) : Text :=
  let (row, column) := p.find a.text a.offset
  p.draw (p.line a.text row) column a.width (margin row) a.caption

end Annotation

structure Issue where
  intro : Text
  annotations : List Annotation
  footer : List Text

namespace Issue

def text (p : Illustrator) (i : Issue) : Text :=
  Text.join "\n" (i.intro :: [] :: (i.annotations.map fun a => a.picture p) ++ i.footer)

def unreadable (text message : Text) (offset : Nat) (label : Text) : Issue :=
  ⟨"Could not read " ++ label ++ " as Narsese.", [⟨text, offset, 1, message⟩], []⟩

def meaningless (text message : Text) (spot : Option Nat) (label : Text) : Issue :=
  ⟨"In " ++ label ++ ": " ++ message,
    (spot.map fun s =>
      ⟨text, s, 1, "This part has no meaning in the source notation."⟩).toList, []⟩

def ofWrongKind (text message label : Text) : Issue :=
  ⟨"In " ++ label ++ ": " ++ message, [⟨text, 0, (Text.dropBack Text.isBlank text).length, []⟩], []⟩

end Issue

structure Report where
  verbose : Bool
  limit : Nat
  issues : List Issue

namespace Report

def start (verbose : Bool) (limit : Nat) : Report := ⟨verbose, limit, []⟩

def isSick (r : Report) : Bool := !r.issues.isEmpty

def file (r : Report) (i : Issue) : Report := { r with issues := r.issues ++ [i] }

def isFull (r : Report) : Bool := r.issues.length == r.limit

def remark (r : Report) (words : List Text) : Text :=
  if r.verbose then Text.join " " words ++ "\n" else []

def openings : List Text := ["Hmm.", "Alas.", "Oops.", "Uh-oh.", ""]

def complaints : List Text :=
  ["Not every line made sense.", "Some of this would not parse.", "The brackets and I disagree.",
    "A copula went missing somewhere.", "That was not Narsese as I know it."]

def chosen (choices : List Text) (n : Nat) : Text := (choices[n % choices.length]?).getD []

def lament (opening complaint : Nat) : Text :=
  Text.join " " ([chosen openings opening, chosen complaints complaint].filter (!·.isEmpty))

def paragraph (p : Illustrator) (i : Issue) : Text := "\n" ++ i.text p ++ "\n"

def complain (p : Illustrator) (r : Report) (opening complaint : Nat) : Text :=
  if r.issues.isEmpty then []
  else
    lament opening complaint ++ " (" ++ Text.counted r.issues.length "issue" "issues" ++ ")\n" ++
      r.issues.flatMap (paragraph p)

end Report

end NarseseDialects
