import NarseseDialects.Dialect.Basic
import NarseseDialects.Text.Classes

namespace NarseseDialects.Dialect.Ascii

def sigil : AtomRole → Text
  | .name .word => ""
  | .placeholder => "_"
  | .name .independent => "$"
  | .name .dependent => "#"
  | .name .query => "?"
  | .interval => "+"
  | .name .operator => "^"

def connector : Connector → Text
  | .junction (.intersection .extension) => "&"
  | .junction (.intersection .intension) => "|"
  | .difference .extension => "-"
  | .difference .intension => "~"
  | .chain .product => "*"
  | .image .extension => "/"
  | .image .intension => "\\"
  | .junction .conjunction => "&&"
  | .junction .disjunction => "||"
  | .negation => "--"
  | .chain .sequential => "&/"
  | .junction .parallel => "&|"

def copula : Copula → Text
  | .ordered .inheritance => "-->"
  | .symmetric .similarity => "<->"
  | .ordered .implication => "==>"
  | .symmetric .equivalence => "<=>"
  | .shorthand .instanceOf => "\x7b--"
  | .shorthand .property => "--]"
  | .shorthand .instanceProperty => "\x7b-]"
  | .ordered .implicationPredictive => "=/>"
  | .ordered .implicationConcurrent => "=|>"
  | .ordered .implicationRetrospective => "=\\>"
  | .ordered .equivalencePredictive => "</>"
  | .symmetric .equivalenceConcurrent => "<|>"
  | .shorthand .equivalenceRetrospective => "<\\>"

def setBrackets : Side → Brackets
  | .extension => ⟨"\x7b", "\x7d"⟩
  | .intension => ⟨"[", "]"⟩

def punctuation : Punctuation → Text
  | .judgement => "."
  | .goal => "!"
  | .question => "?"
  | .quest => "@"

def tenseMark : Tense → Text
  | .past => "\\"
  | .present => "|"
  | .future => "/"

def numerals : Quantity → NumeralStyle
  | .truth => ⟨⟨"%", "%"⟩, ";"⟩
  | .budget => ⟨⟨"$", "$"⟩, ";"⟩

def parts : Parts where
  name := "ascii"
  spacing := ⟨Text.isBlank, true, " ", " "⟩
  sigils := .ofDistinct sigil (by decide)
  isIdentifier := Text.isNameChar
  compound := ⟨"(", ")"⟩
  separator := ","
  sets := .ofDistinct setBrackets (by decide)
  connectors := .ofDistinct connector (by decide)
  statement := ⟨"<", ">"⟩
  copulas := .ofDistinct copula (by decide)
  punctuations := .ofDistinct punctuation (by decide)
  stamps :=
    { brackets := ⟨":", ":"⟩, mark := tenseMark, fixedMark := "!", isTime := Text.isTimeChar
      tenses := .ofDistinct (fun t => ":" ++ tenseMark t ++ ":") (by decide)
      tenses_literal := rfl }
  numerals := numerals
  isBudgetContent := Text.isNumeralChar

end Ascii

def ascii : Dialect := ofParts Ascii.parts (by decide)

end NarseseDialects.Dialect
