import NarseseDialects.Dialect.Basic
import NarseseDialects.Text.Classes

namespace NarseseDialects.Dialect.Latex

def sigil : AtomRole → Text
  | .name .word => ""
  | .placeholder => "\\diamond\x7b\x7d"
  | .name .independent => "\\$"
  | .name .dependent => "\\#"
  | .name .query => "?"
  | .interval => "+"
  | .name .operator => "\\Uparrow\x7b\x7d"

def connector : Connector → Text
  | .junction (.intersection .extension) => "\\cap\x7b\x7d"
  | .junction (.intersection .intension) => "\\cup\x7b\x7d"
  | .difference .extension => "\\minus\x7b\x7d"
  | .difference .intension => "\\sim\x7b\x7d"
  | .chain .product => "\\times\x7b\x7d"
  | .image .extension => "/"
  | .image .intension => "\\backslash\x7b\x7d"
  | .junction .conjunction => "\\wedge\x7b\x7d"
  | .junction .disjunction => "\\vee\x7b\x7d"
  | .negation => "\\neg\x7b\x7d"
  | .chain .sequential => ","
  | .junction .parallel => ";"

def copula : Copula → Text
  | .ordered .inheritance => "\\rightarrow\x7b\x7d"
  | .symmetric .similarity => "\\leftrightarrow\x7b\x7d"
  | .ordered .implication => "\\Rightarrow\x7b\x7d"
  | .symmetric .equivalence => "\\Leftrightarrow\x7b\x7d"
  | .shorthand .instanceOf => "\\circ\\!\\!\\!\\rightarrow\x7b\x7d"
  | .shorthand .property => "\\rightarrow\\!\\!\\!\\circ\x7b\x7d"
  | .shorthand .instanceProperty => "\\circ\\!\\!\\!\\rightarrow\\!\\!\\!\\circ\x7b\x7d"
  | .ordered .implicationPredictive => "/\\!\\!\\!\\!\\!\\Rightarrow\x7b\x7d"
  | .ordered .implicationConcurrent => "|\\!\\!\\!\\!\\!\\Rightarrow\x7b\x7d"
  | .ordered .implicationRetrospective => "\\backslash\\!\\!\\!\\!\\!\\Rightarrow\x7b\x7d"
  | .ordered .equivalencePredictive => "/\\!\\!\\!\\Leftrightarrow\x7b\x7d"
  | .symmetric .equivalenceConcurrent => "|\\!\\!\\!\\Leftrightarrow\x7b\x7d"
  | .shorthand .equivalenceRetrospective => "\\backslash\\!\\!\\!\\Leftrightarrow\x7b\x7d"

def setBrackets : Side → Brackets
  | .extension => ⟨"\\left\\\x7b", "\\right\\\x7d"⟩
  | .intension => ⟨"\\left[", "\\right]"⟩

def punctuation : Punctuation → Text
  | .judgement => "."
  | .goal => "!"
  | .question => "?"
  | .quest => "¿"

def tenseMark : Tense → Text
  | .past => "\\backslash\\!\\!\\!\\!\\!\\Rightarrow\x7b\x7d"
  | .present => "|\\!\\!\\!\\!\\!\\Rightarrow\x7b\x7d"
  | .future => "/\\!\\!\\!\\!\\!\\Rightarrow\x7b\x7d"

def numerals : Quantity → NumeralStyle
  | .truth => ⟨⟨"\\langle\x7b\x7d", "\\rangle\x7b\x7d"⟩, ","⟩
  | .budget => ⟨⟨"\\$", "\\$"⟩, ";"⟩

def partsWith (strip : Bool) : Parts where
  name := "latex"
  spacing := ⟨Text.isBlank, strip, " ", " "⟩
  sigils := .ofDistinct sigil (by decide)
  isIdentifier := Text.isNameChar
  compound := ⟨"\\left(", "\\right)"⟩
  separator := "\\;"
  sets := .ofDistinct setBrackets (by decide)
  connectors := .ofDistinct connector (by decide)
  statement := ⟨"\\left<", "\\right>"⟩
  copulas := .ofDistinct copula (by decide)
  punctuations := .ofDistinct punctuation (by decide)
  stamps :=
    { brackets := ⟨"", ""⟩, mark := tenseMark, fixedMark := "t=", isTime := Text.isTimeChar
      tenses := .ofDistinct (fun t => "" ++ tenseMark t ++ "") (by decide)
      tenses_literal := rfl }
  numerals := numerals
  isBudgetContent := Text.isNumeralChar

end Latex

def latex : Dialect := ofParts (Latex.partsWith true) (by decide)

def latexSpaced : Dialect := ofParts (Latex.partsWith false) (by decide)

end NarseseDialects.Dialect
