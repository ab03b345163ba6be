import NarseseDialects.Dialect.Basic
import NarseseDialects.Text.Classes

namespace NarseseDialects.Dialect.Han

def sigil : AtomRole → Text
  | .name .word => ""
  | .placeholder => "某"
  | .name .independent => "任一"
  | .name .dependent => "其一"
  | .name .query => "所问"
  | .interval => "间隔"
  | .name .operator => "操作"

def connector : Connector → Text
  | .junction (.intersection .extension) => "外交"
  | .junction (.intersection .intension) => "内交"
  | .difference .extension => "外差"
  | .difference .intension => "内差"
  | .chain .product => "积"
  | .image .extension => "外像"
  | .image .intension => "内像"
  | .junction .conjunction => "与"
  | .junction .disjunction => "或"
  | .negation => "非"
  | .chain .sequential => "接连"
  | .junction .parallel => "同时"

def copula : Copula → Text
  | .ordered .inheritance => "是"
  | .symmetric .similarity => "似"
  | .ordered .implication => "得"
  | .symmetric .equivalence => "同"
  | .shorthand .instanceOf => "为"
  | .shorthand .property => "有"
  | .shorthand .instanceProperty => "具有"
  | .ordered .implicationPredictive => "将得"
  | .ordered .implicationConcurrent => "现得"
  | .ordered .implicationRetrospective => "曾得"
  | .ordered .equivalencePredictive => "将同"
  | .symmetric .equivalenceConcurrent => "现同"
  | .shorthand .equivalenceRetrospective => "曾同"

def setBrackets : Side → Brackets
  | .extension => ⟨"『", "』"⟩
  | .intension => ⟨"【", "】"⟩

def punctuation : Punctuation → Text
  | .judgement => "。"
  | .goal => "！"
  | .question => "？"
  | .quest => "；"

def tenseMark : Tense → Text
  | .past => "过去"
  | .present => "现在"
  | .future => "将来"

def numerals : Quantity → NumeralStyle
  | .truth => ⟨⟨"真", "值"⟩, "、"⟩
  | .budget => ⟨⟨"预", "算"⟩, "、"⟩

def parts : Parts where
  name := "han"
  spacing := ⟨Text.isBlank, true, "", " "⟩
  sigils := .ofDistinct sigil (by decide)
  isIdentifier := Text.isNameChar
  compound := ⟨"（", "）"⟩
  separator := "，"
  sets := .ofDistinct setBrackets (by decide)
  connectors := .ofDistinct connector (by decide)
  statement := ⟨"「", "」"⟩
  copulas := .ofDistinct copula (by decide)
  punctuations := .ofDistinct punctuation (by decide)
  stamps :=
    { brackets := ⟨"", ""⟩, mark := tenseMark, fixedMark := "发生在", isTime := Text.isTimeChar
      tenses := .ofDistinct (fun t => "" ++ tenseMark t ++ "") (by decide)
      tenses_literal := rfl }
  numerals := numerals
  isBudgetContent := Text.isNumeralChar

end Han

def han : Dialect := ofParts Han.parts (by decide)

end NarseseDialects.Dialect
