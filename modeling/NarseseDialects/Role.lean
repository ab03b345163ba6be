import NarseseDialects.Text.Basic

namespace NarseseDialects

inductive Side where
  | extension
  | intension
  deriving DecidableEq

inductive NameKind where
  | word
  | independent
  | dependent
  | query
  | operator
  deriving DecidableEq

inductive AtomRole where
  | name (kind : NameKind)
  | placeholder
  | interval
  deriving DecidableEq

inductive Junction where
  | intersection (side : Side)
  | conjunction
  | disjunction
  | parallel
  deriving DecidableEq

inductive Chain where
  | product
  | sequential
  deriving DecidableEq

inductive Connector where
  | junction (kind : Junction)
  | chain (kind : Chain)
  | difference (side : Side)
  | image (side : Side)
  | negation
  deriving DecidableEq

inductive OrderedCopula where
  | inheritance
  | implication
  | implicationPredictive
  | implicationConcurrent
  | implicationRetrospective
  | equivalencePredictive
  deriving DecidableEq

inductive SymmetricCopula where
  | similarity
  | equivalence
  | equivalenceConcurrent
  deriving DecidableEq

inductive Shorthand where
  | instanceOf
  | property
  | instanceProperty
  | equivalenceRetrospective
  deriving DecidableEq

inductive Copula where
  | ordered (kind : OrderedCopula)
  | symmetric (kind : SymmetricCopula)
  | shorthand (kind : Shorthand)
  deriving DecidableEq

inductive Punctuation where
  | judgement
  | goal
  | question
  | quest
  deriving DecidableEq

inductive Tense where
  | past
  | present
  | future
  deriving DecidableEq

class Role (ρ : Type) where
  members : List ρ
  label : ρ → Text
  mem_members : ∀ r, r ∈ members

def Side.label : Side → Text
  | .extension => "extension"
  | .intension => "intension"

instance : Role Side where
  members := [.extension, .intension]
  label s := "set_" ++ s.label
  mem_members r := by cases r <;> decide

instance : Role AtomRole where
  members := [.name .word, .placeholder, .name .independent, .name .dependent, .name .query,
    .interval, .name .operator]
  label
    | .name .word => "word"
    | .placeholder => "placeholder"
    | .name .independent => "variable_independent"
    | .name .dependent => "variable_dependent"
    | .name .query => "variable_query"
    | .interval => "interval"
    | .name .operator => "operator"
  mem_members r := by rcases r with k | _ | _ <;> (try cases k) <;> decide

instance : Role Connector where
  members := [.junction (.intersection .extension), .junction (.intersection .intension),
    .difference .extension, .difference .intension, .chain .product, .image .extension,
    .image .intension, .junction .conjunction, .junction .disjunction, .negation,
    .chain .sequential, .junction .parallel]
  label
    | .junction (.intersection s) => "intersection_" ++ s.label
    | .junction .conjunction => "conjunction"
    | .junction .disjunction => "disjunction"
    | .junction .parallel => "conjunction_parallel"
    | .chain .product => "product"
    | .chain .sequential => "conjunction_sequential"
    | .difference s => "difference_" ++ s.label
    | .image s => "image_" ++ s.label
    | .negation => "negation"
  mem_members r := by
    rcases r with (s | _ | _ | _) | k | s | s | _ <;> (try cases s) <;> (try cases k) <;> decide

instance : Role Copula where
  members := [.ordered .inheritance, .symmetric .similarity, .ordered .implication,
    .symmetric .equivalence, .shorthand .instanceOf, .shorthand .property,
    .shorthand .instanceProperty, .ordered .implicationPredictive,
    .ordered .implicationConcurrent, .ordered .implicationRetrospective,
    .ordered .equivalencePredictive, .symmetric .equivalenceConcurrent,
    .shorthand .equivalenceRetrospective]
  label
    | .ordered .inheritance => "inheritance"
    | .ordered .implication => "implication"
    | .ordered .implicationPredictive => "implication_predictive"
    | .ordered .implicationConcurrent => "implication_concurrent"
    | .ordered .implicationRetrospective => "implication_retrospective"
    | .ordered .equivalencePredictive => "equivalence_predictive"
    | .symmetric .similarity => "similarity"
    | .symmetric .equivalence => "equivalence"
    | .symmetric .equivalenceConcurrent => "equivalence_concurrent"
    | .shorthand .instanceOf => "instance"
    | .shorthand .property => "property"
    | .shorthand .instanceProperty => "instance_property"
    | .shorthand .equivalenceRetrospective => "equivalence_retrospective"
  mem_members r := by rcases r with k | k | k <;> cases k <;> decide

instance : Role Punctuation where
  members := [.judgement, .goal, .question, .quest]
  label
    | .judgement => "judgement"
    | .goal => "goal"
    | .question => "question"
    | .quest => "quest"
  mem_members r := by cases r <;> decide

instance : Role Tense where
  members := [.past, .present, .future]
  label
    | .past => "past"
    | .present => "present"
    | .future => "future"
  mem_members r := by cases r <;> decide

def Role.ofLabel? {ρ : Type} [Role ρ] (label : Text) : Option ρ :=
  Role.members.find? fun r => Role.label r = label

end NarseseDialects
