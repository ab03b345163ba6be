import NarseseDialects.Role
import NarseseDialects.Text.Cut

namespace NarseseDialects

inductive Category where
  | atom
  | compound
  | statement
  deriving DecidableEq

inductive Capacity where
  | atom
  | unary
  | binaryVector
  | binarySet
  | vector
  | set
  deriving DecidableEq

namespace Category

def label : Category → Text
  | atom => "atom"
  | compound => "compound"
  | statement => "statement"

end Category

namespace Capacity

def label : Capacity → Text
  | atom => "atom"
  | unary => "unary"
  | binaryVector => "binary_vec"
  | binarySet => "binary_set"
  | vector => "vec"
  | set => "set"

def baseNumber : Capacity → Nat
  | atom | unary => 1
  | binaryVector | binarySet => 2
  | vector | set => 3

def isBinary (c : Capacity) : Bool := c = binaryVector || c = binarySet

def isMulti (c : Capacity) : Bool := c = vector || c = set

def isUnordered (c : Capacity) : Bool := c = binarySet || c = set

end Capacity

inductive CollectionKind where
  | set (side : Side)
  | junction (kind : Junction)
  deriving DecidableEq

inductive Kind where
  | name (kind : NameKind)
  | placeholder
  | interval
  | collection (kind : CollectionKind)
  | chain (kind : Chain)
  | difference (side : Side)
  | negation
  | image (side : Side)
  | ordered (copula : OrderedCopula)
  | symmetric (copula : SymmetricCopula)
  deriving DecidableEq

namespace Kind

def ofAtomRole : AtomRole → Kind
  | .name k => name k
  | .placeholder => placeholder
  | .interval => interval

def ofConnector : Connector → Kind
  | .junction j => collection (.junction j)
  | .chain c => chain c
  | .difference s => difference s
  | .image s => image s
  | .negation => negation

def category : Kind → Category
  | name _ | placeholder | interval => .atom
  | collection _ | chain _ | difference _ | negation | image _ => .compound
  | ordered _ | symmetric _ => .statement

def capacity : Kind → Capacity
  | name _ | placeholder | interval => .atom
  | collection _ => .set
  | chain _ | image _ => .vector
  | difference _ | ordered _ => .binaryVector
  | negation => .unary
  | symmetric _ => .binarySet

def roleLabel : Kind → Text
  | name k => Role.label (AtomRole.name k)
  | placeholder => Role.label AtomRole.placeholder
  | interval => Role.label AtomRole.interval
  | collection (.set s) => Role.label s
  | collection (.junction j) => Role.label (Connector.junction j)
  | chain c => Role.label (Connector.chain c)
  | difference s => Role.label (Connector.difference s)
  | negation => Role.label Connector.negation
  | image s => Role.label (Connector.image s)
  | ordered c => Role.label (Copula.ordered c)
  | symmetric c => Role.label (Copula.symmetric c)

def capitalised (label : Text) : Text :=
  (Text.split "_" label).flatMap fun
    | [] => []
    | c :: cs => c.toUpper :: cs

def display (k : Kind) : Text := capitalised k.roleLabel

def all : List Kind :=
  (Role.members : List AtomRole).map ofAtomRole ++
    (Role.members : List Side).map (fun s => collection (.set s)) ++
    (Role.members : List Connector).map ofConnector ++
    (Role.members : List Copula).filterMap fun
      | .ordered c => some (ordered c)
      | .symmetric c => some (symmetric c)
      | .shorthand _ => none

def ofDisplay? (name : Text) : Option Kind := all.find? fun k => k.display = name

end Kind

end NarseseDialects
