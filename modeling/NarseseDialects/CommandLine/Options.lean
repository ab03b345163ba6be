import NarseseDialects.Dialect.Directory
import NarseseDialects.Literal

namespace NarseseDialects.CommandLine

inductive Target where
  | dialect (name : DialectName)
  | typeset
  | outline
  deriving DecidableEq

namespace Target

def all : List Target := DialectName.all.map dialect ++ [typeset, outline]

def label : Target → Text
  | dialect n => n.label
  | typeset => "typst"
  | outline => "tree"

def ofLabel? (label : Text) : Option Target := all.find? fun t => t.label = label

end Target

inductive Flag where
  | help
  | file
  | source
  | target
  | lexical
  | kind
  | verbose
  deriving DecidableEq

namespace Flag

def all : List Flag := [help, file, source, target, lexical, kind, verbose]

def letter : Flag → Char
  | help => 'h'
  | file => 'f'
  | source => 's'
  | target => 't'
  | lexical => 'l'
  | kind => 'k'
  | verbose => 'v'

def word : Flag → Text
  | help => "help"
  | file => "file"
  | source => "source"
  | target => "target"
  | lexical => "lexical"
  | kind => "kind"
  | verbose => "verbose"

def longForm (f : Flag) : Text := "--" ++ f.word

def takesValue : Flag → Bool
  | file | source | target | kind => true
  | help | lexical | verbose => false

def ofLetter? (c : Char) : Option Flag := all.find? fun f => f.letter = c

def display (f : Flag) : Text := '-' :: f.letter :: '/' :: f.longForm

def choices : Flag → List Text
  | source => DialectName.all.map DialectName.label
  | target => Target.all.map Target.label
  | kind => [ItemKind.term, .sentence, .task].map ItemKind.label
  | _ => []

end Flag

/-- The items and what is to be done with them. A flag that stands with two hyphens for its value has
none, even where it would have one if it were not given. -/
structure Options where
  items : List Text
  file : Option Text
  source : Option DialectName
  target : Option Target
  lexical : Bool
  kind : Option ItemKind
  verbose : Bool

def Options.path? (o : Options) : Option Text := o.file.filter (!·.isEmpty)

def Options.default : Options := ⟨[], none, some .ascii, some (.dialect .ascii), false, none, false⟩

def itemKind? (label : Text) : Option ItemKind :=
  [ItemKind.term, .sentence, .task].find? fun k => k.label = label

def chosen? {α : Type} (choice : Text → Option α) (value : Text) : Option (Option α) :=
  if value = "--" then some none else (choice value).map some

def Options.set? (o : Options) (f : Flag) (value : Text) : Option Options :=
  match f with
  | .help => some o
  | .file => (chosen? some value).map fun path => { o with file := path }
  | .source => (chosen? DialectName.ofLabel? value).map fun n => { o with source := n }
  | .target => (chosen? Target.ofLabel? value).map fun t => { o with target := t }
  | .lexical => some { o with lexical := true }
  | .kind => (chosen? itemKind? value).map fun k => { o with kind := k }
  | .verbose => some { o with verbose := true }

end NarseseDialects.CommandLine
