import Preflight.Source.Parse
import Preflight.Yaml.Value

/-!
# Readers of texts

Two kinds of text are read by the rules of a language: source texts, by the grammar of their
dialect, and configuration texts. What is built on readers takes them as they come: any parser will
do, and any loader. The standard readers are those of this library.

## Main definitions

* `Source.Parser`, `Yaml.Loader`: readers of source texts and of configuration texts.
* `Readers`: one of each.
-/

namespace Preflight

/-- A reader of source texts: the tree of a text in a dialect, if there is one. -/
abbrev Source.Parser := Source.Dialect → String → Option Source.Node

/-- A reader of configuration texts. It gives the value of a text, finds that the text breaks the
rules of the format, or ends in whatever a constructor of scalars ends in. -/
abbrev Yaml.Loader := String → Except Yaml.Fault Yaml.Value

/-- How texts are read. -/
structure Readers where
  parse : Source.Parser
  load : Yaml.Loader

/-- The readers of this library. -/
def Readers.standard : Readers := ⟨Source.parse?, Yaml.load⟩

instance : Inhabited Readers := ⟨.standard⟩

@[simp] theorem Readers.parse_standard : Readers.standard.parse = Source.parse? := rfl

@[simp] theorem Readers.load_standard : Readers.standard.load = Yaml.load := rfl

end Preflight
