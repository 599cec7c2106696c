import Preflight.Text.LetterCase

/-!
# Dialects of the analysed language

Source text comes in three dialects. A file name decides which one it is written in, by its
suffix alone and whatever its letter case; a declaration file holds no code and has none.

## Main definitions

* `Dialect`: plain script, typed script, typed script with markup.
* `Dialect.ofFileName?`: the dialect a file name announces.
* `Dialect.ofName?`, `Dialect.name`: the names users write.
-/

namespace Preflight.Source

/-- The dialects the grammar tells apart. Markup is part of `script` and of `typedMarkup`. -/
inductive Dialect where
  | script
  | typed
  | typedMarkup
  deriving DecidableEq, Repr, Inhabited

namespace Dialect

/-- The name of a dialect. -/
def name : Dialect → String
  | script => "javascript"
  | typed => "typescript"
  | typedMarkup => "tsx"

/-- The dialect with a given name. -/
def ofName? (s : String) : Option Dialect :=
  [script, typed, typedMarkup].find? (·.name == s)

theorem ofName?_name (d : Dialect) : ofName? d.name = some d := by cases d <;> rfl

/-- Annotations of types are part of the dialect. -/
def hasTypes : Dialect → Bool
  | script => false
  | typed | typedMarkup => true

/-- Markup elements are expressions of the dialect. -/
def hasMarkup : Dialect → Bool
  | typed => false
  | script | typedMarkup => true

/-- The suffixes that announce a dialect. -/
def suffixes : List (String × Dialect) :=
  [(".js", script), (".jsx", script), (".mjs", script), (".cjs", script),
   (".ts", typed), (".mts", typed), (".cts", typed), (".tsx", typedMarkup)]

/-- The suffix of a declaration file, which describes code and holds none. -/
def declarationSuffix : String := ".d.ts"

/-- The dialect a file name announces, in any letter case. -/
def ofFileName? (path : String) : Option Dialect :=
  let lower := Text.lowercase path
  if lower.endsWith declarationSuffix then none
  else (suffixes.find? fun (s, _) => lower.endsWith s).map (·.2)

end Dialect

end Preflight.Source
