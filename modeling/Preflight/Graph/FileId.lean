/-!
# File ids

A file of a project is known by its path from the top of the project, as text. The suffixes of
script files matter to the import graph: an import may leave them out.

## Main definitions

* `FileId`: the path of a file from the top of its project.
* `graphExtensions`: the suffixes of script files, in the order an import tries them.
* `FileId.stem`: an id without its suffix.
-/

namespace Preflight

/-- The path of a file from the top of its project. -/
abbrev FileId := String

/-- The suffixes of script files, in the order in which an import tries them. -/
def graphExtensions : List String :=
  [".ts", ".tsx", ".js", ".jsx", ".mjs", ".cjs", ".mts", ".cts"]

/-- The suffixes an id loses in its stem. No one of them ends in another. -/
def stemSuffixes : List String :=
  [".tsx", ".jsx", ".mts", ".cts", ".mjs", ".cjs", ".ts", ".js"]

/-- A text without a number of characters at its end. -/
def dropEnd (s : String) (n : Nat) : String := String.ofList (s.toList.take (s.length - n))

/-- An id without its suffix. -/
def FileId.stem (id : FileId) : String :=
  match stemSuffixes.find? fun suffix => suffix.toList.isSuffixOf id.toList with
  | some suffix => dropEnd id suffix.length
  | none => id

end Preflight
