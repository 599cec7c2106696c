import Preflight.Graph.FileId
import Preflight.Path

/-!
# Resolving an import

A specifier that starts with a dot names a file as seen from the importing one. It may name the
file in full, name what the file is compiled to, leave its suffix out, or name a directory that
holds an index file; these are tried in turn.

## Main definitions

* `importTarget?`: the path a specifier names, from the top of the project.
* `targetCandidates`: the ids a path may stand for, in the order in which they are tried.
* `resolveSpecifier?`: the file a specifier names.
-/

namespace Preflight

/-- What a source file is called once it is compiled, and the suffixes of its source. -/
def compiledSuffixes : List (String × List String) :=
  [(".js", [".ts", ".tsx"]), (".jsx", [".tsx"]), (".mjs", [".mts"]), (".cjs", [".cts"])]

/-- The path a specifier names, from the top of the project; none for a package, and none for a
path outside the project. -/
def importTarget? (spec : String) (importer : FileId) : Option String :=
  if spec.startsWith "." then
    let named := ((Path.ofString importer).parent.join (Path.ofString spec)).normalize.text
    let target := String.ofList (named.toList.map fun c => if c = '\\' then '/' else c)
    if target.startsWith "../" || target = ".." then none else some target
  else none

/-- The ids a path may stand for, in the order in which they are tried. -/
def targetCandidates (target : String) : List FileId :=
  let suffix := (Path.ofString target).suffix
  let named :=
    if suffix = "" then []
    else
      target :: ((compiledSuffixes.lookup suffix).getD []).map fun other =>
        dropEnd target suffix.length ++ other
  named ++ graphExtensions.map (fun ext => target ++ ext) ++
    graphExtensions.map fun ext => target ++ "/index" ++ ext

/-- The file a specifier names, among the files of a project. -/
def resolveSpecifier? (spec : String) (importer : FileId) (files : List FileId) : Option FileId :=
  (importTarget? spec importer).bind fun target =>
    (targetCandidates target).find? files.contains

theorem resolveSpecifier?_mem {spec : String} {importer id : FileId} {files : List FileId}
    (h : resolveSpecifier? spec importer files = some id) : id ∈ files := by
  simp only [resolveSpecifier?, Option.bind_eq_some_iff] at h
  obtain ⟨_, -, h⟩ := h
  have := List.find?_some h
  simpa using this

end Preflight
