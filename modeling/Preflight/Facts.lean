import Preflight.Source.Facts
import Preflight.TestFile
import Preflight.Graph.FileId

/-!
# Facts of a file

Everything that is known about a scanned file, gathered once: what its text says about itself,
what is known about its tests, and whether it could be read at all.

## Main definitions

* `FileFacts`: the facts of a file.
-/

namespace Preflight

open Preflight.Source

/-- Everything that is known about a scanned file. A blank file holds nothing but blanks. -/
structure FileFacts where
  path : FileId
  source : SourceFacts := {}
  coverage : TestCoverage := TestCoverage.missing
  readable : Bool := true
  blank : Bool := false
  deriving DecidableEq, Repr, Inhabited

end Preflight
