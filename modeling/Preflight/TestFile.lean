import Preflight.Path
import Preflight.Listing

/-!
# Test files

A file is a test by its name or by the directory it stands in. The tests of a source file are
looked for beside it, in a `__tests__` directory beside it, and in the test directories at the
top of the project, where the directories of the source are repeated.

## Main definitions

* `isTestFile`: a path, as seen from the project, is that of a test.
* `testCandidates`: where the tests of a source file may be, in the order they are looked for.
* `countAssertions`: how many assertions a text seems to make.
* `TestCoverage`: what is known about the tests of a source file.
-/

namespace Preflight

/-- What is known about the tests of a source file. -/
structure TestCoverage where
  hasTest : Bool
  assertions : Int := 0
  testFile : Option String := none
  deriving DecidableEq, Repr, Inhabited

/-- No test was found. -/
def TestCoverage.missing : TestCoverage := { hasTest := false }

/-- The directories at the top of a project that hold tests. -/
def testDirectories : List String := ["tests", "test"]

/-- The directory beside a source file that holds its tests. -/
def testSibling : String := "__tests__"

/-- The marks a test carries inside its name. -/
def testMarks : List String := [".test.", ".spec."]

/-- The directories that hold sources, and that a test directory leaves out. -/
def sourceDirectories : List String := ["src", "lib", "app"]

/-- A name carries the mark of a test. -/
def hasTestMark (name : String) : Bool :=
  testMarks.any fun mark => Text.occursIn mark.toList name.toList

/-- A path, as seen from the project, is that of a test. -/
def isTestFile (p : Path) : Bool :=
  hasTestMark p.name || p.segments.dropLast.contains testSibling ||
    (!p.isAbsolute && p.segments.dropLast.head?.any testDirectories.contains)

/-! ### Where tests may be -/

/-- The places beside a source file. -/
def candidatesBeside (source : Path) : List Path :=
  let directory := source.parent
  let base := source.stem
  let ext := source.suffix
  [directory.child (base ++ ".test" ++ ext), directory.child (base ++ ".spec" ++ ext),
    (directory.child testSibling).child (base ++ ext),
    (directory.child testSibling).child (base ++ ".test" ++ ext),
    (directory.child testSibling).child (base ++ ".spec" ++ ext)] ++
  ([".ts", ".js"].filter (· ≠ ext)).flatMap fun other =>
    [directory.child (base ++ ".test" ++ other), directory.child (base ++ ".spec" ++ other)]

/-- The places in a test directory, for the directory of a source file as seen from the
project. -/
def candidatesBelow (testRoot : Path) (directory : Option Path) (name : String) : List Path :=
  testRoot.child name ::
    match directory.map Path.segments with
    | none | some [] => []
    | some (top :: below) =>
      ((testRoot.join ⟨.here, top :: below⟩).child name) ::
        if sourceDirectories.contains top && !below.isEmpty then
          [(testRoot.join ⟨.here, below⟩).child name]
        else []

/-- Where the tests of a source file may be, in the order they are looked for. -/
def testCandidates (source root : Path) : List Path :=
  let directory := source.parent.relativeTo? root
  let name := source.stem ++ ".test" ++ source.suffix
  let all := candidatesBeside source ++
    testDirectories.flatMap fun top => candidatesBelow (root.child top) directory name
  distinct (all.filter (· ≠ source))

/-! ### Assertions -/

/-- The texts that announce an assertion. -/
def assertionMarks : List String := ["expect(", "assert.", ".toBe(", ".toEqual("]

/-- How many assertions a text seems to make. -/
def countAssertions (cs : List Char) : Nat :=
  (assertionMarks.map fun mark => Text.countIn mark.toList cs).foldr (· + ·) 0

end Preflight
