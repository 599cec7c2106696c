import Preflight.Risk.Profile

/-!
# Briefings

The advice on one file, as fragments in a fixed order: whom a change affects, which of these have
no tests, what to read first, which state is shared, which types are missing, and whether to
write tests first.

## Main definitions

* `plural`, `nameList`: numbers with their words, and shortened lists of names.
* `briefingFragments`, `fileBriefing`: the advice on a file.
-/

namespace Preflight

/-- A number and a word, with an ending for every number but one. -/
def plural (count : Int) (word ending : String) : String :=
  toString count ++ " " ++ word ++ if count = 1 then "" else ending

/-- The members of a list before a place, counted from its end where negative. -/
def takeUpTo {α : Type} (xs : List α) (limit : Int) : List α :=
  xs.take (if limit < 0 then ((xs.length : Int) + limit).toNat else limit.toNat)

/-- The first names of a list, and how many more there are. -/
def nameList (names : List String) (limit : Int) : String :=
  let shown := ", ".intercalate (takeUpTo names limit)
  let hidden := (names.length : Int) - limit
  if 0 < hidden then shown ++ " +" ++ toString hidden ++ " more" else shown

/-- The number of names shown in a shortened list. -/
def namedImporters : Int := 3

/-- A file with more importers than this needs tests before it is changed. -/
def testFirstFanIn : Nat := 5

/-- A file with at least this many assertions in its tests needs no more before it is changed. -/
def testFirstAssertions : Int := 5

/-- The advice on a file nothing speaks against. -/
def safeToEdit : String := "safe to edit."

/-- The advice on a file that imports itself. -/
def selfImportAdvice : String := "remove the self-import before touching this file"

/-- The names of variables, one after another. -/
def mutationNames (ms : List Source.GlobalMutation) : String :=
  ", ".intercalate (ms.map (·.name))

/-- The fragments of advice that apply to a file. -/
def briefingFragments (p : RiskProfile) : List String :=
  let incoming := p.incomingDeps.length
  (if incoming = 0 then [] else ["editing this affects " ++ plural incoming "file" "s" ++ "."]) ++
  (if p.downstreamUntested.isEmpty then []
   else ["untested importers: " ++ nameList p.downstreamUntested namedImporters ++
     ". changes may break silently."]) ++
  (match p.circularDeps with
   | first :: _ => ["read " ++ first ++ " before touching this file."]
   | [] => if p.inCycle then [selfImportAdvice ++ "."] else []) ++
  (if p.globalMutations.isEmpty then []
   else ["avoid " ++ mutationNames p.globalMutations ++ ": shared state."]) ++
  (if p.missingReturnTypes = 0 then []
   else [plural p.missingReturnTypes "function" "s" ++
     (if p.missingReturnTypes = 1 then " lacks" else " lack") ++
     " return types: type errors may be unpredictable."]) ++
  (if testFirstFanIn < incoming && p.coverage.assertions < testFirstAssertions then
     ["write tests before editing."] else [])

/-- The advice on a file. -/
def fileBriefing (p : RiskProfile) : String :=
  let fragments := briefingFragments p
  if fragments.isEmpty then safeToEdit else " ".intercalate fragments

end Preflight
