/-!
# Looking for a text in a text

## Main definitions

* `occursIn`: a text stands somewhere in another.
* `countIn`: at how many places it stands.
* `splitChar`: the parts of a text between the places where a character stands.
-/

namespace Preflight.Text

/-- A text stands somewhere in another. -/
def occursIn (needle : List Char) : List Char → Bool
  | [] => needle.isEmpty
  | c :: rest => needle.isPrefixOf (c :: rest) || occursIn needle rest

theorem occursIn_iff {needle cs : List Char} : occursIn needle cs = true ↔ needle <:+: cs := by
  induction cs with
  | nil => rw [occursIn, List.isEmpty_iff, List.infix_nil]
  | cons c rest ih =>
    rw [occursIn, Bool.or_eq_true, ih, List.isPrefixOf_iff_prefix, List.infix_cons_iff]

/-- The number of places at which a text stands in another, added to a number. -/
def countFrom (needle : List Char) (n : Nat) : List Char → Nat
  | [] => n
  | c :: rest => countFrom needle (if needle.isPrefixOf (c :: rest) then n + 1 else n) rest

/-- The number of places at which a text stands in another. -/
def countIn (needle cs : List Char) : Nat := countFrom needle 0 cs

/-- The parts of a text between the places where a character stands: one more than these. -/
def splitChar (sep : Char) (cs : List Char) : List (List Char) :=
  cs.foldr
    (fun c parts =>
      if c = sep then [] :: parts
      else match parts with
        | [] => [[c]]
        | part :: more => (c :: part) :: more)
    [[]]

@[simp] theorem splitChar_nil (sep : Char) : splitChar sep [] = [[]] := rfl

theorem splitChar_cons_self (sep : Char) (cs : List Char) :
    splitChar sep (sep :: cs) = [] :: splitChar sep cs := by
  simp [splitChar]

theorem splitChar_ne_nil (sep : Char) (cs : List Char) : splitChar sep cs ≠ [] := by
  cases cs with
  | nil => simp
  | cons c rest =>
    simp only [splitChar, List.foldr_cons]
    split
    · simp
    · split <;> simp

/-- The parts of a string between the places where a character stands. -/
def splitString (sep : Char) (s : String) : List String :=
  (splitChar sep s.toList).map String.ofList

end Preflight.Text
