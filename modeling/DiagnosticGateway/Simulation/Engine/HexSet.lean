/-!
# Sets of hexadecimal digits

A pattern is matched against hexadecimal text only, so of every set of characters that a
pattern names only the hexadecimal digits matter. The lowercase letters are kept beside the
uppercase ones because sets are folded to the other case before they are used. No other
character folds to one of these, so all operations on sets can be carried out on this part.

This is a part of the engine of the benches, outside of what is proved.
-/

namespace DiagnosticGateway.Simulation.Engine

/-- The hexadecimal digits in both cases. -/
def hexAlphabet : List Char :=
  ['0', '1', '2', '3', '4', '5', '6', '7', '8', '9', 'A', 'B', 'C', 'D', 'E', 'F',
    'a', 'b', 'c', 'd', 'e', 'f']

/-- A set of hexadecimal digits. -/
structure HexSet where
  /-- The members, in the order of the alphabet. -/
  members : List Char
  deriving DecidableEq, Repr

namespace HexSet

/-- The digits that satisfy a condition. -/
def ofPredicate (condition : Char → Bool) : HexSet :=
  ⟨hexAlphabet.filter condition⟩

/-- The set without members. -/
def empty : HexSet := ⟨[]⟩

/-- Whether a character is in the set. -/
def contains (set : HexSet) (char : Char) : Bool :=
  set.members.contains char

/-- The digit as a set, or the empty set if the character is no digit. -/
def singleton (char : Char) : HexSet :=
  ofPredicate (· == char)

/-- The digits between two characters. -/
def range (first last : Char) : HexSet :=
  ofPredicate fun char => first ≤ char && char ≤ last

/-- The digits in one of two sets. -/
def union (left right : HexSet) : HexSet :=
  ofPredicate fun char => left.contains char || right.contains char

/-- The digits in both of two sets. -/
def intersection (left right : HexSet) : HexSet :=
  ofPredicate fun char => left.contains char && right.contains char

/-- The digits in the first of two sets only. -/
def difference (left right : HexSet) : HexSet :=
  ofPredicate fun char => left.contains char && !right.contains char

/-- The digits in exactly one of two sets. -/
def symmetricDifference (left right : HexSet) : HexSet :=
  ofPredicate fun char => left.contains char != right.contains char

/-- The digits that are not in the set. -/
def complement (set : HexSet) : HexSet :=
  ofPredicate fun char => !set.contains char

/-- The set with the other case of each of its letters. -/
def foldCase (set : HexSet) : HexSet :=
  ofPredicate fun char => set.contains char || set.contains char.toUpper ||
    set.contains char.toLower

end HexSet

end DiagnosticGateway.Simulation.Engine
