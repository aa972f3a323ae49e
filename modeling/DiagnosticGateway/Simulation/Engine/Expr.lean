import DiagnosticGateway.Simulation.Engine.HexSet

/-!
# Expressions and what they match

An expression matches a stretch of a text, given by the positions where it starts and ends.
The function `ends` computes, for a list of starting positions, where the matches end; every
operation on positions is bounded by the length of the text. The text is hexadecimal, so every
character is a word character and there are no lines but one.

This is a part of the engine of the benches, outside of what is proved.
-/

namespace DiagnosticGateway.Simulation.Engine

/-- A condition on a position. -/
inductive Look where
  | textStart
  | textEnd
  | wordBoundary
  | notWordBoundary
  /-- A word starts here. -/
  | wordStart
  /-- A word ends here. -/
  | wordEnd
  /-- What stands before is no part of a word. -/
  | wordStartHalf
  /-- What stands after is no part of a word. -/
  | wordEndHalf
  deriving DecidableEq, Repr

/-- Whether a condition holds at a position of a text of word characters. -/
def Look.holds (length position : Nat) : Look → Bool
  | textStart => position == 0
  | textEnd => position == length
  | wordBoundary => length != 0 && (position == 0 || position == length)
  | notWordBoundary => !(length != 0 && (position == 0 || position == length))
  | wordStart => length != 0 && position == 0
  | wordEnd => length != 0 && position == length
  | wordStartHalf => position == 0
  | wordEndHalf => position == length

/-- An expression. -/
inductive Expr where
  /-- The empty stretch. -/
  | empty
  /-- One character of a set. -/
  | one (set : HexSet)
  /-- The empty stretch at a position with a condition. -/
  | look (condition : Look)
  /-- One expression after the other. -/
  | seq (first second : Expr)
  /-- One of two expressions. -/
  | alt (first second : Expr)
  /-- An expression at least `least` times and, if there is a bound, at most `most` times. -/
  | repeated (body : Expr) (least : Nat) (most : Option Nat)
  deriving DecidableEq, Repr

/-- Expressions in a row. -/
def Expr.seqAll : List Expr → Expr
  | [] => .empty
  | [last] => last
  | first :: rest => .seq first (seqAll rest)

/-- One of several expressions. -/
def Expr.altAll : List Expr → Expr
  | [] => .empty
  | [last] => last
  | first :: rest => .alt first (altAll rest)

/-- Positions without repetition. -/
abbrev Positions := List Nat

/-- Positions in one of two lists. -/
def Positions.union (left right : Positions) : Positions :=
  left ++ right.filter fun position => !left.contains position

/-- Apply a step a number of times, or until nothing changes any more. -/
def times (step : Positions → Positions) : Nat → Positions → Positions
  | 0, positions => positions
  | count + 1, positions =>
    let next := step positions
    if next = positions then positions else times step count next

/-- The positions seen, and those that at most `fuel` steps reach from the frontier. -/
def spread (step : Positions → Positions) : Nat → (seen frontier : Positions) → Positions
  | 0, seen, _ => seen
  | fuel + 1, seen, frontier =>
    match (step frontier).filter fun position => !seen.contains position with
    | [] => seen
    | fresh => spread step fuel (seen ++ fresh) fresh

/-- The number of steps in which everything is reached that more steps than `least` but at most
`most` reach. There are `length + 1` positions, so one step for each is enough. -/
def spreadBound (length least : Nat) : Option Nat → Nat
  | some most => min (most - least) (length + 1)
  | none => length + 1

/-- Where the matches of an expression end that start at one of the given positions. -/
def ends (text : List Char) : Expr → Positions → Positions
  | .empty, starts => starts
  | .one set, starts =>
    (starts.filter fun position => text[position]?.any set.contains).map (· + 1)
  | .look condition, starts => starts.filter (condition.holds text.length)
  | .seq first second, starts => ends text second (ends text first starts)
  | .alt first second, starts => Positions.union (ends text first starts) (ends text second starts)
  | .repeated body least most, starts =>
    let base := times (ends text body) least starts
    spread (ends text body) (spreadBound text.length least most) base base

/-- Whether an expression matches some stretch of a text. -/
def occursIn (text : List Char) (expr : Expr) : Bool :=
  !(ends text expr (List.range (text.length + 1))).isEmpty

end DiagnosticGateway.Simulation.Engine
