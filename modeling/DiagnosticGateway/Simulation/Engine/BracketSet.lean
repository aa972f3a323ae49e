import DiagnosticGateway.Simulation.Engine.Escape
import DiagnosticGateway.Simulation.Engine.Flags

/-!
# Sets in brackets

A set in brackets is a list of characters, ranges, named sets and further sets in brackets.
Lists can be joined by `&&`, `--` and `~~`, which mean intersection, difference and symmetric
difference and are carried out from left to right. A caret at the start makes a set that of
all other characters.

Where characters are bytes, a set must not reach beyond ASCII: the text is UTF-8 and a match
must not cut a character apart. Since a set that is named by ASCII characters never holds all
bytes, its complement always reaches beyond.

This is a part of the engine of the benches, outside of what is proved.
-/

namespace DiagnosticGateway.Simulation.Engine

/-- A set with how deeply it is nested, which limits the pattern that holds it. -/
structure SetPart where
  set : HexSet
  depth : Nat
  deriving DecidableEq, Repr

/-- The set of an escape of one letter. -/
def ShortSet.part (short : ShortSet) (negated : Bool) : SetPart :=
  match short, negated with
  | .digit, false => ⟨HexPart.digits.set, 0⟩
  | .digit, true => ⟨HexPart.digits.set.complement, 0⟩
  | .space, false => ⟨.empty, 0⟩
  | .space, true => ⟨HexSet.empty.complement, 0⟩
  | .word, false => ⟨HexPart.everything.set, 0⟩
  | .word, true => ⟨.empty, 0⟩

/-- The set of an escape of one letter where characters are bytes. -/
def ShortSet.bytePart? (short : ShortSet) (negated : Bool) : Option SetPart :=
  if negated then none else some (short.part false)

/-- Fold a set to both cases if the flags say so. -/
def Flags.fold (flags : Flags) (set : HexSet) : HexSet :=
  if flags.foldCase then set.foldCase else set

/-- The complement of a set, if it is allowed. -/
def Flags.complement? (flags : Flags) (part : SetPart) : Option SetPart :=
  if flags.unicode then some { part with set := part.set.complement } else none

/-- Fold a set and take its complement if it is negated. -/
def Flags.foldAndNegate? (flags : Flags) (negated : Bool) (part : SetPart) : Option SetPart :=
  let folded := { part with set := flags.fold part.set }
  if negated then flags.complement? folded else some folded

/-- The set that a property names. -/
def propertySet? (flags : Flags) (part : Option HexPart) (negated : Bool) : Option SetPart :=
  if flags.unicode then
    part.bind fun part => flags.foldAndNegate? negated ⟨part.set, 0⟩
  else none

/-- Whether a character can stand in a set, and whether it is ASCII. Where characters are bytes
only ASCII can, and a character given by two digits only if it is a byte below 128. -/
def Flags.allowsInSet (flags : Flags) (char : Char) : Bool :=
  flags.unicode || char.toNat < 0x80

/-- The set of the characters between two. -/
def rangePart (first last : Char) : SetPart :=
  ⟨.range first last, 0⟩

/-- The sets of ASCII characters that have a name. -/
def asciiSet? (name : List Char) : Option HexSet :=
  match String.ofList name with
  | "alnum" => some HexPart.everything.set
  | "alpha" => some HexPart.letters.set
  | "ascii" => some HexPart.everything.set
  | "blank" => some .empty
  | "cntrl" => some .empty
  | "digit" => some HexPart.digits.set
  | "graph" => some HexPart.everything.set
  | "lower" => some HexPart.lowercase.set
  | "print" => some HexPart.everything.set
  | "punct" => some .empty
  | "space" => some .empty
  | "upper" => some HexPart.uppercase.set
  | "word" => some HexPart.everything.set
  | "xdigit" => some HexPart.everything.set
  | _ => none

/-- Read the name of a set of ASCII characters after its first bracket, as in `[:alpha:]`. -/
def readAsciiSet (chars : List Char) : Option (Bool × HexSet × List Char) :=
  match chars with
  | ':' :: rest =>
    let (negated, rest) :=
      match rest with
      | '^' :: rest => (true, rest)
      | _ => (false, rest)
    let name := rest.takeWhile (· != ':')
    match rest.dropWhile (· != ':') with
    | ':' :: ']' :: rest => (asciiSet? name).map fun set => (negated, set, rest)
    | _ => none
  | _ => none

/-- How two lists of a set are joined. -/
inductive SetJoin where
  | intersection
  | difference
  | symmetricDifference
  deriving DecidableEq, Repr

/-- The join of two sets. -/
def SetJoin.join : SetJoin → HexSet → HexSet → HexSet
  | intersection => .intersection
  | difference => .difference
  | symmetricDifference => .symmetricDifference

/-- A set that is being read. -/
structure OpenSet where
  negated : Bool
  /-- What stands before the last join. -/
  before : Option (SetPart × SetJoin)
  /-- The items of the list that is being read, last first. -/
  items : List SetPart
  deriving DecidableEq, Repr

/-- The set of a list of items. -/
def itemsPart (items : List SetPart) : SetPart :=
  let deepest := items.foldl (fun depth item => max depth item.depth) 0
  { set := items.foldl (fun set item => set.union item.set) .empty
    depth := if items.length < 2 then deepest else deepest + 1 }

/-- Carry out the join before the list that has been read. -/
def OpenSet.joined (flags : Flags) (openSet : OpenSet) : SetPart :=
  let last := itemsPart openSet.items
  match openSet.before with
  | none => last
  | some (first, join) =>
    { set := join.join (flags.fold first.set) (flags.fold last.set)
      depth := max first.depth last.depth + 1 }

/-- Go on to the next list. -/
def OpenSet.push (flags : Flags) (join : SetJoin) (openSet : OpenSet) : OpenSet :=
  { openSet with before := some (openSet.joined flags, join), items := [] }

/-- The set that is complete. -/
def OpenSet.close? (flags : Flags) (openSet : OpenSet) : Option SetPart :=
  let inner := openSet.joined flags
  flags.foldAndNegate? openSet.negated { inner with depth := inner.depth + 1 }

/-- Add an item. -/
def OpenSet.addItem (item : SetPart) (openSet : OpenSet) : OpenSet :=
  { openSet with items := item :: openSet.items }

/-- Hyphens at the start of a set stand for themselves. -/
def readLeadingHyphens (extended : Bool) : (fuel : Nat) → List Char → Nat × List Char
  | 0, chars => (0, chars)
  | fuel + 1, chars =>
    match chars with
    | '-' :: rest =>
      let (count, rest) := readLeadingHyphens extended fuel (skip extended rest)
      (count + 1, rest)
    | other => (0, other)

/-- Read the start of a set after its bracket. Hyphens, or else a closing bracket, that come
first stand for themselves. -/
def readSetStart (flags : Flags) (chars : List Char) : Option (OpenSet × List Char) := do
  let chars := skip flags.extended chars
  let (negated, chars) :=
    match chars with
    | '^' :: rest => (true, skip flags.extended rest)
    | _ => (false, chars)
  let (hyphens, chars) := readLeadingHyphens flags.extended chars.length chars
  let items := List.replicate hyphens (rangePart '-' '-')
  match chars with
  | [] => none
  | first :: rest =>
    if hyphens == 0 && first == ']' then
      match skip flags.extended rest with
      | [] => none
      | rest => some (⟨negated, none, [rangePart ']' ']']⟩, rest)
    else
      some (⟨negated, none, items⟩, first :: rest)

/-- Read a character or escape in a set. -/
def readSetPrimitive (extended : Bool) : List Char → Option (Primitive × List Char)
  | [] => none
  | '\\' :: rest => readEscape extended rest
  | char :: rest => some (.char char false, rest)

/-- The set of a primitive, if it can stand in a set. -/
def primitiveItem? (flags : Flags) : Primitive → Option SetPart
  | .char char _ => if flags.allowsInSet char then some (rangePart char char) else none
  | .short short negated =>
    if flags.unicode then some (short.part negated) else short.bytePart? negated
  | .property part negated => propertySet? flags part negated
  | .dot => none
  | .look _ => none

/-- Whether a hyphen joins two characters to a range: it does not before a bracket or hyphen. -/
def startsRange (extended : Bool) : List Char → Bool
  | '-' :: rest =>
    match (skip extended rest).head? with
    | some ']' => false
    | some '-' => false
    | _ => true
  | _ => false

/-- Read a character, an escape or a range. -/
def readSetItem (flags : Flags) (chars : List Char) : Option (SetPart × List Char) := do
  let (first, rest) ← readSetPrimitive flags.extended chars
  match skip flags.extended rest with
  | [] => none
  | rest =>
    if startsRange flags.extended rest then
      let (last, rest) ← readSetPrimitive flags.extended (skip flags.extended rest.tail)
      match first, last with
      | .char first _, .char last _ =>
        if first ≤ last && flags.allowsInSet first && flags.allowsInSet last then
          some (rangePart first last, rest)
        else none
      | _, _ => none
    else
      some (← primitiveItem? flags first, rest)

/-- What one step of reading a set gives: sets that are still open, innermost first, or the
complete set. -/
inductive SetStep where
  | more (openSets : List OpenSet) (rest : List Char)
  | done (part : SetPart) (rest : List Char)

/-- Begin a set within the open ones. -/
def openInner (flags : Flags) (openSets : List OpenSet) (chars : List Char) : Option SetStep := do
  let (inner, rest) ← readSetStart flags chars
  some (.more (inner :: openSets) rest)

/-- Complete the innermost open set. -/
def closeInner (flags : Flags) (current : OpenSet) (outer : List OpenSet) (rest : List Char) :
    Option SetStep := do
  let part ← current.close? flags
  match outer with
  | [] => some (.done part rest)
  | next :: others => some (.more (next.addItem part :: others) rest)

/-- Join the list that has been read with the next one. -/
def joinNext (flags : Flags) (join : SetJoin) (current : OpenSet) (outer : List OpenSet)
    (rest : List Char) : SetStep :=
  .more (current.push flags join :: outer) rest

/-- One step of reading the innermost open set. -/
def stepSet (flags : Flags) (current : OpenSet) (outer : List OpenSet) (chars : List Char) :
    Option SetStep :=
  match skip flags.extended chars with
  | [] => none
  | '[' :: rest =>
    match readAsciiSet rest with
    | some (negated, set, rest) => do
      let part ← flags.foldAndNegate? negated ⟨set, 0⟩
      some (.more (current.addItem part :: outer) rest)
    | none => openInner flags (current :: outer) rest
  | ']' :: rest => closeInner flags current outer rest
  | '&' :: '&' :: rest => some (joinNext flags .intersection current outer rest)
  | '-' :: '-' :: rest => some (joinNext flags .difference current outer rest)
  | '~' :: '~' :: rest => some (joinNext flags .symmetricDifference current outer rest)
  | chars => do
    let (item, rest) ← readSetItem flags chars
    some (.more (current.addItem item :: outer) rest)

/-- Read sets until the outermost is complete. Every step uses up a character. -/
def readOpenSets (flags : Flags) : (fuel : Nat) → List OpenSet → List Char →
    Option (SetPart × List Char)
  | 0, _, _ => none
  | _, [], _ => none
  | fuel + 1, current :: outer, chars =>
    match stepSet flags current outer chars with
    | none => none
    | some (.done part rest) => some (part, rest)
    | some (.more openSets rest) => readOpenSets flags fuel openSets rest

/-- Read a set after its first bracket. -/
def readBracketSet (flags : Flags) (chars : List Char) : Option (SetPart × List Char) := do
  let (first, rest) ← readSetStart flags chars
  readOpenSets flags (rest.length + 1) [first] rest

end DiagnosticGateway.Simulation.Engine
