import DiagnosticGateway.Simulation.Engine.BracketSet

/-!
# Reading patterns

A pattern is read from left to right with the groups that are still open. A group holds the
branches that its bars have completed and the pieces of the branch that is being read. Every
step uses up at least one character, so the length of the text bounds the number of steps.

A pattern must not be nested too deeply. How large it becomes when it is compiled is not
limited.

This is a part of the engine of the benches, outside of what is proved.
-/

namespace DiagnosticGateway.Simulation.Engine

/-- How deeply a pattern may be nested. -/
def maxDepth : Nat := 250

/-- A piece of a pattern. -/
structure Piece where
  expr : Expr
  depth : Nat
  /-- The piece can be repeated. A setting of flags cannot. -/
  repeatable : Bool
  deriving DecidableEq, Repr

/-- A piece without parts. -/
def Piece.leaf (expr : Expr) : Piece :=
  ⟨expr, 0, true⟩

/-- A group that is being read. -/
structure OpenGroup where
  /-- The flags that hold again after the group. -/
  outerFlags : Flags
  /-- The branches that are complete, last first. -/
  branches : List Piece
  /-- The pieces of the branch that is being read, last first. -/
  pieces : List Piece
  deriving DecidableEq, Repr

/-- A pattern that is being read. -/
structure Reading where
  flags : Flags
  /-- The groups that are open around the innermost one. -/
  outer : List OpenGroup
  /-- The innermost group that is open; the pattern itself counts as one. -/
  current : OpenGroup
  /-- The names of the groups. -/
  names : List (List Char)
  deriving DecidableEq, Repr

/-- A pattern of which nothing has been read. -/
def Reading.start : Reading where
  flags := .initial
  outer := []
  current := ⟨.initial, [], []⟩
  names := []

/-- How deep the parts of a composition are nested together: a composition of less than two
parts is no level of its own. -/
def composedDepth (parts : List Piece) : Nat :=
  let deepest := parts.foldl (fun depth part => max depth part.depth) 0
  if parts.length < 2 then deepest else deepest + 1

/-- The pieces of a branch in a row, given last first. -/
def concatenation (reversed : List Piece) : Piece :=
  match reversed with
  | [only] => only
  | _ =>
    let pieces := reversed.reverse
    ⟨.seqAll (pieces.map Piece.expr), composedDepth pieces, true⟩

/-- One of several branches, given last first. -/
def alternation (reversed : List Piece) : Piece :=
  match reversed with
  | [only] => only
  | _ =>
    let branches := reversed.reverse
    ⟨.altAll (branches.map Piece.expr), composedDepth branches, true⟩

/-- What a group holds when it is complete. -/
def OpenGroup.body (group : OpenGroup) : Piece :=
  alternation (concatenation group.pieces :: group.branches)

/-- Add a piece to the innermost group. -/
def Reading.push (piece : Piece) (reading : Reading) : Reading :=
  { reading with current := { reading.current with pieces := piece :: reading.current.pieces } }

/-- Complete a branch of the innermost group. -/
def Reading.nextBranch (reading : Reading) : Reading :=
  { reading with current := { reading.current with
      branches := concatenation reading.current.pieces :: reading.current.branches
      pieces := [] } }

/-- Open a group in which the given flags hold. -/
def Reading.openGroup (flags : Flags) (reading : Reading) : Reading :=
  { reading with
    flags := flags
    outer := reading.current :: reading.outer
    current := ⟨reading.flags, [], []⟩ }

/-- Close the innermost group. The pattern itself cannot be closed. -/
def Reading.closeGroup? (reading : Reading) : Option Reading :=
  match reading.outer with
  | [] => none
  | next :: others =>
    let body := reading.current.body
    let group : Piece := ⟨body.expr, body.depth + 1, true⟩
    some ({ reading with
      flags := reading.current.outerFlags
      outer := others
      current := next }.push group)

/-- The flags after a setting, which is a piece that matches the empty stretch everywhere. -/
def Reading.setFlags (flags : Flags) (reading : Reading) : Reading :=
  { reading with flags := flags }.push ⟨.empty, 0, false⟩

/-- The numbers beyond which a count is refused. -/
def countLimit : Nat := 4294967296

/-- A piece repeated. -/
def Piece.repeated (least : Nat) (most : Option Nat) (piece : Piece) : Piece :=
  ⟨.repeated piece.expr least most, piece.depth + 1, true⟩

/-- Repeat the last piece of the branch. -/
def Reading.repeatLast? (least : Nat) (most : Option Nat) (reading : Reading) : Option Reading :=
  match reading.current.pieces with
  | [] => none
  | piece :: others =>
    if piece.repeatable then
      some { reading with current := { reading.current with
        pieces := piece.repeated least most :: others } }
    else none

/-- A question mark after a repetition makes it prefer few rounds, which changes nothing about
which texts match. -/
def skipLazyMark : List Char → List Char
  | '?' :: rest => rest
  | chars => chars

/-- The digits of a count. -/
def takeCount (extended : Bool) : (fuel : Nat) → List Char → List Char × List Char
  | 0, chars => ([], chars)
  | fuel + 1, chars =>
    match chars with
    | [] => ([], [])
    | char :: rest =>
      if char.isDigit then
        let (digits, rest) := takeCount extended fuel (skip extended rest)
        (char :: digits, rest)
      else ([], char :: rest)

/-- Read a count, with blanks around it. -/
def readCount (extended : Bool) (chars : List Char) : Option Nat × List Char :=
  let chars := chars.dropWhile Text.isBlank
  let (digits, rest) := takeCount extended chars.length chars
  let rest := if rest.head?.any Text.isBlank then skip extended (rest.dropWhile Text.isBlank) else rest
  let number := digits.foldl (fun number digit => number * 10 + (digit.toNat - 48)) 0
  (if digits.isEmpty || countLimit ≤ number then none else some number, rest)

/-- Read the counts of a repetition after its opening brace. -/
def readCounts (extended : Bool) (chars : List Char) :
    Option (Nat × Option Nat × List Char) := do
  let chars ← match skip extended chars with
    | [] => none
    | chars => some chars
  let (least, rest) := readCount extended chars
  let least ← least
  match rest with
  | ',' :: rest =>
    match skip extended rest with
    | [] => none
    | '\x7d' :: rest => some (least, none, rest)
    | rest => do
      let (most, rest) := readCount extended rest
      let most ← most
      match rest with
      | '\x7d' :: rest => if least ≤ most then some (least, some most, rest) else none
      | _ => none
  | '\x7d' :: rest => some (least, some least, rest)
  | _ => none

/-- The piece of a character. -/
def charPiece (flags : Flags) (char : Char) : Piece :=
  .leaf (.one (flags.fold (.singleton char)))

/-- The piece of a primitive, if it may stand where characters are what the flags say. -/
def primitivePiece? (flags : Flags) : Primitive → Option Piece
  | .char char givenAsByte =>
    if !flags.unicode && givenAsByte && 0x80 ≤ char.toNat then none
    else some (charPiece flags char)
  | .dot =>
    if flags.unicode then some (.leaf (.one HexSet.empty.complement)) else none
  | .short short negated => do
    let part ← if flags.unicode then some (short.part negated) else short.bytePart? negated
    some (.leaf (.one part.set))
  | .property part negated => do
    let part ← propertySet? flags part negated
    some (.leaf (.one part.set))
  | .look condition => some (.leaf (.look condition))

/-- Whether a character can stand in the name of a group: a letter or underscore, and after the
first also a digit, a period or a bracket. -/
def isNameChar (isFirst : Bool) (char : Char) : Bool :=
  char == '_' || char.isAlpha || 0x80 ≤ char.toNat ||
    (!isFirst && (char.isDigit || char == '.' || char == '[' || char == ']'))

/-- Read the name of a group up to its angle bracket. -/
def readName (chars : List Char) : Option (List Char × List Char) :=
  let name := chars.takeWhile (· != '>')
  match name, chars.dropWhile (· != '>') with
  | first :: more, '>' :: rest =>
    if isNameChar true first && more.all (isNameChar false) then some (first :: more, rest) else none
  | _, _ => none

/-- Open a group that has a name. No two groups have the same name. -/
def openNamed (reading : Reading) (chars : List Char) : Option (Reading × List Char) := do
  let (name, rest) ← readName chars
  if reading.names.contains name then none
  else some ({ reading with names := name :: reading.names }.openGroup reading.flags,
    rest)

/-- Read what follows an opening parenthesis: the start of a group, or a setting of flags. -/
def readGroupStart (reading : Reading) (chars : List Char) : Option (Reading × List Char) :=
  match skip reading.flags.extended chars with
  | '?' :: '=' :: _ => none
  | '?' :: '!' :: _ => none
  | '?' :: '<' :: '=' :: _ => none
  | '?' :: '<' :: '!' :: _ => none
  | '?' :: 'P' :: '<' :: rest => openNamed reading rest
  | '?' :: '<' :: rest => openNamed reading rest
  | '?' :: rest => do
    let (items, stop, rest) ← splitFlags rest
    if !areFlags items then none
    else
      let flags := reading.flags.applyItems items
      if stop == ':' then some (reading.openGroup flags, rest)
      else if items.isEmpty then none
      else some (reading.setFlags flags, rest)
  | rest => some (reading.openGroup reading.flags, rest)

/-- One step of reading at a character that is not to be skipped. -/
def step (reading : Reading) : List Char → Option (Reading × List Char)
  | [] => none
  | '(' :: rest => readGroupStart reading rest
  | ')' :: rest => reading.closeGroup?.map fun reading => (reading, rest)
  | '|' :: rest => some (reading.nextBranch, rest)
  | '[' :: rest => do
    let (part, rest) ← readBracketSet reading.flags rest
    some (reading.push ⟨.one part.set, part.depth, true⟩, rest)
  | '?' :: rest => do some (← reading.repeatLast? 0 (some 1), skipLazyMark rest)
  | '*' :: rest => do some (← reading.repeatLast? 0 none, skipLazyMark rest)
  | '+' :: rest => do some (← reading.repeatLast? 1 none, skipLazyMark rest)
  | '\x7b' :: rest => do
    let (least, most, rest) ← readCounts reading.flags.extended rest
    some (← reading.repeatLast? least most, skipLazyMark (skip reading.flags.extended rest))
  | chars => do
    let (primitive, rest) ← readPrimitive reading.flags.extended chars
    some (reading.push (← primitivePiece? reading.flags primitive), rest)

/-- The pattern that has been read, if no group is open and its limits are kept. -/
def Reading.finish? (reading : Reading) : Option Expr :=
  match reading.outer with
  | _ :: _ => none
  | [] =>
    let body := reading.current.body
    if body.depth ≤ maxDepth then some body.expr else none

/-- Read a pattern to its end. -/
def readAll : (fuel : Nat) → Reading → List Char → Option Expr
  | 0, _, _ => none
  | fuel + 1, reading, chars =>
    match skip reading.flags.extended chars with
    | [] => reading.finish?
    | chars =>
      match step reading chars with
      | some (next, rest) => readAll fuel next rest
      | none => none

/-- The expression that a text denotes, if it is a pattern. -/
def parse? (chars : List Char) : Option Expr :=
  readAll (chars.length + 1) .start chars

end DiagnosticGateway.Simulation.Engine
