import DiagnosticGateway.Toml.Moment
import DiagnosticGateway.Toml.Number
import DiagnosticGateway.Toml.Quoted

/-!
# Reading a TOML text

A value is read by what its first character announces. Arrays and tables between braces nest
up to a limit, and a key has no more parts than that. A whole text is a series of
statements, one on a line: pairs, and headers that say which table the pairs after them
belong to. A header in single brackets defines its table, which must not have been defined
before; one in double brackets adds a table to those that share its name.

The reader stands in for the library that reads such texts for a gateway, as far as a gateway
needs it. It is outside of what is proved: configurations are judged as values, and no theorem
speaks of the text that one was read from.
-/

namespace DiagnosticGateway.Toml

/-- How deeply values may be nested, and how many parts a key may have. -/
def maxDepth : Nat := 79

/-- A character of a key without quotes. -/
def isKeyChar (char : Char) : Bool :=
  char.isAlphanum || char == '-' || char == '_'

/-- Read a part of a key. -/
def readKeyPart : List Char → Option (String × List Char)
  | '"' :: rest => asText (readLine .basic rest)
  | '\'' :: rest => asText (readLine .literal rest)
  | chars =>
    let name := chars.takeWhile isKeyChar
    if name.isEmpty then none else some (String.ofList name, chars.dropWhile isKeyChar)

/-- Read a key of at most `room` parts with points between them: the path to its table, its
name there, and what follows it after blanks. -/
def readKey : (room : Nat) → List Char → Option (List String × String × List Char)
  | 0, _ => none
  | room + 1, chars => do
    let (part, rest) ← readKeyPart (skipBlanks chars)
    match skipBlanks rest with
    | '.' :: more =>
      let (path, key, rest) ← readKey room more
      some (part :: path, key, rest)
    | rest => some ([], part, rest)

/-- Read a pair, given how to read its value. -/
def readPair (element : List Char → Option (Value × List Char)) (chars : List Char) :
    Option (Pair × List Char) := do
  let (path, key, rest) ← readKey maxDepth chars
  let (value, rest) ← element (skipBlanks (← expect '=' rest))
  some (⟨path, key, value⟩, rest)

/-- Read the items of an array after its bracket, at most `steps` of them, given how to read
one. -/
def readItems (element : List Char → Option (Value × List Char)) :
    (steps : Nat) → List Char → Option (List Value × List Char)
  | 0, _ => none
  | steps + 1, chars =>
    match skipLayout false chars with
    | ']' :: rest => some ([], rest)
    | start => do
      let (item, rest) ← element start
      match skipLayout false rest with
      | ',' :: rest =>
        let (items, rest) ← readItems element steps rest
        some (item :: items, rest)
      | ']' :: rest => some ([item], rest)
      | _ => none

/-- Read the pairs of a table between braces, at least one and at most `steps` of them, given
how to read a value. -/
def readPairs (element : List Char → Option (Value × List Char)) :
    (steps : Nat) → List Char → Option (List Pair × List Char)
  | 0, _ => none
  | steps + 1, chars => do
    let (pair, rest) ← readPair element chars
    match skipBlanks rest with
    | ',' :: rest =>
      let (pairs, rest) ← readPairs element steps rest
      some (pair :: pairs, rest)
    | '}' :: rest => some ([pair], rest)
    | _ => none

/-- Read the pairs of a table between braces, if it has any. -/
def readInline (element : List Char → Option (Value × List Char)) (chars : List Char) :
    Option (List Pair × List Char) :=
  match skipBlanks chars with
  | '}' :: rest => some ([], rest)
  | start => readPairs element start.length start

/-- Read a value without parts. -/
def readAtom : List Char → Option (Value × List Char)
  | 't' :: 'r' :: 'u' :: 'e' :: rest => some (.boolean true, rest)
  | 'f' :: 'a' :: 'l' :: 's' :: 'e' :: rest => some (.boolean false, rest)
  | chars =>
    match readString chars with
    | some (text, rest) => some (.string text, rest)
    | none =>
      match readMoment chars with
      | some rest => some (.moment, rest)
      | none => readNumber chars

/-- Read a value that nests at most `room` deep. -/
def readValue : (room : Nat) → List Char → Option (Value × List Char)
  | 0, chars => readAtom chars
  | room + 1, chars =>
    match chars with
    | '[' :: rest => do
      let (items, rest) ← readItems (readValue room) (rest.length + 1) rest
      some (.array items, rest)
    | '{' :: rest => do
      let (pairs, rest) ← readInline (readValue room) rest
      let entries ← Entries.addAll .inline [] pairs
      some (.table .inline entries, rest)
    | _ => readAtom chars

/-- What a header announces. -/
inductive HeaderKind where
  /-- The one table with a name. -/
  | single
  /-- A further table of those that share a name. -/
  | further
  deriving DecidableEq, Repr

/-- A header. -/
structure Header where
  kind : HeaderKind
  /-- The tables on the way. -/
  path : List String
  key : String
  deriving DecidableEq, Repr

/-- A line of a text. -/
inductive Statement where
  | header (header : Header)
  | pair (pair : Pair)
  deriving Repr

/-- Read a statement without the end of its line. -/
def readStatement : List Char → Option (Statement × List Char)
  | '[' :: '[' :: rest => do
    let (path, key, rest) ← readKey maxDepth rest
    some (.header ⟨.further, path, key⟩, ← expect ']' (← expect ']' rest))
  | '[' :: rest => do
    let (path, key, rest) ← readKey maxDepth rest
    some (.header ⟨.single, path, key⟩, ← expect ']' rest)
  | chars => do
    let (pair, rest) ← readPair (readValue maxDepth) chars
    some (.pair pair, rest)

/-- Read at most `steps` lines. -/
def readStatements : (steps : Nat) → List Char → Option (List Statement)
  | 0, _ => none
  | steps + 1, chars =>
    match skipBlanks chars with
    | [] => some []
    | start =>
      match lineEnd? start with
      | some rest => readStatements steps rest
      | none => do
        let (statement, rest) ← readStatement start
        let statements ← readStatements steps (← lineEnd? rest)
        some (statement :: statements)

/-- A header with the pairs after it. -/
structure Section where
  header : Header
  pairs : List Pair
  deriving Repr

/-- The pairs before the first header, and the sections after them. -/
def sectionsOf (statements : List Statement) : List Pair × List Section :=
  statements.foldr
    (fun statement read =>
      match statement with
      | .pair pair => (pair :: read.1, read.2)
      | .header header => ([], ⟨header, read.1⟩ :: read.2))
    ([], [])

namespace Entries

/-- Add the table of a section to the table that holds it. A table that was only implied
so far becomes that table. -/
def addTable (part : Section) (entries : Entries) : Option Entries := do
  let key := part.header.key
  match part.header.kind, entries.find? key with
  | .single, none => some (entries.set key (.table .header (← addAll .header [] part.pairs)))
  | .single, some (.table .implied inner) =>
    some (entries.set key (.table .header (← addAll .header inner part.pairs)))
  | .further, none => some (entries.set key (.tables [← addAll .header [] part.pairs]))
  | .further, some (.tables items) =>
    some (entries.set key (.tables (items ++ [← addAll .header [] part.pairs])))
  | _, _ => none

/-- Add a section to the table of the whole text. -/
def addSection (entries : Entries) (part : Section) : Option Entries :=
  entries.walk false (fun _ holder => holder.addTable part) part.header.path .header

end Entries

/-- The table that statements denote. -/
def tableOf? (statements : List Statement) : Option Entries := do
  let (pairs, sections) := sectionsOf statements
  let top ← Entries.addAll .header [] pairs
  sections.foldlM Entries.addSection top

/-- A text without the mark that may stand in front of it. -/
def withoutMark : List Char → List Char
  | '\uFEFF' :: rest => rest
  | chars => chars

/-- The table that a text denotes. -/
def read? (text : String) : Option Entries := do
  let chars := withoutMark text.toList
  let statements ← readStatements (chars.length + 1) chars
  tableOf? statements

end DiagnosticGateway.Toml
