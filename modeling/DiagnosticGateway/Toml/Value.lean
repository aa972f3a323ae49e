/-!
# Values of a TOML text

A TOML text denotes a table of named values. Numbers with a fraction and moments in time are
kept only as being such, because nothing that is read from a text here is one of them.

A table grows while its text is read. How it came to be decides what may still be added to
it, so every table remembers its origin.

The values belong to the reader that stands in for a library of the gateway, outside of what is
proved.
-/

namespace DiagnosticGateway.Toml

/-- How a table came to be. -/
inductive Origin where
  /-- It has a header of its own, or it is the whole text. -/
  | header
  /-- It was named on the way to the table of a header. -/
  | implied
  /-- It was named on the way to a key. -/
  | dotted
  /-- It is written between braces. -/
  | inline
  deriving DecidableEq, Repr

/-- A value. -/
inductive Value where
  | string (text : String)
  | integer (number : Int)
  | boolean (truth : Bool)
  /-- A number with a fraction or an exponent, or none at all. -/
  | fraction
  /-- A date, a time of day or both. -/
  | moment
  | array (items : List Value)
  | table (origin : Origin) (entries : List (String × Value))
  /-- The tables of a header that is written once for each of them. -/
  | tables (items : List (List (String × Value)))
  deriving Repr

/-- The named values of a table, in the order in which they were written. -/
abbrev Entries := List (String × Value)

namespace Entries

/-- The value with a name. -/
def find? (key : String) (entries : Entries) : Option Value :=
  List.lookup key entries

/-- Give a name a value, in its old place if it has one. -/
def set (key : String) (value : Value) (entries : Entries) : Entries :=
  if (entries.find? key).isSome then
    entries.map fun entry => if entry.1 = key then (key, value) else entry
  else
    entries ++ [(key, value)]

end Entries

/-- Whether a path may lead through a table that is there already. The path of a key leads
only through tables without a definition of their own, the path of a header through every
table that is not written between braces. -/
def Origin.isOpenTo (ofKey : Bool) : Origin → Bool
  | .header => !ofKey
  | .implied => true
  | .dotted => true
  | .inline => false

namespace Entries

/-- Change the table at the end of a path. Tables that are missing on the way are created, and
several tables under one header stand for the last of them. -/
def walk (ofKey : Bool) (change : Origin → Entries → Option Entries) :
    List String → Origin → Entries → Option Entries
  | [], origin, entries => change origin entries
  | key :: path, _, entries =>
    match entries.find? key with
    | none => do
      let origin := if ofKey then .dotted else .implied
      let inner ← walk ofKey change path origin []
      some (entries.set key (.table origin inner))
    | some (.table origin inner) => do
      if origin.isOpenTo ofKey then
        let inner ← walk ofKey change path origin inner
        some (entries.set key (.table origin inner))
      else
        none
    | some (.tables items) => do
      let last ← items.getLast?
      let inner ← walk ofKey change path .header last
      some (entries.set key (.tables (items.dropLast ++ [inner])))
    | some _ => none

end Entries

/-- A key with its value. -/
structure Pair where
  /-- The tables on the way to the key. -/
  path : List String
  key : String
  value : Value
  deriving Repr

namespace Entries

/-- Add a pair to a table. A key with a path must lead to a table that only such keys have
made, and no key is given twice. -/
def add (origin : Origin) (entries : Entries) (pair : Pair) : Option Entries :=
  walk true
    (fun reached inner =>
      if (reached == .dotted) == pair.path.isEmpty || (inner.find? pair.key).isSome then none
      else some (inner ++ [(pair.key, pair.value)]))
    pair.path origin entries

/-- Add pairs to a table, in order. -/
def addAll (origin : Origin) (entries : Entries) (pairs : List Pair) : Option Entries :=
  pairs.foldlM (add origin) entries

end Entries

end DiagnosticGateway.Toml
