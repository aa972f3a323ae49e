import DiagnosticGateway.Pattern
import DiagnosticGateway.Text.Blank
import DiagnosticGateway.Text.Hex

/-!
# Lookup tables

A lookup table answers a request by the first of its entries whose pattern matches the
uppercase hexadecimal text of the request. It is built from pairs of texts; blanks in them
are ignored. For each pair in order the pattern is compiled first, by the library of regular
expressions, then the response is read, and the response must not be empty.
-/

namespace DiagnosticGateway.Ecu

/-- A line of a lookup table as it is configured. -/
structure LookupRule where
  /-- A pattern for the hexadecimal text of a request. -/
  request : String
  /-- The response in hexadecimal. -/
  response : String
  deriving DecidableEq, Repr

/-- What is wrong with a line of a lookup table. -/
inductive LookupFault where
  /-- The request is no pattern, for the reason that the library gives in words. -/
  | faultyPattern (reason : String)
  /-- The response is not hexadecimal. -/
  | faultyResponse (fault : Text.Hex.Fault)
  /-- The response has no bytes. -/
  | emptyResponse
  deriving DecidableEq, Repr

/-- The wording of a fault. That of a pattern's fault is the library's own. -/
def LookupFault.message : LookupFault → String
  | faultyPattern reason => reason
  | faultyResponse fault => fault.message
  | emptyResponse => "empty response"

/-- A line of a lookup table that has been read. -/
structure LookupEntry where
  pattern : Pattern
  response : Bytes

/-- A lookup table. -/
structure LookupTable where
  entries : List LookupEntry

namespace LookupEntry

/-- Read a line. The pattern is compiled first, so a line with two faults is rejected for its
request. -/
def ofRule (library : Pattern.Library) (rule : LookupRule) : Except LookupFault LookupEntry :=
  match library.compile (Pattern.wrap (Text.withoutBlanks rule.request)) with
  | .error reason => .error (.faultyPattern reason)
  | .ok pattern =>
    match Text.Hex.decode (Text.withoutBlanks rule.response) with
    | .error fault => .error (.faultyResponse fault)
    | .ok [] => .error .emptyResponse
    | .ok response => .ok ⟨pattern, response⟩

/-- Whether an entry answers a request. -/
def answers (request : Bytes) (entry : LookupEntry) : Bool :=
  entry.pattern.isMatch (Text.Hex.upper request)

end LookupEntry

namespace LookupTable

/-- Read lines in order. The first faulty line is reported. -/
def entriesOf (library : Pattern.Library) :
    List LookupRule → Except (LookupRule × LookupFault) (List LookupEntry)
  | [] => .ok []
  | rule :: rest =>
    match LookupEntry.ofRule library rule with
    | .error fault => .error (rule, fault)
    | .ok entry =>
      match entriesOf library rest with
      | .error fault => .error fault
      | .ok entries => .ok (entry :: entries)

/-- The table with the given lines. -/
def ofRules (library : Pattern.Library) (rules : List LookupRule) :
    Except (LookupRule × LookupFault) LookupTable :=
  match entriesOf library rules with
  | .error fault => .error fault
  | .ok entries => .ok ⟨entries⟩

/-- The number of entries. -/
def size (table : LookupTable) : Nat :=
  table.entries.length

/-- The response of the first entry that answers a request. Entries after it are not asked. -/
def find? (request : Bytes) (table : LookupTable) : Option Bytes :=
  (table.entries.find? (LookupEntry.answers request)).map LookupEntry.response

end LookupTable

end DiagnosticGateway.Ecu
