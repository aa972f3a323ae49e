/-!
# Patterns of a library

Patterns are regular expressions of a library that the gateway is built with and that is not part
of it. All that is used of the library is that it compiles a text, or says what is wrong with it,
and that a compiled pattern tells of a subject whether it matches. So the library is a parameter of
everything that reads patterns.

The text of a request pattern is put between a fixed beginning and end before it is compiled:
letters match in both cases, and a match has to start where the subject starts and to end where it
ends. The text is not escaped, so what is compiled is the whole of the three parts.
-/

namespace DiagnosticGateway

/-- A compiled pattern. -/
structure Pattern where
  /-- Whether the pattern matches somewhere in a subject. -/
  isMatch : String → Bool

namespace Pattern

/-- A library of regular expressions. -/
structure Library where
  /-- Compile a text, or say in words what is wrong with it. -/
  compile : String → Except String Pattern

/-- The text of a pattern between its fixed beginning and end. -/
def wrap (text : String) : String :=
  "(?i)^(?:" ++ text ++ ")$"

end Pattern

end DiagnosticGateway
