/-!
# Strings of bytes

Everything that travels on a socket, and every request and response of an ECU, is a string
of bytes. It is kept as a list, so that what is read, written and left over is plain list
algebra.
-/

namespace DiagnosticGateway

/-- A string of bytes, first byte first. -/
abbrev Bytes := List UInt8

/-- The UTF-8 bytes of a text. -/
def Bytes.ofText (text : String) : Bytes :=
  text.toUTF8.toList

end DiagnosticGateway
