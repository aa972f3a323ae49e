import DiagnosticGateway.Text.Hex

/-!
# Byte dumps

Bytes are shown in the log as pairs of uppercase digits with blanks between them. At most
`limit` bytes are shown, and a dump that leaves some out ends with the full count.
-/

namespace DiagnosticGateway.Text

/-- Show at most `limit` bytes. -/
def dump (bytes : Bytes) (limit : Nat) : String :=
  let shown := " ".intercalate ((bytes.take limit).map fun byte => Hex.upper [byte])
  if limit < bytes.length then shown ++ " ... (" ++ toString bytes.length ++ " bytes)" else shown

end DiagnosticGateway.Text
