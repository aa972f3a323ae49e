import DiagnosticGateway.Pattern
import DiagnosticGateway.Simulation.Engine.Reading

/-!
# An engine for the benches

A bench needs a library of regular expressions to run with. This one stands in for the library
that a gateway is built with, and it is outside of what is proved: the definitions of the gateway
take the library as a parameter, and no theorem rests on this one. It reads the common part of the
dialect, is made for hexadecimal subjects, and agrees with the library where both were run. It
lists the names of properties by hand, does not limit the size of what is compiled, and words all
its faults alike.
-/

namespace DiagnosticGateway.Simulation.Engine

/-- What is said about a text that is no pattern, whatever is wrong with it. -/
def faultText : String := "<regex>"

/-- The engine as a library. -/
def library : Pattern.Library where
  compile text :=
    match parse? text.toList with
    | some expr => .ok ⟨fun subject => occursIn subject.toList expr⟩
    | none => .error faultText

end DiagnosticGateway.Simulation.Engine
