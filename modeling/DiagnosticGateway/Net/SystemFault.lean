/-!
# Faults of the operating system

A socket operation fails with a number that the system assigns. The gateway reports the
number with its wording.
-/

namespace DiagnosticGateway.Net

/-- A failed socket operation, known by its number. -/
structure SystemFault where
  number : Nat
  deriving DecidableEq, Repr

namespace SystemFault

/-- No such file or directory. -/
def notFound : SystemFault := ⟨2⟩

/-- A path leads on from a file. -/
def notDirectory : SystemFault := ⟨20⟩

/-- The path names a directory. -/
def isDirectory : SystemFault := ⟨21⟩

/-- An argument is not acceptable. -/
def invalidArgument : SystemFault := ⟨22⟩

/-- A name or a path is too long. -/
def nameTooLong : SystemFault := ⟨36⟩

/-- The address is already bound. -/
def addressInUse : SystemFault := ⟨98⟩

/-- The wording that goes with a number. -/
def wording (fault : SystemFault) : String :=
  match fault.number with
  | 2 => "No such file or directory"
  | 13 => "Permission denied"
  | 20 => "Not a directory"
  | 21 => "Is a directory"
  | 22 => "Invalid argument"
  | 24 => "Too many open files"
  | 32 => "Broken pipe"
  | 36 => "File name too long"
  | 98 => "Address already in use"
  | 101 => "Network is unreachable"
  | 104 => "Connection reset by peer"
  | 111 => "Connection refused"
  | number => "Unknown error " ++ toString number

/-- The message of a fault. -/
def message (fault : SystemFault) : String :=
  fault.wording ++ " (os error " ++ toString fault.number ++ ")"

end SystemFault

end DiagnosticGateway.Net
