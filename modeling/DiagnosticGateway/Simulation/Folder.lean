import DiagnosticGateway.Config.Fault
import DiagnosticGateway.Text.Utf8

/-!
# A folder of files

A folder holds files and no further folders. A path is followed from the folder name by
name: empty names and single points stay where they are, a name of a file leads to it, and
nothing leads on from a file. Above the folder there are only folders, and nothing in them
is known.
-/

namespace DiagnosticGateway.Simulation

/-- The files of a folder. -/
structure Folder where
  files : List (String × Bytes)

namespace Folder

/-- Where a path has led so far. -/
inductive Place where
  /-- This many folders above the folder itself. -/
  | folder (above : Nat)
  | file (content : Bytes)

/-- The greatest number of bytes in a name. -/
def maxName : Nat := 255

/-- The greatest number of bytes in a path. -/
def maxPath : Nat := 4095

/-- The place that a name leads to. -/
def follow (folder : Folder) (place : Place) (name : String) : Except Net.SystemFault Place :=
  match place with
  | .file _ => .error .notDirectory
  | .folder above =>
    if name = "" || name = "." then .ok place
    else if name = ".." then .ok (.folder (above + 1))
    else if maxName < name.utf8ByteSize then .error .nameTooLong
    else if above = 0 then
      match folder.files.lookup name with
      | some content => .ok (.file content)
      | none => .error .notFound
    else .error .notFound

/-- The place that a path leads to. A path from the root starts above every folder. -/
def find (folder : Folder) (path : String) : Except Net.SystemFault Place :=
  if path = "" then .error .notFound
  else if maxPath < path.utf8ByteSize then .error .nameTooLong
  else
    let start := if path.startsWith "/" then 1 else 0
    (path.splitOn "/").foldlM folder.follow (.folder start)

/-- The text of a file. -/
def readText (folder : Folder) (path : String) : Except FileFault String :=
  if path.toList.contains '\x00' then .error .nulInPath
  else
    match folder.find path with
    | .error fault => .error (.system fault)
    | .ok (.folder _) => .error (.system .isDirectory)
    | .ok (.file content) =>
      match Text.Utf8.strict? content with
      | some text => .ok text
      | none => .error .notText

end Folder

end DiagnosticGateway.Simulation
