import GeoFacet.CommandLine.Run

/-!
# The program
-/

namespace GeoFacet.CommandLine

/-- Why a file could not be read, in the words of the operating system. -/
def reasonOf : IO.Error → String
  | .noFileOrDirectory .. => "No such file or directory (os error 2)"
  | .permissionDenied .. => "Permission denied (os error 13)"
  | .inappropriateType .. => "Is a directory (os error 21)"
  | e => e.toString

/-- The text of a file, or why it has none. -/
def readFile (path : String) : IO (Except String String) := do
  try
    return .ok (← IO.FS.readFile path)
  catch e =>
    return .error (reasonOf e)

/-- All of standard input. -/
def readStdin : IO String := do
  (← IO.getStdin).readToEnd

end GeoFacet.CommandLine

open GeoFacet CommandLine in
def main (arguments : List String) : IO UInt32 := do
  let output ← run readFile readStdin arguments
  match output.printed with
  | .nothing => pure ()
  | .line text => IO.println text
  | .document v => IO.println v.print
  return output.status.toUInt32
