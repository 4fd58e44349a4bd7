import ScriptTree.Command.Report

/-! The program: reads its arguments and a file, and prints a report. -/

namespace ScriptTree.Command

/-- The fault that an error of the system amounts to. -/
def ReadFault.ofError : IO.Error → ReadFault
  | .noFileOrDirectory _ code _ => .system code.toNat "No such file or directory"
  | .permissionDenied _ code _ => .system code.toNat "Permission denied"
  | .inappropriateType _ 21 _ => .system 21 "Is a directory"
  | .inappropriateType _ 20 _ => .system 20 "Not a directory"
  | .invalidArgument _ 36 _ => .system 36 "File name too long"
  | error => .system 5 (toString error)

def readText (path : String) : IO (Except ReadFault String) := do
  try
    let file ← IO.FS.Handle.mk path .read
    return decode (← file.readBinToEnd)
  catch error =>
    return .error (.ofError error)

/-- Does what the arguments ask for. -/
def perform (arguments : List String) : IO Report := do
  match readArguments arguments with
  | .error exit => return exit.report
  | .ok options => return options.report (← readText options.file)

end ScriptTree.Command

def main (arguments : List String) : IO UInt32 := do
  let report ← ScriptTree.Command.perform arguments
  IO.print report.output
  IO.eprint (report.error.getD "")
  return report.code.toUInt32
