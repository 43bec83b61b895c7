import ResponsiveImages.CommandLine.Run

/-!
# Command Line

The program itself: it gets at the files of the computer, says what there is
to say, and exits.

## Main definitions

* `FileError.ofError`: The reason behind an error of the computer.
* `diskFiles`: The files of the computer.
-/

namespace ResponsiveImages

/-- The reason behind an error of the computer. -/
def FileError.ofError (e : IO.Error) : FileError :=
  match e with
  | .noFileOrDirectory _ _ _ => .notFound
  | .permissionDenied _ _ _ => .denied
  | .inappropriateType _ code details =>
    if code = 20 then .notFolder
    else if code = 21 then .isFolder
    else .other details.toList
  | e => .other (toString e).toList

/-- The outcome of an action, with its error told apart. -/
def attempt {α : Type} (action : IO α) : IO (Except FileError α) := do
  try return .ok (← action)
  catch e => return .error (FileError.ofError e)

/-- The files of the computer. -/
def diskFiles : Files IO where
  read path := attempt (IO.FS.readBinFile (String.ofList path))
  write path contents :=
    attempt (IO.FS.writeFile (String.ofList path) (String.ofList contents))

end ResponsiveImages

/-- The program. -/
def main (arguments : List String) : IO UInt32 := do
  let report ← ResponsiveImages.run ResponsiveImages.diskFiles (arguments.map String.toList)
  IO.print (String.ofList report.said)
  IO.eprint (String.ofList report.complaint)
  return report.exitCode.toUInt32
