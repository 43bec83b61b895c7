import ResponsiveImages.CommandLine.Arguments
import ResponsiveImages.Page.Process
import ResponsiveImages.Html.Reading

/-!
# Runs from the Command Line

A run reads a page from a file, processes it, and writes the page or its style
sheet to another file. What it says on the way is collected in a `Report`.

A run is written for any way of getting at files (`Files`). `Folder` is one of
them: a single folder held in memory.

## Main definitions

* `FileError`: The reasons a file cannot be read or written.
* `Files`: A way of getting at files.
* `banner`: What every run says first.
* `Report`: What a run said and how it ended.
* `runArguments`, `run`: A run.
* `Folder`, `Folder.files`: A folder held in memory.
-/

namespace ResponsiveImages

open Text

/-- The reason a file cannot be read or written. -/
inductive FileError where
  | notFound
  | isFolder
  | notFolder
  | denied
  /-- The file holds something else than text. -/
  | notText
  | other (message : Text)
  deriving DecidableEq, Repr

/-- The wording of a file error. -/
def FileError.message : FileError → Text
  | notFound => "No such file or directory (os error 2)".toList
  | isFolder => "Is a directory (os error 21)".toList
  | notFolder => "Not a directory (os error 20)".toList
  | denied => "Permission denied (os error 13)".toList
  | notText => "stream did not contain valid UTF-8".toList
  | other message => message

/-- A way of getting at files. -/
structure Files (m : Type → Type) where
  read : Text → m (Except FileError ByteArray)
  write : Text → Text → m (Except FileError Unit)

/-- What every run says first. -/
def banner : Text :=
  joinWith ['\n'] [
    [],
    "        ____  _       ______     ____".toList,
    "       / __ \\| |     / / __ \\   /  _/___ ___  ____ _____ ____  _____".toList,
    "      / /_/ /| | /| / / / / /   / // __ `__ \\/ __ `/ __ `/ _ \\/ ___/".toList,
    "     / _, _/ | |/ |/ / /_/ /  _/ // / / / / / /_/ / /_/ /  __(__  )".toList,
    "    /_/ |_|  |__/|__/_____/  /___/_/ /_/ /_/\\__,_/\\__, /\\___/____/".toList,
    "                                                 /____/".toList,
    "    Responsive images from data-rwdimage directives.".toList,
    [],
    []]

/-- What a run said and how it ended. -/
structure Report where
  /-- Zero if all went well. -/
  exitCode : Nat
  /-- What was said. -/
  said : Text
  /-- What was said about errors. -/
  complaint : Text := []
  deriving DecidableEq, Repr

/-- The page in a file that has been read. -/
def decodePage (bytes : ByteArray) : Except FileError Text :=
  match String.fromUTF8? bytes with
  | some s => .ok s.toList
  | none => .error .notText

/-- What a run complains about a page it cannot process. -/
def complaintAbout (path : Text) (message : Text) : Text :=
  "Error processing ".toList ++ path ++ ": ".toList ++ message ++ ['\n']

/-- The line about a processed page. -/
def ProcessedPage.summary (p : ProcessedPage) : Text :=
  "Compiled ".toList ++ decimal p.images.length ++ " images into ".toList
    ++ decimal p.stylesheet.rules.length ++ " rules.\n".toList

/-- The run for a page that could not be read. -/
def unreadable (path : Text) (e : FileError) : Report where
  exitCode := 1
  said := banner
  complaint := complaintAbout path ("I/O error: ".toList ++ e.message)

/-- The run for a page that could not be processed. A failed scan is a fault, not
    a complaint about the page. -/
def unprocessable (path : Text) (e : PageError) : Report where
  exitCode :=
    match e with
    | .missingHead => 1
    | .scanFailed _ => 101
  said := banner
  complaint := complaintAbout path e.message

/-- The end of a run, given how the result could be written. -/
def finished (path : Text) (p : ProcessedPage) (written : Except FileError Unit) : Report :=
  match written with
  | .ok () => { exitCode := 0, said := banner ++ p.summary }
  | .error e => {
      exitCode := 1
      said := banner ++ p.summary
      complaint := "Error writing ".toList ++ path ++ ": ".toList ++ e.message ++ ['\n'] }

/-- A run with the given arguments. -/
def runArguments {m : Type → Type} [Monad m] (files : Files m) (a : Arguments) : m Report := do
  let bytes ← files.read a.input
  match bytes.bind decodePage with
  | .error e => return unreadable a.input e
  | .ok markup =>
    match process a.config (Document.ofMarkup markup) with
    | .error e => return unprocessable a.input e
    | .ok page =>
      let written ← files.write a.output (if a.cssOnly then page.css else page.markup)
      return finished a.output page written

/-- A run from the command line. -/
def run {m : Type → Type} [Monad m] (files : Files m) (arguments : List Text) : m Report :=
  match Arguments.read? arguments with
  | some a => runArguments files a
  | none => pure { exitCode := 2, said := banner }

/-- A folder held in memory: the names of its files and what they hold. -/
abbrev Folder := List (Text × ByteArray)

/-- Where a path leads to from a folder. -/
inductive Place where
  | folder
  /-- A file, there or not. A path that ends in a slash asks for a folder. -/
  | file (name : Text) (asFolder : Bool)
  deriving DecidableEq, Repr

namespace Folder

/-- Where the parts of a path lead to. -/
def follow (f : Folder) (asFolder : Bool) : List Text → Except FileError Place
  | [] => .ok .folder
  | [name] =>
    if name == ".".toList || name == "..".toList then .ok .folder else .ok (.file name asFolder)
  | name :: rest =>
    if name == ".".toList then follow f asFolder rest
    else if (f.lookup name).isSome then .error .notFolder
    else .error .notFound

/-- Where a path leads to. -/
def place (f : Folder) (path : Text) : Except FileError Place :=
  if path.head? = some '/' then .error .notFound
  else
    f.follow (path.getLast? = some '/')
      ((path.splitOn '/').filter fun part => !part.isEmpty)

/-- What the file at a path holds. -/
def read (f : Folder) (path : Text) : Except FileError ByteArray :=
  (f.place path).bind fun
    | .folder => .error .isFolder
    | .file name asFolder =>
      match f.lookup name with
      | some bytes => if asFolder then .error .notFolder else .ok bytes
      | none => .error .notFound

/-- The folder with a file at a path. -/
def write (f : Folder) (path : Text) (contents : Text) : Except FileError Folder :=
  (f.place path).bind fun
    | .folder => .error .isFolder
    | .file name asFolder =>
      if asFolder then .error .isFolder
      else
        .ok ((name, (String.ofList contents).toUTF8) :: f.filter fun entry => entry.1 != name)

/-- Getting at the files of a folder held in memory. -/
def files : Files (StateM Folder) where
  read path := do return (← get).read path
  write path contents := do
    match (← get).write path contents with
    | .ok f =>
      set f
      return .ok ()
    | .error e => return .error e

end Folder

end ResponsiveImages
