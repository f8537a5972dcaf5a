import WorkflowAudit.Session.Saved
import WorkflowAudit.Text.Lines

/-! # Files

The working directory of a session: a tree of directories and files.  A file holds bytes, or a value
that was saved as a whole.  Paths are relative to the working directory; `.` and empty components
stay where they are and `..` goes up.
-/

namespace WorkflowAudit

/-- The components that lead from the working directory to a place. -/
abbrev Path := List String

/-- What stands at a place. -/
inductive File where
  | directory
  | bytes (content : List UInt8)
  | saved (value : Value)

/-- The places that are filled, by path; the directories above them are filled as well. -/
abbrev Files := List (Path × File)

namespace Files

/-- What stands at a path. -/
def lookup? (files : Files) (path : Path) : Option File :=
  if path.isEmpty then some .directory
  else
    match files.find? (·.1 == path) with
    | some (_, file) => some file
    | none =>
      if files.any fun (place, _) =>
          path.length < place.length && place.take path.length == path then
        some .directory
      else none

/-- Puts a file at a path, in place of what stood there. -/
def put (files : Files) (path : Path) (file : File) : Files :=
  files.filter (·.1 != path) ++ [(path, file)]

/-- What following a written path leads to. -/
inductive Target where
  /-- A place that is filled. -/
  | found (path : Path) (file : File)
  /-- A free place in an existing directory. -/
  | free (path : Path)
  | failed (problem : PathProblem)

/-- Follows the components of a written path from a directory. -/
def follow (files : Files) (here : Path) : List String → Target
  | [] => .found here .directory
  | component :: rest =>
    if component = "" ∨ component = "." then follow files here rest
    else if component = ".." then follow files here.dropLast rest
    else
      let place := here ++ [component]
      match files.lookup? place with
      | some .directory => follow files place rest
      | some file => if rest.isEmpty then .found place file else .failed .notDirectory
      | none => if rest.isEmpty then .free place else .failed .missing

/-- What a written path leads to.  A path from the root of the machine, or out of the working
directory, leads nowhere. -/
def target (files : Files) (path : String) : Target :=
  let components := (Text.pieces '/' path.toList).map String.ofList
  if path.isEmpty ∨ path.startsWith "/" ∨ leavesWorkingDirectory 0 components then .failed .missing
  else files.follow [] components
where
  /-- Whether more components go up than down. -/
  leavesWorkingDirectory (depth : Nat) : List String → Bool
    | [] => false
    | component :: rest =>
      if component = "" ∨ component = "." then leavesWorkingDirectory depth rest
      else if component = ".." then
        match depth with
        | 0 => true
        | depth + 1 => leavesWorkingDirectory depth rest
      else leavesWorkingDirectory (depth + 1) rest

/-- The file that a written path leads to. -/
def openFile (files : Files) (path : String) : Except Failure File :=
  if path.toList.contains (Char.ofNat 0) then throw .nullInPath
  else
    match files.target path with
    | .found _ .directory => throw (.path .isDirectory path)
    | .found _ file => pure file
    | .free _ => throw (.path .missing path)
    | .failed problem => throw (.path problem path)

/-- The characters of a text file, with its line endings unified. -/
def readText (files : Files) (path : String) : Except Failure (List Char) := do
  match ← files.openFile path with
  | .bytes content =>
    match Text.decodeUtf8? content with
    | some text => return Text.unifyLineEndings text
    | none => throw .notUtf8
  | _ => throw .notUtf8

/-- The value saved in a file. -/
def readSaved (files : Files) (path : String) : Except Failure Value := do
  match ← files.openFile path with
  | .saved value => return value
  | .bytes content =>
    match Saved.read? content with
    | some value => return value
    | none => throw .notSaved
  | .directory => throw .notSaved

/-- A written path without the slashes at its end. -/
def withoutTrailingSlashes (path : String) : String :=
  String.ofList (path.toList.reverse.dropWhile (· = '/')).reverse

/-- The files after a text was written to a path.  A path that ends in a slash can only be that of a
directory. -/
def writeText (files : Files) (path : String) (text : List Char) : Except Failure Files :=
  if path.toList.contains (Char.ofNat 0) then throw .nullInPath
  else if path.endsWith "/" then
    match files.target (withoutTrailingSlashes path) with
    | .failed problem => throw (.path problem path)
    | _ => throw (.path .isDirectory path)
  else
    match files.target path with
    | .found _ .directory => throw (.path .isDirectory path)
    | .found place _ => pure (files.put place (.bytes (Text.encodeUtf8 text)))
    | .free place => pure (files.put place (.bytes (Text.encodeUtf8 text)))
    | .failed problem => throw (.path problem path)

/-- The names in a directory, in order of their code points. -/
def namesIn (files : Files) (path : Path) : List String :=
  let names := files.filterMap fun (place, _) =>
    if path.length < place.length && place.take path.length == path then place[path.length]?
    else none
  names.eraseDups.mergeSort (· ≤ ·)

/-- The names in the directory that a written path leads to. -/
def listing (files : Files) (path : String) : Except Failure (List String) :=
  match files.target path with
  | .found place .directory => pure (files.namesIn place)
  | .found _ _ => throw (.path .notDirectory path)
  | .free _ => throw (.path .missing path)
  | .failed problem => throw (.path problem path)

/-- Whether a written path leads to a directory. -/
def isDirectory (files : Files) (path : String) : Bool :=
  match files.target path with
  | .found _ .directory => true
  | _ => false

/-- Whether a written path leads to something. -/
def isFilled (files : Files) (path : String) : Bool :=
  match files.target path with
  | .found _ _ => true
  | _ => false

/-- The name in a directory that was filled last; names that begin with a dot are hidden. -/
def newestIn? (files : Files) (path : Path) : Option String :=
  (files.filterMap fun (place, _) =>
    if path.length < place.length && place.take path.length == path then
      (place[path.length]?).filter fun name => !name.startsWith "."
    else none).getLast?

/-- The files after the directories along a written path were made, as far as they were missing. -/
def makeDirectories (files : Files) (path : String) : Except Failure Files :=
  go files [] "" ((Text.pieces '/' path.toList).map String.ofList)
where
  /-- Makes the directories of the components from a directory on; `shown` is what was written so
  far. -/
  go (files : Files) (here : Path) (shown : String) : List String → Except Failure Files
    | [] => pure files
    | component :: rest =>
      let shown := if shown.isEmpty then component else shown ++ "/" ++ component
      if component = "" ∨ component = "." then go files here shown rest
      else if component = ".." then go files here.dropLast shown rest
      else
        let place := here ++ [component]
        match files.lookup? place with
        | some .directory => go files place shown rest
        | none => go (files.put place .directory) place shown rest
        | some _ =>
          match rest with
          | [] => throw (.path .occupied shown)
          | next :: _ => throw (.path .notDirectory (shown ++ "/" ++ next))

/-- The content of the file at a path, for a file of bytes. -/
def content? (files : Files) (path : Path) : Option (List UInt8) :=
  match files.lookup? path with
  | some (.bytes content) => some content
  | _ => none

/-- The files of bytes that are new or have changed since an earlier state. -/
def changesSince (earlier files : Files) : List (Path × List UInt8) :=
  files.filterMap fun (path, file) =>
    match file with
    | .bytes content => if earlier.content? path == some content then none else some (path, content)
    | _ => none

end Files

end WorkflowAudit
