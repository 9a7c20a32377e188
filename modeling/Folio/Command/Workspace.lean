import Folio.Command.Host

/-!
# Workspaces

A description of what a command finds around it: files and directories, the working directory,
variables, and the standard input.

## Main definitions

* `Workspace` — such a description.
* `Workspace.locate` — the place that a path leads to.
* `Workspace.read`, `Workspace.write` — the text of a file.
* `Workspace.host` — the description as the surroundings of a command.
-/

namespace Folio

/-- A place in the tree of directories: the names on the way from the root. -/
abbrev Place := List String

/-- What a command finds around it.  Directories on the way to a file or to another directory need
not be listed. -/
structure Workspace where
  /-- The files. -/
  files : List (Place × ByteArray) := []
  /-- More directories. -/
  folders : List Place := []
  /-- The working directory. -/
  directory : Place := []
  /-- The variables. -/
  vars : List (String × String) := []
  /-- The standard input. -/
  input : ByteArray := ByteArray.empty

namespace Workspace

/-- The file at a place. -/
def file? (w : Workspace) (place : Place) : Option ByteArray := w.files.lookup place

/-- There is a directory at a place. -/
def isFolder (w : Workspace) (place : Place) : Bool :=
  place.isEmpty || w.folders.any place.isPrefixOf
    || w.files.any fun f => place.isPrefixOf f.1 && place != f.1

/-- The place that a name leads to. -/
def step (place : Place) (name : String) : Place :=
  if name == "." then place
  else if name == ".." then place.dropLast
  else place ++ [name]

/-- The longest name, in bytes. -/
def longestName : Nat := 255

/-- The longest path, in bytes. -/
def longestPath : Nat := 4095

/-- Follows names from a place.  All places on the way, but not the last, are directories. -/
def walk (w : Workspace) (place : Place) : List String → Except FileError Place
  | [] => .ok place
  | name :: names =>
    if w.isFolder place then
      if longestName < name.utf8ByteSize then .error .longName
      else w.walk (step place name) names
    else if (w.file? place).isSome then .error .notDirectory
    else .error .missing

/-- The place that a path leads to. -/
def locate (w : Workspace) (path : String) : Except FileError Place :=
  if longestPath < path.utf8ByteSize then .error .longName
  else w.walk (if path.startsWith "/" then [] else w.directory) (pathNames path)

/-- The place of a directory, if the path ends with a slash, or of a file. -/
def locateExisting (w : Workspace) (path : String) : Except FileError Place := do
  let place ← w.locate path
  if path.endsWith "/" then w.walk place ["."] else return place

/-- There is something at a path. -/
def isPresent (w : Workspace) (path : String) : Bool :=
  match w.locateExisting path with
  | .ok place => w.isFolder place || (w.file? place).isSome
  | .error _ => false

/-- The text of a file. -/
def read (w : Workspace) (path : String) : Except FileError String := do
  let place ← w.locateExisting path
  if w.isFolder place then .error .isDirectory
  else match w.file? place with
    | some bytes => textOf bytes
    | none => .error .missing

/-- The workspace with a file at a place. -/
def put (w : Workspace) (place : Place) (bytes : ByteArray) : Workspace :=
  { w with files := (place, bytes) :: w.files.filter fun f => f.1 != place }

/-- The workspace with the text of a file replaced. -/
def write (w : Workspace) (path text : String) : Except FileError Workspace := do
  let place ← w.locate path
  if path.endsWith "/" || w.isFolder place then .error .isDirectory
  else return w.put place text.toUTF8

/-- The path of a place. -/
def pathOf (place : Place) : String :=
  if place.isEmpty then "/" else String.join (place.map ("/" ++ ·))

/-- A workspace as the surroundings of a command. -/
def host : Host (StateM Workspace) where
  directory := do return pathOf (← get).directory
  lookup name := do return (← get).vars.lookup name
  isPresent path := do return (← get).isPresent path
  read path := do return (← get).read path
  readInput := do return textOf (← get).input
  write path text := do
    match (← get).write path text with
    | .ok w => set w; return .ok ()
    | .error e => return .error e

end Workspace

end Folio
