/-!
# The surroundings of the command

What the command needs from the machine that it runs on.  The monad is left open, so that the same
command runs on a machine and on a description of one.

## Main definitions

* `FileError` — why a file cannot be read or written.
* `Host` — what the command needs.
* `pathNames` — the names on a path.
* `enclosing` — a directory with all directories around it.
-/

namespace Folio

/-- Why a file cannot be read or written. -/
inductive FileError where
  /-- There is none, or no directory that it would be in. -/
  | missing
  /-- It is a directory. -/
  | isDirectory
  /-- The path goes through a file. -/
  | notDirectory
  /-- The path, or a name in it, is too long. -/
  | longName
  /-- Its bytes are no text. -/
  | notText
  /-- Something else. -/
  | other (reason : String)
  deriving DecidableEq, Repr

/-- The text of an error. -/
def FileError.message : FileError → String
  | .missing => "No such file or directory (os error 2)"
  | .isDirectory => "Is a directory (os error 21)"
  | .notDirectory => "Not a directory (os error 20)"
  | .longName => "File name too long (os error 36)"
  | .notText => "stream did not contain valid UTF-8"
  | .other reason => reason

/-- The text that bytes encode. -/
def textOf (bytes : ByteArray) : Except FileError String :=
  match String.fromUTF8? bytes with
  | some text => .ok text
  | none => .error .notText

/-- What the command needs from the machine that it runs on. -/
structure Host (m : Type → Type) where
  /-- The path of the working directory. -/
  directory : m String
  /-- The value of a variable. -/
  lookup : String → m (Option String)
  /-- There is a file or a directory at a path. -/
  isPresent : String → m Bool
  /-- The text of a file. -/
  read : String → m (Except FileError String)
  /-- The text of the standard input. -/
  readInput : m (Except FileError String)
  /-- Replaces the text of a file. -/
  write : String → String → m (Except FileError Unit)

/-! ### Paths -/

/-- The names on a path, from the outside. -/
def pathNames (path : String) : List String :=
  ((path.toList.splitOn '/').filter fun name => !name.isEmpty).map String.ofList

/-- The path of something in a directory. -/
def inDirectory (directory name : String) : String :=
  if directory.endsWith "/" then directory ++ name else directory ++ "/" ++ name

/-- The directory given by the names on its way, innermost first, with all around it. -/
def enclosingFrom : List String → List String
  | [] => ["/"]
  | name :: outer =>
    String.join ((name :: outer).reverse.map ("/" ++ ·)) :: enclosingFrom outer

/-- A directory with all directories around it, from the inside. -/
def enclosing (directory : String) : List String := enclosingFrom (pathNames directory).reverse

end Folio
