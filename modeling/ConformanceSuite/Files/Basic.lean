import ConformanceSuite.Text.Split

/-!
# Files

Paths, what goes wrong with files, and what a program can ask a file system for. A path is split
into steps at slashes; its extension is what follows the last point of its last step.
-/

namespace ConformanceSuite

/-- Why a file operation failed. -/
inductive FileError where
  | notFound
  | notDirectory
  | isDirectory
  | nameTooLong
  | nulInName
  deriving DecidableEq

/-- A failure in words. -/
def FileError.message : FileError → String
  | .notFound => "No such file or directory (os error 2)"
  | .notDirectory => "Not a directory (os error 20)"
  | .isDirectory => "Is a directory (os error 21)"
  | .nameTooLong => "File name too long (os error 36)"
  | .nulInName => "file name contained an unexpected NUL byte"

/-- Whether a failure is met only when the content is read, not when the file is opened. -/
def FileError.whileReading (e : FileError) : Bool := e = .isDirectory

/-- What can be asked of a file system: the content of a file, the names in a directory in whatever
order they are kept, whether a path leads to a file, and the working directory. -/
structure FileSystem where
  read : (path : String) → Except FileError (List UInt8)
  list : (path : String) → Except FileError (List String)
  isFile : (path : String) → Bool
  workingDirectory : String

namespace Path

/-- The steps of a path; repeated slashes count as one. -/
def steps (path : String) : List String :=
  ((Text.splitAll '/' path.toList).filter (!·.isEmpty)).map String.ofList

/-- Whether a path starts at the root. -/
def isAbsolute (path : String) : Bool := path.toList.head? == some '/'

/-- Whether a path can only lead to a directory. -/
def namesDirectory (path : String) : Bool := path.toList.getLast? == some '/'

/-- The path of a name in a directory. -/
def join (directory name : String) : String :=
  if directory.isEmpty || namesDirectory directory then directory ++ name
  else directory ++ "/" ++ name

/-- The last step of a path, unless it leads upwards. -/
def name? (path : String) : Option String :=
  match ((steps path).filter (· != ".")).getLast? with
  | some ".." => none
  | name => name

/-- What follows the last point of a name; a name with no other point than its first character has
no extension. -/
def nameExtension (name : String) : String :=
  let reversed := name.toList.reverse
  match reversed.dropWhile (· != '.') with
  | [] | [_] => ""
  | _ :: _ => String.ofList (reversed.takeWhile (· != '.')).reverse

/-- The extension of a path. -/
def extension (path : String) : String := ((name? path).map nameExtension).getD ""

end Path

end ConformanceSuite
