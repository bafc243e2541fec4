import ConformanceSuite.Files.Basic
import ConformanceSuite.KeyMap

/-!
# File trees

Files and directories under a root, with a working directory at which relative paths start. A path
is walked step by step, and every step but the last has to lead to a directory.
-/

namespace ConformanceSuite

/-- A file with its content, or a directory. -/
inductive FileNode where
  | file (content : List UInt8)
  | directory

/-- Files and directories by the texts of their absolute paths, and the working directory. The root
is always there. -/
structure FileTree where
  nodes : KeyMap FileNode
  workingDirectory : List String

namespace FileTree

/-- The text of an absolute path. -/
def key (place : List String) : String := String.join (place.map ("/" ++ ·))

/-- The tree of the working directory and the directories around it. -/
def ofWorkingDirectory (place : List String) : FileTree :=
  ⟨.ofList ((List.range place.length).map fun i => (key (place.take (i + 1)), .directory)), place⟩

/-- What stands at a place. -/
def nodeAt (t : FileTree) (place : List String) : Option FileNode :=
  if place.isEmpty then some .directory else t.nodes.get? (key place)

/-- Walk from a place along steps. -/
def walk (t : FileTree) : List String → List String → Except FileError (List String)
  | place, [] => .ok place
  | place, step :: rest =>
    match t.nodeAt place with
    | none => .error .notFound
    | some (.file _) => .error .notDirectory
    | some .directory =>
      if step = "." then t.walk place rest
      else if step = ".." then t.walk place.dropLast rest
      else if step.utf8ByteSize > 255 then .error .nameTooLong
      else if (t.nodeAt (place ++ [step])).isNone then .error .notFound
      else t.walk (place ++ [step]) rest

/-- Where a path starts. -/
def start (t : FileTree) (path : String) : List String :=
  if Path.isAbsolute path then [] else t.workingDirectory

/-- The steps of a path; one that can only lead to a directory ends with a step to itself. -/
def stepsOf (path : String) : List String :=
  Path.steps path ++ if Path.namesDirectory path then ["."] else []

/-- The fault of a path that no tree has. -/
def pathFault? (path : String) : Option FileError :=
  if path.contains '\x00' then some .nulInName
  else if path.isEmpty then some .notFound
  else if path.utf8ByteSize ≥ 4096 then some .nameTooLong
  else none

/-- The place to which a path leads. -/
def locate (t : FileTree) (path : String) : Except FileError (List String) :=
  match pathFault? path with
  | some e => .error e
  | none => t.walk (t.start path) (stepsOf path)

/-- The content of a file. -/
def read (t : FileTree) (path : String) : Except FileError (List UInt8) :=
  match t.locate path with
  | .error e => .error e
  | .ok place =>
    match t.nodeAt place with
    | some (.file content) => .ok content
    | _ => .error .isDirectory

/-- The names in a directory. -/
def list (t : FileTree) (path : String) : Except FileError (List String) :=
  match t.locate path with
  | .error e => .error e
  | .ok place =>
    match t.nodeAt place with
    | some (.file _) => .error .notDirectory
    | _ =>
      let front := (key place ++ "/").toList
      .ok ((t.nodes.keys.filterMap fun k =>
        if front.isPrefixOf k.toList then some (k.toList.drop front.length) else none).filter
          (fun name => !name.contains '/') |>.map String.ofList)

/-- Whether a path leads to a file. -/
def isFile (t : FileTree) (path : String) : Bool :=
  match t.locate path with
  | .ok place =>
    match t.nodeAt place with
    | some (.file _) => true
    | _ => false
  | .error _ => false

/-- What can be asked of a tree. -/
def system (t : FileTree) : FileSystem :=
  ⟨t.read, t.list, t.isFile, key t.workingDirectory⟩

/-- Put a node at a place. -/
def put (t : FileTree) (place : List String) (node : FileNode) : FileTree :=
  { t with nodes := t.nodes.insert (key place) node }

/-- Add content to a file; a file that is not there is created in a directory that is. -/
def append (t : FileTree) (path : String) (content : List UInt8) : Except FileError FileTree :=
  match t.locate path with
  | .ok place =>
    match t.nodeAt place with
    | some (.file old) => .ok (t.put place (.file (old ++ content)))
    | _ => .error .isDirectory
  | .error .notFound =>
    match pathFault? path, (Path.steps path).getLast? with
    | none, some name =>
      match t.walk (t.start path) ((Path.steps path).dropLast ++ ["."]) with
      | .error e => .error e
      | .ok directory =>
        if Path.namesDirectory path then .error .isDirectory
        else .ok (t.put (directory ++ [name]) (.file content))
    | _, _ => .error .notFound
  | .error e => .error e

/-- The place that a path means, whether it is there or not. -/
def placeOf (t : FileTree) (path : String) : List String :=
  (Path.steps path).foldl (fun place step =>
    if step = "." then place
    else if step = ".." then place.dropLast
    else place ++ [step]) (t.start path)

/-- Make a directory and the directories around it. -/
def makeDirectory (t : FileTree) (path : String) : FileTree :=
  let place := t.placeOf path
  (List.range place.length).foldl (fun t i => t.put (place.take (i + 1)) .directory) t

/-- Put a file at a path, and make the directories around it. -/
def write (t : FileTree) (path : String) (content : List UInt8) : FileTree :=
  let place := t.placeOf path
  let t := (List.range (place.length - 1)).foldl
    (fun t i => t.put (place.take (i + 1)) .directory) t
  t.put place (.file content)

/-- Remove what stands at a path, with everything in it. -/
def remove (t : FileTree) (path : String) : FileTree :=
  let own := key (t.placeOf path)
  let inside := (own ++ "/").toList
  { t with
    nodes := .ofList (t.nodes.entries.filter fun e =>
      e.1 != own && !inside.isPrefixOf e.1.toList) }

end FileTree

end ConformanceSuite
