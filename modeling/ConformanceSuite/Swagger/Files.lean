import ConformanceSuite.Files.Basic
import ConformanceSuite.Swagger.Contract
import ConformanceSuite.Yaml.Reader

/-!
# Documents in files

A document is loaded from a JSON or a YAML file of limited size. The document of a specification is
looked for in the first directory that can be listed, among its files in ascending order of names;
the first that cannot be loaded, or that has the title and the version, decides.
-/

namespace ConformanceSuite

namespace SwaggerDocument

/-- The greatest size of a file, in bytes. -/
def maxFileSize : Nat := 16 * 1024 * 1024

/-- The extensions of documents. -/
def extensions : List String := ["json", "yaml", "yml"]

/-- Whether a name is that of a document. -/
def isDocumentName (path : String) : Bool :=
  extensions.contains (Text.lowerAscii (Path.extension path))

/-- Whether a document is written in YAML. -/
def isYamlName (path : String) : Bool :=
  ["yaml", "yml"].contains (Text.lowerAscii (Path.extension path))

/-- Read the content of a file of limited size. -/
def readLimited (fs : FileSystem) (path : String) : Except ContractError (List UInt8) :=
  match fs.read path with
  | .error e =>
    let doing := if e.whileReading then "reading" else "opening"
    .error (.io s!"{doing} spec file failed, filename={path}: {e.message}")
  | .ok content =>
    if content.length > maxFileSize then
      .error (.io s!"spec file exceeds size limit, filename={path}")
    else .ok content

/-- Read a document from the content of a file. The reader of YAML does not say what is wrong with
a content, so that the message is empty then. -/
def ofContent (path : String) (content : List UInt8) : Except ContractError SwaggerDocument :=
  if isYamlName path then
    match Yaml.read content with
    | some root => .ok ⟨root⟩
    | none => .error (.parse path "")
  else match Json.parse content with
    | .ok root => .ok ⟨root⟩
    | .error e => .error (.parse path e.message)

/-- Load a document from a file. -/
def load (fs : FileSystem) (path : String) : Except ContractError SwaggerDocument :=
  match readLimited fs path with
  | .error e => .error e
  | .ok content => ofContent path content

end SwaggerDocument

namespace SwaggerContract

/-- The contract of the document in a file. -/
def ofFile (fs : FileSystem) (path : String) : Except ContractError SwaggerContract :=
  match SwaggerDocument.load fs path with
  | .error e => .error e
  | .ok d => ofDocument d

/-- The first directory that can be listed, with the names in it. If there is none, the failure of
the last one is reported. -/
def firstDirectory (fs : FileSystem) (failure : String) :
    List String → Except ContractError (String × List String)
  | [] => .error (.io failure)
  | dir :: rest =>
    match fs.list dir with
    | .ok names => .ok (dir, names)
    | .error e =>
      let place := s!"dirname={Text.quotedName dir}, wd={Text.quoted fs.workingDirectory}"
      firstDirectory fs s!"opening spec folder failed, {place}: {e.message}" rest

/-- The files of a directory that may be documents, in ascending order. -/
def candidates (fs : FileSystem) (dir : String) (names : List String) : List String :=
  ((names.mergeSort fun a b => decide (a ≤ b)).map (Path.join dir)).filter fun path =>
    fs.isFile path && SwaggerDocument.isDocumentName path

/-- The first of some files that decides about a specification. -/
def amongFiles (fs : FileSystem) (name version : String) :
    List String → Except ContractError SwaggerContract
  | [] => .error (.notFound name version)
  | path :: rest =>
    match SwaggerDocument.load fs path with
    | .error e => .error e
    | .ok d =>
      if d.version = version ∧ d.title = name then ofDocument d
      else amongFiles fs name version rest

/-- The contract of a specification, from the first of some directories that can be listed. -/
def forSpecification (fs : FileSystem) (dirs : List String) (name version : String) :
    Except ContractError SwaggerContract :=
  match firstDirectory fs "no spec folders configured" dirs with
  | .error e => .error e
  | .ok (dir, names) => amongFiles fs name version (candidates fs dir names)

end SwaggerContract

end ConformanceSuite
