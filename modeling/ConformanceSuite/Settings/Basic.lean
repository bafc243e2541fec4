import ConformanceSuite.IpAddress
import ConformanceSuite.Swagger.Registry
import ConformanceSuite.Text.Blank

/-!
# Settings

The settings of the server, of the documents of schemas, of requests and of the audit, with their
defaults and limits. Settings are judged section by section, and the first fault is reported.
-/

namespace ConformanceSuite

/-- The settings of the server. -/
structure ServerSettings where
  bind : String := "127.0.0.1:8443"
  maxBodyBytes : UInt64 := 1048576
  deriving DecidableEq

/-- The settings of the documents of schemas. -/
structure SchemaSettings where
  specDirs : List String := ContractRegistry.defaultDirs
  deriving DecidableEq

/-- The settings of requests. -/
structure HttpSettings where
  timeoutMillis : UInt64 := 30000
  allowHttp : Bool := false
  userAgent : String := "ob-conformance/0.1.0"
  maxResponseBytes : UInt64 := 10485760
  deriving DecidableEq

/-- Where the audit goes. -/
inductive AuditSink where
  | stderr
  | file
  | none
  deriving DecidableEq

/-- The settings of the audit. -/
structure AuditSettings where
  sink : AuditSink := .stderr
  path : Option String := Option.none
  deriving DecidableEq

/-- All settings. -/
structure Settings where
  server : ServerSettings := {}
  schema : SchemaSettings := {}
  http : HttpSettings := {}
  audit : AuditSettings := {}
  deriving DecidableEq

namespace Settings

/-! ### Faults -/

/-- What is wrong with a path. -/
inductive PathFault where
  | blank
  | tooLong
  | componentTooLong
  deriving DecidableEq

/-- What is wrong with settings, or with the file that holds them. -/
inductive Fault where
  | bodyLimitZero
  | bindAddress
  | noSpecDirs
  | tooManySpecDirs
  | path (field : String) (fault : PathFault)
  | timeout
  | responseLimitZero
  | userAgentBlank
  | auditPathMissing
  | auditPathUnused
  | filePath (fault : PathFault)
  | fileTooLarge
  | fileNotText
  deriving DecidableEq

/-- The least timeout of a request, in milliseconds. -/
def minTimeout : UInt64 := 100

/-- The greatest timeout of a request, in milliseconds. -/
def maxTimeout : UInt64 := 300000

/-- A fault in words. -/
def Fault.message : Fault → String
  | .bodyLimitZero => "server.max_body_bytes must be greater than zero"
  | .bindAddress => "server.bind is not a socket address"
  | .noSpecDirs => "schema.spec_dirs must be non-empty"
  | .tooManySpecDirs => "schema.spec_dirs has too many entries"
  | .path field .blank => s!"{field} must be non-empty"
  | .path field .tooLong => s!"{field} exceeds max length"
  | .path field .componentTooLong => s!"{field} path component too long"
  | .timeout => s!"http.timeout_ms must be between {minTimeout} and {maxTimeout}"
  | .responseLimitZero => "http.max_response_bytes must be greater than zero"
  | .userAgentBlank => "http.user_agent must be non-empty"
  | .auditPathMissing => "audit.path required for file sink"
  | .auditPathUnused => "audit.path only applies to the file sink"
  | .filePath .componentTooLong => "config path component too long"
  | .filePath _ => "config path exceeds max length"
  | .fileTooLarge => "config file exceeds size limit"
  | .fileNotText => "config file must be utf-8"

/-- Why settings were not loaded or not put to use. -/
inductive Error where
  | io (error : FileError)
  | parse
  | invalid (fault : Fault)
  deriving DecidableEq

/-- An error in words; those of a text that cannot be read are left open. -/
def Error.message : Error → String
  | .io error => s!"config io error: {error.message}"
  | .parse => "config parse error"
  | .invalid fault => s!"invalid config: {fault.message}"

/-! ### Paths -/

/-- The greatest length of a path, in bytes. -/
def maxPathLength : Nat := 4096

/-- The greatest length of a step of a path, in bytes. -/
def maxComponentLength : Nat := 255

/-- What is wrong with the length of a path. -/
def pathLengthFault? (path : String) : Option PathFault :=
  if maxPathLength < path.utf8ByteSize then some .tooLong
  else if (Path.steps path).any (maxComponentLength < ·.utf8ByteSize) then some .componentTooLong
  else none

/-- What is wrong with a path in the settings. White space around it does not count. -/
def pathFault? (path : String) : Option PathFault :=
  let path := Text.trim path
  if path.isEmpty then some .blank else pathLengthFault? path

/-- Require that nothing is wrong with a path in the settings. -/
def checkPath (field path : String) : Except Fault Unit :=
  match pathFault? path with
  | none => .ok ()
  | some fault => .error (.path field fault)

/-! ### Sections -/

/-- Require a condition. -/
def require (holds : Bool) (fault : Fault) : Except Fault Unit :=
  if holds then .ok () else .error fault

end Settings

namespace ServerSettings

/-- The address at which the server listens. White space around it does not count. -/
def address? (s : ServerSettings) : Option SocketAddress :=
  SocketAddress.ofChars? (Text.trimChars s.bind.toList)

/-- Judge the settings of the server. -/
def check (s : ServerSettings) : Except Settings.Fault Unit := do
  Settings.require (s.maxBodyBytes ≠ 0) .bodyLimitZero
  Settings.require s.address?.isSome .bindAddress

end ServerSettings

namespace SchemaSettings

/-- The greatest number of directories. -/
def maxSpecDirs : Nat := 16

/-- Judge the settings of the documents of schemas. -/
def check (s : SchemaSettings) : Except Settings.Fault Unit := do
  Settings.require (!s.specDirs.isEmpty) .noSpecDirs
  Settings.require (s.specDirs.length ≤ maxSpecDirs) .tooManySpecDirs
  s.specDirs.forM (Settings.checkPath "schema.spec_dirs")

/-- The registry over the directories. -/
def registry (s : SchemaSettings) : ContractRegistry := .ofDirs s.specDirs

end SchemaSettings

namespace HttpSettings

/-- Judge the settings of requests. -/
def check (s : HttpSettings) : Except Settings.Fault Unit := do
  Settings.require (Settings.minTimeout ≤ s.timeoutMillis ∧ s.timeoutMillis ≤ Settings.maxTimeout)
    .timeout
  Settings.require (s.maxResponseBytes ≠ 0) .responseLimitZero
  Settings.require (!Text.isBlank s.userAgent) .userAgentBlank

end HttpSettings

namespace AuditSettings

/-- Judge the settings of the audit: a path is given if and only if the audit goes to a file. -/
def check (s : AuditSettings) : Except Settings.Fault Unit :=
  match s.sink, s.path with
  | .file, none => .error .auditPathMissing
  | .file, some path => Settings.checkPath "audit.path" path
  | _, some _ => .error .auditPathUnused
  | _, none => .ok ()

end AuditSettings

namespace Settings

/-- Judge settings: the first fault, in the order server, schema, requests, audit. -/
def check (s : Settings) : Except Fault Unit := do
  s.server.check
  s.schema.check
  s.http.check
  s.audit.check

end Settings

end ConformanceSuite
