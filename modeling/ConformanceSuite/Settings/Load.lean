import ConformanceSuite.EventLog
import ConformanceSuite.Settings.Decode

/-!
# Settings in files and in use

Settings are loaded from the file that is named, else from the one that the environment names, else
from a file of a fixed name. They say where the server listens and where its audit goes.
-/

namespace ConformanceSuite.Settings

/-- The file of settings, if no other is named. -/
def defaultFile : String := "ob-conformance.toml"

/-- The variable of the environment that names the file of settings. -/
def environmentVariable : String := "OB_CONFORMANCE_CONFIG"

/-- The greatest size of a file of settings, in bytes. -/
def maxFileSize : Nat := 1024 * 1024

/-- The path of the file of settings, from the one that is named and the variables of the
environment. -/
def filePath (named : Option String) (environment : KeyMap String) : String :=
  (named.orElse fun _ => environment.get? environmentVariable).getD defaultFile

/-- Read settings from the content of a file. -/
def ofContent (content : List UInt8) : Except Error Settings :=
  if maxFileSize < content.length then .error (.invalid .fileTooLarge)
  else match String.fromUTF8? ⟨content.toArray⟩ with
    | none => .error (.invalid .fileNotText)
    | some text => ofText text

/-- Load settings. -/
def load (fs : FileSystem) (named : Option String) (environment : KeyMap String) :
    Except Error Settings :=
  let path := filePath named environment
  match pathLengthFault? path with
  | some fault => .error (.invalid (.filePath fault))
  | none =>
    match fs.read path with
    | .error e => .error (.io e)
    | .ok content => ofContent content

/-! ### The audit -/

/-- Where events of the audit go once it has been opened. -/
inductive AuditDestination where
  | stderr
  | log (path : String)
  | nowhere
  deriving DecidableEq

/-- Open the audit. White space around the path of its file does not count. -/
def openAudit (s : Settings) (files : FileTree) : Except Error (AuditDestination × FileTree) :=
  match s.audit.sink, s.audit.path with
  | .stderr, _ => .ok (.stderr, files)
  | .none, _ => .ok (.nowhere, files)
  | .file, none => .error (.invalid .auditPathMissing)
  | .file, some path =>
    match EventLog.openAt files (Text.trim path) with
    | .error e => .error (.io e)
    | .ok files => .ok (.log (Text.trim path), files)

/-! ### Listening -/

/-- Why the server does not start. -/
inductive StartError where
  | config (error : Error)
  | transport (text : String)
  deriving DecidableEq

/-- An error in words. -/
def StartError.message : StartError → String
  | .config error => s!"config error: {error.message}"
  | .transport text => s!"transport error: {text}"

/-- Whether a port, other than one chosen by the system, is reserved. -/
def isReservedPort (port : UInt16) : Bool := 0 < port && port < 1024

/-- Whether an address of version 4 is one of the machine's own: any, or a loopback. -/
def isOwnHost (a : Ipv4) : Bool :=
  a.octets.head?.map Fin.val == some 127 || a.octets.all (·.val == 0)

/-- Whether an address is one at which the machine can listen. -/
def isOwnAddress : SocketAddress → Bool
  | .v4 host _ => isOwnHost host
  | .v6 host _ _ =>
    match host.groups.map Fin.val with
    | [0, 0, 0, 0, 0, 0, 0, last] => last ≤ 1
    | [0, 0, 0, 0, 0, 65535, first, last] => first / 256 == 127 || (first == 0 && last == 0)
    | _ => false

/-- The port of an address. -/
def portOf : SocketAddress → UInt16
  | .v4 _ port => port
  | .v6 _ _ port => port

/-- Listen at the address of the settings. -/
def listen (s : Settings) : Except StartError Unit :=
  match s.server.address? with
  | none => .error (.config (.invalid .bindAddress))
  | some address =>
    if isReservedPort (portOf address) then
      .error (.transport "http bind failed: Permission denied (os error 13)")
    else if isOwnAddress address then .ok ()
    else .error (.transport "http bind failed: Cannot assign requested address (os error 99)")

end ConformanceSuite.Settings
