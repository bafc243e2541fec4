import ConformanceSuite.Settings.Basic
import ConformanceSuite.Toml.Reader

/-!
# Settings from texts

A text gives settings by section; what it does not give keeps its default, and what it gives must
be known. A section may also be given as an array, in the order of its settings.
-/

namespace ConformanceSuite.Settings

open Toml

/-- The values that a section gives to known settings. -/
def known (names : List String) : Value → Option Members
  | .table _ members =>
    if members.all fun m => names.contains m.1 then some members else none
  | .array _ items => some (names.zip items)
  | _ => none

/-- The value that a section gives to a setting, or its default. -/
def setting {α : Type} (members : Members) (name : String) (default : α)
    (read : Value → Option α) : Option α :=
  match members.lookup name with
  | none => some default
  | some value => read value

/-- A text. -/
def text? : Value → Option String
  | .string s => some s
  | _ => none

/-- A list of texts. -/
def texts? : Value → Option (List String)
  | .array _ items => items.mapM text?
  | _ => none

/-- A truth value. -/
def flag? : Value → Option Bool
  | .boolean b => some b
  | _ => none

/-- A number of 64 bits. -/
def count? : Value → Option UInt64
  | .integer n => if 0 ≤ n ∧ n < Int.pow 2 64 then some n.toNat.toUInt64 else none
  | _ => none

/-- The sinks by their names. -/
def sinks : List (String × AuditSink) := [("stderr", .stderr), ("file", .file), ("none", .none)]

/-- Whether a value has nothing in it. -/
def isEmptyValue : Value → Bool
  | .table _ [] | .array _ [] => true
  | _ => false

/-- A sink: its name, or a table with the name as its one key and nothing behind it. -/
def sink? : Value → Option AuditSink
  | .string name => sinks.lookup name
  | .table _ [(name, value)] => if isEmptyValue value then sinks.lookup name else none
  | _ => none

/-- The settings of the server. -/
def server? (v : Value) : Option ServerSettings := do
  let members ← known ["bind", "max_body_bytes"] v
  let d : ServerSettings := {}
  some ⟨← setting members "bind" d.bind text?,
    ← setting members "max_body_bytes" d.maxBodyBytes count?⟩

/-- The settings of the documents of schemas. -/
def schema? (v : Value) : Option SchemaSettings := do
  let members ← known ["spec_dirs"] v
  let d : SchemaSettings := {}
  some ⟨← setting members "spec_dirs" d.specDirs texts?⟩

/-- The settings of requests. -/
def http? (v : Value) : Option HttpSettings := do
  let members ← known ["timeout_ms", "allow_http", "user_agent", "max_response_bytes"] v
  let d : HttpSettings := {}
  some ⟨← setting members "timeout_ms" d.timeoutMillis count?,
    ← setting members "allow_http" d.allowHttp flag?,
    ← setting members "user_agent" d.userAgent text?,
    ← setting members "max_response_bytes" d.maxResponseBytes count?⟩

/-- The settings of the audit. -/
def audit? (v : Value) : Option AuditSettings := do
  let members ← known ["sink", "path"] v
  let d : AuditSettings := {}
  some ⟨← setting members "sink" d.sink sink?,
    ← setting members "path" d.path fun v => (text? v).map some⟩

/-- The settings of a root table. -/
def ofMembers? (root : Members) : Option Settings := do
  let members ← known ["server", "schema", "http", "audit"] (.table .header root)
  some ⟨← setting members "server" {} server?, ← setting members "schema" {} schema?,
    ← setting members "http" {} http?, ← setting members "audit" {} audit?⟩

/-- Read and judge settings. -/
def ofText (text : String) : Except Error Settings :=
  match (Toml.read text).bind ofMembers? with
  | none => .error .parse
  | some s =>
    match s.check with
    | .error fault => .error (.invalid fault)
    | .ok _ => .ok s

end ConformanceSuite.Settings
