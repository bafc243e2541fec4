import ConformanceSuite.Run.Event
import ConformanceSuite.Swagger.Files

/-!
# The registry of contracts

A registry keeps the contracts that it has built, by name and full version. An entry is never
replaced: a contract that was built while another took its place is given up for that one.
-/

namespace ConformanceSuite

/-- A contract that has been built, with a number that no other one has. -/
structure BuiltContract where
  serial : Nat
  contract : SwaggerContract

/-- A registry: the directories of documents, the contracts kept, and the number of contracts built
so far. -/
structure ContractRegistry where
  dirs : List String
  cache : List ((String × String) × BuiltContract)
  builds : Nat

namespace ContractRegistry

/-- The directories of documents, if no others are given. -/
def defaultDirs : List String := ["pkg/schema/spec/v3.1.0", "../../pkg/schema/spec/v3.1.0"]

/-- The registry that has built nothing. -/
def ofDirs (dirs : List String) : ContractRegistry := ⟨dirs, [], 0⟩

/-- A version of two components gets a third one. -/
def fullVersion (version : String) : String :=
  if (Text.splitAll '.' version.toList).length = 2 then version ++ ".0" else version

/-- The key of a specification. -/
def keyOf (name version : String) : String × String := (name, fullVersion version)

/-- The contract kept under a key. -/
def find? (r : ContractRegistry) (key : String × String) : Option BuiltContract :=
  r.cache.lookup key

/-- Build a contract for a key from the files as they are. -/
def build (r : ContractRegistry) (fs : FileSystem) (key : String × String) :
    Except ContractError BuiltContract × ContractRegistry :=
  match SwaggerContract.forSpecification fs r.dirs key.1 key.2 with
  | .error e => (.error e, r)
  | .ok contract => (.ok ⟨r.builds, contract⟩, { r with builds := r.builds + 1 })

/-- Keep a contract under a key, unless there is one: that one is taken. -/
def insertOrTake (r : ContractRegistry) (key : String × String) (built : BuiltContract) :
    BuiltContract × ContractRegistry :=
  match r.find? key with
  | some kept => (kept, r)
  | none => (built, { r with cache := r.cache ++ [(key, built)] })

/-- The contract of a specification, built on first use. -/
def contract (r : ContractRegistry) (fs : FileSystem) (name version : String) :
    Except ContractError BuiltContract × ContractRegistry :=
  let key := keyOf name version
  match r.find? key with
  | some kept => (.ok kept, r)
  | none =>
    match r.build fs key with
    | (.error e, r) => (.error e, r)
    | (.ok built, r) =>
      let (kept, r) := r.insertOrTake key built
      (.ok kept, r)

/-- The number of contracts kept. -/
def size (r : ContractRegistry) : Nat := r.cache.length

/-- The judge of responses for a named specification. -/
def resolve (r : ContractRegistry) (fs : FileSystem) (spec : ApiSpecification) :
    Except ValidatorUnavailable ResponseJudge × ContractRegistry :=
  match r.contract fs spec.name spec.version with
  | (.ok built, r) => (.ok built.contract.validate, r)
  | (.error e, r) => (.error ⟨e.message⟩, r)

end ContractRegistry

end ConformanceSuite
