import ConformanceSuite.JsonSchema.Metaschema
import ConformanceSuite.KeyMap
import ConformanceSuite.Swagger.Document
import ConformanceSuite.Swagger.PathTemplate

/-!
# Operations

The operations of a document, with the schemas of their responses, and the choice of the operation
that a request is for.
-/

namespace ConformanceSuite.Swagger

open JsonSchema

/-- What a response body has to be: anything, a file, or a value that a schema allows. -/
inductive ResponseSchema where
  | absent
  | file
  | json (schema : SchemaSet)

/-- What is wrong with a declared operation. -/
inductive OperationFault where
  | unresolvedResponse (code : String)
  | invalidSchema (fault : Fault)

/-- A fault in words. -/
def OperationFault.message : OperationFault → String
  | .unresolvedResponse code => s!"unresolved response reference for {code}"
  | .invalidSchema fault => s!"invalid schema: {fault.message}"

/-- An operation. -/
structure Operation where
  method : String
  template : String
  segments : PathTemplate
  produces : List String
  responses : KeyMap ResponseSchema

/-- The method and the template of an operation. -/
def operationKey (method template : String) : String := method ++ " " ++ template

/-- The method and the template of an operation. -/
def Operation.key (o : Operation) : String := operationKey o.method o.template

/-- The document that is compiled for a schema: the schema between the definitions of its
document. -/
def schemaDocument (definitions schema : Json) : Json :=
  .object [("definitions", definitions), ("allOf", .array [schema])]

/-- Read the schema of a response. -/
def ResponseSchema.ofJson (definitions : Json) : Option Json → Except Fault ResponseSchema
  | none => .ok .absent
  | some schema =>
    if schema.stringAt? "type" = some "file" then .ok .file
    else (SchemaSet.compile (schemaDocument definitions schema)).map .json

/-- Read the responses of an operation by their codes. -/
def readResponses (d : SwaggerDocument) :
    List (String × Json) → Except OperationFault (List (String × ResponseSchema))
  | [] => .ok []
  | (code, declared) :: rest => do
    let schema ← match d.followResponse declared with
      | none => .error (.unresolvedResponse code)
      | some response =>
        (ResponseSchema.ofJson d.definitions (response.get? "schema")).mapError .invalidSchema
    let others ← readResponses d rest
    .ok ((code, schema) :: others)

/-- Read an operation. Its content types are those of the document if it names none. -/
def Operation.ofDeclared (d : SwaggerDocument) (o : DeclaredOperation) :
    Except OperationFault Operation := do
  let produces := match o.body.get? "produces" with
    | some list => SwaggerDocument.textsOf (some list)
    | none => d.produces
  let responses ← readResponses d (((o.body.get? "responses").bind Json.object?).getD [])
  .ok ⟨o.method, o.template, .ofString o.template, produces, .ofList responses⟩

/-- Read operations in order; a fault is reported with the key of its operation. -/
def readOperations (d : SwaggerDocument) :
    List DeclaredOperation → Except (String × OperationFault) (List Operation)
  | [] => .ok []
  | o :: rest => do
    let operation ← (Operation.ofDeclared d o).mapError (operationKey o.method o.template, ·)
    let others ← readOperations d rest
    .ok (operation :: others)

/-- The operations of a document in its order, and the path in front of their templates. -/
structure OperationIndex where
  basePath : String
  operations : List Operation

namespace OperationIndex

/-- Index the operations of a document. -/
def ofDocument (d : SwaggerDocument) : Except (String × OperationFault) OperationIndex :=
  (readOperations d d.operations).map (⟨d.basePath, ·⟩)

/-- Whether an operation is for a method and a path. -/
def isFor (method : String) (segments : List (List Char)) (o : Operation) : Bool :=
  Text.lowerAscii o.method == Text.lowerAscii method && o.segments.accepts segments

/-- The first of the operations with the most literal segments. -/
def best : List Operation → Option Operation
  | [] => none
  | o :: rest =>
    match best rest with
    | none => some o
    | some other => if o.segments.literals < other.segments.literals then some other else some o

/-- The operation for a method and a path behind the base path. -/
def bestMatch (index : OperationIndex) (method : String) (path : List Char) : Option Operation :=
  best (index.operations.filter (isFor method (pathSegments path)))

/-- A path without its query and its fragment. -/
def withoutQuery (path : List Char) : List Char := path.takeWhile fun c => c != '?' && c != '#'

/-- What stands behind the base path, if the path is the base path or a path below it. -/
def belowBase? (base path : List Char) : Option (List Char) :=
  if base.isEmpty || !base.isPrefixOf path then none
  else match path.drop base.length with
    | [] => some ['/']
    | '/' :: rest => some ('/' :: rest)
    | _ => none

/-- The operation for a method and a path: for the whole path if there is one, or else for what
stands behind the base path. -/
def find (index : OperationIndex) (method path : String) : Option Operation :=
  let path := withoutQuery path.toList
  match index.bestMatch method path with
  | some o => some o
  | none => (belowBase? index.basePath.toList path).bind (index.bestMatch method)

end OperationIndex

end ConformanceSuite.Swagger
