import ConformanceSuite.Json.Basic
import ConformanceSuite.Text.Blank

/-!
# Swagger documents

A Swagger document is a JSON value in which the interesting parts are looked up; a part that is
missing or of another kind counts as empty.
-/

namespace ConformanceSuite

/-- A Swagger document. -/
structure SwaggerDocument where
  root : Json

/-- An operation as a document declares it: its method in capitals, its path template and its
description. -/
structure DeclaredOperation where
  method : String
  template : String
  body : Json

namespace SwaggerDocument

/-- A text, or the empty one if there is none. -/
def textOf (value : Option Json) : String := ((value.bind Json.string?)).getD ""

/-- The texts in a list; other items are left out. -/
def textsOf (value : Option Json) : List String :=
  ((value.bind Json.array?).getD []).filterMap Json.string?

/-- The version of the format. -/
def swagger (d : SwaggerDocument) : String := textOf (d.root.get? "swagger")

/-- The title. -/
def title (d : SwaggerDocument) : String := textOf ((d.root.get? "info").bind (·.get? "title"))

/-- The version of the described interface. -/
def version (d : SwaggerDocument) : String := textOf ((d.root.get? "info").bind (·.get? "version"))

/-- A text without the slashes at its end. -/
def trimSlashes (s : String) : String :=
  String.ofList (s.toList.reverse.dropWhile (· == '/')).reverse

/-- The path in front of all templates, without slashes at its end. -/
def basePath (d : SwaggerDocument) : String := trimSlashes (textOf (d.root.get? "basePath"))

/-- The content types of responses, if operations say nothing else. -/
def produces (d : SwaggerDocument) : List String := textsOf (d.root.get? "produces")

/-- The schemas that others refer to. -/
def definitions (d : SwaggerDocument) : Json := (d.root.get? "definitions").getD (.object [])

/-- The methods that a path may have, in the order in which they are looked for. -/
def methods : List String := ["get", "put", "post", "delete", "options", "head", "patch"]

/-- The operations of a path. -/
def operationsAt (template : String) (item : Json) : List DeclaredOperation :=
  methods.filterMap fun method =>
    (item.get? method).map fun body => ⟨Text.upperAscii method, template, body⟩

/-- All operations: paths in the order of the document, and methods in their fixed order. -/
def operations (d : SwaggerDocument) : List DeclaredOperation :=
  (((d.root.get? "paths").bind Json.object?).getD []).flatMap fun p => operationsAt p.1 p.2

/-- What references to responses start with. -/
def responsePointer : List Char := "#/responses/".toList

/-- The response that is meant: a reference leads to a shared response, once. -/
def followResponse (d : SwaggerDocument) (response : Json) : Option Json :=
  match response.stringAt? "$ref" with
  | none => some response
  | some target =>
    if responsePointer.isPrefixOf target.toList then
      (d.root.get? "responses").bind
        (·.get? (String.ofList (target.toList.drop responsePointer.length)))
    else none

end SwaggerDocument

end ConformanceSuite
