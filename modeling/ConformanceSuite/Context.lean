import ConformanceSuite.Json.Printer
import ConformanceSuite.KeyMap

/-!
# The context of a run

A context binds keys to JSON values. It may become poisoned, when a writer failed half-way; from
then on every operation on it fails and its entries never change.
-/

namespace ConformanceSuite

/-- Why an operation on a context failed. -/
inductive ContextError where
  | notFound (key : String)
  | cast
  | elementCast
  | notString (key : String)
  | poisoned
  deriving DecidableEq

/-- A failure in words. -/
def ContextError.message : ContextError → String
  | .notFound key => s!"context key not found: {key}"
  | .cast => "cast error can't get string slice from context"
  | .elementCast => "element cast error can't get string slice from context"
  | .notString key => s!"context value for {key} is not a string"
  | .poisoned => "context lock poisoned"

/-- A store of JSON values by key. -/
structure Context where
  entries : KeyMap Json
  poisoned : Bool
  deriving DecidableEq

namespace Context

/-- The context with no entry. -/
def empty : Context := ⟨.empty, false⟩

instance : Inhabited Context := ⟨empty⟩

/-- The context with the entries of a list; the last of equal keys wins. -/
def ofList (entries : List (String × Json)) : Context := ⟨.ofList entries, false⟩

/-- The entries, unless the context is poisoned. -/
def contents (c : Context) : Except ContextError (KeyMap Json) :=
  if c.poisoned then .error .poisoned else .ok c.entries

/-- Bind keys in order, all of them or none. -/
def putAll (c : Context) (entries : List (String × Json)) : Except ContextError Context :=
  if c.poisoned then .error .poisoned else .ok { c with entries := c.entries.insertAll entries }

/-- Bind a key. -/
def put (c : Context) (key : String) (value : Json) : Except ContextError Context :=
  c.putAll [(key, value)]

/-- Bind a key to a list of texts. -/
def putTexts (c : Context) (key : String) (values : List String) : Except ContextError Context :=
  c.put key (.ofStrings values)

/-- The value of a key. -/
def get (c : Context) (key : String) : Except ContextError Json :=
  if c.poisoned then .error .poisoned
  else match c.entries.get? key with
    | some value => .ok value
    | none => .error (.notFound key)

/-- The value of a key that is a text. -/
def getText (c : Context) (key : String) : Except ContextError String :=
  match c.get key with
  | .error e => .error e
  | .ok (.string s) => .ok s
  | .ok _ => .error (.notString key)

/-- The texts of a list of text values. -/
def stringsOf : List Json → Except ContextError (List String)
  | [] => .ok []
  | .string s :: rest => (stringsOf rest).map (s :: ·)
  | _ :: _ => .error .elementCast

/-- The value of a key that is a list of texts. -/
def getTexts (c : Context) (key : String) : Except ContextError (List String) :=
  match c.get key with
  | .error e => .error e
  | .ok (.array items) => stringsOf items
  | .ok _ => .error .cast

/-- The number of keys. -/
def size (c : Context) : Except ContextError Nat :=
  c.contents.map KeyMap.size

/-- Whether there is no key. -/
def isEmpty (c : Context) : Except ContextError Bool :=
  c.size.map (· == 0)

/-- The context after a writer has failed half-way. -/
def poison (c : Context) : Context := { c with poisoned := true }

end Context

end ConformanceSuite
