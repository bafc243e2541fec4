import ConformanceSuite.KeyMap

/-!
# Consent tokens

There is a slot for each registered token set; a slot is empty until a token is supplied for it, and
a later token replaces an earlier one. Poisoned slots refuse every operation.
-/

namespace ConformanceSuite

/-- Why an operation on the slots failed. -/
inductive TokenError where
  | unknownSet (name : String)
  | poisoned
  deriving DecidableEq

/-- A failure in words. -/
def TokenError.message : TokenError → String
  | .unknownSet name => s!"unknown token set: {name}"
  | .poisoned => "token collector lock poisoned"

/-- The token sets and the tokens supplied for them. -/
structure ConsentTokens where
  sets : KeyMap (Option String)
  poisoned : Bool
  deriving DecidableEq

namespace ConsentTokens

/-- No set at all. -/
def empty : ConsentTokens := ⟨.empty, false⟩

instance : Inhabited ConsentTokens := ⟨empty⟩

/-- Empty slots for the given sets. -/
def ofNames (names : List String) : ConsentTokens :=
  ⟨.ofList (names.map fun n => (n, none)), false⟩

/-- Register a set; a set that is there keeps its token. -/
def register (c : ConsentTokens) (name : String) : Except TokenError ConsentTokens :=
  if c.poisoned then .error .poisoned
  else if c.sets.contains name then .ok c
  else .ok { c with sets := c.sets.insert name none }

/-- Supply a token for a registered set. -/
def supply (c : ConsentTokens) (name token : String) : Except TokenError ConsentTokens :=
  if c.poisoned then .error .poisoned
  else if c.sets.contains name then .ok { c with sets := c.sets.insert name (some token) }
  else .error (.unknownSet name)

/-- The token of a registered set, if one has been supplied. -/
def token (c : ConsentTokens) (name : String) : Except TokenError (Option String) :=
  if c.poisoned then .error .poisoned
  else match c.sets.get? name with
    | some slot => .ok slot
    | none => .error (.unknownSet name)

/-- The sets with an empty slot, in ascending order. -/
def pending (c : ConsentTokens) : Except TokenError (List String) :=
  if c.poisoned then .error .poisoned
  else .ok ((c.sets.entries.filter (·.2.isNone)).map (·.1))

/-- Whether no slot is empty. -/
def isComplete (c : ConsentTokens) : Except TokenError Bool :=
  c.pending.map List.isEmpty

/-- The slots after a writer has failed half-way. -/
def poison (c : ConsentTokens) : ConsentTokens := { c with poisoned := true }

end ConsentTokens

end ConformanceSuite
