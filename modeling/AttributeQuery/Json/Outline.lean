import AttributeQuery.Json.Token

/-!
# Outlines of JSON texts

The outline of a JSON text is its structure by the grammar alone: members of
objects in the order written, repeated keys included, strings and numbers not
yet decoded. It is built from the tokens by an automaton with a stack of the
containers that are still open, so every text is read in one pass.
-/

namespace AttributeQuery.Json

/-- The structure of a JSON text. -/
inductive Outline where
  | null
  | boolean (value : Bool)
  | number (numeral : Numeral)
  | string (items : List StringItem)
  | array (items : List Outline)
  | object (members : List (List StringItem × Outline))
  deriving Repr

namespace Outline

/-- Members of an object, last one first. -/
abbrev Members := List (List StringItem × Outline)

/-- An open container that waits for a value; what it holds so far is listed
last one first. -/
inductive Frame where
  | element (items : List Outline)
  | member (members : Members) (key : List StringItem)

/-- What was read last, and so what may follow. -/
inductive Position where
  /-- A value has to follow; right after an opening bracket the array may also
  be closed. -/
  | value (mayClose : Bool)
  /-- A key has to follow; right after an opening brace the object may also be
  closed. -/
  | key (mayClose : Bool) (members : Members)
  | colon (members : Members) (key : List StringItem)
  | complete (value : Outline)

structure State where
  stack : List Frame
  position : Position

def State.start : State := ⟨[], .value false⟩

/-- The outline of a token that is a value by itself. -/
def ofScalar? : Token → Option Outline
  | .null => some .null
  | .boolean value => some (.boolean value)
  | .number numeral => some (.number numeral)
  | .string items => some (.string items)
  | _ => none

/-- Read a token where a value has to follow. -/
def State.readValue (stack : List Frame) (mayClose : Bool) (token : Token) :
    Option State :=
  match token, stack with
  | .openArray, _ => some ⟨.element [] :: stack, .value true⟩
  | .openObject, _ => some ⟨stack, .key true []⟩
  | .closeArray, .element [] :: rest =>
      if mayClose then some ⟨rest, .complete (.array [])⟩ else none
  | token, _ => (ofScalar? token).map fun value => ⟨stack, .complete value⟩

/-- Read a token after a complete value. -/
def State.readAfter (value : Outline) : List Frame → Token → Option State
  | .element items :: rest, .comma =>
      some ⟨.element (value :: items) :: rest, .value false⟩
  | .element items :: rest, .closeArray =>
      some ⟨rest, .complete (.array (value :: items).reverse)⟩
  | .member members key :: rest, .comma =>
      some ⟨rest, .key false ((key, value) :: members)⟩
  | .member members key :: rest, .closeObject =>
      some ⟨rest, .complete (.object ((key, value) :: members).reverse)⟩
  | _, _ => none

def State.read (state : State) (token : Token) : Option State :=
  match state.position, token with
  | .value mayClose, token => readValue state.stack mayClose token
  | .key _ members, .string key => some ⟨state.stack, .colon members key⟩
  | .key true _, .closeObject => some ⟨state.stack, .complete (.object [])⟩
  | .colon members key, .colon =>
      some ⟨.member members key :: state.stack, .value false⟩
  | .complete value, token => readAfter value state.stack token
  | _, _ => none

/-- The outline of a text made of exactly one value. -/
def ofText? (text : String) : Option Outline := do
  let state ← (← Token.scan? text).foldlM State.read State.start
  match state with
  | ⟨[], .complete value⟩ => some value
  | _ => none

end Outline

end AttributeQuery.Json
