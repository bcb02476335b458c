import AttributeQuery.Toml.Scalar
import AttributeQuery.Toml.Table

/-!
# TOML documents

A document is a sequence of sections: assignments without a header, then for
each header the assignments below it. Reading a document means reading its
sections and then adding them to one table in order.
-/

namespace AttributeQuery.Toml

def isBareKeyChar (char : Char) : Bool :=
  Text.Ascii.isLetter char || Text.Ascii.isDigit char ||
    char = '_' || char = '-'

def key? : Reader String
  | '"' :: rest =>
      (basicString? rest).map fun (chars, rest) => (String.ofList chars, rest)
  | '\'' :: rest =>
      (literalString? rest).map fun (chars, rest) => (String.ofList chars, rest)
  | chars =>
      match chars.takeWhile isBareKeyChar with
      | [] => none
      | bare => some (String.ofList bare, chars.dropWhile isBareKeyChar)

/-- Read keys with dots between them and blanks around them. -/
def keysWithin : Nat → Reader (List String)
  | 0, _ => none
  | fuel + 1, chars => do
      let (key, rest) ← key? (skipBlanks chars)
      match skipBlanks rest with
      | '.' :: rest => do
          let (keys, rest) ← keysWithin fuel rest
          return (key :: keys, rest)
      | rest => return ([key], rest)

/-- The greatest number of keys on a path, and the number of arrays and inline
tables that may be inside each other. -/
def maximalDepth : Nat := 79

def path? : Reader (List String) := fun chars => do
  let (keys, rest) ← keysWithin chars.length chars
  if keys.length ≤ maximalDepth then return (keys, rest) else none

/-- Read the items of an array up to its closing bracket. -/
def itemsWithin (item? : Reader Value) : Nat → Reader (List Value)
  | 0, _ => none
  | fuel + 1, chars => do
      match ← skipGap? false chars with
      | ']' :: rest => return ([], rest)
      | chars =>
          let (item, rest) ← item? chars
          match ← skipGap? false rest with
          | ',' :: rest =>
              let (items, rest) ← itemsWithin item? fuel rest
              return (item :: items, rest)
          | ']' :: rest => return ([item], rest)
          | _ => none

def assignment? (value? : Reader Value) : Reader Entries.Assignment :=
  fun chars => do
    match ← path? chars with
    | (path, '=' :: rest) =>
        let (value, rest) ← value? (skipBlanks rest)
        return ((path, value), rest)
    | _ => none

/-- Read the assignments of an inline table that has any, up to its closing
brace. -/
def assignmentsWithin (value? : Reader Value) :
    Nat → Reader (List Entries.Assignment)
  | 0, _ => none
  | fuel + 1, chars => do
      let (assignment, rest) ← assignment? value? chars
      match skipBlanks rest with
      | ',' :: rest =>
          let (assignments, rest) ← assignmentsWithin value? fuel rest
          return (assignment :: assignments, rest)
      | '\x7d' :: rest => return ([assignment], rest)
      | _ => none

/-- Read an inline table after its opening brace. -/
def inlineTable? (value? : Reader Value) : Reader Value := fun chars =>
  match skipBlanks chars with
  | '\x7d' :: rest => some (.table [], rest)
  | chars => do
      let (assignments, rest) ← assignmentsWithin value? chars.length chars
      return (← Value.ofAssignments? assignments, rest)

/-- Read a value with at most `depth` arrays and inline tables inside each
other. -/
def valueWithin : Nat → Reader Value
  | _, '"' :: rest =>
      (string? ('"' :: rest)).map fun (chars, rest) =>
        (.string (String.ofList chars), rest)
  | _, '\'' :: rest =>
      (string? ('\'' :: rest)).map fun (chars, rest) =>
        (.string (String.ofList chars), rest)
  | depth + 1, '[' :: rest =>
      (itemsWithin (valueWithin depth) (rest.length + 1) rest).map
        fun (items, rest) => (.array items, rest)
  | depth + 1, '\x7b' :: rest => inlineTable? (valueWithin depth) rest
  | _, chars => readScalar? chars

/-- Where the assignments of a section go. -/
inductive Header where
  | table (path : List String)
  | element (path : List String)
  deriving BEq, DecidableEq, Repr

def header? : Reader Header
  | '[' :: rest => do
      match ← path? rest with
      | (path, ']' :: ']' :: rest) => return (.element path, rest)
      | _ => none
  | chars => do
      match ← path? chars with
      | (path, ']' :: rest) => return (.table path, rest)
      | _ => none

structure Section where
  header : Header
  body : List Entries.Assignment

/-- The assignments before the first header, and the sections after it. -/
structure Outline where
  body : List Entries.Assignment
  sections : List Section

def linesWithin : Nat → List Char → Option Outline
  | 0, _ => none
  | fuel + 1, chars =>
      match skipBlanks chars with
      | [] => some ⟨[], []⟩
      | '[' :: rest => do
          let (header, rest) ← header? rest
          let ⟨body, sections⟩ ← linesWithin fuel (← nextLine? rest)
          return ⟨[], ⟨header, body⟩ :: sections⟩
      | char :: rest =>
          if char = '#' || char = '\n' || char = '\r' then do
            linesWithin fuel (← nextLine? (char :: rest))
          else do
            let (assignment, rest) ←
              assignment? (valueWithin maximalDepth) (char :: rest)
            let ⟨body, sections⟩ ← linesWithin fuel (← nextLine? rest)
            return ⟨assignment :: body, sections⟩

def Section.addTo (entries : Entries) (added : Section) : Option Entries :=
  match added.header with
  | .table path => do
      let key ← path.getLast?
      entries.descend (Entries.addTable key added.body) path.dropLast
  | .element path => do
      let key ← path.getLast?
      entries.descend (Entries.addElement key added.body) path.dropLast

/-- The characters of a text without the mark that may stand at its start. -/
def withoutMark (text : String) : List Char :=
  match text.toList with
  | '\ufeff' :: rest => rest
  | chars => chars

def document? (text : String) : Option (List (String × Value)) := do
  let chars := withoutMark text
  let outline ← linesWithin (chars.length + 1) chars
  let entries ← Entries.assignAll outline.body []
  let entries ← outline.sections.foldlM Section.addTo entries
  return Node.toEntries entries

end AttributeQuery.Toml
