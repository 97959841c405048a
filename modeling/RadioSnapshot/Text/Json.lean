import RadioSnapshot.Decimal.Shortest
import RadioSnapshot.Text.Hex

/-!
# JSON values and their text

Text is written without blanks, members in the order given. Numbers are integers
or single-precision words; a word that is no finite number is written as null,
which is all that JSON has for it.

Not everything can be written. The keys of a map have to be texts or what is
written between quotes in place of them, and only an object has members that can
stand beside others.
-/

namespace RadioSnapshot

/-- A JSON value. -/
inductive Json where
  | null
  | bool (value : Bool)
  | integer (value : Int)
  | binary32 (value : Binary32)
  | string (text : String)
  | array (elements : List Json)
  | object (members : List (String × Json))

/-- Why something cannot be written as JSON. -/
inductive JsonError where
  /-- The key of an entry is neither a text nor a truth value nor a number. -/
  | unnamedEntry
  /-- The members of something that has none are to stand beside others. -/
  | noMembers
  deriving BEq, DecidableEq, Repr

namespace Json

/-- The text of one character inside quotes. Quotes, backslashes and control
characters are escaped, everything else stands for itself. -/
def escape (char : Char) : List Char :=
  if char = '"' then ['\\', '"']
  else if char = '\\' then ['\\', '\\']
  else if char = '\x08' then ['\\', 'b']
  else if char = '\x0c' then ['\\', 'f']
  else if char = '\n' then ['\\', 'n']
  else if char = '\r' then ['\\', 'r']
  else if char = '\t' then ['\\', 't']
  else if char.toNat < 32 then ['\\', 'u', '0', '0'] ++ Hex.digits (UInt8.ofNat char.toNat)
  else [char]

/-- A text in quotes. -/
def quote (text : String) : List Char :=
  '"' :: text.toList.flatMap escape ++ ['"']

mutual

/-- The characters of a value's text. -/
def chars : Json → List Char
  | .null => ['n', 'u', 'l', 'l']
  | .bool true => ['t', 'r', 'u', 'e']
  | .bool false => ['f', 'a', 'l', 's', 'e']
  | .integer (.ofNat value) => Nat.toDigits 10 value
  | .integer (.negSucc value) => '-' :: Nat.toDigits 10 (value + 1)
  | .binary32 value => if value.isFinite then value.text else ['n', 'u', 'l', 'l']
  | .string text => quote text
  | .array elements => '[' :: elementChars elements ++ [']']
  | .object members => '{' :: memberChars members ++ ['}']

/-- Elements with commas between them. -/
def elementChars : List Json → List Char
  | [] => []
  | [element] => element.chars
  | element :: next :: rest => element.chars ++ ',' :: elementChars (next :: rest)

/-- Members with commas between them. -/
def memberChars : List (String × Json) → List Char
  | [] => []
  | [(name, value)] => quote name ++ ':' :: value.chars
  | (name, value) :: next :: rest =>
      quote name ++ ':' :: value.chars ++ ',' :: memberChars (next :: rest)

end

/-- The text of a value. -/
def render (value : Json) : String :=
  String.ofList value.chars

/-- A value, or null where there is none. -/
def ofOption {α : Type} (encode : α → Json) : Option α → Json
  | none => .null
  | some value => encode value

def nat (value : Nat) : Json :=
  .integer value

/-- The name of a member that is written for a key. -/
def memberName (key : Json) : Except JsonError String :=
  match key with
  | .string text => .ok text
  | .bool _ | .integer _ => .ok key.render
  | .binary32 value => if value.isFinite then .ok key.render else .error .unnamedEntry
  | .null | .array _ | .object _ => .error .unnamedEntry

/-- The members that are written for the entries of a map. -/
def entryMembers : List (Json × Json) → Except JsonError (List (String × Json))
  | [] => .ok []
  | (key, value) :: rest => do
      let name ← key.memberName
      let members ← entryMembers rest
      .ok ((name, value) :: members)

/-- A map as an object. -/
def ofEntries (entries : List (Json × Json)) : Except JsonError Json := do
  let members ← entryMembers entries
  .ok (.object members)

/-- The members that stand beside others when a value is made one with them. Nothing
has none. -/
def flattened : Json → Except JsonError (List (String × Json))
  | .object members => .ok members
  | .null => .ok []
  | .bool _ | .integer _ | .binary32 _ | .string _ | .array _ => .error .noMembers

end Json

end RadioSnapshot
