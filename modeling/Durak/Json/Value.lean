import Durak.Json.Document
import Durak.Number.Shortest

/-!
# Writing JSON

`Json` is a value to be written.  Members are written in the order they are listed, without any
blanks; a string escapes the quote, the backslash and the controls, and nothing else; a double that
is not finite is written as `null`.

`Json.toDocument` is what reading the written text gives.
-/

set_option autoImplicit false

namespace Durak

/-- A value to be written as JSON. -/
inductive Json where
  | null
  | boolean (value : Bool)
  | integer (value : Int)
  | real (value : Double)
  | string (content : String)
  | array (items : List Json)
  | object (members : List (String × Json))
  deriving Inhabited

namespace Json

/-- A hexadecimal digit, lower case. -/
def hexCharacter (value : Nat) : Char :=
  if value < 10 then Char.ofNat (48 + value) else Char.ofNat (87 + value)

/-- How one character is written inside a string. -/
def writeCharacter (character : Char) : List Char :=
  match character with
  | '"' => ['\\', '"']
  | '\\' => ['\\', '\\']
  | '\x08' => ['\\', 'b']
  | '\x0c' => ['\\', 'f']
  | '\n' => ['\\', 'n']
  | '\r' => ['\\', 'r']
  | '\t' => ['\\', 't']
  | _ =>
    if character.toNat < 32 then
      ['\\', 'u', '0', '0', hexCharacter (character.toNat / 16), hexCharacter (character.toNat % 16)]
    else [character]

/-- A string between quotes. -/
def writeString (content : String) : List Char :=
  '"' :: content.toList.flatMap writeCharacter ++ ['"']

/-- A double, or `null` if it is not finite. -/
def writeReal : Double → List Char
  | .finite negative magnitude => (Double.serialized negative magnitude).characters
  | _ => ['n', 'u', 'l', 'l']

mutual

/-- The characters of a value. -/
def write : Json → List Char
  | null => ['n', 'u', 'l', 'l']
  | boolean true => ['t', 'r', 'u', 'e']
  | boolean false => ['f', 'a', 'l', 's', 'e']
  | integer value => (Numeral.ofInt value).characters
  | real value => writeReal value
  | string content => writeString content
  | array items => '[' :: writeItems items ++ [']']
  | object members => '\x7b' :: writeMembers members ++ ['\x7d']

/-- The elements of an array with commas between them. -/
def writeItems : List Json → List Char
  | [] => []
  | [item] => item.write
  | item :: rest => item.write ++ ',' :: writeItems rest

/-- The members of an object with commas between them. -/
def writeMembers : List (String × Json) → List Char
  | [] => []
  | [(name, value)] => writeString name ++ ':' :: value.write
  | (name, value) :: rest => writeString name ++ ':' :: value.write ++ ',' :: writeMembers rest

end

/-- The text of a value. -/
def text (value : Json) : String := String.ofList value.write

mutual

/-- The value with the members of every object in the order of their names. -/
def sorted : Json → Json
  | array items => array (sortedItems items)
  | object members => object (sortKeyed (sortedMembers members))
  | value => value

/-- The elements of an array, each sorted. -/
def sortedItems : List Json → List Json
  | [] => []
  | item :: rest => item.sorted :: sortedItems rest

/-- The members of an object, each value sorted. -/
def sortedMembers : List (String × Json) → List (String × Json)
  | [] => []
  | (name, value) :: rest => (name, value.sorted) :: sortedMembers rest

end

/-- A list of texts as an array. -/
def strings (contents : List String) : Json := array (contents.map string)

/-- A value that may be missing, `null` if it is. -/
def orNull (value : Option Json) : Json := value.getD null

mutual

/-- The document a written value reads back as. -/
def toDocument : Json → Document
  | null => .null
  | boolean value => .boolean value
  | integer value => .number (Numeral.ofInt value)
  | real (.finite negative magnitude) => .number (Double.serialized negative magnitude)
  | real _ => .null
  | string content => .string (some content)
  | array items => .array (itemDocuments items)
  | object members => .object (memberDocuments members)

/-- The documents of the elements of an array. -/
def itemDocuments : List Json → List Document
  | [] => []
  | item :: rest => item.toDocument :: itemDocuments rest

/-- The documents of the members of an object. -/
def memberDocuments : List (String × Json) → List (Option String × Document)
  | [] => []
  | (name, value) :: rest => (some name, value.toDocument) :: memberDocuments rest

end

end Json

end Durak
