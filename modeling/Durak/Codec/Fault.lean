import Durak.Json.Document
import Durak.Number.Shortest
import Durak.Text.Quoted

/-!
# What can be wrong with a document

A decoder turns a document into a value or says what is wrong with it.  `Fault` lists the causes
and `Fault.message` words them.  Names inside messages stand between backticks, texts between
quotes.
-/

set_option autoImplicit false

namespace Durak

/-- What a decoder met where it wanted something else. -/
inductive Found where
  | null
  | boolean (value : Bool)
  | integer (value : Int)
  | real (value : Double)
  | string (content : String)
  | sequence
  | map
  deriving DecidableEq

/-- Why a document is not the value that was asked for. -/
inductive Fault where
  /-- A string without content or a number without value: the text is no valid JSON. -/
  | unreadable
  | wrongType (found : Found) (wanted : String)
  | outOfRange (value : Int) (wanted : String)
  | missingField (name : String)
  | duplicateField (name : String)
  | unknownField (name : String) (known : List String)
  | wrongLength (length : Nat) (wanted : String)
  | surplusElements
  | unknownVariant (name : String) (known : List String)
  | noVariant
  | notOneKey
  | invalidSuit (name : String)
  | invalidRank (value : Nat)
  | invalidTimestamp
  deriving DecidableEq

/-- A name between backticks. -/
def ticked (name : String) : String := "`" ++ name ++ "`"

/-- Names in a list of choices: one, two joined by a word, or more after an opening. -/
def choices : List String → String
  | [first] => ticked first
  | [first, second] => ticked first ++ " or " ++ ticked second
  | names => "one of " ++ ", ".intercalate (names.map ticked)

namespace Found

/-- A double in a message: always with a point or an exponent. -/
def realText : Double → String
  | .finite negative magnitude => (Double.serialized negative magnitude).text
  | other => other.displayed

/-- How a message names what was met. -/
def message : Found → String
  | null => "null"
  | boolean value => "boolean " ++ ticked (if value then "true" else "false")
  | integer value => "integer " ++ ticked (Numeral.ofInt value).text
  | real value => "floating point " ++ ticked (realText value)
  | string content => "string " ++ quoted content
  | sequence => "sequence"
  | map => "map"

/-- What a document shows itself to be. -/
def ofDocument? : Document → Option Found
  | .null => some null
  | .boolean value => some (boolean value)
  | .number numeral =>
    match numeral.number? with
    | some (.integer value) => some (integer value)
    | some (.real value) => some (real value)
    | none => none
  | .string content => content.map string
  | .array _ => some sequence
  | .object _ => some map

end Found

namespace Fault

/-- The fault of meeting a document where something else was wanted. -/
def wanted (description : String) (document : Document) : Fault :=
  match Found.ofDocument? document with
  | some found => wrongType found description
  | none => unreadable

/-- The wording of a fault. -/
def message : Fault → String
  | unreadable => "invalid JSON"
  | wrongType found wanted => "invalid type: " ++ found.message ++ ", expected " ++ wanted
  | outOfRange value wanted =>
    "invalid value: " ++ (Found.integer value).message ++ ", expected " ++ wanted
  | missingField name => "missing field " ++ ticked name
  | duplicateField name => "duplicate field " ++ ticked name
  | unknownField name known => "unknown field " ++ ticked name ++ ", expected " ++ choices known
  | wrongLength length wanted => "invalid length " ++ decimal length ++ ", expected " ++ wanted
  | surplusElements => "trailing characters"
  | unknownVariant name known =>
    "unknown variant " ++ ticked name ++ ", expected " ++ choices known
  | noVariant => "expected value"
  | notOneKey => "invalid value: map, expected map with a single key"
  | invalidSuit name => "Invalid suit: " ++ name
  | invalidRank value => "Invalid rank: " ++ decimal value
  | invalidTimestamp => "invalid timestamp"

end Fault

/-- The outcome of decoding. -/
abbrev Decoded (α : Type) := Except Fault α

end Durak
