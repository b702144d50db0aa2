import Durak.Json.Value
import Durak.Log

/-!
# Log records on the wire
-/

set_option autoImplicit false

namespace Durak

/-- A named value as it is written. -/
def LogValue.toJson : LogValue → Json
  | text value => .string value
  | count value => .integer value
  | flag value => .boolean value

namespace LogRecord

/-- The message and the named values of a record. -/
def members (record : LogRecord) : List (String × Json) :=
  ("message", .string record.message) ::
    record.fields.map fun field => (field.1, field.2.toJson)

/-- A record as it is written. -/
def toJson (record : LogRecord) : Json :=
  .object [("level", .string record.level.name), ("fields", .object record.members)]

end LogRecord

end Durak
