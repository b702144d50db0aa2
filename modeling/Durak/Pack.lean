import Durak.Codec.Event
import Durak.Codec.View
import Durak.Command
import Durak.Violation

/-!
# Packs

Whatever a command does, every player gets a pack: the messages about what happened, and the game
as that player sees it now.  The messages are the events, the same for everybody; only the pack of
whoever sent the command starts with the result of it.
-/

set_option autoImplicit false

namespace Durak

/-- What became of a command, for whoever sent it. -/
structure CommandResult where
  command : Command
  violation : Option Violation
  view : View

/-- A message in a pack. -/
inductive Message where
  | result (result : CommandResult)
  | event (event : Event)

/-- What one player gets. -/
structure Pack where
  messages : List Message
  view : View

/-- The tag of a result among the messages. -/
def resultTag : String := "COMMAND_RESULT"

/-- A violation as it is written. -/
def Violation.toJson (violation : Violation) : Json := .string violation.code

/-- A result as it is written. -/
def CommandResult.toJson (result : CommandResult) : Json :=
  Event.tagged resultTag [
    ("command", result.command.toJson),
    ("error", .orNull (result.violation.map Violation.toJson)),
    ("state", result.view.toJson)]

/-- A message as it is written. -/
def Message.toJson? : Message → Option Json
  | .result outcome => some outcome.toJson
  | .event occurred => occurred.toJson?

/-- A pack as it is written, unless one of its events cannot be. -/
def Pack.toJson? (pack : Pack) : Option Json := do
  let messages ← pack.messages.mapM Message.toJson?
  some (.object [("messages", .array messages), ("gameState", pack.view.toJson)])

end Durak
