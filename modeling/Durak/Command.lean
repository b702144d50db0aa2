import Durak.Action
import Durak.Codec.Card
import Durak.Failure

/-!
# Commands

A command is an object that names the game, the user and the action, and carries the cards the
action needs.  It is decoded in two steps: first the three names, then, from whatever else the
object holds, the cards.  An action nobody knows still decodes, so that the answer can say so.

`Command.gameIdOf` reads only the game's name.  It looks at nothing else, and so accepts commands
that `Command.ofBytes` does not.
-/

set_option autoImplicit false

namespace Durak

/-- What a user asks of a game. -/
structure Command where
  gameId : String
  userId : String
  action : Action
  deriving DecidableEq

/-- Why bytes are no command. -/
inductive CommandFault where
  | envelope (fault : Fault)
  | payload (actionName : String) (fault : Fault)
  deriving DecidableEq

/-- The wording of what is wrong with a command. -/
def CommandFault.message : CommandFault → String
  | envelope fault => fault.message
  | payload actionName fault => actionName ++ ": " ++ fault.message

/-- The failure a faulty command is answered with. -/
def CommandFault.toFailure (fault : CommandFault) : Failure := .malformedCommand fault.message

namespace Command

/-! ## Writing -/

/-- The cards of an action as they are written. -/
def payloadMembers : Action → List (String × Json)
  | .attack card => [("card", card.toJson)]
  | .defend target card => [("targetCard", target.toJson), ("userCard", card.toJson)]
  | _ => []

/-- A command as it is written. -/
def toJson (command : Command) : Json :=
  .object <| [
    ("gameId", .string command.gameId),
    ("userId", .string command.userId),
    ("action", .string command.action.name)] ++ payloadMembers command.action

/-! ## Reading -/

/-- The game a command is for. -/
def gameField : Field String := .required "gameId" Document.asString

/-- The user who sends it. -/
def userField : Field String := .required "userId" Document.asString

/-- The name of the action. -/
def actionField : Field String := .required "action" Document.asString

/-- The record of the three names. -/
def envelope : Record :=
  ⟨"struct Envelope", [gameField.check, userField.check, actionField.check], false⟩

/-- The three names of a command. -/
def envelopeOf (members : List (Option String × Document)) : Decoded (String × String × String) :=
  envelope.decodeMembers (fun members => do
    let gameId ← members.get gameField
    let userId ← members.get userField
    let action ← members.get actionField
    .ok (gameId, userId, action)) members false

/-- The card to attack with. -/
def cardField : Field Card := .required "card" (Card.decode .sorted)

/-- The card to be covered. -/
def targetField : Field Card := .required "targetCard" (Card.decode .sorted)

/-- The card to cover it with. -/
def coverField : Field Card := .required "userCard" (Card.decode .sorted)

/-- The record of an attack. -/
def attackRecord : Record := ⟨"the cards of an attack", [cardField.check], false⟩

/-- The record of a defence. -/
def defendRecord : Record := ⟨"the cards of a defence", [targetField.check, coverField.check], false⟩

/-- The action of a name, with its cards taken from the members of the command. -/
def actionOf (actionName : String) (payload : Document) : Except CommandFault Action :=
  if actionName = "ACTION_READY" then .ok .ready
  else if actionName = "ACTION_ATTACK" then
    Except.mapError (.payload actionName) <| attackRecord.decode .sorted (fun members => do
      let card ← members.get cardField
      .ok (.attack card)) payload
  else if actionName = "ACTION_DEFEND" then
    Except.mapError (.payload actionName) <| defendRecord.decode .sorted (fun members => do
      let target ← members.get targetField
      let card ← members.get coverField
      .ok (.defend target card)) payload
  else if actionName = "ACTION_END_ATTACK" then .ok .endAttack
  else if actionName = "ACTION_TAKE_ALL_CARDS" then .ok .takeAllCards
  else if actionName = "ACTION_CHECK_ATTACK_TIMER" then .ok .checkAttackTimer
  else if actionName = "ACTION_CHECK_DEFEND_TIMER" then .ok .checkDefendTimer
  else .ok (.unregistered actionName)

/-- Decodes a command.  Everything in it has to be valid JSON, also what the action does not
need. -/
def decode (document : Document) : Except CommandFault Command :=
  if !document.isStrict then .error (.envelope .unreadable)
  else
    match document with
    | .object members => do
      let (gameId, userId, actionName) ← Except.mapError .envelope (envelopeOf members)
      let action ← actionOf actionName document.sorted
      .ok ⟨gameId, userId, action⟩
    | other => .error (.envelope (.wanted envelope.title other))

/-- Decodes a command given as bytes. -/
def ofBytes (bytes : List UInt8) : Except CommandFault Command :=
  match Document.ofBytes? bytes with
  | some document => decode document
  | none => .error (.envelope .unreadable)

/-- The record of the game's name alone. -/
def routing : Record := ⟨"struct GameIdOnly", [gameField.check], false⟩

/-- The game that the bytes of a command are for. -/
def gameIdOf (bytes : List UInt8) : Except CommandFault String :=
  Except.mapError .envelope <|
    Document.decodeBytes (routing.decode .text fun members => members.get gameField) bytes

end Command

end Durak
