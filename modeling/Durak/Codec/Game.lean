import Durak.Codec.Card
import Durak.Game

/-!
# Games as they are stored

A game is stored as a record of everything but the events not yet handed out.  A running timer
whose start has no timestamp makes it impossible to write a game, so `Game.toJson?` may have no
value.
-/

set_option autoImplicit false

namespace Durak

/-! ## Table entries -/

namespace TableEntry

/-- A card on the table as it is written. -/
def toJson (entry : TableEntry) : Json :=
  .object [("card", entry.card.toJson), ("beatenBy", .orNull (entry.cover.map Card.toJson))]

/-- The attacking card. -/
def cardField (origin : Origin) : Field Card := .required "card" (Card.decode origin)

/-- The card that covers it. -/
def coverField (origin : Origin) : Field (Option Card) :=
  .optional "beatenBy" (Document.asOption (Card.decode origin))

/-- The record of a card on the table. -/
def record (origin : Origin) : Record :=
  ⟨"struct TableCard", [(cardField origin).check, (coverField origin).check], false⟩

/-- Decodes a card on the table. -/
def decode (origin : Origin) : Document → Decoded TableEntry :=
  (record origin).decode origin fun members => do
    let card ← members.get (cardField origin)
    let cover ← members.get (coverField origin)
    .ok ⟨card, cover⟩

/-- A table as it is written. -/
def listToJson (table : List TableEntry) : Json := .array (table.map toJson)

/-- Decodes a table. -/
def decodeList (origin : Origin) : Document → Decoded (List TableEntry) :=
  Document.asList (decode origin)

end TableEntry

/-! ## Settings -/

namespace Settings

/-- Settings as they are written. -/
def toJson (settings : Settings) : Json :=
  .object [("turnTimeoutSeconds", .real settings.turnTimeoutSeconds)]

/-- The turn timeout. -/
def timeoutField : Field Double := .required "turnTimeoutSeconds" Document.asDouble

/-- The record of the settings. -/
def record : Record := ⟨"struct GameSettings", [timeoutField.check], false⟩

/-- Decodes settings. -/
def decode (origin : Origin) : Document → Decoded Settings :=
  record.decode origin fun members => do
    let timeout ← members.get timeoutField
    .ok ⟨timeout⟩

end Settings

/-! ## Timers -/

/-- A kind of timer as it is written. -/
def TimerKind.toJson (kind : TimerKind) : Json := .string kind.name

/-- Decodes a kind of timer. -/
def TimerKind.decode (origin : Origin) : Document → Decoded TimerKind :=
  Document.asVariant TimerKind.name TimerKind.all origin

namespace Timer

/-- A timer as it is written. -/
def toJson? (timer : Timer) : Option Json := do
  let startedAt ← Json.instantOrNull? timer.startedAt
  some (.object [("running", .boolean timer.running), ("startedAt", startedAt)])

/-- Whether the timer runs. -/
def runningField : Field Bool := .required "running" Document.asBool

/-- When the timer was started. -/
def startedAtField : Field (Option Instant) :=
  .required "startedAt" (Document.asOption Document.asInstant)

/-- The record of a timer. -/
def record : Record := ⟨"struct Timer", [runningField.check, startedAtField.check], false⟩

/-- Decodes a timer. -/
def decode (origin : Origin) : Document → Decoded Timer :=
  record.decode origin fun members => do
    let running ← members.get runningField
    let startedAt ← members.get startedAtField
    .ok ⟨running, startedAt⟩

end Timer

/-! ## Roles -/

/-- A role as it is written. -/
def Role.toJson (role : Role) : Json := .string role.name

/-- Decodes a role. -/
def Role.decode (origin : Origin) : Document → Decoded Role :=
  Document.asVariant Role.name Role.all origin

/-! ## Players -/

namespace Player

/-- A player as it is written. -/
def toJson (player : Player) : Json :=
  .object [
    ("id", .string player.id),
    ("name", .string player.name),
    ("seatPlace", .integer player.seat.toNat),
    ("hand", Card.listToJson player.hand),
    ("lastDrawn", Card.listToJson player.lastDrawn)]

/-- The player's id. -/
def idField : Field String := .required "id" Document.asString

/-- The player's name, empty if there is none. -/
def nameField : Field String := .withDefault "name" Document.asString ""

/-- The number of the seat. -/
def seatField : Field UInt8 := .required "seatPlace" Document.asByte

/-- The hand. -/
def handField (origin : Origin) : Field (List Card) := .required "hand" (Card.decodeList origin)

/-- The cards drawn last, none if they are missing. -/
def lastDrawnField (origin : Origin) : Field (List Card) :=
  .withDefault "lastDrawn" (Card.decodeList origin) []

/-- The record of a player. -/
def record (origin : Origin) : Record :=
  ⟨"struct Player",
    [idField.check, nameField.check, seatField.check, (handField origin).check,
      (lastDrawnField origin).check],
    false⟩

/-- Decodes a player. -/
def decode (origin : Origin) : Document → Decoded Player :=
  (record origin).decode origin fun members => do
    let id ← members.get idField
    let name ← members.get nameField
    let seat ← members.get seatField
    let hand ← members.get (handField origin)
    let lastDrawn ← members.get (lastDrawnField origin)
    .ok ⟨id, name, seat, hand, lastDrawn⟩

end Player

/-! ## Votes -/

namespace Voters

/-- A set of players as it is written. -/
def toJson (voters : Voters) : Json := .strings voters.members

/-- Decodes a set of players. -/
def decode (document : Document) : Decoded Voters := do
  let ids ← document.asList Document.asString
  .ok (ofList ids)

end Voters

/-! ## Games -/

namespace Game

/-- A game as it is stored. -/
def toJson? (game : Game) : Option Json := do
  let attackTimer ← game.attackTimer.toJson?
  let defendTimer ← game.defendTimer.toJson?
  some <| .object [
    ("id", .string game.id),
    ("settings", game.settings.toJson),
    ("players", .array (game.players.map Player.toJson)),
    ("attackerId", .string game.attackerId),
    ("defenderId", .string game.defenderId),
    ("deck", Card.listToJson game.deck),
    ("trumpSuit", game.trump.toJson),
    ("table", TableEntry.listToJson game.table),
    ("discard", Card.listToJson game.discard),
    ("pendingEndAttackVoters", game.endVotes.toJson),
    ("readyVoters", game.readyVotes.toJson),
    ("started", .boolean game.started),
    ("attackTimer", attackTimer),
    ("defendTimer", defendTimer)]

/-- The text of a game as it is stored. -/
def storedText? (game : Game) : Option String := game.toJson?.map Json.text

/-- The game's id. -/
def idField : Field String := .required "id" Document.asString

/-- The settings. -/
def settingsField (origin : Origin) : Field Settings :=
  .required "settings" (Settings.decode origin)

/-- The seats. -/
def playersField (origin : Origin) : Field (List Player) :=
  .required "players" (Document.asList (Player.decode origin))

/-- Who attacks. -/
def attackerField : Field String := .required "attackerId" Document.asString

/-- Who defends. -/
def defenderField : Field String := .required "defenderId" Document.asString

/-- The deck. -/
def deckField (origin : Origin) : Field (List Card) := .required "deck" (Card.decodeList origin)

/-- The trump suit. -/
def trumpField : Field Suit := .required "trumpSuit" Suit.decode

/-- The table. -/
def tableField (origin : Origin) : Field (List TableEntry) :=
  .required "table" (TableEntry.decodeList origin)

/-- The discard pile, empty if it is missing. -/
def discardField (origin : Origin) : Field (List Card) :=
  .withDefault "discard" (Card.decodeList origin) []

/-- Who wants the attack to end. -/
def endVotesField : Field Voters := .required "pendingEndAttackVoters" Voters.decode

/-- Who is ready. -/
def readyVotesField : Field Voters := .required "readyVoters" Voters.decode

/-- Whether the game has been started. -/
def startedField : Field Bool := .required "started" Document.asBool

/-- The attack timer. -/
def attackTimerField (origin : Origin) : Field Timer :=
  .required "attackTimer" (Timer.decode origin)

/-- The defend timer. -/
def defendTimerField (origin : Origin) : Field Timer :=
  .required "defendTimer" (Timer.decode origin)

/-- The record of a game. -/
def record (origin : Origin) : Record :=
  ⟨"struct Game",
    [idField.check, (settingsField origin).check, (playersField origin).check,
      attackerField.check, defenderField.check, (deckField origin).check, trumpField.check,
      (tableField origin).check, (discardField origin).check, endVotesField.check,
      readyVotesField.check, startedField.check, (attackTimerField origin).check,
      (defendTimerField origin).check],
    false⟩

/-- Decodes a game. -/
def decode (origin : Origin) : Document → Decoded Game :=
  (record origin).decode origin fun members => do
    let id ← members.get idField
    let settings ← members.get (settingsField origin)
    let players ← members.get (playersField origin)
    let attackerId ← members.get attackerField
    let defenderId ← members.get defenderField
    let deck ← members.get (deckField origin)
    let trump ← members.get trumpField
    let table ← members.get (tableField origin)
    let discard ← members.get (discardField origin)
    let endVotes ← members.get endVotesField
    let readyVotes ← members.get readyVotesField
    let started ← members.get startedField
    let attackTimer ← members.get (attackTimerField origin)
    let defendTimer ← members.get (defendTimerField origin)
    .ok { id, settings, players, attackerId, defenderId, deck, trump, table, discard, endVotes,
          readyVotes, started, attackTimer, defendTimer, events := [] }

/-- Decodes the text of a stored game. -/
def ofStoredText (text : String) : Decoded Game := Document.decodeText (decode .text) text

end Game

end Durak
