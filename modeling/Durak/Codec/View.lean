import Durak.Codec.Game
import Durak.View

/-!
# Views on the wire
-/

set_option autoImplicit false

namespace Durak

namespace OtherPlayer

/-- Another player as it is written. -/
def toJson (player : OtherPlayer) : Json :=
  .object [
    ("id", .string player.id),
    ("name", .string player.name),
    ("seatPlace", .integer player.seat.toNat),
    ("cardCount", .integer player.cardCount),
    ("takenCount", .integer player.takenCount)]

/-- The player's id. -/
def idField : Field String := .required "id" Document.asString

/-- The player's name. -/
def nameField : Field String := .required "name" Document.asString

/-- The number of the seat. -/
def seatField : Field UInt8 := .required "seatPlace" Document.asByte

/-- The number of cards in the hand. -/
def cardCountField : Field Nat := .required "cardCount" Document.asCount

/-- The number of cards drawn last. -/
def takenCountField : Field Nat := .required "takenCount" Document.asCount

/-- The record of another player. -/
def record : Record :=
  ⟨"struct OtherPlayerView",
    [idField.check, nameField.check, seatField.check, cardCountField.check,
      takenCountField.check],
    false⟩

/-- Decodes another player. -/
def decode (origin : Origin) : Document → Decoded OtherPlayer :=
  record.decode origin fun members => do
    let id ← members.get idField
    let name ← members.get nameField
    let seat ← members.get seatField
    let cardCount ← members.get cardCountField
    let takenCount ← members.get takenCountField
    .ok ⟨id, name, seat, cardCount, takenCount⟩

end OtherPlayer

namespace View

/-- A view as it is written. -/
def toJson (view : View) : Json :=
  .object [
    ("viewerId", .string view.viewerId),
    ("viewerHand", Card.listToJson view.viewerHand),
    ("viewerLastDrawn", Card.listToJson view.viewerLastDrawn),
    ("otherPlayers", .array (view.otherPlayers.map OtherPlayer.toJson)),
    ("attackerId", .string view.attackerId),
    ("defenderId", .string view.defenderId),
    ("deckSize", .integer view.deckSize),
    ("trumpSuit", view.trump.toJson),
    ("table", TableEntry.listToJson view.table),
    ("started", .boolean view.started)]

/-- Who sees it. -/
def viewerField : Field String := .required "viewerId" Document.asString

/-- The viewer's hand. -/
def handField (origin : Origin) : Field (List Card) :=
  .required "viewerHand" (Card.decodeList origin)

/-- The cards the viewer drew last. -/
def lastDrawnField (origin : Origin) : Field (List Card) :=
  .required "viewerLastDrawn" (Card.decodeList origin)

/-- The other players. -/
def othersField (origin : Origin) : Field (List OtherPlayer) :=
  .required "otherPlayers" (Document.asList (OtherPlayer.decode origin))

/-- Who attacks. -/
def attackerField : Field String := .required "attackerId" Document.asString

/-- Who defends. -/
def defenderField : Field String := .required "defenderId" Document.asString

/-- The size of the deck. -/
def deckSizeField : Field Nat := .required "deckSize" Document.asCount

/-- The trump suit. -/
def trumpField : Field Suit := .required "trumpSuit" Suit.decode

/-- The table. -/
def tableField (origin : Origin) : Field (List TableEntry) :=
  .required "table" (TableEntry.decodeList origin)

/-- Whether the game has been started. -/
def startedField : Field Bool := .required "started" Document.asBool

/-- The record of a view. -/
def record (origin : Origin) : Record :=
  ⟨"struct GameStateView",
    [viewerField.check, (handField origin).check, (lastDrawnField origin).check,
      (othersField origin).check, attackerField.check, defenderField.check, deckSizeField.check,
      trumpField.check, (tableField origin).check, startedField.check],
    false⟩

/-- Decodes a view. -/
def decode (origin : Origin) : Document → Decoded View :=
  (record origin).decode origin fun members => do
    let viewerId ← members.get viewerField
    let viewerHand ← members.get (handField origin)
    let viewerLastDrawn ← members.get (lastDrawnField origin)
    let otherPlayers ← members.get (othersField origin)
    let attackerId ← members.get attackerField
    let defenderId ← members.get defenderField
    let deckSize ← members.get deckSizeField
    let trump ← members.get trumpField
    let table ← members.get (tableField origin)
    let started ← members.get startedField
    .ok ⟨viewerId, viewerHand, viewerLastDrawn, otherPlayers, attackerId, defenderId, deckSize,
      trump, table, started⟩

end View

end Durak
