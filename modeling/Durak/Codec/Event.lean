import Durak.Codec.Game
import Durak.Event

/-!
# Events on the wire

An event is an object whose member `event` is the tag of its kind, and whose other members are the
fields of that kind; or an array of the tag and the fields in order.  The tag may stand anywhere
among the members, so an event is collected as a whole before its fields are judged, and all of it
has to be valid JSON.
-/

set_option autoImplicit false

namespace Durak

/-- A result as it is written. -/
def GameResult.toJson (result : GameResult) : Json := .string result.name

/-- Decodes a result. -/
def GameResult.decode (origin : Origin) : Document → Decoded GameResult :=
  Document.asVariant GameResult.name GameResult.all origin

/-- The name of the member that holds the tag of an event. -/
def tagName : String := "event"

namespace Event

/-! ## Writing -/

/-- An event given by its tag and its other members. -/
def tagged (tag : String) (members : List (String × Json)) : Json :=
  .object ((tagName, .string tag) :: members)

/-- The members of an event after its tag. -/
def members? : Event → Option (List (String × Json))
  | ready userId => some [("userId", .string userId)]
  | start attackerId defenderId trump =>
    some [
      ("attackerId", .string attackerId),
      ("defenderId", .string defenderId),
      ("trumpSuit", trump.toJson)]
  | attack card attackerId =>
    some [("card", card.toJson), ("attackerId", .string attackerId)]
  | defend target card defenderId =>
    some [
      ("targetCard", target.toJson),
      ("userCard", card.toJson),
      ("defenderId", .string defenderId)]
  | endAttack => some []
  | takeAllCards userId => some [("userId", .string userId)]
  | timerState timer completed endsAt => do
    let endsAt ← Json.instantOrNull? endsAt
    some [("timer", timer.toJson), ("completed", .boolean completed), ("endsAt", endsAt)]
  | endGame result => some [("result", result.toJson)]

/-- An event as it is written. -/
def toJson? (event : Event) : Option Json := do
  let members ← event.members?
  some (tagged event.kind.tag members)

/-- The text of an event. -/
def text? (event : Event) : Option String := event.toJson?.map Json.text

/-! ## Reading -/

/-- The player an event is about. -/
def userField : Field String := .required "userId" Document.asString

/-- Who attacks. -/
def attackerField : Field String := .required "attackerId" Document.asString

/-- Who defends. -/
def defenderField : Field String := .required "defenderId" Document.asString

/-- The trump suit. -/
def trumpField : Field Suit := .required "trumpSuit" Suit.decode

/-- The attacking card. -/
def cardField : Field Card := .required "card" (Card.decode .event)

/-- The card that is covered. -/
def targetField : Field Card := .required "targetCard" (Card.decode .event)

/-- The covering card. -/
def coverField : Field Card := .required "userCard" (Card.decode .event)

/-- The timer that is announced. -/
def timerField : Field TimerKind := .required "timer" (TimerKind.decode .event)

/-- Whether that timer has stopped. -/
def completedField : Field Bool := .required "completed" Document.asBool

/-- When that timer runs out. -/
def endsAtField : Field (Option Instant) :=
  .required "endsAt" (Document.asOption Document.asInstant)

/-- How the game ended. -/
def resultField : Field GameResult := .required "result" (GameResult.decode .event)

/-- The fields of a kind of events. -/
def checks : EventKind → List (String × (Document → Option Fault))
  | .ready => [userField.check]
  | .start => [attackerField.check, defenderField.check, trumpField.check]
  | .attack => [cardField.check, attackerField.check]
  | .defend => [targetField.check, coverField.check, defenderField.check]
  | .endAttack => []
  | .takeAllCards => [userField.check]
  | .timerState => [timerField.check, completedField.check, endsAtField.check]
  | .endGame => [resultField.check]

/-- The record of a kind of events. -/
def record (kind : EventKind) : Record :=
  ⟨"struct variant Event::" ++ kind.title, checks kind, false⟩

/-- An event of a kind from its fields. -/
def build (kind : EventKind) (members : Members) : Decoded Event :=
  match kind with
  | .ready => do
    let userId ← members.get userField
    .ok (.ready userId)
  | .start => do
    let attackerId ← members.get attackerField
    let defenderId ← members.get defenderField
    let trump ← members.get trumpField
    .ok (.start attackerId defenderId trump)
  | .attack => do
    let card ← members.get cardField
    let attackerId ← members.get attackerField
    .ok (.attack card attackerId)
  | .defend => do
    let target ← members.get targetField
    let card ← members.get coverField
    let defenderId ← members.get defenderField
    .ok (.defend target card defenderId)
  | .endAttack => .ok .endAttack
  | .takeAllCards => do
    let userId ← members.get userField
    .ok (.takeAllCards userId)
  | .timerState => do
    let timer ← members.get timerField
    let completed ← members.get completedField
    let endsAt ← members.get endsAtField
    .ok (.timerState timer completed endsAt)
  | .endGame => do
    let result ← members.get resultField
    .ok (.endGame result)

/-- Decodes a tag. -/
def decodeTag (document : Document) : Decoded EventKind :=
  match document with
  | .string (some text) => Document.variantNamed EventKind.tag EventKind.all text
  | other => .error (.wanted "variant identifier" other)

/-- The kind named by the tag among some members, and the other members; `found` is the kind if
the tag has been met already. -/
def separateTag (found : Option EventKind) :
    List (Option String × Document) → Decoded (EventKind × List (Option String × Document))
  | [] =>
    match found with
    | some kind => .ok (kind, [])
    | none => .error (.missingField tagName)
  | (name, value) :: rest =>
    if name = some tagName then
      if found.isSome then .error (.duplicateField tagName)
      else do separateTag (some (← decodeTag value)) rest
    else do
      let (kind, others) ← separateTag found rest
      .ok (kind, (name, value) :: others)

/-- Decodes the fields of an event whose kind is known. -/
def decodeFields (kind : EventKind) (fields : Document) : Decoded Event :=
  (record kind).decode .event (build kind) fields

/-- Decodes an event. -/
def decode (document : Document) : Decoded Event :=
  if !document.isStrict then .error .unreadable
  else
    match document with
    | .object members => do
      let (kind, others) ← separateTag none members
      decodeFields kind (.object others)
    | .array (tag :: fields) => do decodeFields (← decodeTag tag) (.array fields)
    | .array [] => .error (.missingField tagName)
    | other => .error (.wanted "internally tagged enum Event" other)

/-- Decodes the text of an event. -/
def ofText (text : String) : Decoded Event := Document.decodeText decode text

end Event

end Durak
