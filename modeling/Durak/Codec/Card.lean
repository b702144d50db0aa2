import Durak.Codec.Basic

/-!
# Cards on the wire

A suit is written by its name and a rank by its number.  A card is a record of the two, and the
only record that refuses members it does not know.
-/

set_option autoImplicit false

namespace Durak

namespace Suit

/-- A suit as it is written. -/
def toJson (suit : Suit) : Json := .string suit.name

/-- Decodes a suit. -/
def decode (document : Document) : Decoded Suit := do
  let text ← document.asString
  match ofName? text with
  | some suit => .ok suit
  | none => .error (.invalidSuit text)

end Suit

namespace Rank

/-- A rank as it is written. -/
def toJson (rank : Rank) : Json := .integer rank.value

/-- Decodes a rank. -/
def decode (document : Document) : Decoded Rank := do
  let number := (← document.asByte).toNat
  match ofValue? number with
  | some rank => .ok rank
  | none => .error (.invalidRank number)

end Rank

namespace Card

/-- A card as it is written. -/
def toJson (card : Card) : Json :=
  .object [("suit", card.suit.toJson), ("rank", card.rank.toJson)]

/-- Cards as they are written. -/
def listToJson (cards : List Card) : Json := .array (cards.map toJson)

/-- The suit of a card. -/
def suitField : Field Suit := .required "suit" Suit.decode

/-- The rank of a card. -/
def rankField : Field Rank := .required "rank" Rank.decode

/-- The record of a card. -/
def record : Record := ⟨"struct CardRepr", [suitField.check, rankField.check], true⟩

/-- Decodes a card. -/
def decode (origin : Origin) : Document → Decoded Card :=
  record.decode origin fun members => do
    let suit ← members.get suitField
    let rank ← members.get rankField
    .ok ⟨suit, rank⟩

/-- Decodes a list of cards. -/
def decodeList (origin : Origin) : Document → Decoded (List Card) :=
  Document.asList (decode origin)

end Card

end Durak
