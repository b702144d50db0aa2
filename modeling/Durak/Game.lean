import Durak.Event
import Durak.Number.Numeral
import Durak.Voters

/-!
# The game

`Game` is everything that is needed to apply the next command: the seats with their hands, the
deck, the table, the discard pile, who attacks and who defends, the votes, the two timers, and the
events that have not been handed out yet.

Nothing is assumed about a game.  One that was loaded may seat the same player twice or nobody at
all, so every question about it has an answer: a player id means the first seat with that id, and
`Game.irregularity?` says what is wrong with a game that cannot have come from a deal.
-/

set_option autoImplicit false

namespace Durak

-- sums of natural numbers are those of the core library
attribute [local instance (high)] Zero.ofOfNat0

/-- What can be set for a game: how many seconds a running timer lasts. -/
structure Settings where
  turnTimeoutSeconds : Double
  deriving DecidableEq

/-- A seat: who sits there and what cards are held.  `lastDrawn` are the cards dealt to this seat
when its hand was last filled up. -/
structure Player where
  id : String
  name : String
  seat : UInt8
  hand : List Card
  lastDrawn : List Card
  deriving DecidableEq

/-- An attacking card on the table, and the card that covers it. -/
structure TableEntry where
  card : Card
  cover : Option Card
  deriving DecidableEq

namespace TableEntry

/-- Whether a card on the table has been beaten. -/
def isBeaten (entry : TableEntry) : Bool := entry.cover.isSome

/-- The cards of an entry, the attacking one first. -/
def cards (entry : TableEntry) : List Card := entry.card :: entry.cover.toList

end TableEntry

/-- The part a player has in the current round. -/
inductive Role where
  | attacker
  | defender
  | observer
  deriving DecidableEq, Repr

namespace Role

/-- Every role. -/
def all : List Role := [attacker, defender, observer]

/-- The role's name on the wire. -/
def name : Role → String
  | attacker => "ATTACKER"
  | defender => "DEFENDER"
  | observer => "OBSERVER"

/-- The role's name in a log record. -/
def title : Role → String
  | attacker => "Attacker"
  | defender => "Defender"
  | observer => "Observer"

end Role

/-- A game.  The deck is drawn from its end. -/
structure Game where
  id : String
  settings : Settings
  players : List Player
  attackerId : String
  defenderId : String
  deck : List Card
  trump : Suit
  table : List TableEntry
  discard : List Card
  endVotes : Voters
  readyVotes : Voters
  started : Bool
  attackTimer : Timer
  defendTimer : Timer
  events : List Event
  deriving DecidableEq

/-- The table never holds more attacking cards than this. -/
def tableLimit : Nat := 6

/-- Hands are filled up to this many cards after a round. -/
def handSize : Nat := 6

/-- The cards lying on a table, every cover after the card it beats. -/
def tableCards (table : List TableEntry) : List Card := table.flatMap TableEntry.cards

/-- Changes the first element that satisfies a condition. -/
def updateFirst {α : Type} (condition : α → Bool) (change : α → α) : List α → List α
  | [] => []
  | first :: rest =>
    if condition first then change first :: rest
    else first :: updateFirst condition change rest

namespace Game

/-! ## Seats -/

/-- The seat of a player. -/
def player? (game : Game) (id : String) : Option Player :=
  game.players.find? fun player => player.id == id

/-- The position of a player's seat. -/
def position? (game : Game) (id : String) : Option Nat :=
  game.players.findIdx? fun player => player.id == id

/-- The player seated after a player, going around the table. -/
def nextSeat? (game : Game) (id : String) : Option String := do
  let position ← game.position? id
  let next ← game.players[(position + 1) % game.players.length]?
  some next.id

/-- The part a player has in the round.  Whoever is both attacker and defender attacks. -/
def roleOf (game : Game) (id : String) : Role :=
  if id = game.attackerId then .attacker
  else if id = game.defenderId then .defender
  else .observer

/-- The players that neither attack nor defend, in seat order starting after the attacker. -/
def observers (game : Game) : List Player :=
  let start := (game.position? game.attackerId).getD 0
  (game.players.drop (start + 1) ++ game.players.take start).filter fun player =>
    player.id != game.attackerId && player.id != game.defenderId

/-- The game with a player's seat changed. -/
def updatePlayer (game : Game) (id : String) (change : Player → Player) : Game :=
  { game with players := updateFirst (fun player => player.id == id) change game.players }

/-! ## Events -/

/-- The game with one more event to hand out. -/
def pushEvent (game : Game) (event : Event) : Game :=
  { game with events := game.events ++ [event] }

/-- The game with all its events handed out. -/
def withoutEvents (game : Game) : Game := { game with events := [] }

/-! ## What is wrong with a game -/

/-- Number of cards in the deck, in hands, on the table and in the discard pile. -/
def cardCount (game : Game) : Nat :=
  game.deck.length + (game.players.map fun player => player.hand.length).sum +
    (tableCards game.table).length + game.discard.length

/-- Why a game cannot have come from a deal. -/
inductive Irregularity where
  | rolesCoincide
  | roleNotSeated
  | tableOverfull (entries : Nat)
  | seatMismatch (id : String) (seat position : Nat)
  | cardCount (cards : Nat)
  deriving DecidableEq

/-- The first player whose seat number is not the position of the seat. -/
def seatMismatch? : Nat → List Player → Option Irregularity
  | _, [] => none
  | position, player :: rest =>
    if player.seat.toNat = position then seatMismatch? (position + 1) rest
    else some (.seatMismatch player.id player.seat.toNat position)

/-- What is wrong with a game, if anything is. -/
def irregularity? (game : Game) : Option Irregularity :=
  if game.attackerId = game.defenderId then some .rolesCoincide
  else if (game.player? game.attackerId).isNone ∨ (game.player? game.defenderId).isNone then
    some .roleNotSeated
  else if tableLimit < game.table.length then some (.tableOverfull game.table.length)
  else
    match seatMismatch? 0 game.players with
    | some mismatch => some mismatch
    | none =>
      if game.cardCount = Card.packSize then none else some (.cardCount game.cardCount)

namespace Irregularity

/-- The wording of an irregularity. -/
def message : Irregularity → String
  | rolesCoincide => "attacker and defender coincide"
  | roleNotSeated => "attacker or defender is not seated"
  | tableOverfull entries => "table holds " ++ decimal entries ++ " cards"
  | seatMismatch id seat position =>
    "player " ++ id ++ " has seat " ++ decimal seat ++ " at position " ++ decimal position
  | cardCount cards =>
    decimal cards ++ " cards in play, expected " ++ decimal Card.packSize

end Irregularity

end Game

end Durak
