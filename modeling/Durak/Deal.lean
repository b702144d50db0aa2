import Durak.Deal.Shuffle
import Durak.Deck
import Durak.Failure
import Durak.Game
import Durak.Number.Shortest

/-!
# Dealing a game

A game is dealt to two to six players with different ids, with a turn timeout above zero and of at
most a day.  From one seed come, in this order, the trump suit, the order of the pack, and who
attacks first; whoever sits after the first attacker defends.  Each player gets six cards from the
end of the pack, seat by seat, and the rest is the deck.

`Game.arranged` is the dealt game for a given order of the pack, and `Game.deal` is the one that
leaves the order to a seed.
-/

set_option autoImplicit false

namespace Durak

/-- Somebody who wants to play. -/
structure Entrant where
  id : String
  name : String
  deriving DecidableEq, Repr

/-- The fewest players a game is dealt to. -/
def fewestPlayers : Nat := 2

/-- The most players a game is dealt to. -/
def mostPlayers : Nat := 6

/-- The longest turn timeout, in seconds: a day. -/
def longestTimeout : Nat := 86400

/-- What is allowed as a turn timeout, and what was given instead. -/
def timeoutComplaint (timeout : Double) : String :=
  "must be in (0, " ++ decimal longestTimeout ++ "] seconds, got " ++ timeout.displayed

/-- Why no game can be dealt. -/
inductive SetupFault where
  | playerCount (players : Nat)
  | duplicatePlayer (id : String)
  | invalidTimeout (timeout : Double)
  deriving DecidableEq

namespace SetupFault

/-- The complaint about a setup. -/
def toDomainFault : SetupFault → DomainFault
  | playerCount players =>
    .invalid .playerCount <| "Player count must be " ++ decimal fewestPlayers ++ "..=" ++
      decimal mostPlayers ++ ", got " ++ decimal players
  | duplicatePlayer id => .invalid .duplicatePlayer ("Duplicate player id: " ++ id)
  | invalidTimeout timeout => .invalid .invalidSettings ("Turn timeout " ++ timeoutComplaint timeout)

end SetupFault

/-- The first id in a list that occurred before; `seen` are the ids before the list. -/
def firstRepeated? (seen : List String) : List String → Option String
  | [] => none
  | id :: rest => if id ∈ seen then some id else firstRepeated? (id :: seen) rest

/-- Why no game can be dealt to some players, if there is a reason. -/
def setupFault? (entrants : List Entrant) (settings : Settings) : Option SetupFault :=
  if entrants.length < fewestPlayers ∨ mostPlayers < entrants.length then
    some (.playerCount entrants.length)
  else
    match firstRepeated? [] (entrants.map (·.id)) with
    | some id => some (.duplicatePlayer id)
    | none =>
      if settings.turnTimeoutSeconds.isWithin longestTimeout then none
      else some (.invalidTimeout settings.turnTimeoutSeconds)

/-- Seats players one after another, each with a hand from the end of the pack: the seats, and the
cards that are left. -/
def dealHands : Nat → List Entrant → List Card → List Player × List Card
  | _, [], cards => ([], cards)
  | seat, entrant :: rest, cards =>
    let (hand, cards) := draw handSize cards
    let (players, cards) := dealHands (seat + 1) rest cards
    (⟨entrant.id, entrant.name, UInt8.ofNat seat, hand, []⟩ :: players, cards)

/-- The id at a place of a list, going around; an empty list has none. -/
def idAround (ids : List String) (place : Nat) : String := ids.getD (place % ids.length) ""

namespace Game

/-- The game dealt from a pack in a given order, with a given trump suit and first attacker. -/
def arranged (id : String) (entrants : List Entrant) (settings : Settings) (trump : Suit)
    (cards : List Card) (attackerSeat : Nat) : Game :=
  let (players, deck) := dealHands 0 entrants cards
  let ids := entrants.map (·.id)
  { id, settings, players, deck, trump
    attackerId := idAround ids attackerSeat
    defenderId := idAround ids (attackerSeat + 1)
    table := []
    discard := []
    endVotes := .none
    readyVotes := .none
    started := false
    attackTimer := .stopped
    defendTimer := .stopped
    events := [] }

/-- Deals a game from a seed. -/
def deal (id : String) (entrants : List Entrant) (settings : Settings) (seed : UInt64) :
    Except SetupFault Game :=
  match setupFault? entrants settings with
  | some fault => .error fault
  | none =>
    let suit := (Draws.ofSeed seed).below Suit.all.length
    let order := suit.2.shuffled Card.pack
    let attackerSeat := order.2.below entrants.length
    .ok (arranged id entrants settings (Suit.all.getD suit.1 .clubs) order.1 attackerSeat.1)

end Game

end Durak
