import Durak.Deck
import Durak.Game
import Durak.Log

/-!
# Closing a round

When a round closes, hands are filled up from the deck, the table goes to the discard pile, both
timers stop, the votes are forgotten, and the attack moves on if the attack was beaten off.

Cards are drawn in a fixed order: the attacker first, then the observers in seat order, the
defender last, each until the hand holds six cards or the deck is empty.  `Game.drawingOrder` lists
the seats in that order, and `Game.resolveRound` is the whole step.
-/

set_option autoImplicit false

namespace Durak

/-- Fills up a hand from the deck.  A hand that is full already keeps the cards it drew last; any
other remembers what it draws now, even if that is nothing. -/
def Player.replenished (player : Player) (deck : List Card) : Player × List Card :=
  if handSize ≤ player.hand.length then (player, deck)
  else
    let (drawn, remaining) := draw (handSize - player.hand.length) deck
    ({ player with hand := player.hand ++ drawn, lastDrawn := drawn }, remaining)

namespace Game

/-- Fills up the hand of one player. -/
def replenish (game : Game) (id : String) : Game :=
  match game.player? id with
  | some player =>
    let (filled, deck) := player.replenished game.deck
    { game.updatePlayer id fun _ => filled with deck }
  | none => game

/-- The players in the order in which they draw. -/
def drawingOrder (game : Game) : List String :=
  game.attackerId :: game.observers.map (·.id) ++ [game.defenderId]

/-- Fills up every hand. -/
def replenishAll (game : Game) : Game := game.drawingOrder.foldl replenish game

/-- The defender attacks next, and whoever sits after the defender defends. -/
def switchRoles (game : Game) : Game :=
  match game.nextSeat? game.defenderId with
  | some next => { game with attackerId := game.defenderId, defenderId := next }
  | none => game

/-- Moves the table to the discard pile, stops the timers and forgets the votes. -/
def clearTable (game : Game) : Game :=
  { game with
    table := []
    discard := game.discard ++ tableCards game.table
    endVotes := .none
    attackTimer := .stopped
    defendTimer := .stopped }

/-- Closes the round.  The roles move on only if asked for. -/
def resolveRound (game : Game) (switch : Bool) : Game :=
  let filled := game.replenishAll
  let seated := if switch then filled.switchRoles else filled
  seated.clearTable.pushEvent .endAttack

/-- The record of a round that has been closed. -/
def roundRecord (resolved : Game) (switch : Bool) : LogRecord where
  level := .info
  source := .round
  message := "Round resolved"
  fields := [
    ("game_id", .text resolved.id),
    ("attacker_id", .text resolved.attackerId),
    ("defender_id", .text resolved.defenderId),
    ("deck_size", .count resolved.deck.length),
    ("switch_roles", .flag switch)]

/-- Whether a player is seated and has no cards left. -/
def hasNoCards (game : Game) (id : String) : Bool :=
  (game.player? id).any fun player => player.hand.isEmpty

/-- How the game ended with a round between two players, if it did: the deck is empty and one of
them, or both, have no cards left. -/
def evaluateEnd? (game : Game) (attackerId defenderId : String) : Option GameResult :=
  if !game.deck.isEmpty then none
  else
    match game.hasNoCards attackerId, game.hasNoCards defenderId with
    | true, true => some .draw
    | true, false => some .win
    | false, true => some .win
    | false, false => none

end Game

end Durak
